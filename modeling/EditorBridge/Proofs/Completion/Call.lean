import EditorBridge.Completion.Signature
import EditorBridge.Proofs.Text.Split
import Mathlib.Data.List.Infix
import Mathlib.Data.List.TakeWhile

/-!
# The call before a position

The offset of a position and the token before an open call are found by recursion on the text. Here
they are described by places in the text, and found once more by going through its indices, where
each index may turn out to be too large.

The main statement says that the offset is that of the column in the line, that the token is the one
before the nearest open parenthesis or double colon, and that no index is too large.
-/

namespace EditorBridge.Call

/-! ## Offsets -/

/-- The lines of a text, without the line feeds between them. -/
def lines (cs : List Char) : List (List Char) := Text.split (· = '\n') cs

/-- The offset at which a line starts: the lines before it, each with its line feed, stand before
it. -/
def lineStart (cs : List Char) (line : Nat) : Nat :=
  (((lines cs).take line).flatMap (· ++ ['\n'])).length

/-- The offset of a column in a line, if there is such a line. -/
def offsetIn (cs : List Char) (line character : Nat) : Nat :=
  match (lines cs)[line]? with
  | none => cs.length
  | some text => lineStart cs line + min character text.length

section Offset

variable {cs : List Char} {line character : Nat}

theorem lines_cons_feed (cs : List Char) : lines ('\n' :: cs) = [] :: lines cs := by
  simp [lines, Text.split]

theorem lines_cons_of_ne {c : Char} (hc : c ≠ '\n') : ∃ first rest, lines cs = first :: rest ∧
    lines (c :: cs) = (c :: first) :: rest := by
  obtain ⟨first, rest, hlines⟩ := List.exists_cons_of_ne_nil (Text.split_ne_nil (· = '\n') cs)
  exact ⟨first, rest, hlines, Text.split_cons_of_neg (by simpa using hc) hlines⟩

/-- The first line goes up to the first line feed. -/
theorem lines_zero (cs : List Char) : (lines cs)[0]? = some (cs.takeWhile (· ≠ '\n')) := by
  induction cs with
  | nil => rfl
  | cons c cs ih =>
    by_cases hc : c = '\n'
    · simp [hc, lines_cons_feed]
    · obtain ⟨first, rest, hlines, hcons⟩ := @lines_cons_of_ne cs c hc
      rw [hlines] at ih
      rw [hcons]
      simpa [hc] using ih

theorem offsetAt_eq_offsetIn (line character : Nat) (cs : List Char) :
    offsetAt line character cs = offsetIn cs line character := by
  fun_induction offsetAt line character cs with
  | case1 character cs => simp [offsetIn, lines_zero, lineStart]
  | case2 line character => simp [offsetIn, lines, Text.split]
  | case3 line character c cs hfeed hother =>
    split
    case isTrue hc =>
      rw [hfeed, hc, offsetIn, offsetIn, lines_cons_feed, List.getElem?_cons_succ]
      cases (lines cs)[line]? with
      | none => rfl
      | some text => simp [lineStart, lines_cons_feed]; omega
    case isFalse hc =>
      obtain ⟨first, rest, hlines, hcons⟩ := @lines_cons_of_ne cs c hc
      rw [hother, offsetIn, offsetIn, hlines, hcons, List.getElem?_cons_succ,
        List.getElem?_cons_succ]
      cases rest[line]? with
      | none => rfl
      | some text => simp [lineStart, hlines, hcons]; omega

theorem offsetAt_le_length (line character : Nat) (cs : List Char) :
    offsetAt line character cs ≤ cs.length := by
  fun_induction offsetAt line character cs with
  | case1 character cs =>
    exact Nat.le_trans (Nat.min_le_right _ _) (List.takeWhile_sublist _).length_le
  | case2 line character => exact Nat.le_refl _
  | case3 line character c cs hfeed hother =>
    split
    · exact Nat.succ_le_succ hfeed
    · exact Nat.succ_le_succ hother

end Offset

/-! ## Open calls -/

/-- Whether a call is opened at an index: by a parenthesis, or by the first of two colons. -/
def Opens (cs : List Char) (k : Nat) : Prop := cs[k]? = some '(' ∨
    cs[k]? = some ':' ∧ cs[k + 1]? = some ':'

instance (cs : List Char) (k : Nat) : Decidable (Opens cs k) := inferInstanceAs (Decidable (_ ∨ _))

/-- The call opened at an index is the innermost one that is still open at an offset. -/
structure Innermost (cs : List Char) (offset k : Nat) : Prop where
  lt : k < offset
  opens : Opens cs k
  stays : ∀ j, k < j → j < offset → cs[j]? ≠ some ')' ∧ ¬Opens cs j

/-- A text is the longest run of characters before an index none of which ends a token. -/
structure LongestRun (cs : List Char) (k : Nat) (token : List Char) : Prop where
  isSuffix : token <:+ cs.take k
  notBoundary : ∀ c ∈ token, isBoundary c = false
  longest : ∀ other, other <:+ cs.take k → (∀ c ∈ other, isBoundary c = false) →
    other.length ≤ token.length

/-- The characters before an index, read backwards, up to one that ends a token. -/
def run (cs : List Char) (k : Nat) : List Char := (cs.take k).reverse.takeWhile (!isBoundary ·)

section Open

variable {cs token : List Char} {offset k : Nat}

theorem Innermost.eq {l : Nat} (hk : Innermost cs offset k) (hl : Innermost cs offset l) :
    k = l := by
  rcases Nat.lt_trichotomy k l with hlt | heq | hlt
  · exact absurd hl.opens (hk.stays l hlt hl.lt).2
  · exact heq
  · exact absurd hk.opens (hl.stays k hlt hk.lt).2

/-- One step further, the innermost call is the one opened there, or the one before if nothing is
closed there. -/
theorem innermost_succ_iff : Innermost cs (offset + 1) k ↔
    k = offset ∧ Opens cs offset ∨ Innermost cs offset k ∧ cs[offset]? ≠ some ')' ∧
      ¬Opens cs offset := by
  constructor
  · rintro ⟨hlt, hopens, hstays⟩
    rcases Nat.lt_succ_iff_lt_or_eq.1 hlt with hlt | rfl
    · exact .inr ⟨⟨hlt, hopens, fun j hj hjo => hstays j hj (by omega)⟩,
        hstays offset hlt (by omega)⟩
    · exact .inl ⟨rfl, hopens⟩
  · rintro (⟨rfl, hopens⟩ | ⟨⟨hlt, hopens, hstays⟩, hoffset⟩)
    · exact ⟨by omega, hopens, fun j hj hjo => by omega⟩
    · refine ⟨by omega, hopens, fun j hj hjo => ?_⟩
      rcases Nat.lt_succ_iff_lt_or_eq.1 hjo with hjo | rfl
      · exact hstays j hj hjo
      · exact hoffset

/-- The backward search one step further. -/
theorem openBefore?_succ (h : offset < cs.length) :
    openBefore? cs[offset + 1]? (cs.take (offset + 1)).reverse =
      if Opens cs offset then some (cs.take offset).reverse
      else if cs[offset]? = some ')' then none
      else openBefore? cs[offset]? (cs.take offset).reverse := by
  have hget : cs[offset]? = some cs[offset] := List.getElem?_eq_getElem h
  rw [List.take_add_one, hget, Option.toList_some, List.reverse_append, List.reverse_singleton,
    List.singleton_append, openBefore?]
  simp only [Opens, hget, Option.some_inj]

theorem openBefore?_eq_some_iff {before : List Char} (h : offset ≤ cs.length) :
    openBefore? cs[offset]? (cs.take offset).reverse = some before ↔
      ∃ k, Innermost cs offset k ∧ before = (cs.take k).reverse := by
  induction offset with
  | zero =>
    have hnone (k : Nat) : ¬Innermost cs 0 k := fun hk => Nat.not_lt_zero k hk.lt
    simp [openBefore?, hnone]
  | succ offset ih =>
    rw [openBefore?_succ h]
    simp only [innermost_succ_iff]
    by_cases hopens : Opens cs offset
    · simp [hopens, eq_comm]
    · by_cases hclose : cs[offset]? = some ')'
      · simp [hopens, hclose]
      · simp [hopens, hclose, ih (by omega)]

theorem longestRun_reverse_run (cs : List Char) (k : Nat) : LongestRun cs k (run cs k).reverse := by
  refine ⟨?_, fun c hc => ?_, fun other hother hnot => ?_⟩
  · rw [← List.reverse_prefix, List.reverse_reverse]
    exact List.takeWhile_prefix _
  · simpa using List.mem_takeWhile_imp (List.mem_reverse.1 hc)
  · obtain ⟨before, hbefore⟩ := hother
    rw [run, ← hbefore, List.reverse_append, List.takeWhile_append_of_pos (by simpa using hnot)]
    simp

/-- There is just one longest run. -/
theorem LongestRun.eq {other : List Char} (h : LongestRun cs k token) (ho : LongestRun cs k other) :
    token = other := by
  have hle : token.length ≤ other.length := ho.longest token h.isSuffix h.notBoundary
  have hge : other.length ≤ token.length := h.longest other ho.isSuffix ho.notBoundary
  exact (List.suffix_of_suffix_length_le h.isSuffix ho.isSuffix hle).eq_of_length
    (Nat.le_antisymm hle hge)

theorem longestRun_iff : LongestRun cs k token ↔ token = (run cs k).reverse := by
  constructor
  · exact fun h => h.eq (longestRun_reverse_run cs k)
  · rintro rfl
    exact longestRun_reverse_run cs k

theorem tokenAt?_eq_some_iff (h : offset ≤ cs.length) :
    tokenAt? cs offset = some token ↔ token ≠ [] ∧ ∃ k, Innermost cs offset k ∧
      LongestRun cs k token := by
  simp only [tokenAt?, List.head?_drop, Option.bind_eq_bind, Option.bind_eq_some_iff,
    openBefore?_eq_some_iff h, Option.ite_none_left_eq_some, Option.some_inj, longestRun_iff]
  constructor
  · rintro ⟨_, ⟨k, hk, rfl⟩, hne, rfl⟩
    exact ⟨hne, k, hk, rfl⟩
  · rintro ⟨hne, k, hk, rfl⟩
    exact ⟨_, ⟨k, hk, rfl⟩, hne, rfl⟩

end Open

/-! ## Reading by index -/

namespace Index

/-- The character at an index. The index is the error if it is too large. -/
def charAt (cs : List Char) (i : Nat) : Except Nat Char :=
  match cs[i]? with
  | some c => .ok c
  | none => .error i

/-- The characters from one index up to another. -/
def slice (cs : List Char) (i j : Nat) : Except Nat (List Char) :=
  if j < i then .error i else if cs.length < j then .error j else .ok ((cs.take j).drop i)

/-- The number of the next line, which has to fit into 32 bits as well. -/
def nextLine (line : UInt32) : Except Nat UInt32 :=
  if line.toNat + 1 < 4294967296 then .ok (line + 1) else .error (line.toNat + 1)

/-- Goes through the rest of a text, which begins at the index `i`, up to the line `goal` or to the
end of the text. The line so far starts at `start`. Gives the last line and its start. -/
def seek (goal : UInt32) : (line : UInt32) → (start i : Nat) → List Char → Except Nat (UInt32 × Nat)
  | line, start, _, [] => .ok (line, start)
  | line, start, i, c :: rest =>
    if line = goal then .ok (line, start)
    else if c = '\n' then do seek goal (← nextLine line) (i + 1) (i + 1) rest
    else seek goal line start (i + 1) rest

/-- The offset of a position. -/
def offset (cs : List Char) (p : Position) : Except Nat Nat := do
  let found ← seek p.line 0 0 0 cs
  if found.1 < p.line then return cs.length
  let rest ← slice cs found.2 cs.length
  let stop := (rest.findIdx? (· = '\n')).elim cs.length (found.2 + ·)
  return min (found.2 + p.character.toNat) stop

/-- The index before an offset at which the innermost call is opened. -/
def openAt (cs : List Char) : Nat → Except Nat (Option Nat)
  | 0 => .ok none
  | i + 1 => do
    let c ← charAt cs i
    if c = '(' ∨ (c = ':' ∧ cs[i + 1]? = some ':') then return some i
    else if c = ')' then return none
    else openAt cs i

/-- The index at which the token before an index starts. -/
def tokenStart (cs : List Char) : Nat → Except Nat Nat
  | 0 => .ok 0
  | i + 1 => do
    let c ← charAt cs i
    if isBoundary c then return i + 1 else tokenStart cs i

/-- The token before the innermost open call at a position. -/
def token (cs : List Char) (p : Position) : Except Nat (Option (List Char)) := do
  let offset ← offset cs p
  match ← openAt cs offset with
  | none => return none
  | some k =>
    let start ← tokenStart cs k
    let token ← slice cs start k
    return if token = [] then none else some token

variable {cs : List Char} {k : Nat}

theorem charAt_eq (h : k < cs.length) : charAt cs k = .ok cs[k] := by
  rw [charAt, List.getElem?_eq_getElem h]

theorem openAt_eq (h : k ≤ cs.length) :
    openAt cs k = .ok ((openBefore? cs[k]? (cs.take k).reverse).map List.length) := by
  induction k with
  | zero => rfl
  | succ k ih =>
    have hget : cs[k]? = some cs[k] := List.getElem?_eq_getElem h
    have hlength : (cs.take k).reverse.length = k := by simp; omega
    have hopens : Opens cs k ↔ cs[k] = '(' ∨ cs[k] = ':' ∧ cs[k + 1]? = some ':' := by
      simp [Opens, hget]
    rw [openBefore?_succ h, openAt, charAt_eq h]
    show (if cs[k] = '(' ∨ cs[k] = ':' ∧ cs[k + 1]? = some ':' then Except.ok (some k)
      else if cs[k] = ')' then .ok none else openAt cs k) = _
    rw [ih (by omega)]
    simp only [← hopens, hget, Option.some_inj]
    split
    · rw [Option.map_some, hlength]
    · split <;> rfl

theorem run_succ (h : k < cs.length) :
    run cs (k + 1) = if isBoundary cs[k] then [] else cs[k] :: run cs k := by
  rw [run, List.take_add_one, List.getElem?_eq_getElem h, Option.toList_some, List.reverse_append,
    List.reverse_singleton, List.singleton_append, List.takeWhile_cons]
  by_cases hc : isBoundary cs[k] <;> simp [hc, run]

theorem tokenStart_eq (h : k ≤ cs.length) : tokenStart cs k = .ok (k - (run cs k).length) := by
  induction k with
  | zero => rfl
  | succ k ih =>
    rw [tokenStart, charAt_eq h, run_succ h]
    show (if isBoundary cs[k] then Except.ok (k + 1) else tokenStart cs k) = _
    rw [ih (by omega)]
    split
    · rfl
    · rw [List.length_cons, Nat.add_sub_add_right]

/-- A token is cut out by its indices. -/
theorem slice_run (h : k ≤ cs.length) :
    slice cs (k - (run cs k).length) k = .ok (run cs k).reverse := by
  have hsuffix := List.suffix_iff_eq_drop.1 (longestRun_reverse_run cs k).isSuffix
  rw [List.length_reverse, List.length_take_of_le h] at hsuffix
  rw [slice, if_neg (by omega), if_neg (by omega), ← hsuffix]

/-! ### Lines -/

theorem length_lines (cs : List Char) : (lines cs).length = cs.count '\n' + 1 := by
  induction cs with
  | nil => rfl
  | cons c cs ih =>
    by_cases hc : c = '\n'
    · rw [hc, lines_cons_feed, List.length_cons, List.count_cons_self, ih]
    · obtain ⟨first, rest, hlines, hcons⟩ := @lines_cons_of_ne cs c hc
      rw [hlines] at ih
      rw [hcons, List.count_cons_of_ne hc, ← ih]
      rfl

theorem flatMap_lines (cs : List Char) : (lines cs).flatMap (· ++ ['\n']) = cs ++ ['\n'] := by
  induction cs with
  | nil => rfl
  | cons c cs ih =>
    by_cases hc : c = '\n'
    · simp [hc, lines_cons_feed, ih]
    · obtain ⟨first, rest, hlines, hcons⟩ := @lines_cons_of_ne cs c hc
      rw [hlines, List.flatMap_cons] at ih
      rw [hcons, List.flatMap_cons, List.cons_append, List.cons_append, ih, List.cons_append]

/-- After a line feed the next line starts. -/
theorem lineStart_append (before rest : List Char) :
    lineStart (before ++ '\n' :: rest) (before.count '\n' + 1) = before.length + 1 := by
  have hlines : lines (before ++ '\n' :: rest) = lines before ++ lines rest :=
    Text.split_append_cons _ _ (by simp)
  rw [lineStart, hlines, ← length_lines, List.take_left, flatMap_lines, List.length_append,
    List.length_singleton]

/-- A line is what follows its start up to a line feed. -/
theorem takeWhile_drop_lineStart {line : Nat} {text : List Char}
    (h : (lines cs)[line]? = some text) :
    lineStart cs line ≤ cs.length ∧ (cs.drop (lineStart cs line)).takeWhile (· ≠ '\n') = text := by
  induction cs generalizing line with
  | nil =>
    cases line with
    | zero => simpa [lineStart, lines_zero] using h
    | succ line => simp [lines, Text.split] at h
  | cons c cs ih =>
    cases line with
    | zero => simpa [lineStart, lines_zero] using h
    | succ line =>
      by_cases hc : c = '\n'
      · rw [hc, lines_cons_feed, List.getElem?_cons_succ] at h
        have hstart : lineStart (c :: cs) (line + 1) = lineStart cs line + 1 := by
          simp [lineStart, hc, lines_cons_feed]
        rw [hstart]
        exact ⟨Nat.succ_le_succ (ih h).1, (ih h).2⟩
      · obtain ⟨first, rest, hlines, hcons⟩ := @lines_cons_of_ne cs c hc
        rw [hcons, List.getElem?_cons_succ] at h
        have hstart : lineStart (c :: cs) (line + 1) = lineStart cs (line + 1) + 1 := by
          simp [lineStart, hlines, hcons]
        have hline : (lines cs)[line + 1]? = some text := by rw [hlines, List.getElem?_cons_succ, h]
        rw [hstart]
        exact ⟨Nat.succ_le_succ (ih hline).1, (ih hline).2⟩

theorem getD_findIdx? (cs : List Char) :
    (cs.findIdx? (· = '\n')).getD cs.length = (cs.takeWhile (· ≠ '\n')).length := by
  induction cs with
  | nil => rfl
  | cons c cs ih =>
    by_cases hc : c = '\n'
    · simp [List.findIdx?_cons, hc]
    · have hmap : ((cs.findIdx? (· = '\n')).map (· + 1)).getD (cs.length + 1) =
          (cs.findIdx? (· = '\n')).getD cs.length + 1 := Option.getD_map ..
      simp [List.findIdx?_cons, hc, hmap, ih]

variable {goal line : UInt32} {before rest : List Char}

theorem nextLine_eq (h : line.toNat < goal.toNat) :
    nextLine line = .ok (line + 1) ∧ (line + 1).toNat = line.toNat + 1 := by
  have hgoal := goal.toNat_lt
  constructor
  · rw [nextLine, if_pos (by omega)]
  · rw [UInt32.toNat_add, UInt32.toNat_one, Nat.mod_eq_of_lt (by omega)]

/-- The search for a line ends there or in the last line, at its start. -/
theorem exists_seek_eq (hline : line.toNat = before.count '\n') (hle : line.toNat ≤ goal.toNat) :
    ∃ found : UInt32, found.toNat = min goal.toNat ((before ++ rest).count '\n') ∧
      seek goal line (lineStart (before ++ rest) line.toNat) before.length rest =
        .ok (found, lineStart (before ++ rest) found.toNat) := by
  induction rest generalizing before line with
  | nil => exact ⟨line, by simp [← hline, hle], rfl⟩
  | cons c rest ih =>
    have hshift : before ++ c :: rest = before ++ [c] ++ rest := by simp
    have hlength : (before ++ [c]).length = before.length + 1 := by simp
    rw [seek]
    split
    case isTrue heq =>
      refine ⟨line, ?_, rfl⟩
      rw [List.count_append, ← hline, ← heq]
      omega
    case isFalse hne =>
      split
      case isTrue hc =>
        have hlt : line.toNat < goal.toNat := Nat.lt_of_le_of_ne hle (mt UInt32.toNat.inj hne)
        obtain ⟨hnext, hnat⟩ := nextLine_eq hlt
        have hcount : (line + 1).toNat = (before ++ [c]).count '\n' := by simp [hnat, hline, hc]
        obtain ⟨found, hfound, hseek⟩ := ih hcount (by omega)
        rw [← hshift, hlength, hnat, hline, hc, lineStart_append] at hseek
        rw [hnext, hc]
        exact ⟨found, by simpa [hc] using hfound, hseek⟩
      case isFalse hc =>
        rw [hshift, ← hlength]
        exact ih (by simp [hline, hc]) hle

/-- The end of a line by the index of a line feed. -/
theorem elim_findIdx? {start : Nat} (h : start ≤ cs.length) :
    ((cs.drop start).findIdx? (· = '\n')).elim cs.length (start + ·) =
      start + ((cs.drop start).takeWhile (· ≠ '\n')).length := by
  rw [← getD_findIdx?]
  cases (cs.drop start).findIdx? (· = '\n') with
  | none => simp; omega
  | some i => rfl

theorem slice_eq_drop {start : Nat} (h : start ≤ cs.length) :
    slice cs start cs.length = .ok (cs.drop start) := by
  rw [slice, if_neg (by omega), if_neg (Nat.lt_irrefl _), List.take_length]

theorem offset_eq (cs : List Char) (p : Position) :
    offset cs p = .ok (offsetAt p.line.toNat p.character.toNat cs) := by
  obtain ⟨found, hfound, hseek⟩ := @exists_seek_eq p.line 0 [] cs rfl (Nat.zero_le _)
  change found.toNat = min p.line.toNat (cs.count '\n') at hfound
  change seek p.line 0 0 0 cs = .ok (found, lineStart cs found.toNat) at hseek
  have hlength := length_lines cs
  rw [offset, hseek, offsetAt_eq_offsetIn, offsetIn]
  show (if found < p.line then Except.ok cs.length else _) = _
  split
  case isTrue hlt =>
    have hlt := UInt32.lt_iff_toNat_lt.1 hlt
    rw [List.getElem?_eq_none (by omega)]
  case isFalse hge =>
    have hge : p.line.toNat ≤ found.toNat := UInt32.le_iff_toNat_le.1 (UInt32.not_lt.1 hge)
    have heq : found.toNat = p.line.toNat := by omega
    have htext := List.getElem?_eq_getElem (show p.line.toNat < (lines cs).length by omega)
    obtain ⟨hstart, hline⟩ := takeWhile_drop_lineStart htext
    rw [htext, heq, slice_eq_drop hstart]
    show Except.ok (min _ (Option.elim _ _ _)) = _
    rw [elim_findIdx? hstart, hline, Nat.add_min_add_left]

/-- No index is too large on the way to a token, and the token is the one found by recursion. -/
theorem token_eq (cs : List Char) (p : Position) : token cs p = .ok (token? cs p) := by
  have hle := offsetAt_le_length p.line.toNat p.character.toNat cs
  rw [token, offset_eq, token?]
  generalize offsetAt p.line.toNat p.character.toNat cs = offset at hle
  rw [tokenAt?, List.head?_drop]
  show (openAt cs offset >>= _) = _
  rw [openAt_eq hle]
  cases hopen : openBefore? cs[offset]? (cs.take offset).reverse with
  | none => rfl
  | some before =>
    obtain ⟨k, hk, rfl⟩ := (openBefore?_eq_some_iff hle).1 hopen
    have hkle : k ≤ cs.length := Nat.le_trans (Nat.le_of_lt hk.lt) hle
    have hlength : (cs.take k).reverse.length = k := by
      rw [List.length_reverse, List.length_take_of_le hkle]
    show (tokenStart cs (cs.take k).reverse.length >>= fun start =>
      slice cs start (cs.take k).reverse.length >>= _) = _
    rw [hlength, tokenStart_eq hkle]
    show (slice cs (k - (run cs k).length) k >>= _) = _
    rw [slice_run hkle]
    rfl

end Index

/-- The offset of a position is that of its column in its line, where the end of the line or of the
text stands for what lies beyond it. The token at a position stands before the nearest index at
which a call is opened, if none is closed between there and the position, and it is all that stands
before this index up to a character that ends a token. Reading the text by index finds both, and no
index is too large. -/
theorem token?_innermost (cs : List Char) (p : Position) :
    offsetAt p.line.toNat p.character.toNat cs = offsetIn cs p.line.toNat p.character.toNat ∧
    offsetAt p.line.toNat p.character.toNat cs ≤ cs.length ∧
    (∀ token, token? cs p = some token ↔ token ≠ [] ∧
      ∃ k, Innermost cs (offsetAt p.line.toNat p.character.toNat cs) k ∧ LongestRun cs k token) ∧
    Index.offset cs p = .ok (offsetAt p.line.toNat p.character.toNat cs) ∧
    Index.token cs p = .ok (token? cs p) :=
  ⟨offsetAt_eq_offsetIn .., offsetAt_le_length ..,
    fun _ =>
      tokenAt?_eq_some_iff (offsetAt_le_length ..), Index.offset_eq cs p, Index.token_eq cs p⟩

end EditorBridge.Call
