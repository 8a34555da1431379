import EditorBridge.Proofs.Json.Lexeme

/-!
# Nesting

The outline of a text follows its reading: while an object is read, the braces that are open outside
of string literals are the objects that are open. So a text that begins with a brace and can be
read, or only passed over, is an enclosed text and nothing but white space after it.
-/

namespace EditorBridge

/-- The number of open objects after a token. -/
def Token.depth : Token → Nat → Nat
  | .leftBrace, n => n + 1
  | .rightBrace, n => n - 1
  | _, n => n

/-- A lexical element in front of a text opens and closes braces as its token says. -/
theorem Token.closes_of_scan {c : Char} {cs rest w : List Char} {n : Nat}
    (h : (scan c cs).2 = .ok rest) (hn : 0 < n) (hw : Closes .plain ((scan c cs).1.depth n) w) :
    ∃ u, cs = u ++ rest ∧ Closes .plain n (c :: u ++ w) := by
  rcases scan_cases h with ⟨rfl, rfl, ht⟩ | ⟨rfl, rfl, ht⟩ | ⟨u, rfl, hu, hl, hr⟩
  · rw [ht] at hw
    exact ⟨[], rfl, Closes.brace.2 ⟨hn, hw⟩⟩
  · rw [ht] at hw
    exact ⟨[], rfl, Closes.endBrace.2 ⟨hn, hw⟩⟩
  · have hd : (scan c (u ++ rest)).1.depth n = n := by
      unfold depth
      split <;> simp_all
    rw [hd] at hw
    exact ⟨u, rfl, hu n w hn hw⟩

namespace Tree

/-- Whether an open array or object is an object. -/
def Frame.isObject : Frame → Bool
  | .array _ => false
  | .object _ _ => true

/-- The number of open objects. -/
def objects (stack : List Frame) : Nat := stack.countP Frame.isObject

/-- Whether the outermost of some open arrays and objects is an object. -/
def Grounded (stack : List Frame) : Prop := ∃ frame ∈ stack.getLast?, frame.isObject

/-- Whether the innermost open array or object is of the kind that a mode is for. -/
def Mode.Fits : Mode → List Frame → Prop
  | .firstElement, frame :: _ => frame.isObject = false
  | .firstKey, frame :: _ => frame.isObject = true
  | _, _ => True

/-- A state inside of `n` objects, where the outermost of all open arrays and objects is one of
them. -/
def State.Inside (n : Nat) (s : State) : Prop :=
  ∃ stack mode, s = .inside stack mode ∧ Grounded stack ∧ mode.Fits stack ∧ objects stack = n

/-- A state after a fault, which is still found in the tree. -/
def State.Failed (s : State) : Prop := ∃ root, s = .failed root ∧ root.skip ≠ .ok ()

/-- An array or object that is closed by a fault cannot be passed over. -/
theorem skip_close_ne (depth : Nat) (cause : Fault) (frame : Frame) :
    (frame.close depth (some cause)).skip ≠ .ok () := by
  unfold Frame.close
  split <;> simp [skip_array, skip_object]

/-- Nor can what stands around it. -/
theorem skip_unwind_ne {cause : Fault} {value : Tree} (h : value.skip ≠ .ok ())
    (stack : List Frame) : (unwind cause stack value).skip ≠ .ok () := by
  induction stack generalizing value with
  | nil => exact h
  | cons frame stack ih => exact ih (skip_close_ne _ _ _)

theorem skip_fault_ne (cause : Fault) : (Tree.fault cause).skip ≠ .ok () := by simp [skip]

section Stack

variable {frame frame' : Frame} {stack : List Frame}

@[simp] theorem Frame.isObject_add (value : Tree) :
    (frame.add value).isObject = frame.isObject := by
  unfold Frame.add
  split <;> rfl

theorem objects_cons : objects (frame :: stack) = objects stack + if frame.isObject then 1 else 0 :=
  List.countP_cons

theorem Grounded.cons (h : Grounded stack) : Grounded (frame :: stack) := by
  cases stack with
  | nil => simp [Grounded] at h
  | cons next stack => simpa [Grounded, List.getLast?_cons_cons] using h

/-- Only the kind of the innermost open array or object matters. -/
theorem Grounded.replace (h : Grounded (frame :: stack)) (hf : frame'.isObject = frame.isObject) :
    Grounded (frame' :: stack) := by
  cases stack with
  | nil => simpa [Grounded, hf] using h
  | cons next stack => simpa [Grounded, List.getLast?_cons_cons] using h

theorem Grounded.tail (h : Grounded (frame :: stack)) (hs : stack ≠ []) : Grounded stack := by
  cases stack with
  | nil => contradiction
  | cons next stack => simpa [Grounded, List.getLast?_cons_cons] using h

theorem Grounded.singleton (h : Grounded [frame]) : frame.isObject := by simpa [Grounded] using h

theorem Grounded.exists_cons (h : Grounded stack) : ∃ frame rest, stack = frame :: rest := by
  cases stack with
  | nil => simp [Grounded] at h
  | cons frame rest => exact ⟨frame, rest, rfl⟩

theorem Grounded.objects_pos (h : Grounded stack) : 0 < objects stack := by
  obtain ⟨frame, hf, ho⟩ := h
  exact List.countP_pos_iff.2 ⟨frame, List.mem_of_getLast? hf, ho⟩

end Stack

namespace State

variable {stack : List Frame} {n : Nat} {s : State}

theorem Inside.pos (h : s.Inside n) : 0 < n := by
  obtain ⟨stack, mode, -, hg, -, rfl⟩ := h
  exact hg.objects_pos

/-- A finished value becomes part of the innermost open array or object. -/
theorem inside_put (value : Tree) (hg : Grounded stack) :
    (put value stack).Inside (objects stack) := by
  obtain ⟨frame, rest, rfl⟩ := hg.exists_cons
  exact ⟨frame.add value :: rest, .next, rfl, hg.replace (by simp), trivial, by simp [objects_cons]⟩

/-- Closing an array leaves the objects open. -/
theorem inside_close_array {elements : List Tree} (hg : Grounded (.array elements :: stack)) :
    (close (.array elements :: stack)).Inside (objects (.array elements :: stack)) := by
  cases stack with
  | nil => exact absurd hg.singleton (by simp [Frame.isObject])
  | cons frame rest => exact inside_put _ (hg.tail (by simp))

/-- Closing an object leaves one object less, or completes the value. -/
theorem close_object {members : List (Key × Tree)} {key : Option Key}
    (hg : Grounded (.object members key :: stack)) :
    (close (.object members key :: stack)).Inside (objects stack) ∨
      objects stack = 0 ∧ ∃ root, close (.object members key :: stack) = .done root := by
  cases stack with
  | nil => exact .inr ⟨rfl, _, rfl⟩
  | cons frame rest => exact .inl (inside_put _ (hg.tail (by simp)))

theorem failed_failInside (cause : Fault) (stack : List Frame) :
    (failInside cause stack).Failed := by
  cases stack with
  | nil => exact ⟨_, rfl, skip_fault_ne cause⟩
  | cons frame rest => exact ⟨_, rfl, skip_unwind_ne (skip_close_ne _ _ _) rest⟩

theorem failed_failValue (cause : Fault) (stack : List Frame) : (failValue cause stack).Failed :=
  ⟨_, rfl, skip_unwind_ne (skip_fault_ne cause) stack⟩

end State

/-- A token in the place of a value opens an array or an object, is a value by itself, or is a
fault. -/
theorem stepValue_cases {stack : List Frame} (hg : Grounded stack) (token : Token) :
    (stepValue stack token).Inside (token.depth (objects stack)) ∨
      (stepValue stack token).Failed := by
  cases token with
  | leftBrace =>
    exact .inl ⟨_, .firstKey, rfl, hg.cons,
      rfl, by simp [objects_cons, Frame.isObject, Token.depth]⟩
  | leftBracket =>
    exact .inl ⟨_, .firstElement, rfl, hg.cons,
      rfl, by simp [objects_cons, Frame.isObject, Token.depth]⟩
  | null => exact .inl (State.inside_put _ hg)
  | bool b => exact .inl (State.inside_put _ hg)
  | number x => exact .inl (State.inside_put _ hg)
  | string x => exact .inl (State.inside_put _ hg)
  | fault cause => exact .inr (State.failed_failValue _ _)
  | rightBrace => exact .inr (State.failed_failValue _ _)
  | rightBracket => exact .inr (State.failed_failValue _ _)
  | comma => exact .inr (State.failed_failValue _ _)
  | colon => exact .inr (State.failed_failValue _ _)

theorem beginMember_cases {stack : List Frame} (hg : Grounded stack) (key : Key) :
    (State.beginMember key stack).Inside (objects stack) ∨
      (State.beginMember key stack).Failed := by
  unfold State.beginMember
  split
  · exact .inl ⟨_, .colon, rfl, hg.replace rfl, trivial, by simp [objects_cons, Frame.isObject]⟩
  · exact .inr (State.failed_failInside _ _)

/-- A closing brace in an object, be it empty or not. -/
theorem endObject_cases {stack : List Frame} {frame : Frame} (hg : Grounded (frame :: stack))
    (hf : frame.isObject) :
    (State.close (frame :: stack)).Inside (Token.rightBrace.depth (objects (frame :: stack))) ∨
      objects (frame :: stack) = 1 ∧ ∃ root, State.close (frame :: stack) = .done root := by
  have hn : objects (frame :: stack) = objects stack + 1 := by simp [objects_cons, hf]
  cases frame with
  | array elements => simp [Frame.isObject] at hf
  | object members key =>
    rw [hn]
    rcases State.close_object hg with h | ⟨h, hd⟩
    · exact .inl h
    · exact .inr ⟨by omega, hd⟩

theorem stepNext_cases {stack : List Frame} (hg : Grounded stack) (token : Token) :
    (stepNext stack token).Inside (token.depth (objects stack)) ∨ (stepNext stack token).Failed ∨
      token = .rightBrace ∧ objects stack = 1 ∧ ∃ root, stepNext stack token = .done root := by
  unfold stepNext
  split
  · exact .inl ⟨_, .value, rfl, hg, trivial, rfl⟩
  · exact .inl ⟨_, .key, rfl, hg, trivial, rfl⟩
  · exact .inl (State.inside_close_array hg)
  · rcases endObject_cases hg rfl with h | h
    · exact .inl h
    · exact .inr (.inr ⟨rfl, h⟩)
  · exact .inr (.inl (State.failed_failInside _ _))

/-- What a token does inside of objects: it opens or closes one, as it is a brace or not, or it is a
fault, or it closes the outermost one and completes the value. -/
theorem step_cases {n : Nat} {s : State} (h : s.Inside n) (token : Token) :
    (step s token).Inside (token.depth n) ∨ (step s token).Failed ∨
      token = .rightBrace ∧ n = 1 ∧ ∃ root, step s token = .done root := by
  obtain ⟨stack, mode, rfl, hg, hf, rfl⟩ := h
  obtain ⟨frame, rest, rfl⟩ := hg.exists_cons
  cases mode with
  | value => exact Or.imp_right .inl (stepValue_cases hg token)
  | firstElement =>
    cases token with
    | rightBracket =>
      cases frame with
      | object members key => exact absurd hf (by simp [Mode.Fits, Frame.isObject])
      | array elements => exact .inl (State.inside_close_array hg)
    | _ => exact Or.imp_right .inl (stepValue_cases hg _)
  | firstKey =>
    cases token with
    | rightBrace =>
      rcases endObject_cases hg hf with h | h
      · exact .inl h
      · exact .inr (.inr ⟨rfl, h⟩)
    | string key => exact Or.imp_right .inl (beginMember_cases hg key)
    | _ => exact .inr (.inl (State.failed_failInside .malformed (frame :: rest)))
  | key =>
    cases token with
    | string key => exact Or.imp_right .inl (beginMember_cases hg key)
    | _ => exact .inr (.inl (State.failed_failInside .malformed (frame :: rest)))
  | colon =>
    cases token with
    | colon => exact .inl ⟨_, .value, rfl, hg, trivial, rfl⟩
    | _ => exact .inr (.inl (State.failed_failInside .malformed (frame :: rest)))
  | next => exact stepNext_cases hg token

theorem foldl_eq_failed (root : Tree) (ts : List Token) :
    ts.foldl step (.failed root) = .failed root := by
  induction ts with
  | nil => rfl
  | cons token ts ih => exact ih

/-- Nothing is read after a fault. -/
theorem foldl_failed {s : State} (h : s.Failed) (ts : List Token) : (ts.foldl step s).Failed := by
  obtain ⟨root, rfl, hr⟩ := h
  rw [foldl_eq_failed]
  exact ⟨root, rfl, hr⟩

theorem foldl_trailing (root : Tree) (ts : List Token) :
    ts.foldl step (.trailing root) = .trailing root := by
  induction ts with
  | nil => rfl
  | cons token ts ih => exact ih

/-- Nothing follows a complete value unless it is marked as trailing. -/
theorem eq_nil_of_foldl_done {root root' : Tree} {ts : List Token}
    (h : ts.foldl step (.done root) = .done root') : ts = [] := by
  cases ts with
  | nil => rfl
  | cons token ts =>
    rw [List.foldl_cons, step, foldl_trailing] at h
    cases h

/-- Only a closing brace completes a value inside of objects. -/
theorem foldl_ne_done {n : Nat} {s : State} {ts : List Token} {root : Tree} (hs : s.Inside n)
    (ht : ∀ token ∈ ts, token ≠ .rightBrace) : ts.foldl step s ≠ .done root := by
  intro h
  induction ts generalizing s n with
  | nil =>
    obtain ⟨stack, mode, rfl, -⟩ := hs
    cases h
  | cons token ts ih =>
    obtain ⟨hne, ht⟩ := List.forall_mem_cons.1 ht
    rw [List.foldl_cons] at h
    rcases step_cases hs token with hi | hf | ⟨hr, -⟩
    · exact ih hi ht h
    · obtain ⟨root', hf, -⟩ := foldl_failed hf ts
      rw [hf] at h
      cases h
    · exact hne hr

/-- A text that completes a value inside of `n` objects closes `n` braces, and white space
follows. -/
theorem closes_of_done {cs : List Char} {s : State} {n : Nat} {root : Tree} (hs : s.Inside n)
    (h : (tokens cs).foldl step s = .done root) :
    ∃ w gap, cs = w ++ gap ∧ (∀ c ∈ gap, Token.isSpace c) ∧ Closes .plain n w := by
  induction cs using tokens.induct generalizing s n with
  | case1 =>
    obtain ⟨stack, mode, rfl, -⟩ := hs
    rw [tokens] at h
    cases h
  | case2 c cs hc ih =>
    rw [tokens_of_isSpace hc] at h
    obtain ⟨w, gap, rfl, hgap, hw⟩ := ih hs h
    exact ⟨c :: w, gap, rfl, hgap, (Steady.nil.cons (Token.ordinary_of_isSpace hc)) n w hs.pos hw⟩
  | case3 c cs hc ih =>
    cases hr : (Token.scan c cs).2 with
    | error cause =>
      -- At most a fault follows the element, and neither is a closing brace.
      rw [tokens_of_scan_error hc hr] at h
      refine absurd h
        (foldl_ne_done hs (List.forall_mem_cons.2 ⟨Token.ne_rightBrace_of_error hr, ?_⟩))
      cases cause <;> simp [Token.stop]
    | ok rest =>
      rw [tokens_of_scan_ok hc hr, List.foldl_cons] at h
      rcases step_cases hs (Token.scan c cs).1 with hi | hf | ⟨ht, rfl, root', hd⟩
      · obtain ⟨w, gap, rfl, hgap, hw⟩ := ih rest hr hi h
        obtain ⟨u, rfl, hu⟩ := Token.closes_of_scan hr hs.pos hw
        exact ⟨c :: u ++ w, gap, by simp, hgap, hu⟩
      · obtain ⟨root', hf, -⟩ := foldl_failed hf (tokens rest)
        rw [hf] at h
        cases h
      · rw [hd] at h
        have hgap := isSpace_of_tokens_eq_nil (eq_nil_of_foldl_done h)
        have hw : Closes .plain ((Token.scan c cs).1.depth 1) [] := by rw [ht]; rfl
        obtain ⟨u, rfl, hu⟩ := Token.closes_of_scan hr Nat.one_pos hw
        exact ⟨c :: u, rest, rfl, hgap, by simpa using hu⟩

/-- A fault met inside of objects is found in the tree. -/
theorem skip_ne_of_foldl_failed {n : Nat} {s : State} {ts : List Token} {root : Tree}
    (hs : s.Inside n) (h : ts.foldl step s = .failed root) : root.skip ≠ .ok () := by
  induction ts generalizing s n with
  | nil =>
    obtain ⟨stack, mode, rfl, -⟩ := hs
    cases h
  | cons token ts ih =>
    rw [List.foldl_cons] at h
    rcases step_cases hs token with hi | hf | ⟨-, -, root', hd⟩
    · exact ih hi h
    · obtain ⟨root', hf, hr⟩ := foldl_failed hf ts
      rw [hf] at h
      cases h
      exact hr
    · rw [hd] at h
      cases ts with
      | nil => cases h
      | cons token ts =>
        rw [List.foldl_cons, step, foldl_trailing] at h
        cases h

/-- A text that ends inside of open arrays and objects cannot be passed over. -/
theorem skip_finish_inside_ne (stack : List Frame) (mode : Mode) :
    (State.inside stack mode).finish.root.skip ≠ .ok () := by
  cases mode with
  | value => exact skip_unwind_ne (skip_fault_ne _) stack
  | _ =>
    cases stack with
    | nil => exact skip_fault_ne _
    | cons frame stack => exact skip_unwind_ne (skip_close_ne _ _ _) stack

end Tree

/-- A text that begins with a brace and can be passed over is enclosed, up to the white space after
it. -/
theorem enclosed_of_skip {cs : List Char} (h : (Document.ofText ('{' :: cs)).root.skip = .ok ())
    (ht : (Document.ofText ('{' :: cs)).trailing = false) :
    ∃ w gap, '{' :: cs = w ++ gap ∧ (∀ c ∈ gap, Token.isSpace c) ∧ Enclosed w := by
  have hs : (Tree.State.inside [.object [] none] .firstKey).Inside 1 :=
    ⟨_, _, rfl, ⟨_, rfl, rfl⟩, rfl, rfl⟩
  have hts : tokens ('{' :: cs) = .leftBrace :: tokens cs := tokens_of_scan_ok (by decide) rfl
  rw [Document.ofText, hts, List.foldl_cons] at h ht
  change
    ((tokens cs).foldl Tree.step (.inside [.object [] none] .firstKey)).finish.root.skip = _ at h
  change
    ((tokens cs).foldl Tree.step (.inside [.object [] none] .firstKey)).finish.trailing = _ at ht
  cases hf : (tokens cs).foldl Tree.step (.inside [.object [] none] .firstKey) with
  | inside stack mode =>
    rw [hf] at h
    exact absurd h (Tree.skip_finish_inside_ne stack mode)
  | failed root =>
    rw [hf] at h
    exact absurd h (Tree.skip_ne_of_foldl_failed hs hf)
  | trailing root =>
    rw [hf] at ht
    cases ht
  | done root =>
    obtain ⟨w, gap, rfl, hgap, hw⟩ := Tree.closes_of_done hs hf
    exact ⟨'{' :: w, gap, rfl, hgap, w, rfl, hw⟩

namespace Reader.Thorough

variable {α : Type} {read : Reader α} {cs rest : List Char} {a : α}

/-- What a thorough reader reads from a text that begins with a brace is enclosed. -/
theorem exists_enclosed (hr : read.Thorough) (h : read.text ('{' :: cs) = .ok a) :
    ∃ w gap, '{' :: cs = w ++ gap ∧ (∀ c ∈ gap, Token.isSpace c) ∧ Enclosed w :=
  enclosed_of_skip (hr.of_text h).1 (hr.of_text h).2

theorem enclosed (hr : read.Thorough) (hb : Braced cs) (h : read.text cs = .ok a) :
    Enclosed cs := by
  obtain ⟨body, rfl⟩ := hb.exists_cons
  obtain ⟨w, gap, he, hgap, hw⟩ := hr.exists_enclosed h
  -- The last character is a brace, so no white space follows.
  cases hl : gap.getLast? with
  | none =>
    obtain rfl : gap = [] := List.getLast?_eq_none_iff.1 hl
    rw [he, List.append_nil]
    exact hw
  | some c =>
    have hc : c = '}' := by
      have := hb.2
      rw [he, List.getLast?_append, hl] at this
      simpa using this
    have := hgap c (List.mem_of_getLast? hl)
    rw [hc] at this
    exact absurd this (by decide)

/-- No thorough reader reads an empty text. -/
theorem text_nil_ne (hr : read.Thorough) : read.text [] ≠ .ok a := by
  intro h
  have hs := (hr.of_text h).1
  rw [Document.ofText, tokens] at hs
  exact Tree.skip_finish_inside_ne [] .value hs

/-- The last character of a text that begins with a brace and is read. -/
theorem getLast?_of_text (hr : read.Thorough) (h : read.text ('{' :: cs) = .ok a) {c : Char}
    (hc : ('{' :: cs).getLast? = some c) : c = '}' ∨ Token.isSpace c := by
  obtain ⟨w, gap, he, hgap, hw⟩ := hr.exists_enclosed h
  rw [he, List.getLast?_append] at hc
  cases hl : gap.getLast? with
  | none =>
    rw [hl, hw.getLast?_eq] at hc
    exact .inl (by simpa using hc.symm)
  | some d =>
    rw [hl] at hc
    obtain rfl : d = c := by simpa using hc
    exact .inr (hgap d (List.mem_of_getLast? hl))

/-- No thorough reader reads a proper beginning of an enclosed text. -/
theorem text_prefix_ne (hr : read.Thorough) (he : Enclosed (cs ++ rest)) (hrest : rest ≠ []) :
    read.text cs ≠ .ok a := by
  intro h
  obtain ⟨body, hb, -⟩ := id he
  cases cs with
  | nil => exact hr.text_nil_ne h
  | cons d ds =>
    obtain ⟨rfl, -⟩ : d = '{' ∧ ds ++ rest = body := by simpa using hb
    obtain ⟨w, gap, hw, -, hen⟩ := hr.exists_enclosed h
    rw [hw, List.append_assoc] at he
    exact hrest (List.append_eq_nil_iff.1 (hen.eq_nil_of_append he)).2

/-- Nor does it with a replacement character in the place of the rest. -/
theorem text_prefix_replacement_ne (hr : read.Thorough) (he : Enclosed (cs ++ rest)) :
    read.text (cs ++ [Text.Utf8.replacement]) ≠ .ok a := by
  intro h
  cases cs with
  | nil =>
    have hs : (Document.ofText [Text.Utf8.replacement]).root.skip.isOk = false := by decide +kernel
    exact Fault.ne_ok_of_isOk hs () (hr.of_text h).1
  | cons d ds =>
    obtain ⟨body, hb, -⟩ := he
    obtain ⟨rfl, -⟩ : d = '{' ∧ ds ++ rest = body := by simpa using hb
    have hl : ('{' :: (ds ++ [Text.Utf8.replacement])).getLast? = some Text.Utf8.replacement := by
      rw [← List.cons_append, List.getLast?_append]
      rfl
    rcases hr.getLast?_of_text h hl with hc | hc
    · exact absurd hc (by decide)
    · exact absurd hc (by decide)

end Reader.Thorough

/-! ## The first character of a record -/

namespace Tree

/-- Whether a tree is neither an array nor an object. -/
def isLeaf : Tree → Bool
  | .array .. => false
  | .object .. => false
  | _ => true

/-- The value stays what it is once it is complete. -/
theorem root_foldl_done (root : Tree) (ts : List Token) :
    (ts.foldl step (.done root)).finish.root = root := by
  cases ts with
  | nil => rfl
  | cons token ts => rw [List.foldl_cons, step, foldl_trailing, State.finish]

/-- A lexical element that opens nothing is the whole value, or there is none. -/
theorem isLeaf_foldl_start {token : Token} (hb : token ≠ .leftBrace) (hk : token ≠ .leftBracket)
    (ts : List Token) : ((token :: ts).foldl step .start).finish.root.isLeaf := by
  have hdone (root : Tree) (h : root.isLeaf) : (ts.foldl step (.done root)).finish.root.isLeaf := by
    rwa [root_foldl_done]
  have hfailed (cause : Fault) : (ts.foldl step (.failed (.fault cause))).finish.root.isLeaf := by
    rw [foldl_eq_failed]
    rfl
  cases token with
  | leftBrace => exact absurd rfl hb
  | leftBracket => exact absurd rfl hk
  | null => exact hdone _ rfl
  | bool b => exact hdone _ rfl
  | number x => exact hdone _ rfl
  | string x => exact hdone _ rfl
  | fault cause => exact hfailed cause
  | rightBrace => exact hfailed .malformed
  | rightBracket => exact hfailed .malformed
  | comma => exact hfailed .malformed
  | colon => exact hfailed .malformed

end Tree

/-- A text that is read as a record begins with a brace or a bracket, after white space. -/
theorem Reader.head_of_record_text {ρ : Type} {short : Bool} {fields : List (Field ρ)}
    {initial r : ρ} {c : Char} {cs : List Char} (hc : ¬Token.isSpace c)
    (h : (record short fields initial).text (c :: cs) = .ok r) : c = '{' ∨ c = '[' := by
  by_cases hb : c = '{'
  · exact .inl hb
  by_cases hk : c = '['
  · exact .inr hk
  have hleaf : (Document.ofText (c :: cs)).root.isLeaf := by
    obtain ⟨more, hts⟩ := @exists_tokens_eq_cons c cs hc
    obtain ⟨hbrace, hbracket⟩ := @Token.scan_ne_open c cs hb hk
    rw [Document.ofText, hts]
    exact Tree.isLeaf_foldl_start hbrace hbracket more
  obtain ⟨r', hr, -⟩ := Fault.bind_eq_ok.1 h
  cases hroot : (Document.ofText (c :: cs)).root with
  | array => simp [hroot, Tree.isLeaf] at hleaf
  | object => simp [hroot, Tree.isLeaf] at hleaf
  | _ => simp [hroot, record] at hr

end EditorBridge
