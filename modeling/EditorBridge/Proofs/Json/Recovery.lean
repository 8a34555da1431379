import EditorBridge.Json.Recovery
import EditorBridge.Proofs.Json.Grammar
import EditorBridge.Proofs.Json.Nesting

/-!
# What is recovered from noise

The search for a balanced span of braces knows nothing of string literals: it goes by the braces
that do not directly follow a backslash. Where the braces in the string literals of an object text
all follow a backslash, it finds the object text between any noise, since it counts the braces that
its outline counts. Where they do not, it finds the object text just if the braces that it does
count balance at the end of the text and not before. Otherwise it may stop in a literal, and what it
has found by then is a beginning of the object text and cannot be read.
-/

namespace EditorBridge.Recovery

/-- Whether the characters that `marked` tells apart, by what they are and where they stand, all
directly follow a backslash. -/
def Guarded (marked : Zone → Char → Bool) (cs : List Char) : Prop :=
  ∀ before c after, cs = before ++ c :: after → marked (.after before) c →
    before.getLast? = some '\\'

/-- Tells apart the opening braces. -/
def opening (_ : Zone) (c : Char) : Bool := c = '{'

/-- Tells apart the braces in string literals. -/
def quotedBrace (zone : Zone) (c : Char) : Bool := zone ≠ .plain && (c = '{' || c = '}')

/-- Whether marked characters follow a backslash, in a text that begins in a zone after some
character. -/
def guarded (marked : Zone → Char → Bool) : Zone → (previous : Char) → List Char → Bool
  | _, _, [] => true
  | zone, previous, c :: cs =>
    (!marked zone c || previous = '\\') && guarded marked (zone.step c) c cs

section Guarded

variable {marked : Zone → Char → Bool} {zone : Zone} {previous : Char} {cs : List Char}

theorem guarded_iff_forall : guarded marked zone previous cs = true ↔
    ∀ before c after, cs = before ++ c :: after → marked (before.foldl Zone.step zone) c →
      before.getLast?.getD previous = '\\' := by
  induction cs generalizing zone previous with
  | nil => simp [guarded]
  | cons d cs ih =>
    simp only [guarded, Bool.and_eq_true, ih]
    constructor
    · rintro ⟨hd, hcs⟩ before c after he hm
      cases before with
      | nil =>
        obtain ⟨rfl, rfl⟩ : d = c ∧ cs = after := by simpa using he
        simpa [show marked zone d = true from hm] using hd
      | cons e before =>
        obtain ⟨rfl, rfl⟩ : d = e ∧ cs = before ++ c :: after := by simpa using he
        simpa [List.getLast?_cons] using hcs before c after rfl hm
    · intro h
      refine ⟨?_, fun before c after he hm => ?_⟩
      · have := h [] d cs rfl
        cases hm : marked zone d <;> simp_all
      · simpa [List.getLast?_cons] using h (d :: before) c after (by simp [he]) hm

theorem guarded_iff : Guarded marked cs ↔ guarded marked .plain ' ' cs = true := by
  rw [guarded_iff_forall]
  refine forall_congr' fun before => forall_congr' fun c => forall_congr' fun after =>
    imp_congr_right fun _ => imp_congr_right fun _ => ?_
  cases before.getLast? <;> simp

instance (cs : List Char) : Decidable (Guarded marked cs) := decidable_of_iff _ guarded_iff.symm

end Guarded

/-- The number of occurrences of a brace that do not directly follow a backslash, in a text after
some character. -/
def loose (brace : Char) : (previous : Char) → List Char → Nat
  | _, [] => 0
  | previous, c :: cs => (if c = brace ∧ previous ≠ '\\' then 1 else 0) + loose brace c cs

/-- Whether the braces that do not directly follow a backslash balance at the end of a text and not
before. -/
def Balanced (cs : List Char) : Prop :=
  ∀ before after, cs = before ++ after → before ≠ [] →
    (loose '{' ' ' before = loose '}' ' ' before ↔ after = [])

/-! ## The search for a balanced span -/

section Balance

variable {previous c : Char} {n : Nat} {span cs w rest : List Char}

theorem balance_brace (hp : previous ≠ '\\') :
    balance previous n span ('{' :: cs) = balance '{' (n + 1) ('{' :: span) cs := by
  simp [balance, hp]

theorem balance_endBrace (hp : previous ≠ '\\') (hn : 1 < n) :
    balance previous n span ('}' :: cs) = balance '}' (n - 1) ('}' :: span) cs := by
  simp [balance, hp, Nat.not_le.2 hn]

theorem balance_last (hp : previous ≠ '\\') :
    balance previous 1 span ('}' :: cs) = some (span.reverse ++ ['}']) := by
  simp [balance, hp]

theorem balance_other (h : (c ≠ '{' ∧ c ≠ '}') ∨ previous = '\\') :
    balance previous n span (c :: cs) = balance c n (c :: span) cs := by
  rw [balance, if_neg, if_neg]
  · rintro ⟨rfl, hp⟩
    simp [hp] at h
  · rintro ⟨rfl, hp⟩
    simp [hp] at h

/-- The span that is found is a beginning of the text. -/
theorem eq_append_of_balance {found : List Char} (h : balance previous n span cs = some found) :
    ∃ w rest, cs = w ++ rest ∧ found = span.reverse ++ w := by
  fun_induction balance previous n span cs with
  | case1 => simp at h
  | case2 previous n span c cs _ ih =>
    obtain ⟨w, rest, rfl, rfl⟩ := ih h
    exact ⟨c :: w, rest, rfl, by simp⟩
  | case3 previous n span c cs =>
    obtain rfl : (c :: span).reverse = found := by simpa using h
    exact ⟨[c], cs, rfl, by simp⟩
  | case4 previous n span c cs _ _ _ ih =>
    obtain ⟨w, rest, rfl, rfl⟩ := ih h
    exact ⟨c :: w, rest, rfl, by simp⟩
  | case5 previous n span c cs _ _ ih =>
    obtain ⟨w, rest, rfl, rfl⟩ := ih h
    exact ⟨c :: w, rest, rfl, by simp⟩

/-- A text without braces has no balanced span and ends none. -/
theorem balance_append_of_braceless (hr : Braceless rest) :
    balance previous n span (cs ++ rest) = balance previous n span cs := by
  induction cs generalizing previous n span with
  | nil =>
    induction rest generalizing previous span with
    | nil => rfl
    | cons c rest ih =>
      obtain ⟨hc, hr⟩ := List.forall_mem_cons.1 hr
      rw [List.nil_append, balance_other (.inl hc)]
      exact ih hr
  | cons c cs ih =>
    rw [List.cons_append, balance, balance]
    simp only [ih]

/-- The search stops at the end of a text that closes its braces, whatever follows, if those in
string literals follow a backslash. -/
theorem balance_append_of_closes {zone : Zone} (hc : Closes zone n w) (hn : 0 < n)
    (hg : guarded quotedBrace zone previous w) (hp : zone = .plain → previous ≠ '\\') :
    balance previous n span (w ++ rest) = some (span.reverse ++ w) := by
  induction w generalizing zone previous n span with
  | nil =>
    obtain rfl : n = 0 := hc
    exact absurd hn (Nat.lt_irrefl 0)
  | cons c w ih =>
    obtain ⟨-, hb, hc⟩ := hc
    obtain ⟨hq, hg⟩ : (_ ∧ _) := by simpa only [guarded, Bool.and_eq_true] using hg
    rw [List.cons_append]
    -- A character that is not counted, here or in the outline, is passed over.
    have pass (hd : zone.depth n c = n) (hs : zone.step c = .plain → c ≠ '\\')
        (ho : (c ≠ '{' ∧ c ≠ '}') ∨ previous = '\\') :
        balance previous n span (c :: (w ++ rest)) = some (span.reverse ++ c :: w) := by
      rw [hd] at hc
      rw [balance_other ho, ih hc hn hg hs]
      simp
    by_cases hz : zone = .plain
    · subst hz
      have hp := hp rfl
      by_cases ho : c = '{'
      · subst ho
        have hd : Zone.plain.depth n '{' = n + 1 := by simp [Zone.depth]
        rw [hd] at hc
        rw [balance_brace hp, ih hc (Nat.succ_pos n) hg (by simp)]
        simp
      by_cases he : c = '}'
      · subst he
        by_cases h1 : n = 1
        · subst h1
          obtain rfl : w = [] := hc.eq_nil_of_zero
          exact balance_last hp
        · have hd : Zone.plain.depth n '}' = n - 1 := by simp [Zone.depth]
          rw [hd] at hc
          rw [balance_endBrace hp (by omega), ih hc (by omega) hg (by simp)]
          simp
      · exact pass (by simp [Zone.depth, ho, he]) (fun _ => hb rfl) (.inl ⟨ho, he⟩)
    · refine pass (by simp [Zone.depth, hz]) (fun h => ?_) ?_
      · rintro rfl
        cases zone <;> simp [Zone.step] at h hz
      · simp only [quotedBrace, hz, ne_eq, not_false_eq_true, decide_true, Bool.true_and,
          Bool.not_or, Bool.or_eq_true, Bool.and_eq_true, Bool.not_eq_true',
          decide_eq_false_iff_not, decide_eq_true_eq] at hq
        exact hq

/-- A text is cut before its first character or after it. -/
theorem forall_eq_append_cons {p : List Char → List Char → Prop} :
    (∀ before after, c :: cs = before ++ after → p before after) ↔
      p [] (c :: cs) ∧ ∀ before after, cs = before ++ after → p (c :: before) after := by
  constructor
  · intro h
    exact ⟨h [] _ rfl, fun before after he => h (c :: before) after (by rw [he]; rfl)⟩
  · rintro ⟨hnil, hcons⟩ before after he
    cases before with
    | nil =>
      obtain rfl : c :: cs = after := he
      exact hnil
    | cons d before =>
      obtain ⟨rfl, rfl⟩ : c = d ∧ cs = before ++ after := by simpa using he
      exact hcons before after rfl

/-- The search stops at the end of a text just if its braces balance there and not before. -/
theorem balance_eq_some_iff (hn : 0 < n) : balance previous n span cs = some (span.reverse ++ cs) ↔
    ∀ before after, cs = before ++ after →
      (n + loose '{' previous before = loose '}' previous before ↔ after = []) := by
  induction cs generalizing previous n span with
  | nil =>
    refine iff_of_false (by simp [balance]) fun h => ?_
    have := (h [] [] rfl).2 rfl
    simp only [loose] at this
    omega
  | cons c cs ih =>
    have hnil : (n + loose '{' previous [] = loose '}' previous [] ↔ c :: cs = []) := by
      simp [loose, Nat.pos_iff_ne_zero.1 hn]
    have hrev : span.reverse ++ c :: cs = (c :: span).reverse ++ cs := by simp
    rw [forall_eq_append_cons, hrev, and_iff_right hnil]
    by_cases ho : c = '{' ∧ previous ≠ '\\'
    · obtain ⟨rfl, hp⟩ := ho
      rw [balance_brace hp, ih (Nat.succ_pos n)]
      simp [loose, hp, Nat.add_assoc]
    by_cases he : c = '}' ∧ previous ≠ '\\'
    · obtain ⟨rfl, hp⟩ := he
      by_cases h1 : n = 1
      · subst h1
        have hcs : some (span.reverse ++ ['}']) = some (('}' :: span).reverse ++ cs) ↔ cs = [] := by
          simp [eq_comm]
        rw [balance_last hp, hcs]
        constructor
        · rintro rfl before after he
          obtain ⟨rfl, rfl⟩ : before = [] ∧ after = [] := by simpa using he
          simp [loose, hp]
        · intro h
          exact (h [] cs rfl).1 (by simp [loose, hp])
      · have hsub (x y : Nat) : n - 1 + x = y ↔ n + x = 1 + y := by omega
        rw [balance_endBrace hp (by omega), ih (by omega)]
        simp [loose, hp, hsub]
    · have hother : (c ≠ '{' ∧ c ≠ '}') ∨ previous = '\\' := by grind
      rw [balance_other hother, ih hn]
      simp [loose, ho, he]

/-- Opening braces after a backslash are passed over. -/
theorem spanAfter_append {zone : Zone} (hg : guarded opening zone previous w) :
    spanAfter previous (w ++ cs) = spanAfter (w.getLast?.getD previous) cs := by
  induction w generalizing zone previous with
  | nil => rfl
  | cons c w ih =>
    obtain ⟨hc, hg⟩ : (_ ∧ _) := by simpa only [guarded, Bool.and_eq_true] using hg
    rw [List.cons_append, spanAfter, if_neg, ih hg]
    · simp [List.getLast?_cons]
    · rintro ⟨rfl, hp⟩
      simp [opening, hp] at hc

theorem spanAfter_brace (hp : previous ≠ '\\') :
    spanAfter previous ('{' :: cs) = balance '{' 1 ['{'] cs := by
  simp [spanAfter, hp]

end Balance

section Span

variable {before body object after found : List Char}

theorem guarded_of_braceless {zone : Zone} {previous : Char} (h : Braceless before) :
    guarded opening zone previous before = true := by
  induction before generalizing zone previous with
  | nil => rfl
  | cons c cs ih =>
    obtain ⟨⟨hc, -⟩, h⟩ := List.forall_mem_cons.1 h
    simp [guarded, opening, hc, ih h]

/-- The search begins at the first opening brace that does not follow a backslash. -/
theorem span?_append (hb : Guarded opening before) (hlast : before.getLast? ≠ some '\\') :
    span? (before ++ '{' :: body) = balance '{' 1 ['{'] body := by
  have hp : before.getLast?.getD ' ' ≠ '\\' := by
    cases hl : before.getLast? with
    | none => simp
    | some c => simpa [hl] using hlast
  rw [span?, spanAfter_append (guarded_iff.1 hb), spanAfter_brace hp]

theorem span?_brace : span? ('{' :: body) = balance '{' 1 ['{'] body := spanAfter_brace (by decide)

/-- The braces of a text balance just if the text is the first balanced span of itself. -/
theorem balanced_iff (ho : Braced object) : Balanced object ↔ span? object = some object := by
  obtain ⟨body, rfl⟩ := ho.exists_cons
  have hs : balance '{' 1 ['{'] body = some (['{'].reverse ++ body) ↔ _ :=
    balance_eq_some_iff Nat.one_pos
  rw [span?_brace]
  refine Iff.trans ?_ hs.symm
  rw [Balanced, forall_eq_append_cons]
  simp [loose]

/-- Between a text whose opening braces follow a backslash and any text, an enclosed text is found
if the braces in its string literals follow a backslash. -/
theorem span?_of_guarded (hb : Guarded opening before) (hlast : before.getLast? ≠ some '\\')
    (ho : Enclosed object) (hg : Guarded quotedBrace object) :
    span? (before ++ object ++ after) = some object := by
  obtain ⟨body, rfl, hbody⟩ := ho
  obtain ⟨-, hg⟩ : (_ ∧ _) := by simpa only [guarded, Bool.and_eq_true] using guarded_iff.1 hg
  rw [List.append_assoc, List.cons_append, span?_append hb hlast,
    balance_append_of_closes hbody Nat.one_pos hg (by simp)]
  rfl

/-- Between texts without braces, what is found is what is found in the object text alone. -/
theorem span?_of_braceless (hb : Braceless before) (hlast : before.getLast? ≠ some '\\')
    (ha : Braceless after) : span? (before ++ '{' :: body ++ after) = span? ('{' :: body) := by
  rw [List.append_assoc, List.cons_append,
    span?_append (guarded_iff.2 (guarded_of_braceless hb)) hlast, balance_append_of_braceless ha,
    span?_brace]

/-- What is found in a text that begins with a brace is a beginning of it. -/
theorem exists_append_of_span? (h : span? ('{' :: body) = some found) :
    ∃ rest, '{' :: body = found ++ rest := by
  rw [span?_brace] at h
  obtain ⟨w, rest, rfl, rfl⟩ := eq_append_of_balance h
  exact ⟨rest, rfl⟩

end Span

/-! ## Reading with recovery -/

section Read

variable {α : Type} {reader : Reader α} {cs before object after : List Char} {value : α}
  {cause : Fault}

theorem read_of_text (h : reader.text cs = .ok value) : read reader cs = .ok value := by
  simp [read, h]

theorem read_of_span? {found : List Char} (h : reader.text cs = .error cause)
    (hs : span? cs = some found) (hf : reader.text found = .ok value) :
    read reader cs = .ok value := by
  simp [read, h, hs, hf]

/-- The fault is that of the whole text if what is found, if anything, cannot be read. -/
theorem read_eq_error (h : reader.text cs = .error cause)
    (hs : ∀ found a, span? cs = some found → reader.text found ≠ .ok a) :
    read reader cs = .error cause := by
  unfold read
  rw [h]
  cases hf : span? cs with
  | none => rfl
  | some found =>
    cases ht : reader.text found with
    | error _ => simp [ht]
    | ok a => exact absurd ht (hs found a hf)

/-- What is read is read from the whole or from the first balanced span. -/
theorem text_of_read (h : read reader cs = .ok value) :
    reader.text cs = .ok value ∨ ∃ found, span? cs = some found ∧
      reader.text found = .ok value := by
  cases ht : reader.text cs with
  | ok a =>
    rw [read_of_text ht] at h
    exact .inl h
  | error cause =>
    cases hf : span? cs with
    | none => simp [read, ht, hf] at h
    | some found =>
      cases hr : reader.text found with
      | error _ => simp [read, ht, hf, hr] at h
      | ok a =>
        rw [read_of_span? ht hf hr] at h
        exact .inr ⟨found, rfl, hr.trans h⟩

/-- A value is recovered from noise: from a text whose opening braces all follow a backslash and any
text after the object text, if the braces in string literals of the latter follow a backslash
too. -/
theorem read_noise (ho : Grammar.Derives .object object) (hv : reader.text object = .ok value)
    (hg : Guarded quotedBrace object) (hb : Guarded opening before)
    (hlast : before.getLast? ≠ some '\\')
    (hw : ∀ a, reader.text (before ++ object ++ after) ≠ .ok a) :
    read reader (before ++ object ++ after) = .ok value := by
  obtain ⟨cause, ht⟩ := Fault.exists_eq_error hw
  exact read_of_span? ht (span?_of_guarded hb hlast ho.enclosed hg) hv

theorem read_noise_item :
    ∃ object : List Char, object = "\x7b\"items\":[\"\\\\\x7b\"]\x7d".toList ∧
      CompilerOutput.reader.text object = .ok ⟨none, some [.string "\\\x7b"]⟩ ∧
      read CompilerOutput.reader
        ("\\\x7b log \x7d ".toList ++ object ++ " \x7d \x7b\"items\":[]\x7d".toList) =
          .ok ⟨none, some [.string "\\\x7b"]⟩ := by
  have hname : Grammar.Derives .literal _ :=
    @Grammar.Derives.literal "items".toList (.of_plain (by simp))
  have hitem : Grammar.Derives .literal _ :=
    @Grammar.Derives.literal ['\\', '\\', '{'] (.escape (by simp) (.of_plain (by simp)))
  have hobject : Grammar.Derives .object "\x7b\"items\":[\"\\\\\x7b\"]\x7d".toList :=
    .object
      (.oneMember (.of_name hname (.of_value (.array (.oneElement (.of_value (.string hitem)))))))
  have hv : CompilerOutput.reader.text "\x7b\"items\":[\"\\\\\x7b\"]\x7d".toList =
      .ok ⟨none, some [.string "\\\x7b"]⟩ := by
    cbv
  refine ⟨_, rfl, hv, read_noise hobject hv (by decide) (by decide) (by decide) ?_⟩
  exact Fault.ne_ok_of_isOk (by decide +kernel)

/-- Between texts without braces, a value is recovered from an object text whose braces balance. -/
theorem read_of_balanced (ho : Braced object) (hv : reader.text object = .ok value)
    (hbal : Balanced object) (hb : Braceless before) (hlast : before.getLast? ≠ some '\\')
    (ha : Braceless after) (hw : reader.text (before ++ object ++ after) = .error cause) :
    read reader (before ++ object ++ after) = .ok value := by
  have hspan : span? object = some object := (balanced_iff ho).1 hbal
  obtain ⟨body, rfl⟩ := ho.exists_cons
  refine read_of_span? hw ?_ hv
  rw [span?_of_braceless hb hlast ha, hspan]

/-- Between texts without braces, nothing is recovered from an object text whose braces do not
balance: what is found, if anything, is a proper beginning of it. -/
theorem read_of_not_balanced (hr : reader.Thorough) (ho : Braced object)
    (hv : reader.text object = .ok value) (hbal : ¬Balanced object) (hb : Braceless before)
    (hlast : before.getLast? ≠ some '\\') (ha : Braceless after)
    (hw : reader.text (before ++ object ++ after) = .error cause) :
    read reader (before ++ object ++ after) = .error cause := by
  have hen : Enclosed object := hr.enclosed ho hv
  rw [balanced_iff ho] at hbal
  obtain ⟨body, rfl⟩ := ho.exists_cons
  refine read_eq_error hw fun found a hf hread => ?_
  rw [span?_of_braceless hb hlast ha] at hf
  obtain ⟨rest, hrest⟩ := exists_append_of_span? hf
  rw [hrest] at hen
  refine hr.text_prefix_ne hen (fun hnil => hbal ?_) hread
  rw [hf, hrest, hnil, List.append_nil]

/-- What is found in a beginning of an enclosed text is a beginning of that text too, and a
replacement character makes no difference to that. -/
theorem exists_append_of_span?_prefix {found mark : List Char} (ho : Enclosed (before ++ after))
    (hm : mark = [] ∨ mark = [Text.Utf8.replacement]) (hf : span? (before ++ mark) = some found) :
    ∃ rest, before = found ++ rest := by
  have hmark : Braceless mark := by rcases hm with rfl | rfl <;> decide
  cases before with
  | nil => rcases hm with rfl | rfl <;> cases hf
  | cons d ds =>
    obtain ⟨body, hb, -⟩ := ho
    obtain ⟨rfl, -⟩ : d = '{' ∧ ds ++ after = body := by simpa using hb
    have hs : span? ([] ++ '{' :: ds ++ mark) = span? ('{' :: ds) :=
      span?_of_braceless (by decide) (by decide) hmark
    rw [← List.nil_append ('{' :: ds), hs] at hf
    exact exists_append_of_span? hf

/-- Nothing is read from a proper beginning of an enclosed text, be it followed by a replacement
character or not: neither the whole nor what is found in it. -/
theorem exists_read_eq_error (hr : reader.Thorough) (ho : Enclosed (before ++ after))
    (ha : after ≠ []) {mark : List Char} (hm : mark = [] ∨ mark = [Text.Utf8.replacement]) :
    ∃ cause, read reader (before ++ mark) = .error cause := by
  have hwhole (a : α) : reader.text (before ++ mark) ≠ .ok a := by
    rcases hm with rfl | rfl
    · rw [List.append_nil]
      exact hr.text_prefix_ne ho ha
    · exact hr.text_prefix_replacement_ne ho
  have hspan (found : List Char) (a : α) (hf : span? (before ++ mark) = some found) :
      reader.text found ≠ .ok a := by
    obtain ⟨rest, rfl⟩ := exists_append_of_span?_prefix ho hm hf
    rw [List.append_assoc] at ho
    exact hr.text_prefix_ne ho (by simp [ha])
  obtain ⟨cause, ht⟩ := Fault.exists_eq_error hwhole
  exact ⟨cause, read_eq_error ht hspan⟩

end Read

end EditorBridge.Recovery
