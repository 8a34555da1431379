import EditorBridge.Completion.Signature
import EditorBridge.Proofs.Text.Split

/-!
# The item that is shown for a call

A name is taken for a token also if the token goes on after it with an opening parenthesis or a
point. But the token of a call has no such characters, so the name has to be all of it.

The main statement says which item is shown for a call, and what of its documentation.
-/

namespace EditorBridge

namespace Call

/-- A text that may stand before an open call. -/
structure IsToken (token : List Char) : Prop where
  ne_nil : token ≠ []
  notBoundary : ∀ c ∈ token, isBoundary c = false

theorem isToken_of_tokenAt? {cs token : List Char} {offset : Nat}
    (h : tokenAt? cs offset = some token) : IsToken token := by
  obtain ⟨before, -, htoken⟩ := Option.bind_eq_some_iff.1 h
  obtain ⟨hne, heq⟩ := Option.ite_none_left_eq_some.1 htoken
  have heq := Option.some.inj heq
  rw [heq] at hne
  refine ⟨hne, fun c hc => ?_⟩
  rw [← heq, List.mem_reverse] at hc
  simpa using List.all_eq_true.1 List.all_takeWhile c hc

end Call

namespace CompletionList

open Call (IsToken)

section Lookup

variable {items before after : CompletionList} {item : CompletionItem} {d : Documentation}
  {token name : List Char} {key : CompletionItem → Option String}

/-- Only the whole token is a name of it. -/
theorem namesToken_iff (htoken : IsToken token) : namesToken token name ↔ name = token := by
  constructor
  · intro h
    obtain ⟨-, h⟩ := Bool.and_eq_true_iff.1 h
    cases hrest : Text.dropPrefix? name token with
    | none => simp [hrest] at h
    | some rest =>
      have happend := Text.dropPrefix?_eq_some.1 hrest
      cases rest with
      | nil => rw [happend, List.append_nil]
      | cons c rest =>
        -- What follows the name would end the token.
        have hc := htoken.notBoundary c (by simp [happend])
        have hends : c = '(' ∨ c = '.' := by simpa [hrest] using h
        rcases hends with rfl | rfl <;> simp [Call.isBoundary] at hc
  · rintro rfl
    have hrest : Text.dropPrefix? name name = some [] :=
      Text.dropPrefix?_eq_some.2 (List.append_nil name).symm
    simp [namesToken, hrest, htoken.ne_nil]

/-- An item with documentation whose key is `name`. -/
def Documents (key : CompletionItem → Option String) (name : List Char)
    (item : CompletionItem) : Prop :=
  item.documentation.isSome ∧ key item = some (String.ofList name)

instance : Decidable (Documents key name item) := inferInstanceAs (Decidable (_ ∧ _))

/-- The item a token stands for, between the items before and after it: the first one with
documentation whose filter text is the token, or, if there is none in the whole list, the first one
whose label is. -/
inductive Chosen (token : List Char) (before : CompletionList) (item : CompletionItem)
    (after : CompletionList) : Prop
  | byFilterText (hbefore : ∀ i ∈ before, ¬Documents (·.filterText) token i)
      (h : Documents (·.filterText) token item)
  | byLabel (hnone : ∀ i ∈ before ++ item :: after, ¬Documents (·.filterText) token i)
      (hbefore : ∀ i ∈ before, ¬Documents (fun i => some i.label) token i)
      (h : Documents (fun i => some i.label) token item)

theorem documentationFor?_eq_findSome? (htoken : IsToken token) :
    items.documentationFor? key token =
      items.findSome? fun i => if Documents key token i then i.documentation else none := by
  rw [documentationFor?]
  congr 1
  funext i
  cases hd : i.documentation with
  | none => simp
  | some d =>
    cases hkey : key i with
    | none => simp [Documents, hkey]
    | some name =>
      have hname : name.toList = token ↔ name = String.ofList token := by
        rw [← String.toList_inj, String.toList_ofList]
      simp [Documents, hd, hkey, namesToken_iff htoken, hname]

theorem ite_documents_eq_none_iff :
    (if Documents key token item then item.documentation else none) = none ↔
      ¬Documents key token item := by
  constructor
  · intro h hitem
    rw [if_pos hitem] at h
    simpa [h] using hitem.1
  · exact fun h => if_neg h

theorem documentationFor?_eq_none_iff (htoken : IsToken token) :
    items.documentationFor? key token = none ↔ ∀ i ∈ items, ¬Documents key token i := by
  rw [documentationFor?_eq_findSome? htoken, List.findSome?_eq_none_iff]
  exact forall₂_congr fun i _ => ite_documents_eq_none_iff

theorem documentationFor?_eq_some_iff (htoken : IsToken token) :
    items.documentationFor? key token = some d ↔
      ∃ before item after, items = before ++ item :: after ∧
      (∀ i ∈ before, ¬Documents key token i) ∧ Documents key token item ∧
      item.documentation = some d := by
  rw [documentationFor?_eq_findSome? htoken, List.findSome?_eq_some_iff]
  simp only [ite_documents_eq_none_iff, Option.ite_none_right_eq_some]
  constructor
  · rintro ⟨before, item, after, hitems, hitem, hbefore⟩
    exact ⟨before, item, after, hitems, hbefore, hitem⟩
  · rintro ⟨before, item, after, hitems, hbefore, hitem⟩
    exact ⟨before, item, after, hitems, hitem, hbefore⟩

/-- The documentation found for a token is that of the item it stands for. -/
theorem or_eq_some_iff (htoken : IsToken token) :
    (items.documentationFor? (·.filterText) token).or
      (items.documentationFor? (fun i => some i.label) token) = some d ↔
      ∃ before item after, items = before ++ item :: after ∧ Chosen token before item after ∧
        item.documentation = some d := by
  rw [Option.or_eq_some_iff, documentationFor?_eq_none_iff htoken,
    documentationFor?_eq_some_iff htoken, documentationFor?_eq_some_iff htoken]
  constructor
  · rintro (⟨before, item, after, hitems, hbefore, hitem, hd⟩ |
      ⟨hnone, before, item, after, rfl, hbefore, hitem, hd⟩)
    · exact ⟨before, item, after, hitems, .byFilterText hbefore hitem, hd⟩
    · exact ⟨before, item, after, rfl, .byLabel hnone hbefore hitem, hd⟩
  · rintro ⟨before, item, after, rfl, hchosen, hd⟩
    cases hchosen with
    | byFilterText hbefore hitem => exact .inl ⟨before, item, after, rfl, hbefore, hitem, hd⟩
    | byLabel hnone hbefore hitem =>
      exact .inr ⟨hnone, before, item, after, rfl, hbefore, hitem, hd⟩

theorem or_eq_none_iff (htoken : IsToken token) :
    (items.documentationFor? (·.filterText) token).or
      (items.documentationFor? (fun i => some i.label) token) = none ↔
      ∀ i ∈ items, ¬Documents (·.filterText) token i ∧
        ¬Documents (fun i => some i.label) token i := by
  rw [Option.or_eq_none_iff, documentationFor?_eq_none_iff htoken,
    documentationFor?_eq_none_iff htoken]
  constructor
  · exact fun h i hi => ⟨h.1 i hi, h.2 i hi⟩
  · exact fun h => ⟨fun i hi => (h i hi).1, fun i hi => (h i hi).2⟩

theorem Chosen.exists_documentation (h : Chosen token before item after) :
    ∃ d, item.documentation = some d := by
  cases h with
  | byFilterText _ hitem => exact Option.isSome_iff_exists.1 hitem.1
  | byLabel _ _ hitem => exact Option.isSome_iff_exists.1 hitem.1

/-- An item that is chosen by its filter text is so whatever comes after it. One that is chosen by
its label is so if none that comes after it has the filter text. -/
theorem Chosen.replace {other : CompletionList} (h : Chosen token before item after)
    (hother : Documents (·.filterText) token item ∨
      ∀ i ∈ other, ¬Documents (·.filterText) token i) :
    Chosen token before item other := by
  cases h with
  | byFilterText hbefore hitem => exact .byFilterText hbefore hitem
  | byLabel hnone hbefore hitem =>
    rw [List.forall_mem_append, List.forall_mem_cons] at hnone
    refine .byLabel ?_ hbefore hitem
    rw [List.forall_mem_append, List.forall_mem_cons]
    exact ⟨hnone.1, hnone.2.1, hother.resolve_left hnone.2.1⟩

end Lookup

end CompletionList

/-! ## Labels -/

theorem SignatureHelp.labels_eq_iff {help : SignatureHelp} {d : Documentation} :
    .ofDocumentation d = help ↔ Text.Pieces '\n' d.plainText help.labels := by
  rw [← Text.split_eq_iff]
  constructor
  · rintro rfl
    rfl
  · exact fun h => congrArg SignatureHelp.mk h

/-- The labels are the lines of the documentation, or an empty one if there are none. -/
theorem SignatureHelp.labels_ofDocumentation (d : Documentation) :
    (ofDocumentation d).labels = if d.plainLines = [] then [[]] else d.plainLines := by
  rw [ofDocumentation, Documentation.plainText]
  split
  case isTrue h =>
    rw [h]
    rfl
  case isFalse h =>
    refine Text.split_eq_iff.2 ⟨h, rfl, fun line hline => ?_⟩
    exact Text.notMem_of_mem_lines (List.mem_filter.1 hline).1

/-! ## Calls -/

namespace CompletionList

section Call

variable {items before after other : CompletionList} {item : CompletionItem} {d : Documentation}
  {help : SignatureHelp} {token cs : List Char} {p : Position}

theorem signatureHelp?_of_token? (h : Call.token? cs p = some token) :
    items.signatureHelp? cs p = ((items.documentationFor? (·.filterText) token).or
      (items.documentationFor? (fun i => some i.label) token)).map .ofDocumentation := by
  rw [signatureHelp?, h]
  exact (Option.map_eq_bind ..).symm

theorem signatureHelp?_eq_none_iff (h : Call.token? cs p = some token) :
    items.signatureHelp? cs p = none ↔
      ∀ i ∈ items, ¬Documents (·.filterText) token i ∧
        ¬Documents (fun i => some i.label) token i := by
  rw [signatureHelp?_of_token? h, Option.map_eq_none_iff,
    or_eq_none_iff (Call.isToken_of_tokenAt? h)]

theorem signatureHelp?_eq_some_iff (h : Call.token? cs p = some token) :
    items.signatureHelp? cs p = some help ↔ ∃ before item after d, items = before ++ item :: after ∧
      Chosen token before item after ∧ item.documentation = some d ∧ .ofDocumentation d = help := by
  rw [signatureHelp?_of_token? h, Option.map_eq_some_iff]
  simp only [or_eq_some_iff (Call.isToken_of_tokenAt? h)]
  constructor
  · rintro ⟨d, ⟨before, item, after, hitems, hchosen, hd⟩, hhelp⟩
    exact ⟨before, item, after, d, hitems, hchosen, hd, hhelp⟩
  · rintro ⟨before, item, after, d, hitems, hchosen, hd, hhelp⟩
    exact ⟨d, ⟨before, item, after, hitems, hchosen, hd⟩, hhelp⟩

/-- Items that come after the chosen one are of no account if it stays so without them. -/
theorem signatureHelp?_congr (h : Call.token? cs p = some token)
    (hchosen : Chosen token before item after) (hother : Chosen token before item other) :
    signatureHelp? (before ++ item :: other) cs p =
      signatureHelp? (before ++ item :: after) cs p := by
  obtain ⟨d, hd⟩ := hchosen.exists_documentation
  have hhelp : signatureHelp? (before ++ item :: after) cs p = some (.ofDocumentation d) :=
    (signatureHelp?_eq_some_iff h).2 ⟨before, item, after, d, rfl, hchosen, hd, rfl⟩
  rw [hhelp]
  exact (signatureHelp?_eq_some_iff h).2 ⟨before, item, other, d, rfl, hother, hd, rfl⟩

end Call

/-- There is nothing to show without a token, or if no item with documentation has the whole token
as filter text or label. Otherwise the labels are the pieces between the line feeds of the chosen
item's documentation. These are its lines, or an empty label if there are none. Other items after
the chosen one change nothing, as long as it is still chosen. -/
theorem signatureHelp?_wholeName (items : CompletionList) (cs : List Char) (p : Position) :
    (Call.token? cs p = none → items.signatureHelp? cs p = none) ∧
    ∀ token, Call.token? cs p = some token →
      (items.signatureHelp? cs p = none ↔
        ∀ i ∈ items, ¬Documents (·.filterText) token i ∧
        ¬Documents (fun i => some i.label) token i) ∧
      (∀ help, items.signatureHelp? cs p = some help ↔
        ∃ before item after d, items = before ++ item :: after ∧
        Chosen token before item after ∧ item.documentation = some d ∧
        Text.Pieces '\n' d.plainText help.labels) ∧
      ∀ before item after, items = before ++ item :: after → Chosen token before item after →
        (∀ d, item.documentation = some d →
          (items.signatureHelp? cs p).map (·.labels) =
            some (if d.plainLines = [] then [[]] else d.plainLines)) ∧
        ∀ other, (Documents (·.filterText) token item ∨
          ∀ i ∈ other, ¬Documents (·.filterText) token i) →
          signatureHelp? (before ++ item :: other) cs p = items.signatureHelp? cs p := by
  refine ⟨fun h => ?_, fun token h => ⟨signatureHelp?_eq_none_iff h, fun help => ?_, ?_⟩⟩
  · rw [signatureHelp?, h]
    rfl
  · simp only [signatureHelp?_eq_some_iff h, SignatureHelp.labels_eq_iff]
  · rintro before item after rfl hchosen
    refine ⟨fun d hd =>
      ?_, fun other hother => signatureHelp?_congr h hchosen (hchosen.replace hother)⟩
    rw [(signatureHelp?_eq_some_iff h).2 ⟨before, item, after, d, rfl, hchosen, hd, rfl⟩,
      Option.map_some, SignatureHelp.labels_ofDocumentation]

theorem signatureHelp?_wholeName_filterText :
    let before : CompletionList :=
      [{ label := "foo", filterText := some "fo", documentation := some (.text "fo()") },
       { label := "foo", filterText := some "foo" }]
    let documentation := .markup .markdown "\x60\x60\x60\nfoo(a)\nfoo(b)\n\x60\x60\x60"
    let item : CompletionItem :=
      { label := "bar", filterText := some "foo", documentation := some documentation }
    let cs := "a.foo(1, ".toList
    Call.token? cs ⟨0, 9⟩ = some "foo".toList ∧ Chosen "foo".toList before item [] ∧
      (signatureHelp? (before ++ [item]) cs ⟨0, 9⟩).map (·.labels) =
        some ["foo(a)".toList, "foo(b)".toList] := by
  intro before documentation item cs
  have htoken : Call.token? cs ⟨0, 9⟩ = some "foo".toList := by decide
  have hchosen : Chosen "foo".toList before item [] := .byFilterText (by decide) (by decide)
  obtain ⟨-, -, hshown⟩ := (signatureHelp?_wholeName (before ++ [item]) cs ⟨0, 9⟩).2 _ htoken
  refine ⟨htoken, hchosen, ((hshown before item [] rfl hchosen).1 documentation rfl).trans ?_⟩
  decide

end CompletionList

end EditorBridge
