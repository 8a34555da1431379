import EditorBridge.Publisher
import Mathlib.Data.List.Induction
import Mathlib.Data.List.Nodup

/-!
# What stays shown

The publisher knows the files of each document's last validation, but not what the editor shows.
Here the two are compared over whole histories of validations and closings, of any documents and
over any files.

* Nothing is orphaned: a file for which something is shown is among the files of a document whose
  last call is a validation. So nothing is shown once all documents are closed.
* Files may be shared, but publications replace one another. What a document reports for a file is
  hidden just if a later call of another document takes the file back and no call after that reports
  something for it.
-/

namespace EditorBridge

variable {α : Type}

theorem FileMap.mem_files {map : FileMap α} {file : Uri} :
    file ∈ map.files ↔ ∃ list, (file, list) ∈ map := by
  simp [files]

namespace Publisher

/-! ## Single calls -/

section Step

variable {p : Publisher} {document other file : Uri} {map : FileMap α} {list : List α}

theorem lookup_filter_ne (shown : List (Uri × List Uri)) :
    (shown.filter (·.1 ≠ document)).lookup other =
      if other = document then none else shown.lookup other := by
  induction shown with
  | nil => simp
  | cons entry shown ih =>
    obtain ⟨key, files⟩ := entry
    by_cases hk : key = document
    · subst hk
      rw [List.filter_cons_of_neg (by simp), ih, List.lookup_cons]
      by_cases ho : other = key
      · simp [ho]
      · simp [beq_false_of_ne ho]
    · rw [List.filter_cons_of_pos (by simp [hk]), List.lookup_cons, List.lookup_cons, ih]
      by_cases ho : other = key
      · simp [ho, hk]
      · simp [beq_false_of_ne ho]

@[simp] theorem dependencies_forget :
    (p.forget document).dependencies other =
      if other = document then [] else p.dependencies other := by
  rw [forget, dependencies, lookup_filter_ne]
  split <;> simp [dependencies]

@[simp] theorem dependencies_publish : (p.publish document map).1.dependencies other =
    if other = document then map.files else p.dependencies other := by
  by_cases h : other = document
  · simp [publish, remember, dependencies, h]
  · have hforget : (p.forget document).dependencies other = p.dependencies other := by simp [h]
    rw [if_neg h, ← hforget]
    simp [publish, remember, dependencies, List.lookup_cons, beq_false_of_ne h]

@[simp] theorem dependencies_close :
    (p.close document : Publisher × List (Publication α)).1.dependencies other =
      if other = document then [] else p.dependencies other :=
  dependencies_forget

theorem mem_publish : (file, list) ∈ (p.publish document map).2 ↔
    (file, list) ∈ map ∨ list = [] ∧ file ∈ p.dependencies document ∧ file ∉ map.files := by
  simp only [publish, List.mem_append, List.mem_map, List.mem_filter, Prod.mk.injEq]
  grind

theorem mem_close : (file, list) ∈ (p.close document).2 ↔
    list = [] ∧ (file = document ∨ file ∈ p.dependencies document) := by
  simp only [close, List.mem_cons, List.mem_map, List.mem_filter, Prod.mk.injEq]
  grind

theorem nodup_publish (hm : map.files.Nodup) (hd : (p.dependencies document).Nodup) :
    ((p.publish document map).2.map (·.1)).Nodup := by
  have hstale : (p.publish document map).2.map (·.1) =
      map.files ++ (p.dependencies document).filter (· ∉ map.files) := by
    simp [publish, FileMap.files, Function.comp_def]
  rw [hstale, List.nodup_append]
  refine ⟨hm, hd.filter _, ?_⟩
  rintro file hfile _ hmem rfl
  simp [hfile] at hmem

theorem nodup_close (hd : (p.dependencies document).Nodup) :
    ((p.close document : Publisher × List (Publication α)).2.map (·.1)).Nodup := by
  have hfiles : (p.close document : Publisher × List (Publication α)).2.map (·.1) =
      document :: (p.dependencies document).filter (· ≠ document) := by
    simp [close, Function.comp_def]
  rw [hfiles, List.nodup_cons]
  exact ⟨by simp, hd.filter _⟩

end Step

/-- A validation of a document, whose files are distinct, or the closing of a document. -/
inductive Call (α : Type) where
  | publish (document : Uri) (map : FileMap α) (nodup : map.files.Nodup)
  | close (document : Uri)

namespace Call

/-- The document of a call. -/
def document : Call α → Uri
  | .publish document _ _ => document
  | .close document => document

/-- The publisher after a call, with what the call publishes. -/
def perform (p : Publisher) : Call α → Publisher × List (Publication α)
  | .publish document map _ => p.publish document map
  | .close document => p.close document

/-- A validation that reports something for a file. -/
def Reports (file : Uri) : Call α → Prop
  | .publish _ map _ => ∃ list, (file, list) ∈ map ∧ list ≠ []
  | .close _ => False

/-- A call that takes a file back: its document is closed; or a document that reported it is closed,
or is validated without it; or it is reported with nothing in it. -/
def Withdraws (p : Publisher) (file : Uri) : Call α → Prop
  | .publish document map _ => (file, []) ∈ map ∨ file ∈ p.dependencies document ∧ file ∉ map.files
  | .close document => file = document ∨ file ∈ p.dependencies document

variable {p : Publisher} {file : Uri} {call : Call α}

theorem withdraws_iff : call.Withdraws p file ↔ (file, []) ∈ (call.perform p).2 := by
  cases call with
  | publish document map nodup => simp [Withdraws, perform, mem_publish]
  | close document => simp [Withdraws, perform, mem_close]

theorem reports_iff : call.Reports file ↔ ∃ list ≠ [], (file, list) ∈ (call.perform p).2 := by
  cases call with
  | publish document map nodup =>
    simp only [Reports, perform, mem_publish]
    grind
  | close document =>
    simp only [Reports, perform, mem_close]
    grind

theorem dependencies_perform {other : Uri} (h : other ≠ call.document) :
    (call.perform p).1.dependencies other = p.dependencies other := by
  cases call with
  | publish document map nodup => exact dependencies_publish.trans (if_neg h)
  | close document => exact dependencies_close.trans (if_neg h)

/-- Only a validation publishes something, and then for files of its own. -/
theorem mem_dependencies_perform {list : List α} (h : (file, list) ∈ (call.perform p).2)
    (hne : list ≠ []) : file ∈ (call.perform p).1.dependencies call.document := by
  cases call with
  | publish document map nodup =>
    rcases mem_publish.1 h with hmap | ⟨hnil, -⟩
    · simpa [perform, Call.document] using FileMap.mem_files.2 ⟨_, hmap⟩
    · exact absurd hnil hne
  | close document => exact absurd (mem_close.1 h).1 hne

/-- A call says something about all files that its document had before. -/
theorem exists_mem_perform (h : file ∈ p.dependencies call.document) :
    ∃ list, (file, list) ∈ (call.perform p).2 := by
  cases call with
  | publish document map nodup =>
    by_cases hf : file ∈ map.files
    · obtain ⟨list, hlist⟩ := FileMap.mem_files.1 hf
      exact ⟨list, mem_publish.2 (.inl hlist)⟩
    · exact ⟨[], mem_publish.2 (.inr ⟨rfl, h, hf⟩)⟩
  | close document => exact ⟨[], mem_close.2 ⟨rfl, .inr h⟩⟩

theorem nodup_perform (hd : ∀ document, (p.dependencies document).Nodup) :
    ((call.perform p).2.map (·.1)).Nodup := by
  cases call with
  | publish document map nodup => exact nodup_publish nodup (hd document)
  | close document => exact nodup_close (hd document)

theorem nodup_dependencies_perform (hd : ∀ document, (p.dependencies document).Nodup)
    (other : Uri) : ((call.perform p).1.dependencies other).Nodup := by
  by_cases h : other = call.document
  · subst h
    cases call with
    | publish document map nodup => simpa [perform, Call.document] using nodup
    | close document => simp [perform, Call.document]
  · rw [dependencies_perform h]
    exact hd other

end Call

/-! ## Publications -/

/-- The list in the last publication for a file. -/
def last? (publications : List (Publication α)) (file : Uri) : Option (List α) :=
  (publications.filter (·.1 = file)).getLast?.map (·.2)

section Last

variable {file : Uri} {list : List α} {xs ys : List (Publication α)}

theorem last?_append : last? (xs ++ ys) file = (last? ys file).or (last? xs file) := by
  simp only [last?, List.filter_append, List.getLast?_append]
  cases (ys.filter (·.1 = file)).getLast? <;> rfl

theorem mem_of_last? (h : last? xs file = some list) : (file, list) ∈ xs := by
  obtain ⟨⟨key, found⟩, hlast, rfl⟩ := Option.map_eq_some_iff.1 h
  obtain ⟨hmem, hkey⟩ := List.mem_filter.1 (List.mem_of_getLast? hlast)
  simp only [decide_eq_true_eq] at hkey
  exact hkey ▸ hmem

theorem last?_eq_none : last? xs file = none ↔ ∀ list, (file, list) ∉ xs := by
  simp only [last?, Option.map_eq_none_iff, List.getLast?_eq_none_iff, List.filter_eq_nil_iff]
  constructor
  · intro h list hmem
    exact h _ hmem (by simp)
  · rintro h ⟨key, list⟩ hmem hkey
    simp only [decide_eq_true_eq] at hkey
    exact h list (hkey ▸ hmem)

/-- Where no file is published twice, the last publication for a file is the only one. -/
theorem last?_eq_some (hx : (xs.map (·.1)).Nodup) :
    last? xs file = some list ↔ (file, list) ∈ xs := by
  refine ⟨mem_of_last?, fun hmem => ?_⟩
  cases hlast : last? xs file with
  | none => exact absurd hmem (last?_eq_none.1 hlast list)
  | some found =>
    have heq := List.inj_on_of_nodup_map hx (mem_of_last? hlast) hmem rfl
    simp_all

end Last

/-! ## Histories -/

/-- The publisher after some calls, made one after another from the start, and all that they
published. -/
def run (calls : List (Call α)) : Publisher × List (Publication α) :=
  calls.foldl (fun (p, published) call => ((call.perform p).1, published ++ (call.perform p).2))
    (empty, [])

/-- What is shown for a file after some calls. -/
def shownAfter (calls : List (Call α)) (file : Uri) : List α := (last? (run calls).2 file).getD []

/-- The last call of its document. -/
def IsLast (call : Call α) (calls : List (Call α)) : Prop :=
  ∃ before later, calls = before ++ call :: later ∧ ∀ c ∈ later, c.document ≠ call.document

section Run

variable {calls later : List (Call α)} {call : Call α} {document file : Uri} {map : FileMap α}
  {list : List α}

@[simp] theorem run_concat : run (calls ++ [call]) =
    ((call.perform (run calls).1).1, (run calls).2 ++ (call.perform (run calls).1).2) := by
  simp [run]

theorem isLast_concat : IsLast call (calls ++ [call]) := ⟨calls, [], rfl, by simp⟩

theorem IsLast.concat {next : Call α} (h : IsLast call calls)
    (hne : next.document ≠ call.document) : IsLast call (calls ++ [next]) := by
  obtain ⟨before, later, rfl, hlater⟩ := h
  exact ⟨before, later ++ [next], by simp, by simpa [or_imp, forall_and] using ⟨hlater, hne⟩⟩

/-- A document has one last call. -/
theorem IsLast.eq {other : Call α} (h : IsLast call calls) (ho : IsLast other calls)
    (hd : call.document = other.document) : call = other := by
  obtain ⟨before, later, rfl, hlater⟩ := h
  obtain ⟨before', later', heq, hlater'⟩ := ho
  rcases List.append_eq_append_iff.1 heq with ⟨as, rfl, has⟩ | ⟨bs, rfl, hbs⟩
  · cases as with
    | nil => exact (List.cons.inj has).1
    | cons a as =>
      obtain ⟨rfl, rfl⟩ := List.cons.inj has
      exact absurd hd.symm (hlater other (by simp))
  · cases bs with
    | nil => exact (List.cons.inj hbs).1.symm
    | cons b bs =>
      obtain ⟨rfl, rfl⟩ := List.cons.inj hbs
      exact absurd hd (hlater' call (by simp))

theorem nodup_dependencies_run (calls : List (Call α)) (document : Uri) :
    ((run calls).1.dependencies document).Nodup := by
  induction calls using List.reverseRecOn generalizing document with
  | nil => simp [run]
  | append_singleton calls call ih => simpa using Call.nodup_dependencies_perform ih document

/-- A document with files has been validated and not been closed since. -/
theorem exists_isLast_of_mem_dependencies (h : file ∈ (run calls).1.dependencies document) :
    ∃ map nodup, IsLast (.publish document map nodup) calls := by
  induction calls using List.reverseRecOn with
  | nil => simp [run] at h
  | append_singleton calls call ih =>
    rw [run_concat] at h
    by_cases hd : document = call.document
    · subst hd
      cases call with
      | publish document map nodup => exact ⟨map, nodup, isLast_concat⟩
      | close document => simp [Call.perform, Call.document] at h
    · rw [Call.dependencies_perform hd] at h
      obtain ⟨map, nodup, hlast⟩ := ih h
      exact ⟨map, nodup, hlast.concat (Ne.symm hd)⟩

theorem shownAfter_of_mem (h : (file, list) ∈ (call.perform (run calls).1).2) :
    shownAfter (calls ++ [call]) file = list := by
  have hlast := (last?_eq_some (Call.nodup_perform (nodup_dependencies_run calls))).2 h
  simp [shownAfter, last?_append, hlast]

theorem shownAfter_of_not_mem (h : ∀ list, (file, list) ∉ (call.perform (run calls).1).2) :
    shownAfter (calls ++ [call]) file = shownAfter calls file := by
  simp [shownAfter, last?_append, last?_eq_none.2 h]

/-- The list shown after one more call is the one that the call publishes, or the one shown
before. -/
theorem shownAfter_concat_cases (calls : List (Call α)) (call : Call α) (file : Uri) :
    (file, shownAfter (calls ++ [call]) file) ∈ (call.perform (run calls).1).2 ∨
      (∀ list, (file, list) ∉ (call.perform (run calls).1).2) ∧
        shownAfter (calls ++ [call]) file = shownAfter calls file := by
  by_cases h : ∃ list, (file, list) ∈ (call.perform (run calls).1).2
  · obtain ⟨list, hmem⟩ := h
    exact .inl (shownAfter_of_mem hmem ▸ hmem)
  · rw [not_exists] at h
    exact .inr ⟨h, shownAfter_of_not_mem h⟩

/-- A call keeps it so that all that is shown belongs to some document. -/
theorem exists_mem_dependencies_concat
    (ih : shownAfter calls file ≠ [] → ∃ document, file ∈ (run calls).1.dependencies document)
    (h : shownAfter (calls ++ [call]) file ≠ []) :
    ∃ document, file ∈ (run (calls ++ [call])).1.dependencies document := by
  rw [run_concat]
  rcases shownAfter_concat_cases calls call file with hmem | ⟨hnot, heq⟩
  · exact ⟨call.document, Call.mem_dependencies_perform hmem h⟩
  · obtain ⟨owner, howner⟩ := ih (heq ▸ h)
    refine ⟨owner, ?_⟩
    have hd : owner ≠ call.document := by
      rintro rfl
      obtain ⟨list, hlist⟩ := Call.exists_mem_perform howner
      exact hnot list hlist
    rwa [Call.dependencies_perform hd]

theorem exists_mem_dependencies (h : shownAfter calls file ≠ []) :
    ∃ document, file ∈ (run calls).1.dependencies document := by
  induction calls using List.reverseRecOn with
  | nil => simp [shownAfter, run, last?] at h
  | append_singleton calls call ih => exact exists_mem_dependencies_concat ih h

/-- Whatever is shown belongs to a document that was validated and not closed since; a call
publishes no file twice; and when all documents that were validated have been closed, nothing is
shown. -/
theorem shown_owned (calls : List (Call α)) :
    (∀ file, shownAfter calls file ≠ [] →
      ∃ document map nodup, IsLast (.publish document map nodup) calls ∧
        file ∈ (run calls).1.dependencies document) ∧
    (∀ call : Call α, ((call.perform (run calls).1).2.map (·.1)).Nodup) ∧
    ((∀ document map nodup, .publish document map nodup ∈ calls → IsLast (.close document) calls) →
      ∀ file, shownAfter calls file = []) := by
  refine ⟨fun file h => ?_, fun call => Call.nodup_perform (nodup_dependencies_run calls),
    fun hclosed file => ?_⟩
  · obtain ⟨document, hfile⟩ := exists_mem_dependencies h
    obtain ⟨map, nodup, hlast⟩ := exists_isLast_of_mem_dependencies hfile
    exact ⟨document, map, nodup, hlast, hfile⟩
  · by_contra h
    obtain ⟨document, hfile⟩ := exists_mem_dependencies h
    obtain ⟨map, nodup, hlast⟩ := exists_isLast_of_mem_dependencies hfile
    have hmem : .publish document map nodup ∈ calls := by
      obtain ⟨before, later, rfl, -⟩ := hlast
      simp
    exact nomatch hlast.eq (hclosed document map nodup hmem) rfl

theorem shown_owned_library : ∃ (a b library : Uri) (pass : Call String),
    pass = .publish a [(library, ["x"])] (List.nodup_singleton _) ∧
    (∃ document map nodup, IsLast (.publish document map nodup) [pass, .close b] ∧
      library ∈ (run [pass, .close b]).1.dependencies document) ∧
    ∀ file, shownAfter [pass, .close b, .close a] file = [] := by
  refine ⟨.ofSegments ["a".toList], .ofSegments ["b".toList],
    .ofSegments ["library".toList], _, rfl, (shown_owned _).1 _ (by decide +kernel),
    (shown_owned _).2.2 fun document map nodup hmem => ?_⟩
  simp only [List.mem_cons, List.not_mem_nil, reduceCtorEq, or_false] at hmem
  cases hmem
  exact ⟨[_, _], [], rfl, by simp⟩

/-! ## Shared files -/

/-- Nothing is shown for a file after a call that takes it back, or if nothing was shown and the
call does not report it. -/
theorem shownAfter_concat_eq_nil : shownAfter (calls ++ [call]) file = [] ↔
    call.Withdraws (run calls).1 file ∨ shownAfter calls file = [] ∧ ¬call.Reports file := by
  rw [Call.withdraws_iff, Call.reports_iff (p := (run calls).1)]
  rcases shownAfter_concat_cases calls call file with hmem | ⟨hnot, heq⟩
  · constructor
    · intro h
      exact .inl (h ▸ hmem)
    · rintro (hnil | ⟨-, hreports⟩)
      · exact shownAfter_of_mem hnil
      · by_contra h
        exact hreports ⟨_, h, hmem⟩
  · simp [heq, hnot]

/-- Among later calls there is one that takes a file back, and after it none that reports it. -/
def Withdrawn (calls later : List (Call α)) (file : Uri) : Prop :=
  ∃ middle call rest, later = middle ++ call :: rest ∧
    call.Withdraws (run (calls ++ middle)).1 file ∧
    ∀ c ∈ rest, ¬c.Reports file

theorem not_withdrawn_nil : ¬Withdrawn calls [] file := by
  rintro ⟨middle, call, rest, h, -⟩
  simp at h

theorem withdrawn_concat : Withdrawn calls (later ++ [call]) file ↔
    call.Withdraws (run (calls ++ later)).1 file ∨ Withdrawn calls later file ∧
      ¬call.Reports file := by
  constructor
  · rintro ⟨middle, c, rest, heq, hc, hrest⟩
    rcases List.eq_nil_or_concat rest with rfl | ⟨rest, last, rfl⟩
    · obtain ⟨rfl, rfl⟩ := List.append_singleton_inj.1 heq
      exact .inl hc
    · rw [List.concat_eq_append, ← List.cons_append, ← List.append_assoc] at heq
      obtain ⟨rfl, rfl⟩ := List.append_singleton_inj.1 heq
      exact .inr ⟨⟨middle, c, rest, rfl, hc, fun x hx => hrest x (by simp [hx])⟩,
        hrest call (by simp)⟩
  · rintro (hc | ⟨⟨middle, c, rest, rfl, hc, hrest⟩, hcall⟩)
    · exact ⟨later, call, [], rfl, hc, by simp⟩
    · exact ⟨middle, c, rest ++ [call], by simp, hc,
        by simpa [or_imp, forall_and] using ⟨hrest, hcall⟩⟩

theorem shownAfter_append_eq_nil (h : shownAfter calls file ≠ []) (later : List (Call α)) :
    shownAfter (calls ++ later) file = [] ↔ Withdrawn calls later file := by
  induction later using List.reverseRecOn with
  | nil => simpa [not_withdrawn_nil] using h
  | append_singleton later call ih =>
    rw [← List.append_assoc, shownAfter_concat_eq_nil, ih, withdrawn_concat]

/-- What the last validation of a document reports for a file is hidden just if a later call of
another document takes the file back, and no call after that reports something for it. -/
theorem shown_eq_nil_iff (before : List (Call α)) {nodup : map.files.Nodup}
    (hlater : ∀ c ∈ later, c.document ≠ document) (hmem : (file, list) ∈ map) (hne : list ≠ []) :
    shownAfter (before ++ .publish document map nodup :: later) file = [] ↔
      ∃ middle call rest, later = middle ++ call :: rest ∧ call.document ≠ document ∧
        call.Withdraws (run (before ++ .publish document map nodup :: middle)).1 file ∧
        ∀ c ∈ rest, ¬c.Reports file := by
  have hshown : shownAfter (before ++ [.publish document map nodup]) file = list :=
    shownAfter_of_mem (mem_publish.2 (.inl hmem))
  have hiff := shownAfter_append_eq_nil (hshown ▸ hne) later
  simp only [Withdrawn, List.append_assoc, List.singleton_append] at hiff
  rw [hiff]
  constructor
  · rintro ⟨middle, call, rest, rfl, hcall⟩
    exact ⟨middle, call, rest, rfl, hlater call (by simp), hcall⟩
  · rintro ⟨middle, call, rest, hl, -, hcall⟩
    exact ⟨middle, call, rest, hl, hcall⟩

theorem shown_eq_nil_library : ∃ a b library : Uri, a ≠ b ∧
    shownAfter [.publish a [(library, ["x"])] (List.nodup_singleton _),
      .publish b [(library, ["y"])] (List.nodup_singleton _), .publish b [] List.nodup_nil]
        library = [] := by
  refine ⟨.ofSegments ["a".toList], .ofSegments ["b".toList],
    .ofSegments ["library".toList], by decide, ?_⟩
  refine (shown_eq_nil_iff [] ?_ (List.mem_singleton_self _) (by simp)).2
    ⟨[_], .publish _ [] _, [], rfl, ?_, ?_, by simp⟩
  · simp only [List.mem_cons, List.not_mem_nil, or_false]
    rintro c (rfl | rfl) <;> decide
  · decide
  · refine .inr ⟨?_, by simp [FileMap.files]⟩
    simp [run, Call.perform, FileMap.files]

/-- Closing a document hides what another one reports for a file that both of them report. -/
theorem shown_shared_eq_nil :
    ∃ (a b library : Uri) (map : FileMap String) (nodup : map.files.Nodup),
    map = [(library, ["x"])] ∧
      IsLast (.publish a map nodup) [.publish a map nodup, .publish b map nodup, .close b] ∧
      shownAfter [.publish a map nodup, .publish b map nodup, .close b] library = [] :=
  ⟨.ofSegments ["a".toList], .ofSegments ["b".toList], .ofSegments ["library".toList],
    _, by decide, rfl, ⟨[], _, rfl, by simp [Call.document, Uri.ofSegments]⟩, by decide +kernel⟩

end Run

end Publisher

end EditorBridge
