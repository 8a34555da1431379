import EditorBridge.Compiler.Output
import EditorBridge.Cursor.Record

/-!
# Thorough readers

A reader is thorough if it succeeds only on trees that can be passed over, which are the trees
without a fault. Such a reader gives no value for a text that ends too early or is no JSON, whatever
it asks for.

Thoroughness goes from the parts of a reader to the whole: it is shown once for each way of putting
readers together, and from there for the records that are read from the output of a compiler.
-/

namespace EditorBridge

namespace Fault

variable {α β : Type} {x : Except Fault α}

theorem isOk_iff : x.isOk = true ↔ ∃ a, x = .ok a := by
  cases x with
  | error cause => simp [Except.isOk, Except.toBool]
  | ok a => simp [Except.isOk, Except.toBool]

theorem ne_ok_of_isOk (h : x.isOk = false) (a : α) : x ≠ .ok a := by
  intro ha
  simp [isOk_iff.2 ⟨a, ha⟩] at h

theorem exists_eq_error (h : ∀ a, x ≠ .ok a) : ∃ cause, x = .error cause := by
  cases x with
  | error cause => exact ⟨cause, rfl⟩
  | ok a => exact absurd rfl (h a)

theorem toOption_eq_some {a : α} : x.toOption = some a ↔ x = .ok a := by
  cases x with
  | error cause => simp [Except.toOption]
  | ok b => simp [Except.toOption]

theorem bind_eq_ok {f : α → Except Fault β} {b : β} :
    (x >>= f) = .ok b ↔ ∃ a, x = .ok a ∧ f a = .ok b := by
  cases x with
  | error cause => simp [bind, Except.bind]
  | ok a => simp [bind, Except.bind]

theorem map_eq_ok {f : α → β} {b : β} : f <$> x = .ok b ↔ ∃ a, x = .ok a ∧ f a = b := by
  cases x with
  | error cause => simp [Functor.map, Except.map]
  | ok a => simp [Functor.map, Except.map]

theorem seq_eq_ok {x : Except Fault Unit} {y : Except Fault β} {b : β} :
    (x >>= fun _ => y) = .ok b ↔ x = .ok () ∧ y = .ok b := by
  rw [bind_eq_ok]
  constructor
  · rintro ⟨⟨⟩, hx, hy⟩
    exact ⟨hx, hy⟩
  · exact fun ⟨hx, hy⟩ => ⟨(), hx, hy⟩

@[simp] theorem throw_bind (cause : Fault) (f : α → Except Fault β) :
    ((throw cause : Except Fault α) >>= f) = .error cause := rfl

@[simp] theorem map_throw (cause : Fault) (f : α → β) :
    f <$> (throw cause : Except Fault α) = .error cause := rfl

end Fault

namespace Tree

@[simp] theorem proceed_eq_ok {stop : Option Fault} {u : Unit} :
    proceed stop = .ok u ↔ stop = none := by
  cases stop <;> simp [proceed]

theorem skip_array {deep : Bool} {elements : List Tree} {stop : Option Fault} :
    skip (.array deep elements stop) = .ok () ↔ skipAll elements = .ok () ∧ stop = none := by
  simp [skip, Fault.seq_eq_ok]

theorem skip_object {deep : Bool} {members : List (Key × Tree)} {stop : Option Fault} :
    skip (.object deep members stop) = .ok () ↔ skipMembers members = .ok () ∧ stop = none := by
  simp [skip, Fault.seq_eq_ok]

@[simp] theorem skipAll_cons {t : Tree} {rest : List Tree} :
    skipAll (t :: rest) = .ok () ↔ skip t = .ok () ∧ skipAll rest = .ok () := by
  simp [skipAll, Fault.seq_eq_ok]

@[simp] theorem skipMembers_cons {key : Key} {t : Tree} {rest : List (Key × Tree)} :
    skipMembers ((key, t) :: rest) = .ok () ↔ skip t = .ok () ∧ skipMembers rest = .ok () := by
  simp [skipMembers, Fault.seq_eq_ok]

mutual

/-- What can be read as an untyped value can be passed over. -/
theorem skip_of_toJson : ∀ (t : Tree) (v : Json), toJson t = .ok v → t.skip = .ok ()
  | .fault cause, v, h => by simp [toJson] at h
  | .null, _, _ => rfl
  | .bool _, _, _ => rfl
  | .number _, _, _ => rfl
  | .string _, _, _ => rfl
  | .array deep elements stop, v, h => by
    rw [toJson] at h
    split at h
    · simp at h
    · obtain ⟨values, hv, h⟩ := Fault.bind_eq_ok.1 h
      obtain ⟨u, hu, -⟩ := Fault.bind_eq_ok.1 h
      exact skip_array.2 ⟨skipAll_of_toJsonAll elements values hv, proceed_eq_ok.1 hu⟩
  | .object deep members stop, v, h => by
    rw [toJson] at h
    split at h
    · simp at h
    · obtain ⟨values, hv, h⟩ := Fault.bind_eq_ok.1 h
      obtain ⟨u, hu, -⟩ := Fault.bind_eq_ok.1 h
      exact skip_object.2 ⟨skipMembers_of_toJsonMembers members values hv, proceed_eq_ok.1 hu⟩
termination_by structural t => t

theorem skipAll_of_toJsonAll :
    ∀ (ts : List Tree) (vs : List Json), toJsonAll ts = .ok vs → skipAll ts = .ok ()
  | [], _, _ => rfl
  | t :: rest, vs, h => by
    obtain ⟨v, hv, h⟩ := Fault.bind_eq_ok.1 h
    obtain ⟨values, hr, -⟩ := Fault.bind_eq_ok.1 h
    exact skipAll_cons.2 ⟨skip_of_toJson t v hv, skipAll_of_toJsonAll rest values hr⟩
termination_by structural ts => ts

theorem skipMembers_of_toJsonMembers :
    ∀ (ms : List (Key × Tree)) (vs : List (String × Json)),
      toJsonMembers ms = .ok vs → skipMembers ms = .ok ()
  | [], _, _ => rfl
  | (key, t) :: rest, vs, h => by
    obtain ⟨name, -, h⟩ := Fault.bind_eq_ok.1 h
    obtain ⟨v, hv, h⟩ := Fault.bind_eq_ok.1 h
    obtain ⟨values, hr, -⟩ := Fault.bind_eq_ok.1 h
    exact skipMembers_cons.2 ⟨skip_of_toJson t v hv, skipMembers_of_toJsonMembers rest values hr⟩
termination_by structural ms => ms

end

end Tree

/-- A reader that succeeds only on trees that can be passed over. -/
def Reader.Thorough {α : Type} (read : Reader α) : Prop := ∀ t a, read t = .ok a → t.skip = .ok ()

/-- A field that takes only trees that can be passed over into a record. -/
def Field.Thorough {ρ : Type} (field : Field ρ) : Prop :=
  ∀ t r r', field.set t r = .ok r' → t.skip = .ok ()

theorem Field.thorough_of {ρ α : Type} {name : String} {read : Reader α} {put : α → ρ → ρ}
    (h : read.Thorough) : (Field.of name read put).Thorough := by
  intro t r r' hr
  obtain ⟨a, ha, -⟩ := Fault.map_eq_ok.1 hr
  exact h t a ha

namespace Reader

variable {α ρ : Type}

theorem thorough_toJson : Thorough Tree.toJson := Tree.skip_of_toJson

theorem thorough_string : Thorough string := by
  intro t a h
  cases t <;> simp_all [string, Tree.skip]

theorem thorough_intBetween (lo hi : Int) : Thorough (intBetween lo hi) := by
  intro t a h
  cases t <;> simp_all [intBetween, Tree.skip]

theorem Thorough.optional {read : Reader α} (h : read.Thorough) : (optional read).Thorough := by
  intro t a ha
  unfold Reader.optional at ha
  split at ha
  · rfl
  · obtain ⟨b, hb, -⟩ := Fault.map_eq_ok.1 ha
    exact h t b hb

theorem skipAll_of_mapM {read : Reader α} (h : read.Thorough) {ts : List Tree} {values : List α}
    (hv : ts.mapM read = .ok values) : Tree.skipAll ts = .ok () := by
  induction ts generalizing values with
  | nil => rfl
  | cons t rest ih =>
    rw [List.mapM_cons] at hv
    obtain ⟨a, ha, hv⟩ := Fault.bind_eq_ok.1 hv
    obtain ⟨as, has, -⟩ := Fault.bind_eq_ok.1 hv
    exact Tree.skipAll_cons.2 ⟨h t a ha, ih has⟩

theorem Thorough.list {read : Reader α} (h : read.Thorough) : (list read).Thorough := by
  intro t a ha
  unfold Reader.list at ha
  split at ha
  · split at ha
    · simp at ha
    · obtain ⟨values, hv, ha⟩ := Fault.bind_eq_ok.1 ha
      obtain ⟨u, hu, -⟩ := Fault.bind_eq_ok.1 ha
      exact Tree.skip_array.2 ⟨skipAll_of_mapM h hv, Tree.proceed_eq_ok.1 hu⟩
  · simp at ha

/-- Members are passed over if they have no field, and otherwise read by a thorough field. -/
theorem skipMembers_of_members {fields : List (Field ρ)} (h : ∀ field ∈ fields, field.Thorough)
    {given : List String} {ms : List (Tree.Key × Tree)} {r r' : ρ}
    (hr : members fields given ms r = .ok r') : Tree.skipMembers ms = .ok () := by
  induction ms generalizing given r with
  | nil => rfl
  | cons m rest ih =>
    obtain ⟨key, t⟩ := m
    obtain ⟨name, -, hr⟩ := Fault.bind_eq_ok.1 hr
    split at hr
    · obtain ⟨u, ht, hr⟩ := Fault.bind_eq_ok.1 hr
      exact Tree.skipMembers_cons.2 ⟨ht, ih hr⟩
    · next field hf =>
      split at hr
      · simp at hr
      · obtain ⟨r₁, ht, hr⟩ := Fault.bind_eq_ok.1 hr
        exact Tree.skipMembers_cons.2 ⟨h field (List.mem_of_find?_eq_some hf) t r r₁ ht, ih hr⟩

/-- Elements are read by a thorough field each, and reading gets to the closing bracket. -/
theorem skipAll_of_elements {short : Bool} {stop : Option Fault} {fields : List (Field ρ)}
    (h : ∀ field ∈ fields, field.Thorough) {ts : List Tree} {r r' : ρ}
    (hr : elements short stop fields ts r = .ok r') : Tree.skipAll ts = .ok () ∧ stop = none := by
  induction ts generalizing fields r with
  | nil =>
    refine ⟨rfl, ?_⟩
    cases fields with
    | nil =>
      obtain ⟨u, hu, -⟩ := Fault.bind_eq_ok.1 hr
      exact Tree.proceed_eq_ok.1 hu
    | cons field fields =>
      obtain ⟨u, hu, -⟩ := Fault.bind_eq_ok.1 hr
      exact Tree.proceed_eq_ok.1 hu
  | cons t rest ih =>
    cases fields with
    | nil => simp [elements] at hr
    | cons field fields =>
      obtain ⟨r₁, ht, hr⟩ := Fault.bind_eq_ok.1 hr
      obtain ⟨hrest, hstop⟩ := ih (fun f hf => h f (List.mem_cons_of_mem _ hf)) hr
      exact ⟨Tree.skipAll_cons.2 ⟨h field (List.mem_cons_self ..) t r r₁ ht, hrest⟩, hstop⟩

/-- A record is read thoroughly if each of its fields is. -/
theorem thorough_record {short : Bool} {fields : List (Field ρ)} {initial : ρ}
    (h : ∀ field ∈ fields, field.Thorough) : (record short fields initial).Thorough := by
  intro t r hr
  unfold record at hr
  split at hr
  · split at hr
    · simp at hr
    · exact Tree.skip_array.2 (skipAll_of_elements h hr)
  · split at hr
    · simp at hr
    · obtain ⟨r₁, hm, hr⟩ := Fault.bind_eq_ok.1 hr
      obtain ⟨u, hu, -⟩ := Fault.bind_eq_ok.1 hr
      exact Tree.skip_object.2 ⟨skipMembers_of_members h hm, Tree.proceed_eq_ok.1 hu⟩
  · simp at hr

/-- A thorough reader gives a value only for a text whose tree can be passed over and which nothing
follows. -/
theorem Thorough.of_text {read : Reader α} (h : read.Thorough) {cs : List Char} {a : α}
    (ha : read.text cs = .ok a) :
    (Document.ofText cs).root.skip = .ok () ∧ (Document.ofText cs).trailing = false := by
  obtain ⟨b, hb, ha⟩ := Fault.bind_eq_ok.1 ha
  refine ⟨h _ b hb, ?_⟩
  split at ha
  · simp at ha
  · next ht => simpa using ht

end Reader

/-- Compiler output is read thoroughly. -/
theorem CompilerOutput.thorough_reader : CompilerOutput.reader.Thorough := by
  have entries := Reader.thorough_toJson.list.optional
  exact Reader.thorough_record (by simp [fields, Field.thorough_of, entries])

theorem RawPosition.thorough_reader : RawPosition.reader.Thorough := by
  have coordinate : Reader.int64.Thorough := Reader.thorough_intBetween _ _
  exact Reader.thorough_record (by simp [fields, Field.thorough_of, coordinate])

theorem RawRange.thorough_reader : RawRange.reader.Thorough :=
  Reader.thorough_record (by simp [fields, Field.thorough_of, RawPosition.thorough_reader])

namespace Cursor

theorem thorough_textField : textField.Thorough := Reader.thorough_string.optional

theorem thorough_rangeField : rangeField.Thorough := RawRange.thorough_reader.optional

theorem thorough_numberField : (Reader.optional Reader.int64).Thorough :=
  (Reader.thorough_intBetween _ _).optional

theorem RawAnchor.thorough_reader : RawAnchor.reader.Thorough := Reader.thorough_record (by
  simp [Field.thorough_of, thorough_textField, thorough_rangeField, thorough_numberField])

theorem RawFunction.thorough_readerTo (depth : Nat) : (RawFunction.readerTo depth).Thorough := by
  induction depth with
  | zero => exact fun t a h => by simp [RawFunction.readerTo] at h
  | succ depth ih =>
    have generic := ih.optional
    exact Reader.thorough_record (by
      simp [Field.thorough_of, thorough_textField, thorough_rangeField, generic])

theorem RawCall.thorough_reader : RawCall.reader.Thorough := by
  have function := (RawFunction.thorough_readerTo (Tree.maxNesting + 1)).optional
  exact Reader.thorough_record (by
    simp [Field.thorough_of, thorough_textField, thorough_rangeField, RawFunction.reader, function])

theorem RawVariable.thorough_reader : RawVariable.reader.Thorough := Reader.thorough_record (by
  simp [Field.thorough_of, thorough_textField, thorough_rangeField, thorough_numberField])

theorem RawConstant.thorough_reader : RawConstant.reader.Thorough := Reader.thorough_record (by
  simp [Field.thorough_of, thorough_textField, Reader.thorough_toJson])

/-- Reports about a place are read thoroughly. -/
theorem RawReport.thorough_reader : RawReport.reader.Thorough := by
  have function : RawFunction.reader.Thorough := RawFunction.thorough_readerTo _
  exact Reader.thorough_record (by
    simp [Field.thorough_of, RawAnchor.thorough_reader.optional, function.optional,
      function.list.optional, RawCall.thorough_reader.optional,
      RawCall.thorough_reader.list.optional, RawVariable.thorough_reader.optional,
      RawVariable.thorough_reader.list.optional, RawConstant.thorough_reader.list.optional])

end Cursor

end EditorBridge
