import EditorBridge.Proofs.Diagnostic.Collect
import EditorBridge.Proofs.Publisher
import EditorBridge.Server.Dispatch

/-!
# Overlapping validations

The server goes on hearing messages while a compiler runs. So a validation has two halves: one at
its message, which ends with the start of the compiler, and one when the output comes, which
publishes it. Anything may happen in between, also the closing of the document.

* `Desk` is the server together with the validations whose output is still to come. When nothing
  comes between its halves, a validation does what the handling of its message does.
* The last output wins, also over the closing of its document: the files of a closed document are
  those of the last report that came since. Nothing of it is shown just if that report is empty or
  there is none.
-/

namespace EditorBridge

open Job

variable {α β : Type}

/-! ## Jobs that publish nothing -/

namespace Job

/-- What is published by an action. -/
def Action.publication? : Action → Option (Publisher.Publication Diagnostic)
  | .told (.diagnostics uri list) => some (uri, list)
  | _ => none

/-- What is published by some actions. -/
def publications (actions : List Action) : List (Publisher.Publication Diagnostic) :=
  actions.filterMap Action.publication?

@[simp] theorem publications_append (xs ys : List Action) :
    publications (xs ++ ys) = publications xs ++ publications ys :=
  List.filterMap_append

/-- A job that leaves the publisher alone and publishes nothing. -/
def Quiet (job : Job α) : Prop :=
  ∀ w s, (job.perform w s).server.publisher = s.publisher ∧
    publications (job.perform w s).actions = []

theorem Quiet.bind {job : Job α} {next : α → Job β} (h : job.Quiet) (hn : ∀ a, (next a).Quiet) :
    (job >>= next).Quiet := by
  intro w s
  obtain ⟨hp, ha⟩ := h w s
  obtain ⟨hp', ha'⟩ := hn (job.perform w s).value w (job.perform w s).server
  rw [perform_bind]
  exact ⟨hp'.trans hp, by simp [ha, ha']⟩

theorem quiet_pure (a : α) : (pure a : Job α).Quiet := fun _ _ => ⟨rfl, rfl⟩

theorem quiet_state : state.Quiet := fun _ _ => ⟨rfl, rfl⟩

theorem quiet_update {f : Server → Server} (hf : ∀ s, (f s).publisher = s.publisher) :
    (update f).Quiet :=
  fun _ s => ⟨hf s, rfl⟩

theorem quiet_log (text : List Char) : (say (.log text)).Quiet := fun _ _ => ⟨rfl, rfl⟩

theorem quiet_settingsOf (scope : Uri) : (settingsOf scope).Quiet := fun _ _ => ⟨rfl, rfl⟩

theorem quiet_outputOf (command : CommandLine) : (outputOf command).Quiet := fun _ _ => ⟨rfl, rfl⟩

theorem quiet_forM {f : α → Job Unit} (list : List α) (hf : ∀ a, (f a).Quiet) :
    (list.forM f).Quiet := by
  induction list with
  | nil => exact quiet_pure _
  | cons a list ih => exact (hf a).bind fun _ => ih

theorem quiet_mapM {f : α → Job β} (list : List α) (hf : ∀ a, (f a).Quiet) :
    (list.mapM f).Quiet := by
  induction list with
  | nil => exact quiet_pure _
  | cons a list ih =>
    rw [List.mapM_cons]
    exact (hf a).bind fun _ => ih.bind fun _ => quiet_pure _

end Job

namespace Server

theorem quiet_settingsFor (uri : Uri) : (settingsFor uri).Quiet := by
  refine quiet_state.bind fun s => ?_
  split
  · exact quiet_pure _
  · split
    · exact quiet_pure _
    · refine (quiet_settingsOf uri).bind fun answer => ?_
      refine Quiet.bind ?_ fun _ => quiet_pure _
      exact quiet_update fun _ => rfl

theorem quiet_execute (command : CommandLine) : (execute command).Quiet :=
  (quiet_log _).bind fun _ => quiet_outputOf command

theorem quiet_takeCompletion (output : List Char) : (takeCompletion output).Quiet := by
  rw [takeCompletion]
  split
  · exact quiet_update fun _ => rfl
  · exact quiet_pure _

theorem quiet_refreshCompletion (env : Surroundings) (uri : Uri) :
    (refreshCompletion env uri).Quiet := by
  refine (quiet_settingsFor uri).bind fun settings => ?_
  refine (quiet_mapM _ fun file => quiet_execute _).bind fun outputs => ?_
  exact quiet_forM outputs quiet_takeCompletion

/-! ## The halves of a validation -/

/-- The first half of a validation, up to the start of the compiler. -/
def beginValidation (uri : Uri) : Job Settings := do
  let settings ← settingsFor uri
  say (.log ('>' :: ' ' :: (compileCommand settings (Uri.localPath uri.chars)).text))
  return settings

/-- What the validation of a document reports, given the settings from its first half and the
compiler's output. -/
def report (s : Server) (env : Surroundings) (uri : Uri) (settings : Settings)
    (output : List Char) : FileMap Diagnostic :=
  Diagnostic.collect env.files (s.resolver settings) (Uri.localPath uri.chars) s.showsRelated output

/-- The second half of a validation, when the output has come. -/
def endValidation (env : Surroundings) (uri : Uri) (settings : Settings) (output : List Char) :
    Job Unit := do
  let s ← state
  publish uri (s.report env uri settings output)

theorem validate_eq (env : Surroundings) (uri : Uri) : validate env uri = (do
    let settings ← beginValidation uri
    let output ← outputOf (compileCommand settings (Uri.localPath uri.chars))
    endValidation env uri settings output) := by
  simp [validate, beginValidation, endValidation, execute, report]

theorem quiet_beginValidation (uri : Uri) : (beginValidation uri).Quiet :=
  (quiet_settingsFor uri).bind fun _ => (quiet_log _).bind fun _ => quiet_pure _

section Perform

variable (w : World) (s : Server) (uri : Uri)

theorem perform_announce (list : List (Publisher.Publication Diagnostic)) :
    ((announce list).perform w s).server = s ∧
      publications ((announce list).perform w s).actions = list := by
  induction list with
  | nil => exact ⟨rfl, rfl⟩
  | cons publication list ih =>
    have hcons : announce (publication :: list) =
        (say (.diagnostics publication.1 publication.2) >>= fun _ => announce list) := rfl
    rw [hcons, perform_bind]
    exact ⟨ih.1, congrArg (publication :: ·) ih.2⟩

theorem perform_publish (map : FileMap Diagnostic) :
    ((publish uri map).perform w s).server.publisher = (s.publisher.publish uri map).1 ∧
      publications ((publish uri map).perform w s).actions = (s.publisher.publish uri map).2 := by
  obtain ⟨hserver, hactions⟩ :=
    perform_announce w { s with publisher := (s.publisher.publish uri map).1 }
    (s.publisher.publish uri map).2
  exact ⟨congrArg publisher hserver, hactions⟩

theorem perform_closed (env : Surroundings) :
    ((hear env (.closed uri)).perform w s).server.publisher =
      (s.publisher.close (α := Diagnostic) uri).1 ∧
      publications ((hear env (.closed uri)).perform w s).actions = (s.publisher.close uri).2 := by
  obtain ⟨hserver, hactions⟩ := perform_announce w
    { s with
      documentSettings := unassign uri s.documentSettings
      documents := unassign uri s.documents
      publisher := (s.publisher.close (α := Diagnostic) uri).1 } (s.publisher.close uri).2
  exact ⟨congrArg publisher hserver, hactions⟩

end Perform

end Server

/-! ## Whose diagnostics are shown -/

namespace Publisher

/-- Publications of a document, with the document put to each diagnostic. -/
def signed (document : Uri) (published : List (Publication α)) : List (Publication (Uri × α)) :=
  published.map fun publication => (publication.1, publication.2.map (document, ·))

theorem mem_signed {document file : Uri} {list : List (Uri × α)}
    {published : List (Publication α)} :
    (file, list) ∈ signed document published ↔ ∃ found, (file, found) ∈ published ∧
      found.map (document, ·) = list := by
  simp [signed]

/-- What is shown of a document is shown for its files. -/
def Owned (p : Publisher) (published : List (Publication (Uri × α))) : Prop :=
  ∀ file list, last? published file = some list → ∀ x ∈ list, file ∈ p.dependencies x.1

theorem Owned.perform {p : Publisher} {published : List (Publication (Uri × α))}
    (h : Owned p published) (call : Call α) :
    Owned (call.perform p).1 (published ++ signed call.document (call.perform p).2) := by
  intro file list hlast x hx
  rw [last?_append] at hlast
  -- what is shown comes from this call, or the call says nothing about the file
  rcases Option.or_eq_some_iff.1 hlast with hnew | ⟨hnone, hold⟩
  · obtain ⟨found, hfound, rfl⟩ := mem_signed.1 (mem_of_last? hnew)
    obtain ⟨y, hy, rfl⟩ := List.mem_map.1 hx
    exact Call.mem_dependencies_perform hfound (List.ne_nil_of_mem hy)
  · have hfile := h file list hold x hx
    have hother : x.1 ≠ call.document := by
      intro heq
      rw [heq] at hfile
      obtain ⟨found, hfound⟩ := Call.exists_mem_perform hfile
      exact last?_eq_none.1 hnone _ (mem_signed.2 ⟨found, hfound, rfl⟩)
    rwa [Call.dependencies_perform hother]

/-- The report of a validation, if it is one of the given document. -/
def Call.reportOf? (document : Uri) : Call α → Option (FileMap α)
  | .publish validated map _ => if validated = document then some map else none
  | .close _ => none

theorem Call.dependencies_perform_of_ne_close {p : Publisher} {document : Uri} {call : Call α}
    (h : call ≠ .close document) : (call.perform p).1.dependencies document =
      ((call.reportOf? document).map FileMap.files).getD (p.dependencies document) := by
  cases call with
  | publish validated map nodup =>
    by_cases hd : validated = document
    · simp [perform, reportOf?, hd]
    · simp [perform, reportOf?, hd, Ne.symm hd]
  | close closed =>
    have hd : document ≠ closed := fun heq => h (heq ▸ rfl)
    simp [perform, reportOf?, hd]

end Publisher

/-! ## Validations in flight -/

/-- The message that a document was opened, with its text, or saved, with its text if the editor
sends it. -/
inductive Arrival where
  | opened (uri : Uri) (text : String)
  | saved (uri : Uri) (text : Option String)

namespace Arrival

/-- The document of a message. -/
def document : Arrival → Uri
  | .opened uri _ => uri
  | .saved uri _ => uri

/-- The message among all notifications. -/
def notification : Arrival → Notification
  | .opened uri text => .opened uri text
  | .saved uri text => .saved uri text

/-- What is done at a message before the validation. -/
def note : Arrival → Job Unit
  | .opened uri text => do
    Server.logDocument "open" uri
    Server.store uri text
  | .saved uri none => Server.logDocument "save" uri
  | .saved uri (some text) => do
    Server.logDocument "save" uri
    Server.store uri text

theorem quiet_note (a : Arrival) : a.note.Quiet := by
  rcases a with ⟨uri, text⟩ | ⟨uri, _ | text⟩
  · exact (quiet_log _).bind fun _ => quiet_update fun _ => rfl
  · exact quiet_log _
  · exact (quiet_log _).bind fun _ => quiet_update fun _ => rfl

/-- What is done at a message up to the start of the compiler. -/
def start (a : Arrival) : Job Settings := do
  a.note
  Server.beginValidation a.document

theorem quiet_start (a : Arrival) : a.start.Quiet :=
  a.quiet_note.bind fun _ => Server.quiet_beginValidation a.document

theorem hear_notification (env : Surroundings) (a : Arrival) : Server.hear env a.notification = (do
    let settings ← a.start
    let output ← outputOf (Server.compileCommand settings (Uri.localPath a.document.chars))
    Server.endValidation env a.document settings output
    Server.refreshCompletion env a.document) := by
  rcases a with ⟨uri, text⟩ | ⟨uri, _ | text⟩ <;>
    simp [notification, note, document, start, Server.hear, Server.validate_eq]

/-- What the handling of a message publishes, when nothing comes between. -/
theorem perform_hear (env : Surroundings) (w : World) (s : Server) (a : Arrival) :
    let first := a.start.perform w s
    let output := w.output (Server.compileCommand first.value (Uri.localPath a.document.chars))
    let result :=
      s.publisher.publish a.document (first.server.report env a.document first.value output)
    let o := (Server.hear env a.notification).perform w s
    o.server.publisher = result.1 ∧ publications o.actions = result.2 := by
  intro first output result o
  obtain ⟨hfirst, hquiet⟩ := a.quiet_start w s
  obtain ⟨hserver, hactions⟩ := Server.perform_publish w first.server a.document
    (first.server.report env a.document first.value output)
  obtain ⟨hrefresh, hquiet'⟩ := Server.quiet_refreshCompletion env a.document w
    ((Server.endValidation env a.document first.value output).perform w first.server).server
  rw [hfirst] at hserver hactions
  simp only [o, a.hear_notification, perform_bind, publications_append, hquiet, List.nil_append]
  refine ⟨hrefresh.trans hserver, ?_⟩
  exact (congrArg₂ (· ++ ·) hactions hquiet').trans (List.append_nil _)

end Arrival

/-- The server, the validations whose output has not come, and all publications. A validation in
flight has a document and the settings that it was started with. Collecting the completion list,
which comes after, publishes nothing and is left out. -/
structure Desk where
  server : Server
  flights : List (Uri × Settings) := []
  published : List (Publisher.Publication (Uri × Diagnostic)) := []

namespace Desk

/-- Something that happens at the desk. -/
inductive Event where
  /-- A document is opened or saved. The compiler is started, once the editor has answered what it
  is asked. -/
  | arrives (a : Arrival) (w : World)
  /-- The output of a validation in flight comes. -/
  | output (index : Nat) (text : List Char)
  /-- A document is closed. -/
  | closes (uri : Uri)

/-- The desk after a job for a document. -/
def finish {α : Type} (d : Desk) (document : Uri) (o : Outcome α) : Desk :=
  { d with
    server := o.server
    published := d.published ++ Publisher.signed document (publications o.actions) }

/-- A world without answers and outputs, for jobs that ask for none. -/
def silent : World := ⟨fun _ => none, fun _ => []⟩

/-- One event. -/
def step (env : Surroundings) (d : Desk) : Event → Desk
  | .arrives a w =>
    let o := a.start.perform w d.server
    { d.finish a.document o with flights := d.flights ++ [(a.document, o.value)] }
  | .output index text =>
    match d.flights[index]? with
    | none => d
    | some (uri, settings) =>
      let o := (Server.endValidation env uri settings text).perform silent d.server
      { d.finish uri o with flights := d.flights.eraseIdx index }
  | .closes uri => d.finish uri ((Server.hear env (.closed uri)).perform silent d.server)

/-- One event after another. -/
def run (env : Surroundings) : Desk → List Event → Desk := List.foldl (step env)

/-- The desk when the editor has introduced itself. -/
def ofIntroduction (p : Params.Introduction) : Desk where
  server := ((Server.welcome p).perform silent {}).server

/-- The files that the publisher knows of a document. -/
def dependencies (d : Desk) (document : Uri) : List Uri := d.server.publisher.dependencies document

/-- What the editor shows for a file, each diagnostic with the document that it was published
for. -/
def shown (d : Desk) (file : Uri) : List (Uri × Diagnostic) :=
  (Publisher.last? d.published file).getD []

/-- The call of the publisher that an event makes. -/
def call? (env : Surroundings) (d : Desk) : Event → Option (Publisher.Call Diagnostic)
  | .arrives _ _ => none
  | .output index text => d.flights[index]?.map fun flight =>
    .publish flight.1 (d.server.report env flight.1 flight.2 text)
      (Diagnostic.nodup_files_collect ..)
  | .closes uri => some (.close uri)

/-- The reports of a document's validations that end, in their order. -/
def reports (env : Surroundings) (document : Uri) : Desk → List Event → List (FileMap Diagnostic)
  | _, [] => []
  | d, e :: events =>
    ((d.call? env e).bind (·.reportOf? document)).toList ++
      reports env document (d.step env e) events

section Run

variable {env : Surroundings} {d : Desk} {e : Event} {document : Uri}

theorem step_of_call?_eq_none (h : d.call? env e = none) :
    (d.step env e).server.publisher = d.server.publisher ∧
      (d.step env e).published = d.published := by
  cases e with
  | arrives a w =>
    obtain ⟨hserver, hactions⟩ := a.quiet_start w d.server
    exact ⟨hserver, by simp [step, finish, hactions, Publisher.signed]⟩
  | output index text =>
    have hnone : d.flights[index]? = none := Option.map_eq_none_iff.1 h
    simp only [step, hnone, and_self]
  | closes uri => cases h

theorem step_of_call?_eq_some {call : Publisher.Call Diagnostic} (h : d.call? env e = some call) :
    (d.step env e).server.publisher = (call.perform d.server.publisher).1 ∧
      (d.step env e).published =
        d.published ++ Publisher.signed call.document (call.perform d.server.publisher).2 := by
  cases e with
  | arrives a w => cases h
  | output index text =>
    obtain ⟨⟨uri, settings⟩, hflight, rfl⟩ := Option.map_eq_some_iff.1 h
    obtain ⟨hserver, hactions⟩ := Server.perform_publish silent d.server uri
      (d.server.report env uri settings text)
    simp only [step, hflight]
    exact ⟨hserver, congrArg (d.published ++ Publisher.signed uri ·) hactions⟩
  | closes uri =>
    obtain rfl := Option.some.inj h
    obtain ⟨hserver, hactions⟩ := Server.perform_closed silent d.server uri env
    exact ⟨hserver, congrArg (d.published ++ Publisher.signed uri ·) hactions⟩

theorem flights_step_output (env : Surroundings) (d : Desk) (index : Nat) (text : List Char) :
    (d.step env (.output index text)).flights = d.flights.eraseIdx index := by
  cases hflight : d.flights[index]? with
  | none => simp [step, hflight, List.eraseIdx_of_length_le (List.getElem?_eq_none_iff.1 hflight)]
  | some flight => simp [step, hflight]

/-- When nothing comes between its halves, a validation does to the publisher what the handling of
its message does, and publishes the same. -/
theorem run_arrives_output (env : Surroundings) (w : World) (d : Desk) (a : Arrival) :
    let settings := (a.start.perform w d.server).value
    let output := w.output (Server.compileCommand settings (Uri.localPath a.document.chars))
    let t := d.run env [.arrives a w, .output d.flights.length output]
    let o := (Server.hear env a.notification).perform w d.server
    t.flights = d.flights ∧ t.server.publisher = o.server.publisher ∧
      t.published = d.published ++ Publisher.signed a.document (publications o.actions) := by
  intro settings output t o
  let started := d.step env (.arrives a w)
  have hstart : d.call? env (.arrives a w) = none := rfl
  have hflight : started.flights[d.flights.length]? = some (a.document, settings) := by
    simp [started, step, settings]
  have hend : started.call? env (.output d.flights.length output) = some (.publish a.document
      (started.server.report env a.document settings output)
        (Diagnostic.nodup_files_collect ..)) := by
    simp only [call?, hflight]
    rfl
  obtain ⟨hserver, hactions⟩ := a.perform_hear env w d.server
  obtain ⟨hpublisher, hpublished⟩ := step_of_call?_eq_none hstart
  obtain ⟨hpublisher', hpublished'⟩ := step_of_call?_eq_some hend
  rw [hpublisher] at hpublisher' hpublished'
  rw [hpublished] at hpublished'
  refine ⟨?_, hpublisher'.trans hserver.symm, ?_⟩
  · have herase : t.flights = started.flights.eraseIdx d.flights.length := flights_step_output ..
    rw [herase]
    exact (List.eraseIdx_append_of_length_le (Nat.le_refl _) _).trans (by simp)
  · exact hpublished'.trans (congrArg (d.published ++ Publisher.signed a.document ·) hactions.symm)

theorem owned_step (h : Publisher.Owned d.server.publisher d.published) (e : Event) :
    Publisher.Owned (d.step env e).server.publisher (d.step env e).published := by
  cases hcall : d.call? env e with
  | none =>
    obtain ⟨hserver, hpublished⟩ := step_of_call?_eq_none hcall
    rwa [hserver, hpublished]
  | some call =>
    obtain ⟨hserver, hpublished⟩ := step_of_call?_eq_some hcall
    rw [hserver, hpublished]
    exact h.perform call

theorem owned_run (h : Publisher.Owned d.server.publisher d.published) (events : List Event) :
    Publisher.Owned (d.run env events).server.publisher (d.run env events).published := by
  induction events generalizing d with
  | nil => exact h
  | cons e events ih => exact ih (owned_step h e)

theorem owned_ofIntroduction (p : Params.Introduction) :
    Publisher.Owned (ofIntroduction p).server.publisher (ofIntroduction p).published := by
  intro file list h
  cases h

/-- Nothing of a document without files is shown. -/
theorem ne_of_mem_shown (h : Publisher.Owned d.server.publisher d.published)
    (hd : d.dependencies document = []) {file : Uri} {x : Uri × Diagnostic}
    (hx : x ∈ d.shown file) : x.1 ≠ document := by
  rintro rfl
  cases hlast : Publisher.last? d.published file with
  | none => simp [shown, hlast] at hx
  | some list =>
    rw [shown, hlast] at hx
    have hfile : file ∈ d.dependencies x.1 := h file list hlast x hx
    simp [hd] at hfile

theorem dependencies_step_closes : (d.step env (.closes document)).dependencies document = [] := by
  have hcall : d.call? env (.closes document) = some (.close document) := rfl
  rw [dependencies, (step_of_call?_eq_some hcall).1]
  simp [Publisher.Call.perform]

theorem eq_closes_of_call? (h : d.call? env e = some (.close document)) : e = .closes document := by
  cases e with
  | arrives a w => cases h
  | output index text =>
    obtain ⟨flight, -, heq⟩ := Option.map_eq_some_iff.1 h
    cases heq
  | closes uri =>
    cases h
    rfl

theorem dependencies_step (h : e ≠ .closes document) : (d.step env e).dependencies document =
    (((d.call? env e).bind (·.reportOf? document)).map FileMap.files).getD
      (d.dependencies document) := by
  cases hcall : d.call? env e with
  | none => simp [dependencies, (step_of_call?_eq_none hcall).1]
  | some call =>
    have hclose : call ≠ .close document := by
      rintro rfl
      exact h (eq_closes_of_call? hcall)
    rw [dependencies, (step_of_call?_eq_some hcall).1]
    exact Publisher.Call.dependencies_perform_of_ne_close hclose

/-- Until a document is closed, its files are those of its last report. -/
theorem dependencies_run {events : List Event} (h : .closes document ∉ events) :
    (d.run env events).dependencies document =
      ((d.reports env document events).getLast?.map FileMap.files).getD
        (d.dependencies document) := by
  induction events generalizing d with
  | nil => rfl
  | cons e events ih =>
    obtain ⟨he, hevents⟩ := not_or.1 (mt List.mem_cons.2 h)
    have hrun : d.run env (e :: events) = (d.step env e).run env events := rfl
    rw [hrun, ih hevents, dependencies_step (Ne.symm he), reports, List.getLast?_append]
    -- the report of this event counts only if no later one comes
    cases ((d.step env e).reports env document events).getLast? with
    | some map => rfl
    | none => cases (d.call? env e).bind (·.reportOf? document) <;> rfl

/-- The last output wins. After a document was closed for the last time, its files are those of the
last report that came since, if one came. So it has no files, and nothing of it is shown, just if
that report is empty or there is none. -/
theorem closed_iff_last_report (env : Surroundings) (p : Params.Introduction)
    (before later : List Event) {document : Uri} (hlater : .closes document ∉ later) :
    let closing := (ofIntroduction p).run env (before ++ [.closes document])
    let last := (closing.reports env document later).getLast?.getD []
    let d := (ofIntroduction p).run env (before ++ .closes document :: later)
    d.dependencies document = last.files ∧
      ((d.dependencies document = [] ∧ ∀ file, ∀ x ∈ d.shown file, x.1 ≠ document) ↔
        last = []) := by
  intro closing last d
  have hd : d = closing.run env later := by simp [d, closing, run]
  have hclosing : closing.dependencies document = [] := by
    simp only [closing, run, List.foldl_append, List.foldl_cons, List.foldl_nil]
    exact dependencies_step_closes
  have hfiles : d.dependencies document = last.files := by
    rw [hd, dependencies_run hlater, hclosing]
    cases hlast : (closing.reports env document later).getLast? <;>
      simp [last, hlast, FileMap.files]
  refine ⟨hfiles, ?_, ?_⟩
  · rintro ⟨hnil, -⟩
    rw [hfiles] at hnil
    exact List.map_eq_nil_iff.1 hnil
  · intro hnil
    have hdep : d.dependencies document = [] := by
      rw [hfiles, hnil]
      rfl
    have howned : Publisher.Owned d.server.publisher d.published :=
      owned_run (owned_ofIntroduction p) _
    exact ⟨hdep, fun file x hx => ne_of_mem_shown howned hdep hx⟩

theorem closed_iff_last_report_blank : ∃ (env : Surroundings) (document : Uri) (report : List Char),
    let before := [.arrives (.opened document "") silent, .arrives (.saved document none) silent]
    let d := (ofIntroduction {}).run env (before ++ [.closes document, .output 1 report])
    d.dependencies document = [document] ∧
      let late :=
        (ofIntroduction {}).run env (before ++ .closes document :: [.output 1 report, .output 0 []])
      late.dependencies document = [] ∧ ∀ file, ∀ x ∈ late.shown file, x.1 ≠ document := by
  refine ⟨.inOrder (.ofFiles "/".toList []) [], .ofSegments ["d".toList],
    "/d:1:2: x".toList, by decide +kernel, ?_⟩
  exact (closed_iff_last_report _ _ _ _ (by simp)).2.2 (by decide +kernel)

/-- The output of a validation that was in flight when its document was closed is shown, and nothing
is in flight any more. -/
theorem shown_after_closing : ∃ (env : Surroundings) (document : Uri) (report : List Char),
    let d :=
  (ofIntroduction {}).run env [.arrives (.opened document "") silent, .closes document,
    .output 0 report]
    d.flights = [] ∧ d.dependencies document = [document] ∧
      ∃ x ∈ d.shown document, x.1 = document :=
  ⟨.inOrder (.ofFiles "/".toList []) [], .ofSegments ["d".toList],
    "/d:1:2: x".toList, by decide +kernel⟩

end Run

end Desk

end EditorBridge
