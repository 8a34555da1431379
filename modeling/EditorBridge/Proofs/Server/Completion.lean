import EditorBridge.Proofs.Server.Attribution
import EditorBridge.Proofs.Server.Remembered

/-!
# The completion list of a conversation

When a document is opened or saved, the server compiles the completion files after the document
itself, and takes over the list of items of each output that has one. So the completion list is the
one of the last such output, over all messages and their commands.

* `Job.Keeps` says that a job leaves the completion list alone. This holds for all jobs but
  `Server.refreshCompletion`.
* `Server.refreshed` are the outputs of the completion files in a conversation, in the order of
  their commands.

The main statement says that a request for the completion list is answered with the list of the last
output in a conversation that has one.
-/

namespace EditorBridge

open Job

variable {α β : Type} (settings : Uri → Option (List Json)) (output : Nat → CommandLine → List Char)

/-! ## Jobs that leave the completion list alone -/

namespace Job

/-- A job that leaves the completion list alone. -/
def Keeps (job : Job α) : Prop :=
  ∀ settings output n s, (job.performAt settings output n s).server.completion = s.completion

theorem Keeps.bind {job : Job α} {next : α → Job β} (h : job.Keeps) (hn : ∀ a, (next a).Keeps) :
    (job >>= next).Keeps := by
  intro settings output n s
  rw [performAt_bind]
  exact (hn _ settings output _ _).trans (h settings output n s)

theorem keeps_pure (a : α) : (pure a : Job α).Keeps := fun _ _ _ _ => rfl

theorem keeps_state : state.Keeps := fun _ _ _ _ => rfl

theorem keeps_update {f : Server → Server} (hf : ∀ s, (f s).completion = s.completion) :
    (update f).Keeps :=
  fun _ _ _ s => hf s

theorem keeps_say (notice : Notice) : (say notice).Keeps := fun _ _ _ _ => rfl

theorem keeps_settingsOf (scope : Uri) : (settingsOf scope).Keeps := fun _ _ _ _ => rfl

theorem keeps_outputOf (command : CommandLine) : (outputOf command).Keeps := fun _ _ _ _ => rfl

theorem keeps_forM {f : α → Job Unit} (list : List α) (hf : ∀ a, (f a).Keeps) :
    (list.forM f).Keeps := by
  induction list with
  | nil => exact keeps_pure _
  | cons a list ih => exact (hf a).bind fun _ => ih

end Job

namespace Server

theorem keeps_settingsFor (uri : Uri) : (settingsFor uri).Keeps := by
  refine keeps_state.bind fun s => ?_
  split
  · exact keeps_pure _
  · split
    · exact keeps_pure _
    · refine (keeps_settingsOf uri).bind fun answer => ?_
      refine Keeps.bind ?_ fun _ => keeps_pure _
      exact keeps_update fun _ => rfl

theorem keeps_execute (command : CommandLine) : (execute command).Keeps :=
  (keeps_say _).bind fun _ => keeps_outputOf command

theorem keeps_announce (publications : List (Publisher.Publication Diagnostic)) :
    (announce publications).Keeps :=
  keeps_forM publications fun _ => keeps_say _

theorem keeps_publish (uri : Uri) (map : FileMap Diagnostic) : (publish uri map).Keeps := by
  refine keeps_state.bind fun s => ?_
  refine Keeps.bind ?_ fun _ => keeps_announce _
  exact keeps_update fun _ => rfl

theorem keeps_validate (env : Surroundings) (uri : Uri) : (validate env uri).Keeps :=
  (keeps_settingsFor uri).bind fun _ =>
    (keeps_execute _).bind fun _ => keeps_state.bind fun _ => keeps_publish uri _

theorem keeps_reportAt (env : Surroundings) (uri : Uri) (position : Position) :
    (reportAt env uri position).Keeps := by
  refine (keeps_settingsFor uri).bind fun settings => (keeps_execute _).bind fun output => ?_
  split
  · exact keeps_pure _
  · exact keeps_state.bind fun s => keeps_pure _

theorem keeps_serve (env : Surroundings) (request : Request) : (serve env request).Keeps := by
  cases request with
  | hover place =>
    exact (keeps_reportAt env _ _).bind fun _ => keeps_state.bind fun _ => keeps_pure _
  | definition place =>
    exact (keeps_reportAt env _ _).bind fun _ => keeps_state.bind fun _ => keeps_pure _
  | completion => exact keeps_state.bind fun _ => keeps_pure _
  | resolve item => exact keeps_pure _
  | signatureHelp place => exact keeps_state.bind fun _ => keeps_pure _
  | unserved => exact keeps_pure _

end Server

/-! ## Commands and their outputs -/

namespace Job

/-- The command that an action runs. -/
def Action.command? : Action → Option CommandLine
  | .ran command => some command
  | _ => none

/-- The commands that are run by some actions. -/
def commands (actions : List Action) : List CommandLine := actions.filterMap Action.command?

theorem commands_append (xs ys : List Action) : commands (xs ++ ys) = commands xs ++ commands ys :=
  List.filterMap_append

theorem countP_runs (actions : List Action) :
    actions.countP Action.runs = (commands actions).length := by
  rw [commands, List.length_filterMap_eq_countP]
  apply List.countP_congr
  rintro (notice | scope | command) - <;> simp [Action.runs, Action.command?]

/-- What commands print that are run after `n` others. -/
def printed (n : Nat) (commands : List CommandLine) : List (List Char) :=
  (commands.zipIdx n).map fun command => output command.2 command.1

theorem printed_cons (n : Nat) (command : CommandLine) (commands : List CommandLine) :
    printed output n (command :: commands) = output n command :: printed output (n + 1) commands :=
  rfl

end Job

/-! ## Lists of items -/

namespace CompletionItem

variable {text : List Char}

theorem ofEntries_cons (entry : Json) (entries : List Json) :
    ofEntries (entry :: entries) = (reader.json entry).toOption.toList ++ ofEntries entries := by
  rw [ofEntries, List.filterMap_cons]
  cases (reader.json entry).toOption <;> rfl

theorem forall₂_ofEntries (entries : List Json) :
    List.Forall₂ (fun entry item => reader.json entry = .ok item)
    (entries.filter fun entry => (reader.json entry).isOk) (ofEntries entries) := by
  induction entries with
  | nil => exact .nil
  | cons entry entries ih =>
    rw [List.filter_cons, ofEntries_cons]
    cases hread : reader.json entry with
    | error cause => exact ih
    | ok item => exact .cons hread ih

/-- The items of a list of entries are those entries that can be read, in their order. -/
theorem ofEntries_eq_iff {entries : List Json} {items : CompletionList} :
    ofEntries entries = items ↔
    List.Forall₂ (fun entry item => reader.json entry = .ok item)
      (entries.filter fun entry => (reader.json entry).isOk) items := by
  constructor
  · rintro rfl
    exact forall₂_ofEntries entries
  · refine List.right_unique_forall₂' ?_ (forall₂_ofEntries entries)
    intro entry item other hitem hother
    exact Except.ok.inj (hitem.symm.trans hother)

theorem collect?_eq_some_iff {items : CompletionList} : collect? text = some items ↔
    ∃ parsed entries, Recovery.read CompilerOutput.reader text = .ok parsed ∧
    parsed.items = some entries ∧
      List.Forall₂ (fun entry item => reader.json entry = .ok item)
        (entries.filter fun entry => (reader.json entry).isOk) items := by
  simp only [← ofEntries_eq_iff]
  rw [collect?]
  cases hread : Recovery.read CompilerOutput.reader text with
  | error cause => simp
  | ok parsed => simp [Option.map_eq_some_iff]

theorem collect?_eq_none_iff : collect? text = none ↔
    ∀ parsed, Recovery.read CompilerOutput.reader text = .ok parsed → parsed.items = none := by
  rw [collect?]
  cases hread : Recovery.read CompilerOutput.reader text with
  | error cause => simp
  | ok parsed => simp

theorem collect?_of_allBlank (h : Text.allBlank text) : collect? text = none := by
  rw [collect?_eq_none_iff]
  intro parsed hread
  rw [Diagnostic.allBlank_eq_false_of_read hread] at h
  cases h

end CompletionItem

/-- The last list of items in some outputs, if any of them has one. -/
def CompletionList.latest? (outputs : List (List Char)) : Option CompletionList :=
  (outputs.filterMap CompletionItem.collect?).getLast?

theorem CompletionList.getD_latest?_append (xs ys : List (List Char)) (items : CompletionList) :
    (latest? (xs ++ ys)).getD items = (latest? ys).getD ((latest? xs).getD items) := by
  rw [latest?, List.filterMap_append, List.getLast?_append]
  exact Option.getD_or

namespace Server

open CompletionList (latest?)

/-- The settings of a document: those for all documents if the editor cannot be asked, else the
remembered ones, else those that the editor answers with. -/
def inForce (s : Server) (settings : Uri → Option (List Json)) (uri : Uri) : Settings :=
  if s.asksSettings then (s.documentSettings.lookup uri).getD (settingsOfAnswer (settings uri))
  else s.commonSettings

section Refresh

variable (env : Surroundings) (uri : Uri) (n : Nat) (s : Server)

/-- Finding settings runs no command. After that they are at hand, whatever the editor would answer
later. -/
theorem exists_performAt_settingsFor :
    ∃ list actions, (settingsFor uri).performAt settings output n s =
      ⟨s.inForce settings uri, { s with documentSettings := list }, actions⟩ ∧
      commands actions = [] ∧
    ∀ later publisher,
      inForce { s with documentSettings := list, publisher := publisher } later uri =
        s.inForce settings uri := by
  rw [performAt_settingsFor]
  split
  case isTrue hno =>
    have hasks : s.asksSettings = false := by simpa using hno
    have hforce : s.inForce settings uri = s.commonSettings := by simp [inForce, hasks]
    rw [hforce]
    exact ⟨s.documentSettings, [], rfl, rfl, fun _ _ => by simp [inForce, hasks]⟩
  case isFalse hyes =>
    have hasks : s.asksSettings = true := by simpa using hyes
    split
    case h_1 found hfound =>
      have hforce : s.inForce settings uri = found := by simp [inForce, hasks, hfound]
      rw [hforce]
      exact ⟨s.documentSettings, [], rfl, rfl, fun _ _ => by simp [inForce, hasks, hfound]⟩
    case h_2 hnone =>
      have hforce : s.inForce settings uri = settingsOfAnswer (settings uri) := by
        simp [inForce, hasks, hnone]
      rw [hforce]
      exact ⟨_, [.asked uri], rfl, rfl, fun _ _ => by simp [inForce, hasks, lookup_assign]⟩

/-- Commands that are run one after another print in this order. -/
theorem exists_performAt_mapM (f : α → CommandLine) (list : List α) : ∃ actions,
    (list.mapM fun a => execute (f a)).performAt settings output n s =
      ⟨printed output n (list.map f), s, actions⟩ ∧
      commands actions = list.map f := by
  induction list generalizing n with
  | nil => exact ⟨[], rfl, rfl⟩
  | cons a list ih =>
    obtain ⟨actions, hperform, hcommands⟩ := ih (n + 1)
    have hrest :
        ((list.mapM fun a => execute (f a)) >>= fun texts =>
          pure (output n (f a) :: texts)).performAt
        settings output (n + 1) s =
          ⟨output n (f a) :: printed output (n + 1) (list.map f), s, actions⟩ := by
      rw [performAt_bind, hperform]
      exact congrArg (Outcome.mk _ s) (List.append_nil actions)
    refine ⟨.told (.log ('>' :: ' ' :: (f a).text)) :: .ran (f a) :: actions, ?_, ?_⟩
    · rw [List.mapM_cons]
      exact congrArg (fun o =>
        (o.after (.ran (f a))).after (.told (.log ('>' :: ' ' :: (f a).text)))) hrest
    · rw [List.map_cons, ← hcommands]
      rfl

/-- The list of the last output with one is taken over, or else the old one stays. -/
theorem performAt_takeCompletion (outputs : List (List Char)) :
    (outputs.forM takeCompletion).performAt settings output n s =
      ⟨(), { s with completion := (latest? outputs).getD s.completion }, []⟩ := by
  induction outputs generalizing s with
  | nil => rfl
  | cons text outputs ih =>
    have hcons : (text :: outputs).forM takeCompletion =
        (takeCompletion text >>= fun _ => outputs.forM takeCompletion) := rfl
    rw [hcons, takeCompletion]
    cases hitems : CompletionItem.collect? text with
    | none =>
      have hlatest : latest? (text :: outputs) = latest? outputs := by simp [latest?, hitems]
      rw [hlatest]
      exact ih s
    | some items =>
      have hlatest : (latest? (text :: outputs)).getD s.completion =
          (latest? outputs).getD items := by
        simp [latest?, hitems, List.getLast?_cons]
      rw [hlatest]
      exact ih { s with completion := items }

theorem exists_performAt_announce (publications : List (Publisher.Publication Diagnostic)) :
    ∃ actions,
    (announce publications).performAt settings output n s = ⟨(), s, actions⟩ ∧
      commands actions = [] := by
  induction publications with
  | nil => exact ⟨[], rfl, rfl⟩
  | cons publication publications ih =>
    obtain ⟨actions, hperform, hcommands⟩ := ih
    refine ⟨.told (.diagnostics publication.1 publication.2) :: actions, ?_, hcommands⟩
    exact congrArg (Outcome.after (.told (.diagnostics publication.1 publication.2))) hperform

/-- A validation runs the compiler once, and the settings of its document are at hand after it. -/
theorem exists_performAt_validate :
    ∃ list publisher actions, (validate env uri).performAt settings output n s =
      ⟨(), { s with documentSettings := list, publisher := publisher }, actions⟩ ∧
    commands actions = [compileCommand (s.inForce settings uri) (Uri.localPath uri.chars)] ∧
    ∀ later, inForce { s with documentSettings := list, publisher := publisher } later uri =
      s.inForce settings uri := by
  obtain ⟨list, asks, hfound, hasks, hforce⟩ := exists_performAt_settingsFor settings output uri n s
  let command := compileCommand (s.inForce settings uri) (Uri.localPath uri.chars)
  let published :=
    s.publisher.publish uri (Diagnostic.collect env.files (s.resolver (s.inForce settings uri))
    (Uri.localPath uri.chars) s.showsRelated (output (n + asks.countP Action.runs) command))
  obtain ⟨actions, hperform, hcommands⟩ := exists_performAt_announce settings output
    (n + asks.countP Action.runs + 1) { s with documentSettings := list, publisher := published.1 }
      published.2
  refine ⟨list, published.1, asks ++ .told (.log ('>' :: ' ' :: command.text)) :: .ran command ::
    actions, ?_, ?_, fun later => hforce later _⟩
  · rw [validate, performAt_bind, hfound]
    exact congrArg (fun o : Outcome Unit => Outcome.mk o.value o.server
      (asks ++ .told (.log ('>' :: ' ' :: command.text)) :: .ran command :: o.actions)) hperform
  · rw [commands_append, hasks, List.nil_append]
    exact congrArg (command :: ·) hcommands

/-- Refreshing runs the compiler on the completion files in their order, and takes the list of the
last output that has one. -/
theorem performAt_refreshCompletion :
    let found := s.inForce settings uri
    let files := (found.completionPaths env.programDirectory).map (compileCommand found)
    let o := (refreshCompletion env uri).performAt settings output n s
    commands o.actions = files ∧
      o.server.completion = (latest? (printed output n files)).getD s.completion := by
  intro found files o
  obtain ⟨list, asks, hfound, hasks, -⟩ := exists_performAt_settingsFor settings output uri n s
  obtain ⟨actions, hmap, hcommands⟩ :=
    exists_performAt_mapM settings output n { s with documentSettings := list }
    (compileCommand found) (found.completionPaths env.programDirectory)
  have hruns : n + asks.countP Action.runs = n := by rw [countP_runs, hasks]; rfl
  have ho : o = ⟨(), { s with
      documentSettings := list
      completion := (latest? (printed output n files)).getD s.completion },
        asks ++ (actions ++ [])⟩ := by
    simp only [o, refreshCompletion, performAt_bind, hfound, hruns]
    simp only [found] at hmap
    rw [hmap]
    simp only [performAt_takeCompletion]
    rfl
  rw [ho, List.append_nil, commands_append, hasks, hcommands]
  exact ⟨rfl, rfl⟩

end Refresh

end Server

/-! ## Messages -/

/-- The document at whose notification the completion list is collected again. -/
def Notification.refreshes? : Notification → Option Uri
  | .opened uri _ => some uri
  | .saved uri _ => some uri
  | _ => none

/-- The document at whose message the completion list is collected again. -/
def Envelope.refreshes? (m : Envelope) : Option Uri := m.notification?.bind (·.refreshes?)

/-- The outputs of the completion files at a message with the given actions, with `n` commands
before it. The first command is for the document itself. -/
def Envelope.refreshed (m : Envelope) (n : Nat) (actions : List Action) : List (List Char) :=
  if m.refreshes?.isSome then (printed output n (commands actions)).tail else []

namespace Server

open CompletionList (latest?)

section Message

variable {env : Surroundings} {notification : Notification}

theorem keeps_hear (h : notification.refreshes? = none) : (hear env notification).Keeps := by
  cases notification with
  | initialized =>
    refine (keeps_say _).bind fun _ => keeps_state.bind fun s => ?_
    split
    · exact keeps_say _
    · exact keeps_pure _
  | settings value =>
    refine Keeps.bind (keeps_update fun s => ?_) fun _ => ?_
    · split <;> rfl
    · exact keeps_state.bind fun _ => keeps_forM _ (keeps_validate env)
  | folders added removed => exact keeps_update fun _ => rfl
  | opened uri text => cases h
  | changed uri text =>
    cases text with
    | some text => exact keeps_update fun _ => rfl
    | none => exact keeps_pure _
  | saved uri text => cases h
  | closed uri =>
    refine Keeps.bind ?_ fun _ => keeps_state.bind fun s => Keeps.bind ?_ fun _ => keeps_announce _
    · exact keeps_update fun _ => rfl
    · exact keeps_update fun _ => rfl
  | unheard => exact keeps_pure _

variable (n : Nat) (s : Server) {uri : Uri}

/-- After the validation of a document the completion files are compiled with the same settings. -/
theorem performAt_validate_refresh (env : Surroundings) (uri : Uri) :
    let found := s.inForce settings uri
    let files := (found.completionPaths env.programDirectory).map (compileCommand found)
    let o := (validate env uri >>= fun _ => refreshCompletion env uri).performAt settings output n s
    commands o.actions = compileCommand found (Uri.localPath uri.chars) :: files ∧
      o.server.completion = (latest? (printed output (n + 1) files)).getD s.completion := by
  intro found files o
  obtain ⟨list, publisher, actions, hvalidate, hcommands, hforce⟩ :=
    exists_performAt_validate settings output env uri n s
  have hruns : n + actions.countP Action.runs = n + 1 := by rw [countP_runs, hcommands]; rfl
  obtain ⟨hfiles, hlist⟩ := performAt_refreshCompletion settings output env uri (n + 1)
    { s with documentSettings := list, publisher := publisher }
  rw [hforce] at hfiles hlist
  simp only [o, performAt_bind, hvalidate, hruns, commands_append, hcommands, hfiles]
  exact ⟨rfl, hlist⟩

theorem performAt_hear_refresh (env : Surroundings) (h : notification.refreshes? = some uri) :
    let found := s.inForce settings uri
    let files := (found.completionPaths env.programDirectory).map (compileCommand found)
    let o := (hear env notification).performAt settings output n s
    commands o.actions = compileCommand found (Uri.localPath uri.chars) :: files ∧
      o.server.completion = (latest? (printed output (n + 1) files)).getD s.completion := by
  cases notification with
  | opened document text =>
    obtain rfl : document = uri := Option.some.inj h
    exact performAt_validate_refresh settings output n
      { s with documents := assign document text s.documents } env _
  | saved document text =>
    obtain rfl : document = uri := Option.some.inj h
    cases text with
    | some text =>
      exact performAt_validate_refresh settings output n
        { s with documents := assign document text s.documents } env _
    | none => exact performAt_validate_refresh settings output n s env _
  | _ => cases h

variable {m : Envelope} {phase : Phase} {job : Job Reply}

/-- A job that leaves the completion list alone fits a message that runs no command or refreshes
nothing. -/
theorem completion_eq_of_keeps (h : job.Keeps)
    (hnone : commands (job.performAt settings output n s).actions = [] ∨ m.refreshes? = none) :
    (job.performAt settings output n s).server.completion =
      (latest? (m.refreshed output n (job.performAt settings output n s).actions)).getD
        s.completion := by
  have hempty : m.refreshed output n (job.performAt settings output n s).actions = [] := by
    rw [Envelope.refreshed]
    rcases hnone with hnone | hnone
    · rw [hnone]
      split <;> rfl
    · rw [hnone]
      rfl
  rw [hempty]
  exact h settings output n s

/-- A message replaces the completion list by that of the last completion file with one, if there is
such a file. -/
theorem Course.completion_eq (h : Course env m phase job) :
    (job.performAt settings output n s).server.completion =
      (latest? (m.refreshed output n (job.performAt settings output n s).actions)).getD
        s.completion := by
  cases h with
  | reply reply _ => exact completion_eq_of_keeps settings output n s (keeps_pure reply) (.inl rfl)
  | leave later reply _ =>
    refine completion_eq_of_keeps settings output n s ?_ (.inl rfl)
    exact Keeps.bind (keeps_update fun _ => rfl) fun _ => keeps_pure reply
  | welcome p =>
    refine completion_eq_of_keeps settings output n s ?_ (.inl rfl)
    exact Keeps.bind (keeps_update fun _ => rfl) fun _ => keeps_pure _
  | serve request hnone =>
    refine completion_eq_of_keeps settings output n s (keeps_serve env request) (.inr ?_)
    rw [Envelope.refreshes?, hnone]
    rfl
  | hear notification hheard =>
    have hm : m.refreshes? = notification.refreshes? := by rw [Envelope.refreshes?, hheard]; rfl
    cases hrefreshes : notification.refreshes? with
    | none =>
      refine completion_eq_of_keeps settings output n s ?_ (.inr (hm.trans hrefreshes))
      exact (keeps_hear hrefreshes).bind fun _ => keeps_pure _
    | some uri =>
      obtain ⟨hcommands, hlist⟩ := performAt_hear_refresh settings output n s env hrefreshes
      have hactions : ((Server.hear env notification >>= fun _ => pure Reply.silence).performAt
          settings output n s).actions =
            ((Server.hear env notification).performAt settings output n s).actions := by
        rw [performAt_bind]
        exact List.append_nil _
      rw [hactions, Envelope.refreshed, hm, hrefreshes, hcommands, printed_cons]
      rw [performAt_bind]
      exact hlist

end Message

end Server

/-! ## Conversations -/

namespace Envelope

/-- The request of a message, if it is one that can be read. -/
def request? (m : Envelope) : Option Request :=
  match Method.ofName? m.method with
  | some (.ask read) => if m.isRequest then (m.params.map read.json).bind Except.toOption else none
  | _ => none

end Envelope

namespace Server

section Serving

variable {env : Surroundings} {m : Envelope} {s : Server} (n : Nat)

theorem plan_serving {method : Method} (hmethod : Method.ofName? m.method = some method) :
    plan env m .serving = handle env m .serving method := by
  have hexit : m.method ≠ "exit" := by
    intro hexit
    rw [hexit] at hmethod
    cases hmethod
  rw [plan, if_neg (by decide), if_neg hexit, hmethod]

theorem withParams_of_bind {read : Reader α} {value : α} {next : α → Job Reply}
    (h : (m.params.map read.json).bind Except.toOption = some value) :
    withParams m read next = next value := by
  obtain ⟨result, hresult, hvalue⟩ := Option.bind_eq_some_iff.1 h
  rw [withParams, hresult, Fault.toOption_eq_some.1 hvalue]

/-- While the server serves, a request is served. -/
theorem performAt_respond_request {request : Request} (hs : s.phase = .serving)
    (h : m.request? = some request) :
    (respond env m).performAt settings output n s =
      (serve env request).performAt settings output n s := by
  rw [respond_eq, performAt_state_bind, hs]
  unfold Envelope.request? at h
  split at h
  case h_1 read hmethod =>
    obtain ⟨hrequest, hread⟩ := Option.ite_none_right_eq_some.1 h
    rw [plan_serving hmethod, handle, if_neg (by simp), if_neg (by simp [hrequest]),
      withParams_of_bind hread]
  case h_2 => cases h

/-- While the server serves, a notification is heard. -/
theorem performAt_respond_notification {notification : Notification} (hs : s.phase = .serving)
    (h : m.notification? = some notification) : (respond env m).performAt settings output n s =
      (hear env notification >>= fun _ => pure .silence).performAt settings output n s := by
  rw [respond_eq, performAt_state_bind, hs]
  unfold Envelope.notification? at h
  split at h
  case h_1 read hmethod =>
    obtain ⟨hrequest, hread⟩ := Option.ite_none_left_eq_some.1 h
    rw [plan_serving hmethod, handle, if_neg (by simp), if_neg hrequest, withParams_of_bind hread]
  case h_2 => cases h

end Serving

open CompletionList (latest?)

/-- The server after some messages, with `n` commands before them. -/
def after : List Turn → Nat → Server → Server
  | [], _, s => s
  | t :: turns, n, s =>
    let o := (respond t.env t.message).performAt t.settings output n s
    after turns (n + o.actions.countP Action.runs) o.server

/-- The outputs of the completion files in a conversation, with `n` commands before it. -/
def refreshed : Nat → List Exchange → List (List Char)
  | _, [] => []
  | n, x :: exchanges =>
    x.turn.message.refreshed output n x.actions ++
      refreshed (n + x.actions.countP Action.runs) exchanges

section Conversation

variable (turns : List Turn) (t : Turn) (n : Nat) (s : Server)

/-- One message more is handled by the server as it is after the others. -/
theorem exists_converse_concat : ∃ k,
    let o := (respond t.env t.message).performAt t.settings output k (after output turns n s)
    converse respond output (turns ++ [t]) n s =
      converse respond output turns n s ++ [⟨t, o.value, o.actions⟩] ∧
      after output (turns ++ [t]) n s = o.server := by
  induction turns generalizing n s with
  | nil => exact ⟨n, rfl, rfl⟩
  | cons first turns ih =>
    obtain ⟨k, hconverse, hafter⟩ := ih _ _
    exact ⟨k, congrArg (_ :: ·) hconverse, hafter⟩

theorem completion_after : (after output turns n s).completion =
    (latest? (refreshed output n (converse respond output turns n s))).getD s.completion := by
  induction turns generalizing n s with
  | nil => rfl
  | cons t turns ih =>
    have hstep :
        ((respond t.env t.message).performAt t.settings output n s).server.completion = _ :=
      (course_plan t.env t.message s.phase).completion_eq t.settings output n s
    rw [after, ih, converse, refreshed, CompletionList.getD_latest?_append, hstep]
    rfl

/-- A request for the completion list, while the server serves, is answered with the list and
changes nothing. -/
theorem converse_request_completion (hs : (after output turns n s).phase = .serving)
    (h : t.message.request? = some .completion) :
    converse respond output (turns ++ [t]) n s = converse respond output turns n s ++
      [⟨t, .result (.array ((after output turns n s).completion.map CompletionItem.toJson)),
        []⟩] := by
  obtain ⟨k, hconverse, -⟩ := exists_converse_concat output turns t n s
  rw [performAt_respond_request t.settings output k hs h] at hconverse
  exact hconverse

/-- When a document is opened or saved, the compiler runs on the document, and then on the
completion files in their order. -/
theorem converse_refresh {uri : Uri} (hs : (after output turns n s).phase = .serving)
    (h : t.message.refreshes? = some uri) :
    let found := (after output turns n s).inForce t.settings uri
    ∃ actions, converse respond output (turns ++ [t]) n s =
        converse respond output turns n s ++ [⟨t, .silence, actions⟩] ∧
      commands actions = compileCommand found (Uri.localPath uri.chars) ::
        (found.completionPaths t.env.programDirectory).map (compileCommand found) := by
  intro found
  obtain ⟨k, hconverse, -⟩ := exists_converse_concat output turns t n s
  obtain ⟨notification, hnotification, hrefreshes⟩ := Option.bind_eq_some_iff.1 h
  rw [performAt_respond_notification t.settings output k hs hnotification,
    performAt_bind] at hconverse
  refine ⟨_, hconverse, ?_⟩
  rw [commands_append]
  exact (List.append_nil _).trans (performAt_hear_refresh t.settings output k _ t.env hrefreshes).1

/-- The completion list is that of the last output of a completion file that has one, in the order
of the messages and of the files at each of them. It is what a request for it is answered with, and
no other message changes it. An output has a list if a record with items can be read from it, and
the list is made of those items that can be read, in their order. -/
theorem converse_completion (turns : List Turn) :
    let exchanges := converse respond output turns 0 {}
    let s := after output turns 0 {}
    let items := (latest? (refreshed output 0 exchanges)).getD []
    s.completion = items ∧
    (∀ t, s.phase = .serving → t.message.request? = some .completion →
      converse respond output (turns ++ [t]) 0 {} =
        exchanges ++ [⟨t, .result (.array (items.map CompletionItem.toJson)), []⟩]) ∧
    (∀ t uri, s.phase = .serving → t.message.refreshes? = some uri →
      ∃ actions, converse respond output (turns ++ [t]) 0 {} =
        exchanges ++ [⟨t, .silence, actions⟩] ∧
        commands actions = compileCommand (s.inForce t.settings uri) (Uri.localPath uri.chars) ::
          ((s.inForce t.settings uri).completionPaths t.env.programDirectory).map
            (compileCommand (s.inForce t.settings uri))) ∧
    (∀ t, t.message.refreshes? = none → (after output (turns ++ [t]) 0 {}).completion = items) ∧
    ∀ text,
      (∀ list, CompletionItem.collect? text = some list ↔ ∃ parsed entries,
        Recovery.read CompilerOutput.reader text = .ok parsed ∧ parsed.items = some entries ∧
        List.Forall₂ (fun entry item => CompletionItem.reader.json entry = .ok item)
          (entries.filter fun entry => (CompletionItem.reader.json entry).isOk) list) ∧
      (Text.allBlank text → CompletionItem.collect? text = none) := by
  intro exchanges s items
  have hs : s.completion = items := completion_after output turns 0 {}
  refine ⟨hs, fun t hserving hrequest => ?_, fun t uri hserving hrefreshes => ?_, fun t hnone => ?_,
    fun text => ?_⟩
  · rw [converse_request_completion output turns t 0 {} hserving hrequest, ← hs]
  · exact converse_refresh output turns t 0 {} hserving hrefreshes
  · obtain ⟨k, -, hafter⟩ := exists_converse_concat output turns t 0 {}
    have hstep := (course_plan t.env t.message s.phase).completion_eq t.settings output k s
    rw [Envelope.refreshed, hnone] at hstep
    rw [hafter]
    exact hstep.trans hs
  · exact ⟨fun list => CompletionItem.collect?_eq_some_iff, CompletionItem.collect?_of_allBlank⟩

/-- The compiler reports two items and something else when a document is opened, and nothing when it
is saved. The list stays when the document is closed. -/
theorem converse_completion_closed :
    ∃ (output : Nat → CommandLine → List Char) (turns : List Turn) (t : Turn)
    (items : CompletionList),
    (after output turns 0 {}).phase = .serving ∧ t.message.request? = some .completion ∧
    items = (latest? (refreshed output 0 (converse respond output turns 0 {}))).getD [] ∧
    items.map CompletionItem.label = ["a", "b"] ∧
    converse respond output (turns ++ [t]) 0 {} = converse respond output turns 0 {} ++
      [⟨t, .result (.array (items.map CompletionItem.toJson)), []⟩] := by
  let env : Surroundings := .inOrder (.ofFiles [] []) []
  let items := "\x7b\"items\":[\x7b\"label\":\"a\"\x7d,\x7b\x7d,\x7b\"label\":\"b\"\x7d]\x7d".toList
  let output (n : Nat) (_ : CommandLine) : List Char := if n = 1 then items else []
  let files : Json := .object [("completionFiles", .array [.string "c.das"])]
  let settings : Uri → Option (List Json) := fun _ => some [files]
  let able : Json :=
    .object [("capabilities", .object [("workspace", .object [("configuration", .bool true)])])]
  let document : Json := .object [("uri", .string "file:///a.das"), ("languageId", .string "das"),
    ("version", .int 1), ("text", .string "")]
  let named : Json := .object [("textDocument", document)]
  let place : Json := .object [("textDocument", document),
    ("position", .object [("line", .int 0), ("character", .int 0)])]
  let turns : List Turn :=
    [⟨env, ⟨"initialize", some able, true⟩, settings⟩,
     ⟨env, ⟨"textDocument/didOpen", some named, false⟩, settings⟩,
     ⟨env, ⟨"textDocument/didSave", some named, false⟩, settings⟩,
     ⟨env, ⟨"textDocument/didClose", some named, false⟩, settings⟩]
  let t : Turn := ⟨env, ⟨"textDocument/completion", some place, true⟩, settings⟩
  have hserving : (after output turns 0 {}).phase = .serving := by decide +kernel
  have hrequest : t.message.request? = some .completion := rfl
  exact ⟨output, turns, t, _, hserving, hrequest, rfl, by decide +kernel,
    (converse_completion output turns).2.1 t hserving hrequest⟩

end Conversation

end Server

end EditorBridge
