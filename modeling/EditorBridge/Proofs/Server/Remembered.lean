import EditorBridge.Proofs.Server.Careful
import Mathlib.Data.List.Chain

/-!
# Remembered settings

A conversation with the server is compared with the same conversation with a server that asks for
settings at each use.

* As long as the editor changes its answers only together with a message about changed settings,
  nothing but the questions themselves tells the two servers apart: they run the same commands, say
  the same to the editor and give the same replies, in the same order.
* Between two messages that drop the settings of a document, the editor is asked for them at most
  once.

All jobs but those of two notifications are careful. These two, about changed settings and closed
documents, are careful after the drop of what is remembered (`Server.drop`).
-/

namespace EditorBridge

open Job

variable {α : Type} (settings : Uri → Option (List Json)) (output : Nat → CommandLine → List Char)

/-! ## Notifications -/

namespace Server

/-- What a notification does to the remembered settings, before anything else. -/
def drop (s : Server) : Notification → Server
  | .settings value =>
    if s.asksSettings then { s with documentSettings := [] }
    else { s with
      commonSettings := Settings.ofJson ((value.member? Settings.sectionName).getD .null) }
  | .closed uri =>
    { s with
      documentSettings := unassign uri s.documentSettings
      documents := unassign uri s.documents }
  | _ => s

/-- What is done at a notification after that. -/
def followUp (env : Surroundings) : Notification → Job Unit
  | .settings _ => revalidate env
  | .closed uri => do
    let s ← state
    let (publisher, publications) := s.publisher.close uri
    update fun s => { s with publisher := publisher }
    announce publications
  | n => hear env n

theorem performAt_hear_bind (env : Surroundings) (n : Notification) (next : Unit → Job α) (k : Nat)
    (s : Server) :
    (hear env n >>= next).performAt settings output k s =
      (followUp env n >>= next).performAt settings output k (s.drop n) := by
  cases n <;> rfl

theorem performAt_forgetful_hear_bind (env : Surroundings) (n : Notification) (next : Unit → Job α)
    (k : Nat) (s : Server) :
    (hear env n >>= next).forgetful.performAt settings output k s =
      (followUp env n >>= next).forgetful.performAt settings output k (s.drop n) := by
  cases n <;> rfl

theorem careful_followUp (env : Surroundings) (n : Notification) : (followUp env n).Careful := by
  cases n with
  | initialized =>
    refine (careful_say _).bind fun _ => careful_state_bind (fun _ => rfl) fun s => ?_
    split
    · exact careful_say _
    · exact careful_pure _
  | settings value => exact careful_revalidate env
  | folders added removed => exact careful_update (fun _ _ => rfl) (fun _ => rfl) fun _ => rfl
  | opened uri text =>
    refine (careful_say _).bind fun _ => (careful_store uri text).bind fun _ => ?_
    exact (careful_validate env uri).bind fun _ => careful_refreshCompletion env uri
  | changed uri text =>
    cases text with
    | some text => exact careful_store uri text
    | none => exact careful_pure _
  | saved uri text =>
    have hcompile := (careful_validate env uri).bind fun _ => careful_refreshCompletion env uri
    cases text with
    | some text =>
      exact (careful_say _).bind fun _ => (careful_store uri text).bind fun _ => hcompile
    | none => exact (careful_say _).bind fun _ => hcompile
  | closed uri =>
    refine careful_state_bind (fun _ => rfl) fun s => ?_
    refine Careful.bind ?_ fun _ => careful_announce _
    exact careful_update (fun _ _ => rfl) (fun _ => rfl) fun _ => rfl
  | unheard => exact careful_pure _

end Server

/-- Whether a notification drops the settings of a document. -/
def Notification.drops (uri : Uri) : Notification → Bool
  | .settings _ => true
  | .closed document => document = uri
  | _ => false

namespace Server

variable {s r : Server} {settings}

theorem phase_drop (s : Server) (n : Notification) : (s.drop n).phase = s.phase := by
  cases n with
  | settings value => rw [drop]; split <;> rfl
  | _ => rfl

theorem forget_drop (h : s.forget = r.forget) (n : Notification) :
    (s.drop n).forget = (r.drop n).forget := by
  have hdrop (s : Server) : (s.drop n).forget = (s.forget.drop n).forget := by
    cases n with
    | settings value => cases hasks : s.asksSettings <;> simp [drop, forget, hasks]
    | _ => rfl
  rw [hdrop s, hdrop r, h]

theorem known_le_one (s : Server) (uri : Uri) : s.known uri ≤ 1 := Bool.toNat_le _

theorem known_drop (s : Server) (n : Notification) (uri : Uri) :
    (if n.drops uri then 0 else s.known uri) ≤ (s.drop n).known uri := by
  cases n with
  | settings value => simp [Notification.drops]
  | closed document =>
    by_cases h : document = uri
    · simp [Notification.drops, h]
    · simp [Notification.drops, known, drop, lookup_unassign, h, Ne.symm h]
  | _ => simp [Notification.drops, drop]

/-- After a message about changed settings nothing is remembered. -/
theorem UpToDate.drop_settings (h : s.UpToDate settings) (value : Json)
    (later : Uri → Option (List Json)) : (s.drop (.settings value)).UpToDate later := by
  intro uri found hfound
  rw [Server.drop] at hfound
  split at hfound
  case isTrue => simp at hfound
  case isFalse hasks => exact absurd (h uri found hfound).1 hasks

theorem UpToDate.drop (h : s.UpToDate settings) (n : Notification) :
    (s.drop n).UpToDate settings := by
  cases n with
  | settings value => exact h.drop_settings value settings
  | closed document =>
    intro uri found hfound
    simp only [Server.drop, lookup_unassign] at hfound
    split at hfound
    case isTrue => simp at hfound
    case isFalse => exact h uri found hfound
  | _ => exact h

end Server

/-! ## Messages -/

namespace Envelope

/-- The notification of a message, if it is one that can be read. -/
def notification? (m : Envelope) : Option Notification :=
  match Method.ofName? m.method with
  | some (.notify read) =>
    if m.isRequest then none else (m.params.map read.json).bind Except.toOption
  | _ => none

/-- Whether a message drops the settings of a document. -/
def drops (m : Envelope) (uri : Uri) : Bool := m.notification?.any (·.drops uri)

end Envelope

namespace Server

/-- What the server does with a message in a phase of the conversation. -/
def plan (env : Surroundings) (m : Envelope) (phase : Phase) : Job Reply := do
  if phase = .exited then return .exited
  if m.method = "exit" then
    update fun s => { s with phase := .exited }
    return .silence
  match Method.ofName? m.method with
  | some method => handle env m phase method
  | none =>
    if Text.startsWith ['$', '/'] m.method.toList then return .silence
    refuse m .methodNotFound

theorem respond_eq (env : Surroundings) (m : Envelope) :
    respond env m = state >>= fun s => plan env m s.phase := rfl

/-- What a message comes to: a mere reply, the end of the service, or the service itself. The
notifications that can be read are all heard while the server serves. -/
inductive Course (env : Surroundings) (m : Envelope) : Phase → Job Reply → Prop where
  | reply {phase : Phase} (reply : Reply) (h : phase = .serving → m.notification? = none) :
    Course env m phase (pure reply)
  | leave {phase : Phase} (later : Phase) (reply : Reply) (h : later = .stopping ∨
    later = .exited) :
    Course env m phase (update (fun s => { s with phase := later }) >>= fun _ => pure reply)
  | welcome (p : Params.Introduction) : Course env m .waiting (welcome p)
  | serve (request : Request) (h : m.notification? = none) : Course env m .serving
    (serve env request)
  | hear (n : Notification) (h : m.notification? = some n) :
    Course env m .serving (hear env n >>= fun _ => pure .silence)

section Course

variable {env : Surroundings} {m : Envelope} {phase : Phase}

theorem course_withParams {read : Reader α} {next : α → Job Reply}
    (hnone : (∀ value, m.params.map read.json ≠ some (.ok value)) → m.notification? = none)
    (hnext : ∀ value, m.params.map read.json = some (.ok value) → Course env m phase (next value)) :
    Course env m phase (withParams m read next) := by
  rw [withParams]
  split
  case h_1 value hvalue => exact hnext value hvalue
  case h_2 hfail => exact .reply _ fun _ => hnone hfail

theorem course_handle {method : Method} (hmethod : Method.ofName? m.method = some method) :
    Course env m phase (handle env m phase method) := by
  cases method with
  | introduce read =>
    have hnone : m.notification? = none := by rw [Envelope.notification?, hmethod]
    rw [handle]
    split
    case isTrue => exact .reply _ fun _ => hnone
    case isFalse hphase =>
      obtain rfl : phase = .waiting := Decidable.not_not.1 hphase
      split
      · exact .reply _ fun _ => hnone
      · exact course_withParams (fun _ => hnone) fun p _ => .welcome p
  | stop =>
    have hnone : m.notification? = none := by rw [Envelope.notification?, hmethod]
    rw [handle]
    split
    · exact .reply _ fun _ => hnone
    · split
      · exact .leave .stopping _ (.inl rfl)
      · split
        · exact .leave .stopping _ (.inl rfl)
        · exact .leave .stopping _ (.inl rfl)
  | ask read =>
    have hnone : m.notification? = none := by rw [Envelope.notification?, hmethod]
    rw [handle]
    split
    case isTrue => exact .reply _ fun _ => hnone
    case isFalse hphase =>
      obtain rfl : phase = .serving := Decidable.not_not.1 hphase
      split
      · exact .reply _ fun _ => hnone
      · exact course_withParams (fun _ => hnone) fun request _ => .serve request hnone
  | notify read =>
    rw [handle]
    split
    case isTrue hphase => exact .reply _ fun hserving => absurd hserving hphase
    case isFalse hphase =>
      obtain rfl : phase = .serving := Decidable.not_not.1 hphase
      split
      case isTrue hrequest =>
        exact .reply _ fun _ => by simp [Envelope.notification?, hmethod, hrequest]
      case isFalse hrequest =>
        refine course_withParams (fun hfail => ?_) fun n hn => .hear n ?_
        · simp only [Envelope.notification?, hmethod, hrequest]
          cases hread : m.params.map read.json with
          | none => rfl
          | some result =>
            cases result with
            | error cause => rfl
            | ok n => exact absurd hread (hfail n)
        · simp [Envelope.notification?, hmethod, hrequest, hn, Except.toOption]
  | cancel =>
    have hnone : m.notification? = none := by rw [Envelope.notification?, hmethod]
    exact .reply _ fun _ => hnone

theorem course_plan (env : Surroundings) (m : Envelope) (phase : Phase) :
    Course env m phase (plan env m phase) := by
  rw [plan]
  split
  case isTrue hexited => exact .reply _ (by simp [hexited])
  split
  case isTrue => exact .leave .exited _ (.inr rfl)
  split
  case h_1 method hmethod => exact course_handle hmethod
  case h_2 hmethod =>
    have hnone : m.notification? = none := by rw [Envelope.notification?, hmethod]
    split
    · exact .reply _ fun _ => hnone
    · exact .reply _ fun _ => hnone

end Course

/-- What is remembered between two messages: nothing before the service starts, and while the server
serves, what the editor would still answer. -/
structure Sound (s : Server) (settings : Uri → Option (List Json)) : Prop where
  fresh : s.phase = .waiting → s.documentSettings = []
  upToDate : s.phase = .serving → s.UpToDate settings

variable {s r : Server}

theorem sound_performAt {job : Job α} (h : job.Careful) (hphase : s.phase = .serving)
    (hs : s.UpToDate settings) (n : Nat) :
    (job.performAt settings output n s).server.Sound settings where
  fresh hwaiting := by
    rw [h.phase, hphase] at hwaiting
    cases hwaiting
  upToDate _ := h.upToDate settings output n s hs

section Step

variable {env : Surroundings} {m : Envelope} {phase : Phase} {job : Job Reply}
  {old : Uri → Option (List Json)}

theorem Course.alike (h : Course env m phase job) (hphase : s.phase = phase) (hs : s.Sound old)
    (hr : s.forget = r.forget)
    (hsettings : settings = old ∨ ∃ value, m.notification? = some (.settings value)) (n : Nat) :
    (job.performAt settings output n s).server.Sound settings ∧
      (job.performAt settings output n s).Alike (job.forgetful.performAt settings output n r) := by
  -- without a notification the answers are still the same
  have hsame (hnone : m.notification? = none) : settings = old :=
    hsettings.resolve_right (by simp [hnone])
  cases h with
  | reply reply hnone =>
    refine ⟨⟨hs.fresh, fun hserving => ?_⟩, rfl, hr, rfl⟩
    obtain rfl := hsame (hnone (hphase.symm.trans hserving))
    exact hs.upToDate hserving
  | leave later reply hlater =>
    refine ⟨⟨?_, ?_⟩, rfl, congrArg (fun s : Server => { s with phase := later }) hr, rfl⟩
    · rintro rfl
      simp at hlater
    · rintro rfl
      simp at hlater
  | welcome p =>
    refine ⟨⟨nofun, fun _ uri found hfound => ?_⟩, rfl, ?_, rfl⟩
    · have hempty : s.documentSettings.lookup uri = none := by rw [hs.fresh hphase, List.lookup_nil]
      exact absurd (hempty.symm.trans hfound) nofun
    · exact congrArg (fun s : Server =>
        ((Server.welcome p).performAt settings output n s).server) hr
  | serve request hnone =>
    obtain rfl := hsame hnone
    have hup := hs.upToDate hphase
    have hcareful := careful_serve env request
    exact ⟨sound_performAt settings output hcareful hphase hup n,
      hcareful.alike settings output n s r hup hr⟩
  | hear notification hheard =>
    have hup : (s.drop notification).UpToDate settings := by
      rcases hsettings with rfl | ⟨value, hvalue⟩
      · exact (hs.upToDate hphase).drop notification
      · obtain rfl : notification = .settings value := Option.some.inj (hheard.symm.trans hvalue)
        exact (hs.upToDate hphase).drop_settings value settings
    have hcareful := (careful_followUp env notification).bind fun _ => careful_pure Reply.silence
    rw [performAt_hear_bind, performAt_forgetful_hear_bind]
    exact ⟨sound_performAt settings output hcareful ((phase_drop s _).trans hphase) hup n,
      hcareful.alike settings output n _ _ hup (forget_drop hr notification)⟩

/-- A message asks for the settings of a document only if they are not remembered, and after a
question they are. -/
theorem Course.asks_le (h : Course env m phase job) (n : Nat) (s : Server) (uri : Uri) :
    (job.performAt settings output n s).actions.countP (Action.asks uri) +
      (if m.drops uri then 0 else s.known uri) ≤
      (job.performAt settings output n s).server.known uri := by
  have hknown : (if m.drops uri then 0 else s.known uri) ≤ s.known uri := by
    split
    · exact Nat.zero_le _
    · exact Nat.le_refl _
  have hnothing : 0 + (if m.drops uri then 0 else s.known uri) ≤ s.known uri := by
    rwa [Nat.zero_add]
  cases h with
  | reply reply _ => exact hnothing
  | leave later reply _ => exact hnothing
  | welcome p => exact hnothing
  | serve request _ =>
    have hasks := (careful_serve env request).asks_le settings output n s uri
    omega
  | hear notification hheard =>
    have hdrop := known_drop s notification uri
    have hcareful := (careful_followUp env notification).bind fun _ => careful_pure Reply.silence
    have hasks := hcareful.asks_le settings output n (s.drop notification) uri
    have hdrops : m.drops uri = notification.drops uri := by simp [Envelope.drops, hheard]
    rw [performAt_hear_bind, hdrops]
    omega

end Step

/-- What the server and a server that asks at each use do at a message. -/
theorem alike_respond {m : Envelope} {old : Uri → Option (List Json)} (hs : s.Sound old)
    (hr : s.forget = r.forget) (hsettings : settings = old ∨
      ∃ value, m.notification? = some (.settings value)) (env : Surroundings) (n : Nat) :
    ((respond env m).performAt settings output n s).server.Sound settings ∧
      ((respond env m).performAt settings output n s).Alike
        ((respond env m).forgetful.performAt settings output n r) := by
  have hphase : s.phase = r.phase := (congrArg phase hr :)
  rw [respond_eq, forgetful_state_bind, performAt_state_bind, performAt_state_bind]
  show _ ∧ Outcome.Alike _ ((plan env m r.phase).forgetful.performAt settings output n r)
  rw [← hphase]
  exact (course_plan env m s.phase).alike settings output rfl hs hr hsettings n

theorem asks_respond_le (env : Surroundings) (m : Envelope) (n : Nat) (s : Server) (uri : Uri) :
    ((respond env m).performAt settings output n s).actions.countP (Action.asks uri) +
        (if m.drops uri then 0 else s.known uri) ≤
          ((respond env m).performAt settings output n s).server.known uri :=
  (course_plan env m s.phase).asks_le settings output n s uri

end Server

/-! ## Conversations -/

/-- A message, with the files it meets and the settings that the editor has for documents at that
time. -/
structure Turn where
  env : Surroundings
  message : Envelope
  settings : Uri → Option (List Json)

/-- The settings that the editor has change only together with a message about changed settings. -/
def Turn.Steady (turns : List Turn) : Prop :=
  turns.IsChain fun t next =>
    next.settings = t.settings ∨ ∃ value, next.message.notification? = some (.settings value)

/-- A message, with its reply and all that the server did. -/
structure Exchange where
  turn : Turn
  reply : Reply
  actions : List Action

/-- An exchange without the questions for settings. -/
def Exchange.visible (x : Exchange) : Exchange := { x with actions := Job.visible x.actions }

/-- Handles messages one at a time, each by its job. -/
def converse (job : Surroundings → Envelope → Job Reply) (output : Nat → CommandLine → List Char) :
    List Turn → Nat → Server → List Exchange
  | [], _, _ => []
  | t :: turns, n, s =>
    let o := (job t.env t.message).performAt t.settings output n s
    ⟨t, o.value, o.actions⟩ :: converse job output turns (n + o.actions.countP Action.runs) o.server

namespace Server

theorem map_visible_converse {s r : Server} {prior : Turn} (hs : s.Sound prior.settings)
    (hr : s.forget = r.forget) {turns : List Turn} (h : Turn.Steady (prior :: turns)) (n : Nat) :
    (converse respond output turns n s).map Exchange.visible =
      (converse (fun env m => (respond env m).forgetful) output turns n r).map
        Exchange.visible := by
  induction turns generalizing prior n s r with
  | nil => rfl
  | cons t turns ih =>
    obtain ⟨hsettings, hsteady⟩ := List.isChain_cons_cons.1 h
    obtain ⟨hsound, halike⟩ := alike_respond t.settings output hs hr hsettings t.env n
    simp only [converse, List.map_cons, Exchange.visible, halike.value,
      halike.visible, ← halike.countP_runs]
    rw [ih hsound halike.server hsteady]

/-- As long as no message drops the settings of a document, they are asked for at most once, and not
at all if they are remembered. -/
theorem asks_converse_le (uri : Uri) {turns : List Turn} {window rest : List Exchange} {n : Nat}
    {s : Server} (h : converse respond output turns n s = window ++ rest)
    (hkept : ∀ x ∈ window, x.turn.message.drops uri = false) :
    (window.flatMap Exchange.actions).countP (Action.asks uri) + s.known uri ≤ 1 := by
  induction window generalizing turns n s with
  | nil => simpa using known_le_one s uri
  | cons x window ih =>
    cases turns with
    | nil => simp [converse] at h
    | cons t turns =>
      obtain ⟨rfl, htail⟩ := List.cons.inj h
      have hfirst := asks_respond_le t.settings output t.env t.message n s uri
      rw [hkept _ List.mem_cons_self, if_neg Bool.false_ne_true] at hfirst
      have hlater := ih htail fun y hy => hkept y (List.mem_cons_of_mem _ hy)
      simp only [List.flatMap_cons, List.countP_append]
      omega

/-- The server asks for the settings of a document at most once between two messages that drop
them. -/
theorem asks_window_le (uri : Uri) {turns : List Turn} {before window rest : List Exchange}
    {n : Nat} {s : Server} (h : converse respond output turns n s = before ++ window ++ rest)
    (hkept : ∀ x ∈ window.tail, x.turn.message.drops uri = false) :
    (window.flatMap Exchange.actions).countP (Action.asks uri) ≤ 1 := by
  induction before generalizing turns n s with
  | nil =>
    cases window with
    | nil => simp
    | cons x window =>
      cases turns with
      | nil => simp [converse] at h
      | cons t turns =>
        -- the first message may drop the settings, and then ask for them once
        obtain ⟨rfl, htail⟩ := List.cons.inj h
        have hfirst := asks_respond_le t.settings output t.env t.message n s uri
        have hlater := asks_converse_le output uri htail hkept
        simp only [List.flatMap_cons, List.countP_append]
        omega
  | cons x before ih =>
    cases turns with
    | nil => simp [converse] at h
    | cons t turns => exact ih (List.cons.inj h).2

/-- As long as the editor changes its answers only together with a message about changed settings, a
conversation with the server differs in nothing but the questions for settings from one with a
server that asks for them at each use, in whatever order both visit the open documents. And between
two messages that drop the settings of a document, they are asked for at most once. -/
theorem converse_forgetful {turns : List Turn} (h : Turn.Steady turns) :
    (converse respond output turns 0 {}).map Exchange.visible =
        (converse (fun env m => (respond env m).forgetful) output turns 0 {}).map Exchange.visible ∧
      ∀ uri window, window <:+: converse respond output turns 0 {} →
        (∀ x ∈ window.tail, x.turn.message.drops uri = false) →
          (window.flatMap Exchange.actions).countP (Action.asks uri) ≤ 1 := by
  constructor
  · cases turns with
    | nil => rfl
    | cons t turns =>
      have hsound : ({} : Server).Sound t.settings := ⟨fun _ => rfl, nofun⟩
      exact map_visible_converse output hsound rfl (List.isChain_cons_cons.2 ⟨.inl rfl, h⟩) 0
  · rintro uri window ⟨before, rest, heq⟩ hkept
    exact asks_window_le output uri heq.symm hkept

/-- Two documents are opened, one is asked about, and then the settings change. The last document is
visited first. -/
theorem converse_forgetful_changed : ∃ turns : List Turn,
    (∀ t ∈ turns, t.env.visits = List.reverse) ∧ Turn.Steady turns ∧
    (converse respond (fun _ _ => []) turns 0 {}).map
      (fun x => x.actions.countP (!·.isVisible)) = [0, 1, 1, 0, 2] ∧
    (converse (fun env m => (respond env m).forgetful) (fun _ _ => []) turns 0 {}).map
      (fun x => x.actions.countP (!·.isVisible)) = [0, 2, 2, 1, 2] ∧
    (converse respond (fun _ _ => []) turns 0 {}).map Exchange.visible =
      (converse (fun env m => (respond env m).forgetful) (fun _ _ => []) turns 0 {}).map
        Exchange.visible := by
  let env : Surroundings := ⟨.ofFiles [] [], [], List.reverse, List.reverse_perm⟩
  let compiler (name : String) : Uri → Option (List Json) :=
    fun _ => some [.object [("compiler", .string name)]]
  let able : Json := .object [("capabilities", .object [("workspace", .object
    [("configuration", .bool true)])])]
  let document (uri : String) : Json :=
    .object [("uri", .string uri), ("languageId", .string "das"),
    ("version", .int 1), ("text", .string "")]
  let place : Json := .object [("textDocument", document "file:///a.das"),
    ("position", .object [("line", .int 0), ("character", .int 0)])]
  let opened (uri : String) : Envelope :=
    ⟨"textDocument/didOpen", some (.object [("textDocument", document uri)]), false⟩
  let turns : List Turn :=
    [⟨env, ⟨"initialize", some able, true⟩, compiler "a"⟩,
     ⟨env, opened "file:///a.das", compiler "a"⟩,
     ⟨env, opened "file:///b.das", compiler "a"⟩,
     ⟨env, ⟨"textDocument/hover", some place, true⟩, compiler "a"⟩,
     ⟨env, ⟨"workspace/didChangeConfiguration", some (.object [("settings", .null)]), false⟩,
      compiler "b"⟩]
  have hsteady : Turn.Steady turns := by
    refine .cons_cons (.inl rfl) (.cons_cons (.inl rfl) (.cons_cons (.inl rfl)
      (.cons_cons (.inr ⟨.null, ?_⟩) (.singleton _))))
    rfl
  exact ⟨turns, by simp [turns, env], hsteady, by decide +kernel, by decide +kernel,
    (converse_forgetful _ hsteady).1⟩

end Server

end EditorBridge
