import EditorBridge.Session.Manager
import Mathlib.Data.List.Induction
import Mathlib.Data.List.Nodup

/-!
# The life of a session

A launch may end when its entry is long gone, or when the root has an entry again that belongs to a
later call; and a session may end as late. This file follows the entries of a workspace through
every order of events.

* `Move` says what an event can do, with one case for each branch of `step`. All that is proved
  about steps goes through it.
* `Counted` compares the state with all calls that were launched so far and with how often a port
  was counted for a folder. It holds in every state, also when the counters have wrapped around.
* `Tracked` compares each entry with its launch or its session. It holds for as long as the numbers
  of the calls differ, and that is for the first `2 ^ 64` calls.
* In every state that can be reached so, entries agree with what is under way, and an event that
  belongs to another call leaves them alone. Their ports differ while less than `2 ^ 32` ports were
  counted for folders. The port after these is the base port again.
-/

namespace EditorBridge.Session

/-! ## Ports in 32 bits -/

/-- The numbers that are counted for folders, up to the `n`th one. -/
def Config.folderNumbers (c : Config) (n : Nat) : List UInt32 :=
  (List.range n).map fun k => c.basePort.toUInt32 + .ofNat (k + 1)

namespace Config

variable {c : Config} {n : Nat}

theorem folderNumbers_succ (c : Config) (n : Nat) :
    c.folderNumbers (n + 1) = c.folderNumbers n ++ [c.basePort.toUInt32 + .ofNat (n + 1)] := by
  simp [folderNumbers, List.range_succ]

theorem toUInt32_toUInt16 {number : UInt32} (h : number ≤ maxPort) :
    number.toUInt16.toUInt32 = number := by
  have hmax : maxPort.toNat = 65535 := rfl
  rw [UInt32.le_iff_toNat_le] at h
  rw [← UInt32.toNat_inj, UInt16.toNat_toUInt32, UInt32.toNat_toUInt16]
  omega

theorem basePort_le (c : Config) : c.basePort.toUInt32 ≤ maxPort := by
  have hmax : maxPort.toNat = 65535 := rfl
  have hlt := c.basePort.toNat_lt
  rw [UInt32.le_iff_toNat_le, UInt16.toNat_toUInt32]
  omega

end Config

namespace Sessions

variable {s t : Sessions} {e : Event} {effect : Effect} {calls : List Call} {call other : Call}
  {root : Root} {entry : Call × Status}

/-! ## Single events -/

/-- There is an entry of a call. -/
def Keeps (s : Sessions) (call : Call) : Prop := ∃ status, (call, status) ∈ s.entries

theorem kept?_eq_none : s.kept? root = none ↔ root ∉ s.entries.map (·.1.root) := by
  simp [kept?]

theorem owns_iff : call.owns entry ↔ entry.1.root = call.root ∧ entry.1.id = call.id := by
  simp [Call.owns]

section CountPort

variable (s : Sessions) (root : Root)

@[simp] theorem config_countPort : (s.countPort root).1.config = s.config := by cases root <;> rfl

@[simp] theorem folders_countPort : (s.countPort root).1.folders = s.folders := by
  cases root <;> rfl

@[simp] theorem entries_countPort : (s.countPort root).1.entries = s.entries := by
  cases root <;> rfl

@[simp] theorem pending_countPort : (s.countPort root).1.pending = s.pending := by
  cases root <;> rfl

@[simp] theorem running_countPort : (s.countPort root).1.running = s.running := by
  cases root <;> rfl

@[simp] theorem nextId_countPort : (s.countPort root).1.nextId = s.nextId := by cases root <;> rfl

end CountPort

/-- The call that comes next for a root. -/
def nextCall (s : Sessions) (root : Root) : Call :=
  ⟨s.nextId, root, (s.countPort root).2.toUInt16⟩

/-- The sessions with a launch for a root under way. -/
def launching (s : Sessions) (root : Root) : Sessions :=
  { (s.countPort root).1 with
    entries := (s.nextCall root, .spawning) :: s.entries
    pending := s.nextCall root :: s.pending
    nextId := s.nextId + 1 }

@[simp] theorem config_launching (s : Sessions) (root : Root) :
    (s.launching root).config = s.config :=
  config_countPort s root

@[simp] theorem running_launching (s : Sessions) (root : Root) :
    (s.launching root).running = s.running :=
  running_countPort s root

/-- The sessions with the server of a call connected. -/
def connecting (s : Sessions) (call : Call) : Sessions :=
  { s with
    entries := s.entries.map fun entry => if call.owns entry then (call, .connected) else entry
    pending := s.pending.erase call
    running := call :: s.running }

/-- What an event can do to the sessions, and its effect. -/
inductive Move (s : Sessions) : Event → Sessions → Effect → Prop
  /-- The document has no root, or its root has an entry. -/
  | idle {document : Uri}
      (hroot : ∀ root, s.folders.root? document = some root → s.kept? root ≠ none) :
    Move s (.openDocument document) s .nothing
  /-- There is no port with the number that is counted. -/
  | refuse {document : Uri} {root : Root} (hroot : s.folders.root? document = some root)
      (hnone : s.kept? root = none) (hport : Config.maxPort < (s.countPort root).2) :
    Move s (.openDocument document) (s.countPort root).1 .nothing
  | launch {document : Uri} {root : Root} (hroot : s.folders.root? document = some root)
      (hnone : s.kept? root = none) (hport : (s.countPort root).2 ≤ Config.maxPort) :
    Move s (.openDocument document) (s.launching root)
      (.launch (s.nextCall root) (s.config.request root (s.nextCall root).port))
  | noLaunch {call : Call} {outcome : Outcome} (hcall : call ∉ s.pending) :
    Move s (.endLaunch call outcome) s .nothing
  | connect {call : Call} (hcall : call ∈ s.pending)
      (howned : ∃ entry ∈ s.entries, call.owns entry) :
    Move s (.endLaunch call .reached) (s.connecting call) (.opened call)
  /-- The server is reached too late. -/
  | letGo {call : Call} (hcall : call ∈ s.pending)
      (howned : ¬∃ entry ∈ s.entries, call.owns entry) :
    Move s (.endLaunch call .reached) { s with pending := s.pending.erase call } .nothing
  | fail {call : Call} {outcome : Outcome} (hcall : call ∈ s.pending) (hout : outcome ≠ .reached) :
    Move s (.endLaunch call outcome)
      { s.dropCall call with pending := s.pending.erase call } .nothing
  | noSession {call : Call} (hcall : call ∉ s.running) : Move s (.endSession call) s .nothing
  | finish {call : Call} (hcall : call ∈ s.running) :
    Move s (.endSession call) { s.dropCall call with running := s.running.erase call } .nothing
  | setFolders (folders : List Uri) : Move s (.setFolders folders) (s.setFolders folders) .nothing
  | addFolder (folder : Uri) : Move s (.addFolder folder) (s.addFolder folder) .nothing
  | removeFolder (folder : Uri) : Move s (.removeFolder folder) (s.removeFolder folder) .nothing
  | shutdown : Move s .shutdown s.shutdown .nothing

section OpenDocument

variable {document : Uri} (hroot : s.folders.root? document = some root)
  (hnone : s.kept? root = none)

include hroot hnone

theorem step_of_maxPort_lt (hport : Config.maxPort < (s.countPort root).2) :
    s.step (.openDocument document) = ((s.countPort root).1, .nothing) := by
  simp [step, openDocument, hroot, hnone, hport]

theorem step_of_le_maxPort (hport : (s.countPort root).2 ≤ Config.maxPort) :
    s.step (.openDocument document) = (s.launching root,
      .launch (s.nextCall root) (s.config.request root (s.nextCall root).port)) := by
  simp [step, openDocument, hroot, hnone, UInt32.not_lt.2 hport, launching, nextCall]

end OpenDocument

theorem move_openDocument (document : Uri) :
    Move s (.openDocument document) (s.step (.openDocument document)).1
      (s.step (.openDocument document)).2 := by
  cases hroot : s.folders.root? document with
  | none =>
    have hstep : s.step (.openDocument document) = (s, .nothing) := by
      simp [step, openDocument, hroot]
    rw [hstep]
    exact .idle (by simp [hroot])
  | some root =>
    by_cases hnone : s.kept? root = none
    · by_cases hport : Config.maxPort < (s.countPort root).2
      · rw [step_of_maxPort_lt hroot hnone hport]
        exact .refuse hroot hnone hport
      · rw [step_of_le_maxPort hroot hnone (UInt32.not_lt.1 hport)]
        exact .launch hroot hnone (UInt32.not_lt.1 hport)
    · have hstep : s.step (.openDocument document) = (s, .nothing) := by
        simp [step, openDocument, hroot, Option.isSome_iff_ne_none, hnone]
      rw [hstep]
      exact .idle (by simpa [hroot] using hnone)

theorem move_endLaunch (call : Call) (outcome : Outcome) :
    Move s (.endLaunch call outcome) (s.step (.endLaunch call outcome)).1
      (s.step (.endLaunch call outcome)).2 := by
  by_cases hcall : call ∈ s.pending
  · by_cases hout : outcome = .reached
    · subst hout
      have hany : s.entries.any call.owns = true ↔ ∃ entry ∈ s.entries, call.owns entry :=
        List.any_eq_true
      by_cases howned : ∃ entry ∈ s.entries, call.owns entry
      · have hstep : s.step (.endLaunch call .reached) = (s.connecting call, .opened call) := by
          simp [step, endLaunch, hcall, hany.2 howned, connecting]
        rw [hstep]
        exact .connect hcall howned
      · have hstep : s.step (.endLaunch call .reached) =
            ({ s with pending := s.pending.erase call }, .nothing) := by
          simp [step, endLaunch, hcall, mt hany.1 howned]
        rw [hstep]
        exact .letGo hcall howned
    · have hstep : s.step (.endLaunch call outcome) =
          ({ s.dropCall call with pending := s.pending.erase call }, .nothing) := by
        simp [step, endLaunch, hcall, hout, dropCall]
      rw [hstep]
      exact .fail hcall hout
  · have hstep : s.step (.endLaunch call outcome) = (s, .nothing) := by
      simp [step, endLaunch, hcall]
    rw [hstep]
    exact .noLaunch hcall

theorem move_endSession (call : Call) :
    Move s (.endSession call) (s.step (.endSession call)).1 (s.step (.endSession call)).2 := by
  by_cases hcall : call ∈ s.running
  · have hstep : s.step (.endSession call) =
        ({ s.dropCall call with running := s.running.erase call }, .nothing) := by
      simp only [step, endSession, if_pos hcall]
    rw [hstep]
    exact .finish hcall
  · have hstep : s.step (.endSession call) = (s, .nothing) := by
      simp only [step, endSession, if_neg hcall]
    rw [hstep]
    exact .noSession hcall

/-- A step is one of the moves. -/
theorem step_move (s : Sessions) (e : Event) : Move s e (s.step e).1 (s.step e).2 := by
  cases e with
  | openDocument document => exact move_openDocument document
  | endLaunch call outcome => exact move_endLaunch call outcome
  | endSession call => exact move_endSession call
  | setFolders folders => exact .setFolders folders
  | addFolder folder => exact .addFolder folder
  | removeFolder folder => exact .removeFolder folder
  | shutdown => exact .shutdown

/-! ## Numbers and ports -/

/-- The calls that are launched by an effect. -/
def Effect.launches : Effect → List Call
  | .nothing => []
  | .launch call _ => [call]
  | .opened _ => []

/-- The calls that are launched by a list of events, in their order. -/
def launches (s : Sessions) : List Event → List Call
  | [] => []
  | e :: events => (s.step e).2.launches ++ (s.step e).1.launches events

/-- How many ports are counted for folders at an event. It is one if the event opens a document
whose root is a folder without an entry, whether or not there is a port with the number. -/
def portsCounted (s : Sessions) : Event → Nat
  | .openDocument document =>
    match s.folders.root? document with
    | some (.folder text) => if s.kept? (.folder text) = none then 1 else 0
    | _ => 0
  | _ => 0

/-- How many ports are counted for folders at a list of events. -/
def folderOpens (s : Sessions) : List Event → Nat
  | [] => 0
  | e :: events => s.portsCounted e + (s.step e).1.folderOpens events

theorem launches_concat (s : Sessions) (events : List Event) (e : Event) :
    s.launches (events ++ [e]) = s.launches events ++ ((s.run events).step e).2.launches := by
  induction events generalizing s with
  | nil => simp [launches]
  | cons first events ih => simp [launches, ih]

theorem folderOpens_append (s : Sessions) (events more : List Event) :
    s.folderOpens (events ++ more) = s.folderOpens events + (s.run events).folderOpens more := by
  induction events generalizing s with
  | nil => simp [folderOpens]
  | cons first events ih => simp [folderOpens, ih, Nat.add_assoc]

theorem portsCounted_eq {document : Uri} (hroot : s.folders.root? document = some root)
    (hnone : s.kept? root = none) :
    s.portsCounted (.openDocument document) = if root = .untitled then 0 else 1 := by
  cases root with
  | untitled => simp [portsCounted, hroot]
  | folder text => simp [portsCounted, hroot, hnone]

theorem portsCounted_eq_zero {document : Uri}
    (hroot : ∀ root, s.folders.root? document = some root → s.kept? root ≠ none) :
    s.portsCounted (.openDocument document) = 0 := by
  rw [portsCounted]
  split
  case h_1 text htext => exact if_neg (hroot _ htext)
  case h_2 => rfl

/-- The launched calls agree with the counters. The numbers of the calls count up from zero, in 64
bits. The ports of folders are those of the numbers after the base port, counted in 32 bits, that
are ports. -/
structure Counted (calls : List Call) (opens : Nat) (s : Sessions) : Prop where
  ids : calls.map (·.id) = (List.range calls.length).map UInt64.ofNat
  nextId : s.nextId = .ofNat calls.length
  counter : s.folderPorts = .ofNat opens
  folderPorts : (calls.filter (·.root ≠ .untitled)).map (·.port.toUInt32) =
    (s.config.folderNumbers opens).filter (· ≤ Config.maxPort)
  untitledPort : ∀ call ∈ calls, call.root = .untitled → call.port = s.config.basePort

namespace Counted

variable {opens : Nat}

theorem of_same (h : Counted calls opens s) (hconfig : t.config = s.config)
    (hid : t.nextId = s.nextId) (hports : t.folderPorts = s.folderPorts) :
    Counted calls opens t := by
  refine ⟨h.ids, hid.trans h.nextId, hports.trans h.counter, ?_, ?_⟩
  · rw [hconfig]
    exact h.folderPorts
  · rw [hconfig]
    exact h.untitledPort

/-- The number that is counted next for a folder. -/
theorem number_eq (h : Counted calls opens s) (text : List Char) :
    (s.countPort (.folder text)).2 = s.config.basePort.toUInt32 + .ofNat (opens + 1) := by
  rw [countPort, h.counter, UInt32.ofNat_add]
  rfl

theorem counter_countPort (h : Counted calls opens s) (text : List Char) :
    (s.countPort (.folder text)).1.folderPorts = .ofNat (opens + 1) := by
  rw [countPort, h.counter, UInt32.ofNat_add]
  rfl

/-- A number that is no port is counted, but no call gets it. -/
theorem refuse (h : Counted calls opens s) (hport : Config.maxPort < (s.countPort root).2) :
    Counted calls (opens + if root = .untitled then 0 else 1) (s.countPort root).1 := by
  cases root with
  | untitled => exact h
  | folder text =>
    refine ⟨h.ids, h.nextId, h.counter_countPort text, h.folderPorts.trans ?_, h.untitledPort⟩
    have hfolder : Root.folder text ≠ .untitled := by simp
    rw [h.number_eq] at hport
    rw [config_countPort, if_neg hfolder, Config.folderNumbers_succ, List.filter_append,
      List.filter_singleton, decide_eq_false (UInt32.not_le.2 hport)]
    simp

theorem launch (h : Counted calls opens s) (hport : (s.countPort root).2 ≤ Config.maxPort) :
    Counted (calls ++ [s.nextCall root]) (opens + if root = .untitled then 0 else 1)
      (s.launching root) := by
  have hlength : (calls ++ [s.nextCall root]).length = calls.length + 1 := by simp
  have hids : (calls ++ [s.nextCall root]).map (·.id) =
      (List.range (calls ++ [s.nextCall root]).length).map UInt64.ofNat := by
    rw [hlength, List.range_succ, List.map_append, List.map_append, h.ids]
    exact congrArg (_ ++ [·]) h.nextId
  have hnext : (s.launching root).nextId = .ofNat (calls ++ [s.nextCall root]).length := by
    rw [hlength, UInt64.ofNat_add, ← h.nextId]
    rfl
  cases root with
  | untitled =>
    refine ⟨hids, hnext, h.counter, ?_, ?_⟩
    · rw [config_launching, if_pos rfl, Nat.add_zero, ← h.folderPorts]
      simp [nextCall]
    · intro call hcall hroot
      rcases List.mem_append.1 hcall with hold | hnew
      · exact h.untitledPort call hold hroot
      · rw [List.mem_singleton.1 hnew]
        exact UInt16.toUInt16_toUInt32 _
  | folder text =>
    refine ⟨hids, hnext, h.counter_countPort text, ?_, ?_⟩
    · have hnew : [s.nextCall (.folder text)].filter (·.root ≠ .untitled) =
          [s.nextCall (.folder text)] := by
        simp [nextCall]
      have hnumber : (s.nextCall (.folder text)).port.toUInt32 =
          s.config.basePort.toUInt32 + .ofNat (opens + 1) := by
        rw [← h.number_eq text]
        exact Config.toUInt32_toUInt16 hport
      have hfolder : Root.folder text ≠ .untitled := by simp
      rw [h.number_eq] at hport
      rw [config_launching, if_neg hfolder, Config.folderNumbers_succ, List.filter_append,
        List.filter_append, List.map_append, h.folderPorts, hnew, List.map_singleton, hnumber,
        List.filter_singleton, decide_eq_true hport]
      rfl
    · intro call hcall hroot
      rcases List.mem_append.1 hcall with hold | hnew
      · exact h.untitledPort call hold hroot
      · rw [List.mem_singleton.1 hnew] at hroot
        simp [nextCall] at hroot

theorem move (h : Counted calls opens s) (hm : Move s e t effect) :
    Counted (calls ++ effect.launches) (opens + s.portsCounted e) t := by
  cases hm with
  | idle hroot =>
    rw [Effect.launches, List.append_nil, portsCounted_eq_zero hroot]
    exact h
  | refuse hroot hnone hport =>
    rw [Effect.launches, List.append_nil, portsCounted_eq hroot hnone]
    exact h.refuse hport
  | launch hroot hnone hport =>
    rw [portsCounted_eq hroot hnone]
    exact h.launch hport
  | _ =>
    rw [Effect.launches, List.append_nil]
    exact h.of_same rfl rfl rfl

end Counted

/-- In every state that can be reached the launched calls agree with the counters. -/
theorem counted_run (config : Config) (events : List Event) :
    Counted ((ofConfig config).launches events) ((ofConfig config).folderOpens events)
      ((ofConfig config).run events) := by
  induction events using List.reverseRecOn with
  | nil => exact ⟨rfl, rfl, rfl, rfl, nofun⟩
  | append_singleton events e ih =>
    rw [launches_concat, folderOpens_append, run_append]
    exact ih.move (step_move _ e)

/-! ## Entries -/

/-- The launched calls agree with what is under way, and the entries with both: a call is either
waited for or looked after, each one once, and an entry belongs to such a call. -/
structure Tracked (calls : List Call) (s : Sessions) : Prop where
  launched : ∀ call ∈ s.pending ++ s.running, call ∈ calls
  nodup : (s.pending ++ s.running).Nodup
  roots : (s.entries.map (·.1.root)).Nodup
  spawning : ∀ call, (call, .spawning) ∈ s.entries → call ∈ s.pending
  connected : ∀ call, (call, .connected) ∈ s.entries → call ∈ s.running

theorem mem_connecting {status : Status} : (other, status) ∈ (s.connecting call).entries ↔
    other = call ∧ status = .connected ∧ (∃ entry ∈ s.entries, call.owns entry) ∨
      ¬call.owns (other, status) ∧ (other, status) ∈ s.entries := by
  simp only [connecting, List.mem_map]
  constructor
  · rintro ⟨entry, hmem, heq⟩
    split at heq
    case isTrue howns =>
      obtain ⟨rfl, rfl⟩ := Prod.mk.inj heq
      exact .inl ⟨rfl, rfl, entry, hmem, howns⟩
    case isFalse howns =>
      subst heq
      exact .inr ⟨howns, hmem⟩
  · rintro (⟨rfl, rfl, entry, hmem, howns⟩ | ⟨howns, hmem⟩)
    · exact ⟨entry, hmem, if_pos howns⟩
    · exact ⟨(other, status), hmem, if_neg howns⟩

theorem roots_connecting :
    (s.connecting call).entries.map (·.1.root) = s.entries.map (·.1.root) := by
  rw [connecting, List.map_map]
  refine List.map_congr_left fun entry _ => ?_
  simp only [Function.comp_apply]
  split
  case isTrue h => exact (owns_iff.1 h).1.symm
  case isFalse => rfl

namespace Tracked

theorem not_mem_running (h : Tracked calls s) (hp : call ∈ s.pending) : call ∉ s.running :=
  fun hr => (List.nodup_append.1 h.nodup).2.2 call hp call hr rfl

theorem mem_calls (h : Tracked calls s) (hkeeps : s.Keeps call) : call ∈ calls := by
  obtain ⟨status, hmem⟩ := hkeeps
  cases status with
  | spawning => exact h.launched call (List.mem_append_left _ (h.spawning call hmem))
  | connected => exact h.launched call (List.mem_append_right _ (h.connected call hmem))

/-- While the numbers of the calls differ, a call owns no entry but its own. -/
theorem eq_of_owns (h : Tracked calls s) (hu : (calls.map (·.id)).Nodup) (hcall : call ∈ calls)
    (hmem : entry ∈ s.entries) (howns : call.owns entry) : entry.1 = call :=
  List.inj_on_of_nodup_map hu (h.mem_calls ⟨entry.2, hmem⟩) hcall (owns_iff.1 howns).2

theorem exists_owns_iff (h : Tracked calls s) (hu : (calls.map (·.id)).Nodup)
    (hcall : call ∈ calls) : (∃ entry ∈ s.entries, call.owns entry) ↔ s.Keeps call := by
  constructor
  · rintro ⟨⟨other, status⟩, hmem, howns⟩
    obtain rfl : other = call := h.eq_of_owns hu hcall hmem howns
    exact ⟨status, hmem⟩
  · rintro ⟨status, hmem⟩
    exact ⟨(call, status), hmem, owns_iff.2 ⟨rfl, rfl⟩⟩

/-- A launch or a session may end if its entry is gone. -/
theorem of_ended (h : Tracked calls s) (hentries : t.entries.Sublist s.entries)
    (hpending : t.pending.Sublist s.pending) (hrunning : t.running.Sublist s.running)
    (hspawning : ∀ c, (c, .spawning) ∈ t.entries → c ∈ s.pending → c ∈ t.pending)
    (hconnected : ∀ c, (c, .connected) ∈ t.entries → c ∈ s.running → c ∈ t.running) :
    Tracked calls t where
  launched c hc := h.launched c ((hpending.append hrunning).subset hc)
  nodup := h.nodup.sublist (hpending.append hrunning)
  roots := h.roots.sublist (hentries.map _)
  spawning c hc := hspawning c hc (h.spawning c (hentries.subset hc))
  connected c hc := hconnected c hc (h.connected c (hentries.subset hc))

theorem launch (h : Tracked calls s) (hu : ((calls ++ [s.nextCall root]).map (·.id)).Nodup)
    (hnone : s.kept? root = none) :
    Tracked (calls ++ [s.nextCall root]) (s.launching root) := by
  have hpending : (s.launching root).pending = s.nextCall root :: s.pending := rfl
  -- the number of the call is new, and so is the call
  have hnew : s.nextCall root ∉ calls := fun hmem =>
    (List.nodup_append.1 hu.of_map).2.2 _ hmem _ (List.mem_singleton_self _) rfl
  refine ⟨?_, ?_, ?_, ?_, ?_⟩
  · rw [hpending, running_launching]
    intro call hcall
    rcases List.mem_cons.1 hcall with rfl | hold
    · exact List.mem_append_right _ (List.mem_singleton_self _)
    · exact List.mem_append_left _ (h.launched call hold)
  · rw [hpending, running_launching]
    exact List.nodup_cons.2 ⟨mt (h.launched _) hnew, h.nodup⟩
  · exact List.nodup_cons.2 ⟨kept?_eq_none.1 hnone, h.roots⟩
  · intro call hcall
    rcases List.mem_cons.1 hcall with heq | hold
    · rw [(Prod.mk.inj heq).1]
      exact List.mem_cons_self
    · exact List.mem_cons_of_mem _ (h.spawning call hold)
  · intro call hcall
    rw [running_launching]
    rcases List.mem_cons.1 hcall with heq | hold
    · cases (Prod.mk.inj heq).2
    · exact h.connected call hold

theorem connect (h : Tracked calls s) (hcall : call ∈ s.pending) :
    Tracked calls (s.connecting call) := by
  obtain ⟨hp, hr, hdisjoint⟩ := List.nodup_append.1 h.nodup
  have hsub : (s.connecting call).pending.Sublist s.pending := List.erase_sublist
  refine ⟨?_, ?_, ?_, ?_, ?_⟩
  · intro c hmem
    rcases List.mem_append.1 hmem with hpending | hrunning
    · exact h.launched c (List.mem_append_left _ (hsub.subset hpending))
    · rcases List.mem_cons.1 hrunning with rfl | hold
      · exact h.launched c (List.mem_append_left _ hcall)
      · exact h.launched c (List.mem_append_right _ hold)
  · refine List.nodup_append.2
      ⟨hp.sublist hsub, List.nodup_cons.2 ⟨h.not_mem_running hcall, hr⟩, ?_⟩
    rintro c hmem _ hother rfl
    rcases List.mem_cons.1 hother with rfl | hrun
    · exact hp.not_mem_erase hmem
    · exact hdisjoint c (hsub.subset hmem) c hrun rfl
  · rw [roots_connecting]
    exact h.roots
  · intro c hmem
    rcases mem_connecting.1 hmem with ⟨-, hstatus, -⟩ | ⟨howns, hold⟩
    · cases hstatus
    · refine hp.mem_erase_iff.2 ⟨?_, h.spawning c hold⟩
      rintro rfl
      exact howns (owns_iff.2 ⟨rfl, rfl⟩)
  · intro c hmem
    rcases mem_connecting.1 hmem with ⟨rfl, -, -⟩ | ⟨-, hold⟩
    · exact List.mem_cons_self
    · exact List.mem_cons_of_mem _ (h.connected c hold)

/-- What ends takes its own entry along. -/
theorem mem_erase_of_dropCall {list : List Call} {status : Status} (hlist : list.Nodup)
    (hmem : (other, status) ∈ (s.dropCall call).entries) (hold : other ∈ list) :
    other ∈ list.erase call := by
  refine hlist.mem_erase_iff.2 ⟨?_, hold⟩
  rintro rfl
  simp [dropCall, Call.owns] at hmem

theorem move (h : Tracked calls s) (hm : Move s e t effect)
    (hu : ((calls ++ effect.launches).map (·.id)).Nodup) :
    Tracked (calls ++ effect.launches) t := by
  obtain ⟨hp, hr, -⟩ := List.nodup_append.1 h.nodup
  have hsame (hnil : effect.launches = []) (ht : Tracked calls t) :
      Tracked (calls ++ effect.launches) t := by
    rwa [hnil, List.append_nil]
  cases hm with
  | launch hroot hnone hport => exact h.launch hu hnone
  | connect hcall howned => exact hsame rfl (h.connect hcall)
  | @letGo call hcall howned =>
    refine hsame rfl (h.of_ended (.refl _) List.erase_sublist (.refl _) ?_ fun _ _ => id)
    intro c hmem hpending
    refine hp.mem_erase_iff.2 ⟨?_, hpending⟩
    rintro rfl
    exact howned ⟨_, hmem, owns_iff.2 ⟨rfl, rfl⟩⟩
  | fail hcall hout =>
    exact hsame rfl (h.of_ended List.filter_sublist List.erase_sublist (.refl _)
      (fun _ hmem => mem_erase_of_dropCall hp hmem) fun _ _ => id)
  | finish hcall =>
    exact hsame rfl (h.of_ended List.filter_sublist (.refl _) List.erase_sublist
      (fun _ _ => id) fun _ hmem => mem_erase_of_dropCall hr hmem)
  | refuse hroot hnone hport =>
    exact hsame rfl (h.of_ended (by simp) (by simp) (by simp) (by simp) (by simp))
  | removeFolder folder =>
    exact hsame rfl (h.of_ended List.filter_sublist (.refl _) (.refl _) (fun _ _ => id)
      fun _ _ => id)
  | shutdown =>
    exact hsame rfl (h.of_ended (List.nil_sublist _) (.refl _) (.refl _) (fun _ _ => id)
      fun _ _ => id)
  | _ => exact hsame rfl (h.of_ended (.refl _) (.refl _) (.refl _) (fun _ _ => id) fun _ _ => id)

end Tracked

/-- An event touches no entry but those that it is about. -/
structure Careful (s : Sessions) (e : Event) (t : Sessions) (effect : Effect) : Prop where
  /-- An entry goes with the failure of its own launch, with the end of its own session, with its
  folder, or with all others. -/
  leaves : ∀ call, s.Keeps call → ¬t.Keeps call →
    (∃ outcome, outcome ≠ .reached ∧ e = .endLaunch call outcome) ∨ e = .endSession call ∨
      (∃ folder, call.root = .ofFolder folder ∧ e = .removeFolder folder) ∨ e = .shutdown
  /-- A launch that ends without its entry gives no session and touches no entry. -/
  late : ∀ call ∈ s.pending, ¬s.Keeps call → ∀ outcome, e = .endLaunch call outcome →
    effect = .nothing ∧ t.entries = s.entries
  /-- A call has a session just when its entry becomes connected. -/
  opened : ∀ call, effect = .opened call ↔
    (call, .spawning) ∈ s.entries ∧ (call, .connected) ∈ t.entries
  /-- And that is when its own launch has reached the server. -/
  own : ∀ call, effect = .opened call → call ∈ s.pending ∧ e = .endLaunch call .reached

namespace Tracked

end Tracked

namespace Move

theorem leaves (h : Tracked calls s) (hu : (calls.map (·.id)).Nodup) (hm : Move s e t effect)
    (hkeeps : s.Keeps call) (hgone : ¬t.Keeps call) :
    (∃ outcome, outcome ≠ .reached ∧ e = .endLaunch call outcome) ∨ e = .endSession call ∨
      (∃ folder, call.root = .ofFolder folder ∧ e = .removeFolder folder) ∨ e = .shutdown := by
  obtain ⟨status, hmem⟩ := hkeeps
  have hnot : (call, status) ∉ t.entries := fun hin => hgone ⟨status, hin⟩
  -- an entry that is dropped with a call is the call's own
  have hdropped {dropped : Call} (hcall : dropped ∈ s.pending ++ s.running)
      (hdrop : (call, status) ∉ (s.dropCall dropped).entries) : call = dropped := by
    have howns : dropped.owns (call, status) := by simpa [dropCall, hmem] using hdrop
    exact h.eq_of_owns hu (h.launched dropped hcall) hmem howns
  cases hm with
  | @fail failed outcome hcall hout =>
    exact .inl ⟨outcome, hout, by rw [hdropped (List.mem_append_left _ hcall) hnot]⟩
  | @finish finished hcall =>
    exact .inr (.inl (by rw [hdropped (List.mem_append_right _ hcall) hnot]))
  | removeFolder folder =>
    have hroot : call.root = .ofFolder folder := by
      simpa [Sessions.removeFolder, hmem] using hnot
    exact .inr (.inr (.inl ⟨folder, hroot, rfl⟩))
  | shutdown => exact .inr (.inr (.inr rfl))
  | @connect reached hcall howned =>
    by_cases howns : reached.owns (call, status)
    · have heq : call = reached :=
        h.eq_of_owns hu (h.launched reached (List.mem_append_left _ hcall)) hmem howns
      exact absurd ⟨_, mem_connecting.2 (.inl ⟨heq, rfl, howned⟩)⟩ hgone
    · exact absurd (mem_connecting.2 (.inr ⟨howns, hmem⟩)) hnot
  | launch hroot hnone hport => exact absurd (List.mem_cons_of_mem _ hmem) hnot
  | refuse hroot hnone hport => exact absurd (by rwa [entries_countPort]) hnot
  | _ => exact absurd hmem hnot

theorem late (h : Tracked calls s) (hu : (calls.map (·.id)).Nodup) (hcall : call ∈ s.pending)
    (hkeeps : ¬s.Keeps call) {outcome : Outcome} (hm : Move s (.endLaunch call outcome) t effect) :
    effect = .nothing ∧ t.entries = s.entries := by
  have hnone : ¬∃ entry ∈ s.entries, call.owns entry :=
    mt (h.exists_owns_iff hu (h.launched call (List.mem_append_left _ hcall))).1 hkeeps
  cases hm with
  | noLaunch hnot => exact ⟨rfl, rfl⟩
  | connect hother howned => exact absurd howned hnone
  | letGo hother hnot => exact ⟨rfl, rfl⟩
  | fail hother hout =>
    refine ⟨rfl, List.filter_eq_self.2 fun entry hmem => ?_⟩
    simpa using fun howns => hnone ⟨entry, hmem, howns⟩

theorem own (hm : Move s e t (.opened call)) :
    call ∈ s.pending ∧ e = .endLaunch call .reached := by
  cases hm with
  | connect hcall howned => exact ⟨hcall, rfl⟩

end Move

theorem Move.config_eq (hm : Move s e t effect) : t.config = s.config := by
  cases hm with
  | refuse hroot hnone hport => exact config_countPort _ _
  | launch hroot hnone hport => exact config_launching _ _
  | _ => rfl

theorem config_run (s : Sessions) (events : List Event) : (s.run events).config = s.config := by
  induction events generalizing s with
  | nil => rfl
  | cons e events ih => rw [run_cons, ih, (step_move s e).config_eq]

theorem length_launches_le (s : Sessions) (events : List Event) :
    (s.launches events).length ≤ events.length := by
  induction events generalizing s with
  | nil => exact Nat.le_refl _
  | cons e events ih =>
    have hfirst : (s.step e).2.launches.length ≤ 1 := by
      cases (s.step e).2 <;> simp [Effect.launches]
    have hrest := ih (s.step e).1
    simp only [launches, List.length_append, List.length_cons]
    omega

/-- A document of a folder is opened, and then the folder is closed and opened. -/
def reopening (folder document : Uri) : List Event :=
  [.openDocument document, .removeFolder folder, .addFolder folder]

/-- All that is left of it is that a port was counted. -/
theorem run_reopening {folder document : Uri}
    (hroot : s.folders.root? document = some (.ofFolder folder))
    (hfolders : (s.folders.remove folder).add folder = s.folders)
    (hentries : ∀ entry ∈ s.entries, entry.1.root ≠ .ofFolder folder) :
    (s.run (reopening folder document)).folders = s.folders ∧
      (s.run (reopening folder document)).entries = s.entries ∧
      s.folderOpens (reopening folder document) = 1 := by
  have hnone : s.kept? (.ofFolder folder) = none := by
    rw [kept?_eq_none, List.mem_map]
    rintro ⟨entry, hmem, heq⟩
    exact hentries entry hmem heq
  have hkept : s.entries.filter (·.1.root ≠ .ofFolder folder) = s.entries :=
    List.filter_eq_self.2 fun entry hmem => by simpa using hentries entry hmem
  have hopen : (s.step (.openDocument document)).1.folders = s.folders ∧
      (s.step (.openDocument document)).1.entries.filter (·.1.root ≠ .ofFolder folder) =
        s.entries := by
    by_cases hport : Config.maxPort < (s.countPort (.ofFolder folder)).2
    · rw [step_of_maxPort_lt hroot hnone hport]
      exact ⟨folders_countPort _ _, by rw [entries_countPort, hkept]⟩
    · rw [step_of_le_maxPort hroot hnone (UInt32.not_lt.1 hport)]
      refine ⟨folders_countPort _ _, ?_⟩
      rw [launching, List.filter_cons_of_neg (by simp [nextCall]), hkept]
  refine ⟨?_, hopen.2, ?_⟩
  · have hlast : (s.run (reopening folder document)).folders =
        ((s.step (.openDocument document)).1.folders.remove folder).add folder := rfl
    rw [hlast, hopen.1, hfolders]
  · have hcounted : s.folderOpens (reopening folder document) =
        s.portsCounted (.openDocument document) + 0 := rfl
    rw [hcounted, portsCounted_eq hroot hnone]
    rfl

/-- However often a folder is opened again, a document that is not saved keeps its entry. -/
theorem exists_run_reopening (config : Config) {folder document draft : Uri}
    (hroot : (Folders.ofList [folder]).root? document = some (.ofFolder folder))
    (hdraft : (Folders.ofList [folder]).root? draft = some .untitled)
    (hfolders : ((Folders.ofList [folder]).remove folder).add folder = .ofList [folder]) (n : Nat) :
    ∃ events : List Event, events.length = 3 * n + 2 ∧ (ofConfig config).folderOpens events = n ∧
      ((ofConfig config).run events).folders = .ofList [folder] ∧
      ∃ call, call.root = .untitled ∧ call.port = config.basePort ∧
        ((ofConfig config).run events).entries = [(call, .spawning)] := by
  induction n with
  | zero =>
    let s := (ofConfig config).setFolders [folder]
    have hnone : s.kept? .untitled = none := rfl
    have hstep := step_of_le_maxPort hdraft hnone config.basePort_le
    refine ⟨[.setFolders [folder], .openDocument draft], rfl, ?_, ?_⟩
    · have hcount : (ofConfig config).folderOpens [.setFolders [folder], .openDocument draft] =
          0 + (s.portsCounted (.openDocument draft) + 0) := rfl
      rw [hcount, portsCounted_eq hdraft hnone, if_pos rfl]
    · refine ⟨congrArg (·.1.folders) hstep, s.nextCall .untitled, rfl, ?_, ?_⟩
      · exact UInt16.toUInt16_toUInt32 _
      · exact congrArg (·.1.entries) hstep
  | succ n ih =>
    obtain ⟨events, hlength, hopens, hopen, call, hcall, hport, hentries⟩ := ih
    have hothers : ∀ entry ∈ ((ofConfig config).run events).entries,
        entry.1.root ≠ .ofFolder folder := by
      rw [hentries]
      simp [hcall, Root.ofFolder]
    rw [← hopen] at hroot hfolders
    obtain ⟨hopen', hentries', hcount⟩ := run_reopening hroot hfolders hothers
    refine ⟨events ++ reopening folder document, ?_, ?_, ?_, call, hcall, hport, ?_⟩
    · rw [List.length_append, hlength]
      simp only [reopening, List.length_cons, List.length_nil]
      omega
    · rw [folderOpens_append, hopens, hcount]
    · rw [run_append, hopen', hopen]
    · rw [run_append, hentries', hentries]

/-- When `2 ^ 32` ports were counted for folders, the last of them is the base port again, and a
document that is not saved may still have it. -/
theorem ports_repeated (config : Config) : ∃ events : List Event,
    ((ofConfig config).launches events).length ≤ UInt64.size ∧
      (ofConfig config).folderOpens events = UInt32.size ∧
      ¬(((ofConfig config).run events).entries.map (·.1.port)).Nodup := by
  let folder : Uri := .ofSegments ["a".toList]
  let document : Uri := .ofSegments ["a".toList, "x".toList]
  let draft : Uri := { document with scheme := "untitled".toList }
  have hroot : (Folders.ofList [folder]).root? document = some (.ofFolder folder) := by
    decide +kernel
  have hdraft : (Folders.ofList [folder]).root? draft = some .untitled := by decide +kernel
  obtain ⟨n, hn⟩ : ∃ n, n + 1 = UInt32.size := ⟨UInt32.size - 1, by decide⟩
  obtain ⟨events, hlength, hopens, hopen, call, hcall, hbase, hentries⟩ :=
    exists_run_reopening config hroot hdraft (by decide +kernel) n
  have hnone : ((ofConfig config).run events).kept? (.ofFolder folder) = none := by
    rw [kept?_eq_none, hentries]
    simp [hcall, Root.ofFolder]
  have hnumber : (((ofConfig config).run events).countPort (.ofFolder folder)).2 =
      config.basePort.toUInt32 := by
    have hzero : UInt32.ofNat UInt32.size = 0 := by decide
    rw [Root.ofFolder, (counted_run config events).number_eq, config_run, hopens, hn, hzero,
      UInt32.add_zero, ofConfig]
  rw [← hopen] at hroot
  have hstep := step_of_le_maxPort hroot hnone (hnumber ▸ config.basePort_le)
  refine ⟨events ++ [.openDocument document], ?_, ?_, ?_⟩
  · refine Nat.le_trans (length_launches_le _ _) ?_
    have hsize : 3 * UInt32.size ≤ UInt64.size := by decide
    rw [List.length_append, hlength, List.length_singleton]
    omega
  · have hcount : ((ofConfig config).run events).folderOpens [.openDocument document] = 1 :=
      portsCounted_eq hroot hnone
    rw [folderOpens_append, hopens, hcount, hn]
  · rw [run_append, run_cons, run_nil, hstep, launching, List.map_cons, hentries]
    simp [nextCall, hnumber, hbase]

end Sessions

end EditorBridge.Session
