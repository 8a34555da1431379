import EditorBridge.Proofs.Session.Protocol
import Mathlib.Data.List.Infix

/-!
# Roots and their servers

Two questions about the roots of a workspace: which of them can get a server, and whether those that
have one are open.

* A folder is given the number after those that were counted for folders before it, whether or not
  these were ports, and a number does not come back before the counter has wrapped around. So it
  depends on all folders that were ever asked for whether a folder is launched, however many servers
  are left.
* Closing a folder drops its entry, but setting the open folders does not. The servers of a
  workspace belong to open folders for as long as no folder that has an entry is left out when the
  folders are set.
-/

namespace EditorBridge

/-- A root is open: a folder must be among the open ones, and the root of documents that are not
saved always is. -/
def Folders.Covers (folders : Folders) : Root → Prop
  | .untitled => True
  | .folder text => text ∈ folders.texts

namespace Folders

instance (folders : Folders) : DecidablePred folders.Covers
  | .untitled => .isTrue trivial
  | .folder text => inferInstanceAs (Decidable (text ∈ folders.texts))

variable {folders : Folders} {uri document : Uri} {uris : List Uri} {root : Root}

theorem covers_ofList :
    (ofList uris).Covers root ↔ root = .untitled ∨ ∃ uri ∈ uris, root = .ofFolder uri := by
  cases root with
  | untitled => simp [Covers]
  | folder text => simp [Covers, Root.ofFolder]

theorem Covers.add (h : folders.Covers root) : (folders.add uri).Covers root := by
  cases root with
  | untitled => exact h
  | folder text => exact mem_texts_add.2 (.inr h)

theorem Covers.remove (h : folders.Covers root) (hne : root ≠ .ofFolder uri) :
    (folders.remove uri).Covers root := by
  cases root with
  | untitled => exact h
  | folder text => exact mem_texts_remove.2 ⟨h, fun heq => hne (congrArg _ heq)⟩

/-- The root of a document is open. -/
theorem covers_of_root? (h : folders.root? document = some root) : folders.Covers root := by
  cases root with
  | untitled => trivial
  | folder text => exact mem_texts_of_root? h

end Folders

namespace Session.Sessions

variable {s t : Sessions} {e : Event} {effect : Effect}

/-! ## Ports for folders -/

theorem step_launch_iff {document : Uri} {root : Root}
    (hroot : s.folders.root? document = some root) (hnone : s.kept? root = none) :
    (∃ call request, (s.step (.openDocument document)).2 = .launch call request ∧
      request.root = root) ↔ (s.countPort root).2 ≤ Config.maxPort := by
  constructor
  · rintro ⟨call, request, hlaunch, -⟩
    by_contra hport
    rw [step_of_maxPort_lt hroot hnone (UInt32.not_le.1 hport)] at hlaunch
    cases hlaunch
  · intro hport
    rw [step_of_le_maxPort hroot hnone hport]
    exact ⟨_, _, rfl, rfl⟩

theorem Counted.toNat_countPort {calls : List Call} {opens : Nat} (h : Counted calls opens s)
    (root : Root) : (s.countPort root).2.toNat =
      (s.config.basePort.toNat + if root = .untitled then 0 else opens + 1) % UInt32.size := by
  cases root with
  | untitled => simp [countPort]
  | folder text =>
    have hfolder : Root.folder text ≠ .untitled := by simp
    rw [h.number_eq, if_neg hfolder, UInt32.toNat_add, UInt16.toNat_toUInt32,
      UInt32.toNat_ofNat', Nat.add_mod_mod]

/-- A root without an entry is launched just if its number, in 32 bits, is that of a port. For a
folder that is the number after those of all folders without an entry that were asked for so far,
whether they were launched or not and whether or not their servers have ended. -/
theorem launch_iff_port_left (config : Config) (events : List Event) {document : Uri} {root : Root}
    (hroot : ((ofConfig config).run events).folders.root? document = some root)
    (hnone : ((ofConfig config).run events).kept? root = none) :
    (∃ call request, (((ofConfig config).run events).step (.openDocument document)).2 =
        .launch call request ∧ request.root = root) ↔
      (config.basePort.toNat +
          if root = .untitled then 0 else (ofConfig config).folderOpens events + 1) % UInt32.size ≤
        Config.maxPort.toNat := by
  have hnumber := (counted_run config events).toNat_countPort root
  rw [config_run] at hnumber
  rw [step_launch_iff hroot hnone, UInt32.le_iff_toNat_le, hnumber]
  rfl

theorem launch_iff_port_left_second : ∃ (config : Config) (events : List Event) (a : Uri),
    config.basePort = 65533 ∧ (ofConfig config).folderOpens events = 1 ∧
      ∃ call request, (((ofConfig config).run events).step (.openDocument a)).2 =
        .launch call request ∧ request.root = .folder "file:///a/".toList := by
  refine ⟨.ofCommand "server" [] 65533,
    [.setFolders [.ofSegments ["a".toList]], .openDocument (.ofSegments ["a".toList, "x".toList]),
      .endLaunch ⟨0, .folder "file:///a/".toList, 65534⟩ .failed],
    .ofSegments ["a".toList, "x".toList], rfl, by decide +kernel, ?_⟩
  exact (launch_iff_port_left _ _ (by decide +kernel) (by decide +kernel)).2 (by decide +kernel)

/-- The number of entries that are for folders. -/
def folderEntries (s : Sessions) : Nat := s.entries.countP (·.1.root ≠ .untitled)

/-- A launch that failed has used up the last port, so that its folder cannot be launched again,
although there is no other server. -/
theorem launch_port_lost : ∃ (config : Config) (events : List Event) (a : Uri) (root : Root),
    config.basePort = 65534 ∧
      (∀ before, before <+: events → ((ofConfig config).run before).folderEntries ≤
        Config.maxPort.toNat - config.basePort.toNat) ∧
      ((ofConfig config).run events).folderEntries <
        Config.maxPort.toNat - config.basePort.toNat ∧
      ((ofConfig config).run events).folders.root? a = some root ∧
      ((ofConfig config).run events).kept? root = none ∧
      (((ofConfig config).run events).step (.openDocument a)).2 = .nothing := by
  refine ⟨.ofCommand "server" [] 65534,
    [.setFolders [.ofSegments ["a".toList]], .openDocument (.ofSegments ["a".toList, "x".toList]),
      .endLaunch ⟨0, .folder "file:///a/".toList, 65535⟩ .failed],
    .ofSegments ["a".toList, "x".toList], .folder "file:///a/".toList, rfl, ?_, by decide +kernel⟩
  intro before hbefore
  rw [← List.mem_inits] at hbefore
  revert before
  decide +kernel

/-! ## Open folders -/

/-- Every entry is for a root that is open. -/
def Covered (s : Sessions) : Prop := ∀ entry ∈ s.entries, s.folders.Covers entry.1.root

instance (s : Sessions) : Decidable s.Covered :=
  inferInstanceAs (Decidable (∀ entry ∈ s.entries, s.folders.Covers entry.1.root))

theorem Covered.of_subset (h : Covered s) (hentries : t.entries ⊆ s.entries)
    (hfolders : t.folders = s.folders) : Covered t := by
  intro entry hmem
  rw [hfolders]
  exact h entry (hentries hmem)

/-- The folders of all entries stay open, unless the open folders are set and leave some out. -/
theorem Covered.move (h : Covered s) (hm : Move s e t effect)
    (hset : ∀ folders, e = .setFolders folders →
      ∀ entry ∈ s.entries, (Folders.ofList folders).Covers entry.1.root) :
    Covered t := by
  cases hm with
  | launch hroot hnone hport =>
    intro entry hmem
    rw [show (s.launching _).folders = s.folders from folders_countPort s _]
    rcases List.mem_cons.1 hmem with rfl | hold
    · exact Folders.covers_of_root? hroot
    · exact h entry hold
  | connect hcall hkeeps =>
    intro entry hmem
    have hroots : entry.1.root ∈ (s.connecting _).entries.map (·.1.root) := List.mem_map_of_mem hmem
    rw [roots_connecting] at hroots
    obtain ⟨old, hold, heq⟩ := List.mem_map.1 hroots
    exact heq ▸ h old hold
  | setFolders folders => exact hset folders rfl
  | addFolder folder => exact fun entry hmem => (h entry hmem).add
  | removeFolder folder =>
    intro entry hmem
    obtain ⟨hold, hne⟩ := List.mem_filter.1 hmem
    exact (h entry hold).remove (by simpa using hne)
  | refuse hroot hnone hport => exact h.of_subset (by simp) (by simp)
  | fail hcall hout => exact h.of_subset List.filter_sublist.subset rfl
  | finish hcall => exact h.of_subset List.filter_sublist.subset rfl
  | shutdown => exact h.of_subset (List.nil_subset _) rfl
  | _ => exact h

/-- The entries are for open roots all the time just if the folders that have entries are kept
whenever the open folders are set. -/
theorem covered_iff_kept (config : Config) (events : List Event) :
    (∀ before, before <+: events → Covered ((ofConfig config).run before)) ↔
      ∀ before folders, before ++ [.setFolders folders] <+: events →
        ∀ entry ∈ ((ofConfig config).run before).entries,
          entry.1.root = .untitled ∨ ∃ uri ∈ folders, entry.1.root = .ofFolder uri := by
  constructor
  · intro h before folders hbefore entry hmem
    have hcovered := h _ hbefore
    rw [run_append] at hcovered
    exact Folders.covers_ofList.1 (hcovered entry hmem)
  · intro h before
    induction before using List.reverseRecOn with
    | nil =>
      intro _ entry hmem
      exact absurd hmem List.not_mem_nil
    | append_singleton before e ih =>
      intro hbefore
      rw [run_append]
      refine (ih ((List.prefix_append _ _).trans hbefore)).move (step_move _ e) ?_
      rintro folders rfl entry hmem
      exact Folders.covers_ofList.2 (h before folders hbefore entry hmem)

/-- Setting the open folders leaves the entry of a folder that is no longer open. -/
theorem setFolders_not_covered : ∃ (config : Config) (a document : Uri),
    (Folders.ofList [a]).root? document = some (.ofFolder a) ∧
      ¬Covered ((ofConfig config).run [.setFolders [a], .openDocument document, .setFolders []]) :=
  ⟨.ofCommand "server" [] 9000, .ofSegments ["a".toList],
    .ofSegments ["a".toList, "x".toList], by decide +kernel⟩

end Session.Sessions

end EditorBridge
