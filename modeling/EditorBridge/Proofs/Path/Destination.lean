import EditorBridge.Proofs.Path
import Mathlib.Data.List.Infix

/-!
# Where paths lead

The components of a path are followed from a place, one after another, and lead to a place. Folding
takes a `..` away together with what stands before it, and this may be a name, the root or nothing.
Only a name can be taken away without harm: where a path has stepped up over all of its names, its
folded form is short of a `..` or of the root.

The main statements compare where a path and its folded form lead. They differ just if the path
climbs above the place where it starts, and that is not the root.
-/

namespace EditorBridge

/-- The place one component further on. A place is given by the names on the way to it from the
root, and the root is its own parent. -/
def Component.follow (place : List (List Char)) : Component → List (List Char)
  | .root => []
  | .current => place
  | .parent => place.dropLast
  | .name text => place ++ [text]

namespace Path

/-- The place to which components lead from a place. -/
def destination (place : List (List Char)) (cs : List Component) : List (List Char) :=
  cs.foldl Component.follow place

/-- Whether a component is a name. -/
def isNameComponent : Component → Bool
  | .name _ => true
  | _ => false

/-- On the way there are once more steps up than there were names. -/
def Climbs (cs : List Component) : Prop := ∃ way, way <+: cs ∧
    way.countP isNameComponent < way.count .parent

/-- How far components climb above the place where they start. -/
def climb : List Component → Nat
  | [] => 0
  | .root :: cs => climb cs
  | .current :: cs => climb cs
  | .parent :: cs => climb cs + 1
  | .name _ :: cs => climb cs - 1

section Destination

variable {cs : List Component} {place names : List (List Char)}

@[simp] theorem destination_nil (place : List (List Char)) : destination place [] = place := rfl

@[simp] theorem destination_cons (place : List (List Char)) (c : Component) (cs : List Component) :
    destination place (c :: cs) = destination (c.follow place) cs := rfl

theorem destination_append (place : List (List Char)) (cs ds : List Component) :
    destination place (cs ++ ds) = destination (destination place cs) ds := List.foldl_append

theorem destination_names (place names : List (List Char)) :
    destination place (names.map .name) = place ++ names := by
  induction names generalizing place with
  | nil => simp
  | cons name names ih => simp [ih, Component.follow]

theorem destination_components (f : Folded) (place : List (List Char)) :
    destination place f.components = if f.rooted then f.names else place ++ f.names := by
  obtain ⟨rooted, names⟩ := f
  cases rooted with
  | true => simp [Folded.components, Component.follow, destination_names]
  | false => simp [Folded.components, destination_names]

/-- Components without the root first climb from a place and then lead down, over the same names
from all places. -/
theorem destination_eq_take (h : .root ∉ cs) (place : List (List Char)) :
    destination place cs = place.take (place.length - climb cs) ++ destination [] cs := by
  induction cs generalizing place with
  | nil => simp [climb]
  | cons c cs ih =>
    obtain ⟨hc, hcs⟩ := not_or.1 (mt List.mem_cons.2 h)
    cases c with
    | root => exact absurd rfl hc
    | current => exact ih hcs place
    | parent =>
      have hlength : min (place.length - 1 - climb cs) (place.length - 1) =
          place.length - (climb cs + 1) := by omega
      rw [destination_cons, destination_cons, Component.follow, Component.follow,
        List.dropLast_nil, ih hcs, List.length_dropLast, List.dropLast_eq_take, List.take_take,
        hlength, climb]
    | name text =>
      have hlast : place.length + 1 - climb cs - place.length = 1 - climb cs := by omega
      have hfirst : place.take (place.length + 1 - climb cs) =
          place.take (place.length - (climb cs - 1)) := by
        by_cases hclimb : climb cs = 0
        · simp [hclimb]
        · congr 1
          omega
      rw [destination_cons, destination_cons, Component.follow, Component.follow,
        List.nil_append, ih hcs, ih hcs [text], List.length_append, List.length_singleton,
        List.take_append, hlast, hfirst, climb, List.append_assoc]

/-- Folding goes to the same names as following, and keeps the root as long as the components do not
climb above it. -/
theorem foldl_push (h : .root ∉ cs) (f : Folded) :
    cs.foldl Folded.push f = ⟨f.rooted && climb cs ≤ f.names.length, destination f.names cs⟩ := by
  induction cs generalizing f with
  | nil => simp [climb]
  | cons c cs ih =>
    obtain ⟨hc, hcs⟩ := not_or.1 (mt List.mem_cons.2 h)
    rw [List.foldl_cons, ih hcs, destination_cons]
    cases c with
    | root => exact absurd rfl hc
    | current => rfl
    | parent =>
      by_cases hnames : f.names = []
      · simp [Folded.push, Folded.empty, Component.follow, climb, hnames]
      · have hlength : 0 < f.names.length := List.length_pos_iff.2 hnames
        have hclimb : decide (climb cs ≤ f.names.length - 1) =
            decide (climb cs + 1 ≤ f.names.length) :=
          decide_eq_decide.2 (by omega)
        simp only [Folded.push, if_neg hnames, List.length_dropLast, hclimb]
        rfl
    | name text => simp [Folded.push, Component.follow, climb]

/-- Components climb by more than a number just if the steps up exceed the names by more than it on
the way. -/
theorem lt_climb_iff {n : Nat} : n < climb cs ↔
    ∃ way, way <+: cs ∧ way.countP isNameComponent + n < way.count .parent := by
  induction cs generalizing n with
  | nil => simp [climb]
  | cons c cs ih =>
    have hcons (p : List Component → Prop) : (∃ way, way <+: c :: cs ∧ p way) ↔
        p [] ∨ ∃ way, way <+: cs ∧ p (c :: way) := by
      simp only [List.prefix_cons_iff]
      constructor
      · rintro ⟨way, rfl | ⟨rest, rfl, hrest⟩, hp⟩
        · exact .inl hp
        · exact .inr ⟨rest, hrest, hp⟩
      · rintro (hp | ⟨rest, hrest, hp⟩)
        · exact ⟨[], .inl rfl, hp⟩
        · exact ⟨c :: rest, .inr ⟨rest, rfl, hrest⟩, hp⟩
    rw [hcons]
    cases c with
    | root => simp [climb, ih, isNameComponent]
    | current => simp [climb, ih, isNameComponent]
    | parent =>
      simp only [climb, List.countP_nil, List.count_nil, Nat.not_lt_zero, false_or,
        List.count_cons_self,
        List.countP_cons_of_neg (by simp [isNameComponent] : ¬isNameComponent .parent)]
      cases n with
      | zero => exact iff_of_true (Nat.succ_pos _) ⟨[], List.nil_prefix, by simp⟩
      | succ n =>
        rw [Nat.succ_lt_succ_iff, ih]
        simp only [← Nat.add_assoc, Nat.add_lt_add_iff_right]
    | name text =>
      have hsub : n < climb cs - 1 ↔ n + 1 < climb cs := by omega
      simp only [climb, hsub, ih, List.countP_nil, List.count_nil, Nat.not_lt_zero, false_or,
        List.countP_cons_of_pos (by simp [isNameComponent] : isNameComponent (.name text)),
        List.count_cons_of_ne (by simp : Component.name text ≠ .parent)]
      simp only [Nat.add_assoc, Nat.add_comm 1]

theorem climbs_iff : Climbs cs ↔ 0 < climb cs := (@lt_climb_iff cs 0).symm

instance : DecidablePred Climbs := fun _ => decidable_of_iff _ climbs_iff.symm

theorem not_climbs_iff : ¬Climbs cs ↔ climb cs = 0 := by
  rw [climbs_iff, Nat.pos_iff_ne_zero, not_not]

end Destination

/-! ## Folding -/

section Fold

variable {cs : List Component} {path : List Char} {place : List (List Char)}

theorem component?_ne_root (first : Bool) (piece : List Char) :
    component? first piece ≠ some .root := by
  rw [component?]
  repeat' split
  all_goals simp

theorem root_notMem_components (h : isAbsolute path = false) : .root ∉ components path := by
  intro hroot
  rw [components, h, if_neg (by simp)] at hroot
  split at hroot
  case h_1 => cases hroot
  case h_2 piece rest _ =>
    rcases List.mem_append.1 hroot with hroot | hroot
    · exact component?_ne_root _ _ (Option.mem_toList.1 hroot)
    · obtain ⟨other, -, hother⟩ := List.mem_filterMap.1 hroot
      exact component?_ne_root _ _ hother

theorem exists_components_of_isAbsolute (h : isAbsolute path) :
    ∃ cs, .root ∉ cs ∧ components path = .root :: cs := by
  refine ⟨_, ?_, by rw [components, if_pos h]⟩
  intro hroot
  obtain ⟨piece, -, hpiece⟩ := List.mem_filterMap.1 hroot
  exact component?_ne_root _ _ hpiece

/-- Components without the root fold to the names they lead to. -/
theorem ofComponents_of_notMem (h : .root ∉ cs) :
    Folded.ofComponents cs = ⟨false, destination [] cs⟩ := by
  rw [Folded.ofComponents, foldl_push h]
  rfl

/-- Components from the root on fold to the names they lead to, and the root stays unless they climb
above it. -/
theorem ofComponents_root (h : .root ∉ cs) :
    Folded.ofComponents (.root :: cs) = ⟨¬Climbs (.root :: cs), destination [] (.root :: cs)⟩ := by
  have hclimb : ¬Climbs (.root :: cs) ↔ climb cs ≤ 0 := by rw [not_climbs_iff, Nat.le_zero, climb]
  rw [Folded.ofComponents, List.foldl_cons, foldl_push h, decide_eq_decide.2 hclimb]
  rfl

theorem names_fold (path : List Char) : (fold path).names = destination [] (components path) := by
  rw [fold]
  cases habs : isAbsolute path with
  | true =>
    obtain ⟨cs, hcs, heq⟩ := exists_components_of_isAbsolute habs
    rw [heq, ofComponents_root hcs]
  | false => rw [ofComponents_of_notMem (root_notMem_components habs)]

/-- A path from the root keeps the root just if it does not climb. -/
theorem rooted_fold_iff (h : isAbsolute path) : (fold path).rooted ↔ ¬Climbs (components path) := by
  obtain ⟨cs, hcs, heq⟩ := exists_components_of_isAbsolute h
  rw [fold, heq, ofComponents_root hcs, decide_eq_true_eq]

/-- A path leads to the same place as its folded form if and only if it does not climb or starts at
the root. -/
theorem destination_fold_iff (path : List Char) (place : List (List Char)) :
    destination place (components (fold path).text) = destination place (components path) ↔
      ¬Climbs (components path) ∨ place = [] := by
  rw [Folded.components_text (proper_fold path), destination_components, fold]
  cases habs : isAbsolute path with
  | true =>
    obtain ⟨cs, hcs, heq⟩ := exists_components_of_isAbsolute habs
    rw [heq, ofComponents_root hcs]
    by_cases hclimbs : Climbs (.root :: cs)
    · simp [hclimbs, Component.follow]
    · simp [hclimbs, Component.follow]
  | false =>
    have hcs := root_notMem_components habs
    have hlength : place.length ≤ place.length - climb (components path) ↔
        climb (components path) = 0 ∨ place.length = 0 := by omega
    rw [ofComponents_of_notMem hcs, destination_eq_take hcs place, not_climbs_iff, if_neg (by simp),
      List.append_left_inj, eq_comm, List.take_eq_self_iff, hlength, List.length_eq_zero_iff]

end Fold

end Path

end EditorBridge
