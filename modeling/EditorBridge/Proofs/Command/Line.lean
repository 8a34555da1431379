import EditorBridge.Command.Line
import EditorBridge.Proofs.Text.Filling

/-!
# What becomes of a template

A template has places for a file, a line and a character. The file is filled in first, and the
position later on, in the arguments as they are by then. So it makes a difference what the file is
called: a place in its path, or one that the path completes together with what stands next to it, is
filled in like those of the template.

The main statement says that there is no other difference from filling in all places of the template
at once.
-/

namespace EditorBridge.CommandLine

open Text (occurrences Filling)

/-- What is put in for a file. -/
def fileFilling (file : List Char) : Filling := [(filePlace, file)]

/-- What is put in for a position. -/
def positionFilling (line character : Nat) : Filling :=
  [(linePlace, Nat.toDigits 10 line), (characterPlace, Nat.toDigits 10 character)]

/-- The arguments with all places of the template filled in at once. If no argument has a place for
it, the file becomes the last argument as it is. -/
def filledArguments (template : List (List Char)) (file : List Char) (line character : Nat) :
    List (List Char) :=
  template.map (Filling.fill (fileFilling file ++ positionFilling line character)) ++
    if template.any (Text.contains filePlace) then [] else [file]

/-- The places of a position. -/
def positionPlaces : List (List Char) := [linePlace, characterPlace]

section Fillings

variable (file : List Char) (line character : Nat)

theorem clear_filling : Filling.Clear '$' (fileFilling file ++ positionFilling line character) := by
  have hplaces : Filling.places (fileFilling file ++ positionFilling line character) =
      [filePlace, linePlace, characterPlace] := rfl
  constructor
  · rw [hplaces]
    decide
  · rw [hplaces]
    decide
  · rw [hplaces]
    decide

theorem isDigit_of_mem_toDigits {n : Nat} {c : Char} (h : c ∈ Nat.toDigits 10 n) : c.isDigit :=
  Nat.isDigit_of_mem_toDigits (by decide) (by decide) h

theorem mark_notMem_toDigits (n : Nat) : '$' ∉ Nat.toDigits 10 n :=
  fun h => absurd (isDigit_of_mem_toDigits h) (by decide)

/-- A number makes no place that has no digits. -/
theorem inert_toDigits (n : Nat) {places : List (List Char)}
    (h : ∀ place ∈ places, place.all (!Char.isDigit ·)) :
    Filling.Inert '$' places (Nat.toDigits 10 n) := by
  obtain ⟨c, rest, heq⟩ := List.exists_cons_of_ne_nil (@Nat.toDigits_ne_nil n 10)
  have hdigit : c.isDigit := isDigit_of_mem_toDigits (by rw [heq]; exact List.mem_cons_self)
  refine ⟨mark_notMem_toDigits n, c, rest, heq, fun place hplace hc => ?_⟩
  simpa [hdigit] using List.all_eq_true.1 (h place hplace) c hc

/-- A path from the root on makes no place if there is no dollar sign in it. -/
theorem inert_path {file : List Char} (hroot : file.head? = some '/') (hmark : '$' ∉ file) :
    Filling.Inert '$' positionPlaces file := by
  obtain ⟨rest, rfl⟩ := List.head?_eq_some_iff.1 hroot
  exact ⟨hmark, '/', rest, rfl, by decide⟩

/-- A line and a character are as good as filled in at once. -/
theorem replace_position (cs : List Char) :
    Text.replace characterPlace (Nat.toDigits 10 character)
      (Text.replace linePlace (Nat.toDigits 10 line) cs) =
      (positionFilling line character).fill cs := by
  have hclear : Filling.Clear '$'
      ([(linePlace, Nat.toDigits 10 line)] ++ [(characterPlace, Nat.toDigits 10 character)]) :=
    (clear_filling [] line character).sublist (List.sublist_append_right ..)
  rw [Filling.replace_eq_fill, Filling.replace_eq_fill]
  refine Filling.fill_fill hclear (Filling.occurrences_fill hclear ?_ cs)
  intro entry hentry
  have hplaces : Filling.places [(characterPlace, Nat.toDigits 10 character)] =
      [characterPlace] := rfl
  rw [List.mem_singleton.1 hentry, hplaces]
  exact inert_toDigits line (by decide)

/-- A file and then a position are filled in as at once just if the file makes no place of a
position. -/
theorem replace_iff (cs : List Char) :
    (positionFilling line character).fill (Text.replace filePlace file cs) =
        Filling.fill (fileFilling file ++ positionFilling line character) cs ↔
      occurrences positionPlaces (Text.replace filePlace file cs) =
        occurrences positionPlaces cs := by
  rw [Filling.replace_eq_fill]
  refine Filling.fill_fill_iff (clear_filling file line character) ?_ cs
  intro entry hentry
  rcases List.mem_cons.1 hentry with rfl | hentry
  · exact mark_notMem_toDigits line
  · rw [List.mem_singleton.1 hentry]
    exact mark_notMem_toDigits character

end Fillings

/-! ## Arguments -/

section Arguments

variable (program : List Char) (template : List (List Char)) (file : List Char)
  (line character : Nat)

/-- The template with a place for the file in any case. -/
def placed : List (List Char) :=
  template ++ if template.any (Text.contains filePlace) then [] else [filePlace]

theorem replace_filePlace : Text.replace filePlace file filePlace = file := by
  have hclear : Filling.Clear '$' (fileFilling file) :=
    (clear_filling file 0 0).sublist (List.sublist_append_left ..)
  rw [Filling.replace_eq_fill]
  exact hclear.fill_alone (List.mem_singleton_self (filePlace, file))

theorem arguments_atPosition :
    ((ofTemplate program template file).atPosition line character).arguments =
    (placed template).map fun argument =>
      (positionFilling line character).fill (Text.replace filePlace file argument) := by
  simp only [atPosition, ofTemplate, replace_position, placed, List.map_append, List.map_map]
  congr 1
  split
  · rfl
  · rw [List.map_singleton, List.map_singleton, replace_filePlace]

theorem filledArguments_eq : filledArguments template file line character =
    (placed template).map (Filling.fill (fileFilling file ++ positionFilling line character)) := by
  have hfile : Filling.fill (fileFilling file ++ positionFilling line character) filePlace = file :=
    (clear_filling file line character).fill_alone
      (List.mem_append_left _ (List.mem_singleton_self (filePlace, file)))
  rw [filledArguments, placed, List.map_append]
  congr 1
  split
  · rfl
  · rw [List.map_singleton, hfile]

theorem arguments_eq_iff :
    ((ofTemplate program template file).atPosition line character).arguments =
    filledArguments template file line character ↔
      ∀ argument ∈ placed template,
        occurrences positionPlaces (Text.replace filePlace file argument) =
        occurrences positionPlaces argument := by
  rw [arguments_atPosition, filledArguments_eq, List.map_inj_left]
  exact forall_congr' fun argument =>
    imp_congr_right fun _ => replace_iff file line character argument

theorem forall_mem_placed : (∀ argument ∈ placed template,
    occurrences positionPlaces (Text.replace filePlace file argument) =
      occurrences positionPlaces argument) ↔
      (∀ argument ∈ template, occurrences positionPlaces (Text.replace filePlace file argument) =
        occurrences positionPlaces argument) ∧
      (template.any (Text.contains filePlace) = false → occurrences positionPlaces file = 0) := by
  have hzero : occurrences positionPlaces filePlace = 0 := by decide
  rw [placed, List.forall_mem_append]
  refine and_congr_right fun _ => ?_
  cases template.any (Text.contains filePlace) with
  | true => simp
  | false => simp [replace_filePlace, hzero]

/-- The path of the file is in the arguments as it is, if places are filled in at once. -/
theorem exists_isInfix_filledArguments : ∃ argument ∈ filledArguments template file line character,
    file <:+: argument := by
  have hplace : ∃ argument ∈ placed template, filePlace <:+: argument := by
    by_cases hany : template.any (Text.contains filePlace)
    · obtain ⟨argument, hmem, hcontains⟩ := List.any_eq_true.1 hany
      exact ⟨argument, List.mem_append_left _ hmem, Text.contains_iff_isInfix.1 hcontains⟩
    · refine ⟨filePlace, ?_, List.infix_rfl⟩
      rw [placed, if_neg hany]
      exact List.mem_append_right _ (List.mem_singleton_self _)
  obtain ⟨argument, hmem, hinfix⟩ := hplace
  rw [filledArguments_eq]
  refine ⟨_, List.mem_map_of_mem hmem, ?_⟩
  exact (clear_filling file line character).isInfix_fill
    (List.mem_append_left _ (List.mem_singleton_self (filePlace, file))) hinfix

/-- The places of a template are as good as filled in at once just if the file makes no place of a
position, neither in an argument nor as the last argument. Then the path of the file is in the
arguments as it is. This is so for every path from the root on without a dollar sign. -/
theorem arguments_atPosition_iff :
    (((ofTemplate program template file).atPosition line character).arguments =
        filledArguments template file line character ↔
      (∀ argument ∈ template, occurrences positionPlaces (Text.replace filePlace file argument) =
        occurrences positionPlaces argument) ∧
      (template.any (Text.contains filePlace) = false → occurrences positionPlaces file = 0)) ∧
    (((ofTemplate program template file).atPosition line character).arguments =
        filledArguments template file line character →
      ∃ argument ∈ ((ofTemplate program template file).atPosition line character).arguments,
        file <:+: argument) ∧
    (file.head? = some '/' → '$' ∉ file →
      ((ofTemplate program template file).atPosition line character).arguments =
        filledArguments template file line character) := by
  refine ⟨?_, fun h => ?_, fun hroot hmark => ?_⟩
  · rw [← forall_mem_placed]
    exact arguments_eq_iff program template file line character
  · rw [h]
    exact exists_isInfix_filledArguments template file line character
  · refine (arguments_eq_iff program template file line character).2 fun argument _ => ?_
    rw [Filling.replace_eq_fill]
    refine Filling.occurrences_fill (clear_filling file line character) ?_ argument
    intro entry hentry
    rw [List.mem_singleton.1 hentry]
    exact inert_path hroot hmark

end Arguments

theorem arguments_atPosition_iff_rooted :
    let template := ["-i=$\x7bfile\x7d:$\x7bline\x7d".toList, "$\x7bcharacter\x7d$\x7bline".toList]
    let file := "/w/\x7bline\x7d.das".toList
    ('$' ∉ file ∧ file.head? = some '/') ∧
      ((ofTemplate "das".toList template file).atPosition 3 9).arguments =
        filledArguments template file 3 9 ∧
      filledArguments template file 3 9 =
        ["-i=/w/\x7bline\x7d.das:3".toList, "9$\x7bline".toList] := by
  intro template file
  have hfile : '$' ∉ file ∧ file.head? = some '/' := by decide
  exact ⟨hfile,
    (arguments_atPosition_iff "das".toList template file 3 9).2.2 hfile.2 hfile.1, by decide⟩

/-- A place in the path of a file is filled in as well. Then no argument has the path in it. -/
theorem arguments_place_in_path :
    let template := ["$\x7bfile\x7d".toList, "dummy.cpp".toList, "-j".toList]
    let file := "/w/$\x7bline\x7d.das".toList
    let arguments := ((ofTemplate "dasAot".toList template file).atPosition 3 9).arguments
    arguments = ["/w/3.das".toList, "dummy.cpp".toList, "-j".toList] ∧
      filledArguments template file 3 9 = [file, "dummy.cpp".toList, "-j".toList] ∧
      ∀ argument ∈ arguments, ¬file <:+: argument := by
  decide

end EditorBridge.CommandLine
