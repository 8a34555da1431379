import EditorBridge.Span

/-!
# Order of converted ranges

The conversion of a reported range is written with whole numbers of any size. Here it is done once
more in signed words of 64 bits, with a subtraction that may fail, to see that it never does.

The end of a range is put behind its start before the numbers are cut to 32 bits. Two lines that are
both too large become the same line by that, and nothing compares their characters any more. The
main statement says that a converted range is in order except for this.
-/

namespace EditorBridge

/-! ## Order of positions -/

namespace Position

/-- A position is not after another one: it is on an earlier line, or on the same line and not after
it there. -/
instance : LE Position := ⟨fun p q => p.line < q.line ∨ p.line = q.line ∧ p.character ≤ q.character⟩

theorem le_def {p q : Position} : p ≤ q ↔ p.line < q.line ∨ p.line = q.line ∧
    p.character ≤ q.character := Iff.rfl

instance (p q : Position) : Decidable (p ≤ q) := decidable_of_iff _ le_def.symm

end Position

/-! ## Words -/

namespace Word

/-- The sum, or the nearest word where it does not fit. -/
def add (a b : Int64) : Int64 := .ofIntClamp (a.toInt + b.toInt)

/-- The difference, if it fits. -/
def sub? (a b : Int64) : Option Int64 :=
  if (a - b).toInt = a.toInt - b.toInt then some (a - b) else none

/-- A number that fits into 32 bits, and the largest one of these for any other number. -/
def narrow (n : Int64) : UInt32 :=
  if 0 ≤ n ∧ n ≤ 4294967295 then n.toUInt64.toUInt32 else 4294967295

variable {a b n : Int64}

theorem toInt_add (a b : Int64) : (add a b).toInt = Shift.add a.toInt b.toInt := by
  have hmin : Int64.minValue.toInt = -9223372036854775808 := rfl
  have hmax : Int64.maxValue.toInt = 9223372036854775807 := rfl
  rw [add, Shift.add, Int64.ofIntClamp]
  split
  case isFalse => omega
  case isTrue =>
    split
    case isFalse => omega
    case isTrue =>
      rw [Int64.toInt_ofIntLE]
      omega

theorem toInt_max (a b : Int64) : (max a b).toInt = max a.toInt b.toInt := by
  change (if a ≤ b then b else a).toInt = _
  split
  case isTrue h => exact (Int.max_eq_right (Int64.le_iff_toInt_le.1 h)).symm
  case isFalse h =>
    exact (Int.max_eq_left (Int.le_of_lt (Int.not_le.1 (mt Int64.le_iff_toInt_le.2 h)))).symm

/-- A number that is not negative has a predecessor. -/
theorem exists_sub?_one (h : 0 ≤ n.toInt) : ∃ m, sub? n 1 = some m ∧ m.toInt = n.toInt - 1 := by
  have hone : (1 : Int64).toInt = 1 := rfl
  have hlt := n.toInt_lt
  have hsub : (n - 1).toInt = n.toInt - 1 := by
    rw [Int64.toInt_sub, hone, Int.bmod_eq_of_le (by omega) (by omega)]
  refine ⟨n - 1, ?_, hsub⟩
  rw [sub?, hone, if_pos hsub]

theorem narrow_eq_clamp {m : Int} (hn : n.toInt = m) (hm : 0 ≤ m) : narrow n = Shift.clamp m := by
  subst hn
  have hzero : (0 : Int64) ≤ n := Int64.le_iff_toInt_le.2 hm
  have hle : n ≤ 4294967295 ↔ n.toInt ≤ 4294967295 := Int64.le_iff_toInt_le
  rw [narrow, Shift.clamp]
  split
  case isTrue h =>
    have hfits := hle.1 h.2
    apply UInt32.toNat.inj
    rw [UInt64.toNat_toUInt32, Int64.toNat_toUInt64_of_le hzero, ← Int64.toNat_toInt,
      UInt32.toNat_ofNat']
    omega
  case isFalse h =>
    have hfits : ¬n.toInt ≤ 4294967295 := fun hfits => h ⟨hzero, hle.2 hfits⟩
    have hmin : min n.toInt.toNat 4294967295 = 4294967295 := by omega
    rw [hmin]
    rfl

end Word

/-- A reported range with the offsets for it, in signed words of 64 bits. -/
structure Reported where
  startLine : Int64
  startCharacter : Int64
  stopLine : Int64
  stopCharacter : Int64
  lineOffset : Int64
  stopOffset : Int64
deriving DecidableEq, Repr

namespace Reported

/-- The reported range. -/
def raw (w : Reported) : RawRange :=
  ⟨⟨w.startLine.toInt, w.startCharacter.toInt⟩, ⟨w.stopLine.toInt, w.stopCharacter.toInt⟩⟩

/-- The offsets. -/
def shift (w : Reported) : Shift := ⟨w.lineOffset.toInt, w.stopOffset.toInt⟩

/-- The editor's range, worked out in words. There is none if a step of this leaves them. -/
def convert? (w : Reported) : Option Range := do
  let startLine := max (Word.add w.startLine w.lineOffset) 0
  let startCharacter := max w.startCharacter 0
  let stopLine := max (Word.add w.stopLine w.lineOffset) 0
  let stopCharacter := max (Word.add w.stopCharacter w.stopOffset) 0
  let stopLine := max startLine (← Word.sub? stopLine 1)
  let stopCharacter :=
    if startLine = stopLine then max stopCharacter startCharacter else stopCharacter
  return ⟨⟨Word.narrow startLine, Word.narrow startCharacter⟩,
    ⟨Word.narrow stopLine, Word.narrow stopCharacter⟩⟩

/-- Words are enough for all steps of the conversion. -/
theorem convert?_eq (w : Reported) : w.convert? = some (w.shift.apply w.raw) := by
  have hmax (n : Int64) : (max n 0).toInt = max 0 n.toInt := by
    rw [Word.toInt_max, Int.max_comm]
    rfl
  have hmoved (a b : Int64) : (max (Word.add a b) 0).toInt = max 0 (Shift.add a.toInt b.toInt) := by
    rw [hmax, Word.toInt_add]
  have hstartLine : (max (Word.add w.startLine w.lineOffset) 0).toInt =
      max 0 (Shift.add w.raw.start.line w.shift.line) := hmoved ..
  have hstartCharacter : (max w.startCharacter 0).toInt = max 0 w.raw.start.character := hmax _
  have hstopCharacter : (max (Word.add w.stopCharacter w.stopOffset) 0).toInt =
      max 0 (Shift.add w.raw.stop.character w.shift.stop) := hmoved ..
  -- the one step that could leave the words
  obtain ⟨last, hlast, hlastInt⟩ : ∃ last,
      Word.sub? (max (Word.add w.stopLine w.lineOffset) 0) 1 = some last ∧
      last.toInt = max 0 (Shift.add w.raw.stop.line w.shift.line) - 1 := by
    have hstopLine : (max (Word.add w.stopLine w.lineOffset) 0).toInt =
        max 0 (Shift.add w.raw.stop.line w.shift.line) := hmoved ..
    rw [← hstopLine]
    apply Word.exists_sub?_one
    omega
  have hstopLine : (max (max (Word.add w.startLine w.lineOffset) 0) last).toInt =
      max (max 0 (Shift.add w.raw.start.line w.shift.line))
        (max 0 (Shift.add w.raw.stop.line w.shift.line) - 1) := by
    rw [Word.toInt_max, hstartLine, hlastInt]
  simp only [convert?, hlast, Option.bind_eq_bind, Option.bind_some, Option.pure_def,
    Shift.apply, ← Int64.toInt_inj, hstartLine, hstopLine]
  rw [Word.narrow_eq_clamp hstartLine (by omega), Word.narrow_eq_clamp hstartCharacter (by omega),
    Word.narrow_eq_clamp hstopLine (by omega)]
  split
  case isTrue =>
    have hlater :
        (max (max (Word.add w.stopCharacter w.stopOffset) 0) (max w.startCharacter 0)).toInt =
        max (max 0 (Shift.add w.raw.stop.character w.shift.stop))
          (max 0 w.raw.start.character) := by
      rw [Word.toInt_max, hstopCharacter, hstartCharacter]
    rw [Word.narrow_eq_clamp hlater (by omega)]
  case isFalse => rw [Word.narrow_eq_clamp hstopCharacter (by omega)]

end Reported

/-! ## Order of ranges -/

namespace Shift

theorem toNat_clamp (n : Int) : (clamp n).toNat = min n.toNat 4294967295 := by
  rw [clamp, UInt32.toNat_ofNat']
  omega

/-- The lines are both beyond the last line number and differ, and the character of the end is
before that of the start. -/
def Collapses (shift : Shift) (raw : RawRange) : Prop :=
  4294967295 ≤ add raw.start.line shift.line ∧
    add raw.start.line shift.line + 1 < add raw.stop.line shift.line ∧
    max 0 (add raw.stop.character shift.stop) < min raw.start.character 4294967295

instance (shift : Shift) (raw : RawRange) : Decidable (shift.Collapses raw) :=
  inferInstanceAs (Decidable (_ ∧ _))

/-- The lines are in order even if the characters are not. -/
theorem start_line_le (shift : Shift) (raw : RawRange) :
    (shift.apply raw).start.line ≤ (shift.apply raw).stop.line := by
  simp only [apply, UInt32.le_iff_toNat_le, toNat_clamp]
  omega

/-- Positions on lines in order are in order after cutting, unless the lines are cut to one and the
characters are not. -/
theorem clamp_le_clamp_iff {a b c d : Int} (hab : a ≤ b) :
    (⟨clamp a, clamp c⟩ : Position) ≤ ⟨clamp b, clamp d⟩ ↔
    a.toNat < b.toNat ∧ a.toNat < 4294967295 ∨ min c.toNat 4294967295 ≤ min d.toNat 4294967295 := by
  simp only [Position.le_def, UInt32.lt_iff_toNat_lt, UInt32.le_iff_toNat_le, ← UInt32.toNat_inj,
    toNat_clamp]
  omega

theorem start_le_stop_iff (shift : Shift) (raw : RawRange) :
    (shift.apply raw).start ≤ (shift.apply raw).stop ↔ ¬shift.Collapses raw := by
  rw [apply, Collapses]
  generalize add raw.start.line shift.line = startLine
  generalize add raw.stop.line shift.line = stopLine
  generalize add raw.stop.character shift.stop = stopCharacter
  rw [clamp_le_clamp_iff (by omega)]
  split
  case isTrue hsame =>
    refine iff_of_true (.inr ?_) ?_
    · -- the end was put behind the start
      omega
    · rintro ⟨hlarge, hlines, -⟩
      omega
  case isFalse hne =>
    -- the characters were left alone, so that they count if both lines are cut to the last one
    have hend : max (max 0 startLine) (max 0 stopLine - 1) = stopLine - 1 := by omega
    have hnext : startLine + 1 < stopLine := by omega
    have hlines : (max 0 startLine).toNat < (stopLine - 1).toNat ∧
        (max 0 startLine).toNat < 4294967295 ↔
        ¬4294967295 ≤ startLine := by omega
    have hcharacters : min (max 0 raw.start.character).toNat 4294967295 ≤
        min (max 0 stopCharacter).toNat 4294967295 ↔
        ¬max 0 stopCharacter < min raw.start.character 4294967295 := by omega
    rw [hend, hlines, hcharacters, ← Classical.not_and_iff_not_or_not]
    simp only [hnext, true_and]

end Shift

/-- Ranges of any words of 64 bits are converted without leaving the words. The converted range is
in order unless its lines, which differ, are both beyond the last line number and the end's
character is before the start's. -/
theorem Reported.convert?_ordered_iff (w : Reported) :
    let range := w.shift.apply w.raw
    w.convert? = some range ∧ range.start.line ≤ range.stop.line ∧
      (range.start ≤ range.stop ↔ ¬w.shift.Collapses w.raw) :=
  ⟨w.convert?_eq, w.shift.start_line_le w.raw, w.shift.start_le_stop_iff w.raw⟩

/-- Lines 4294967295 and 4294967296 become one line, on which the end is before the start. -/
theorem Reported.convert?_not_ordered : ∃ w : Reported,
    w = ⟨4294967295, 1, 4294967297, 0, 0, 0⟩ ∧ w.shift = .diagnostic ∧
    w.convert? = some ⟨⟨4294967295, 1⟩, ⟨4294967295, 0⟩⟩ ∧
    ¬(w.shift.apply w.raw).start ≤ (w.shift.apply w.raw).stop :=
  ⟨_, rfl, by decide +kernel⟩

end EditorBridge
