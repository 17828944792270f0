import ChartLint.Text.Blank
import ChartLint.Text.Case
import ChartLint.Text.CaseFolding
import ChartLint.Text.Digit
import ChartLint.Text.Piece
import Mathlib.Data.List.TakeWhile

/-!
Letter case in texts. Lower-casing changes the capitals of ASCII and nothing else, so a reading of a text
that treats them as their small letters commutes with it. Case folding takes a character to an ASCII letter
exactly if the character spells the letter.
-/
namespace ChartLint.Text

theorem equalIgnoringCase_iff {a b : String} : equalIgnoringCase a b = true ↔ lower a = lower b := by
  simp only [equalIgnoringCase, lower, beq_iff_eq, String.ofList_inj]

theorem toList_lower (s : String) : (lower s).toList = s.toList.map Char.toLower := by
  rw [lower, String.toList_ofList]

theorem lower_ofList (text : List Char) :
    lower (String.ofList text) = String.ofList (text.map Char.toLower) := by
  rw [lower, String.toList_ofList]

def capitals : List Char := "ABCDEFGHIJKLMNOPQRSTUVWXYZ".toList

theorem mem_capitals {c : Char} (h : c.toLower ≠ c) : c ∈ capitals := by
  have isCapital : 65 ≤ c.toNat ∧ c.toNat ≤ 90 := by
    delta Char.toLower at h
    split at h
    case isTrue between => exact between
    case isFalse => exact absurd rfl h
  have all : ∀ n < 91, 65 ≤ n → Char.ofNat n ∈ capitals := by decide
  have member := all c.toNat (by omega) isCapital.1
  rwa [Char.ofNat_toNat] at member

/-- A function of characters that treats capitals as their small letters. -/
def IgnoresCase {α : Type} (f : Char → α) : Prop := ∀ c, f c.toLower = f c

/-- Whether a function ignores case is seen at the capitals. -/
theorem ignoresCase_of_capitals {α : Type} [DecidableEq α] {f : Char → α}
    (h : (capitals.all fun c => f c.toLower = f c) = true) : IgnoresCase f := by
  intro c
  by_cases isSmall : c.toLower = c
  · rw [isSmall]
  · simpa using List.all_eq_true.mp h c (mem_capitals isSmall)

theorem toLower_toLower (c : Char) : c.toLower.toLower = c.toLower :=
  ignoresCase_of_capitals (f := Char.toLower) (by decide) c

theorem toLower_eq_iff {c mark : Char} (isMark : mark.isAlpha = false) : c.toLower = mark ↔ c = mark := by
  by_cases isSmall : c.toLower = c
  · rw [isSmall]
  · have letters : (capitals.all fun c => c.isAlpha && c.toLower.isAlpha) = true := by decide
    have isLetter := List.all_eq_true.mp letters c (mem_capitals isSmall)
    rw [Bool.and_eq_true] at isLetter
    constructor
    · rintro rfl
      simp [isMark] at isLetter
    · rintro rfl
      simp [isMark] at isLetter

theorem map_toLower_eq_some_iff {c : Option Char} {mark : Char} (isMark : mark.isAlpha = false) :
    c.map Char.toLower = some mark ↔ c = some mark := by
  cases c <;> simp [toLower_eq_iff isMark]

theorem mem_lower_iff {text : List Char} {mark : Char} (isMark : mark.isAlpha = false) :
    mark ∈ text.map Char.toLower ↔ mark ∈ text := by
  simp [toLower_eq_iff isMark]

theorem isDigit_of_ascii {c : Char} (isAscii : c.toNat < 0x80) : isDigit c = c.isDigit := by
  have beyond : ∀ first ∈ digitZeros, 0x80 ≤ first := by decide
  have isNone : (digitZeros.any fun first => first ≤ c.toNat && c.toNat < first + 10) = false := by
    rw [List.any_eq_false]
    intro first member
    have := beyond first member
    simp only [Bool.and_eq_true, decide_eq_true_eq]
    omega
  rw [isDigit, isNone, Bool.or_false]

/-- Neither capitals nor their small letters are digits of any script. -/
theorem isDigit_of_mem_capitals {c : Char} (member : c ∈ capitals) :
    isDigit c = false ∧ isDigit c.toLower = false := by
  have letters : (capitals.all fun c => c.toNat < 0x80 && c.toLower.toNat < 0x80 &&
      !c.isDigit && !c.toLower.isDigit) = true := by
    decide
  have isLetter := List.all_eq_true.mp letters c member
  simp only [Bool.and_eq_true, decide_eq_true_eq, Bool.not_eq_true'] at isLetter
  obtain ⟨⟨⟨isAscii, smallAscii⟩, notDigit⟩, smallNotDigit⟩ := isLetter
  exact ⟨(isDigit_of_ascii isAscii).trans notDigit, (isDigit_of_ascii smallAscii).trans smallNotDigit⟩

theorem ignoresCase_isDigit : IgnoresCase isDigit := by
  intro c
  by_cases isSmall : c.toLower = c
  · rw [isSmall]
  · obtain ⟨notDigit, smallNotDigit⟩ := isDigit_of_mem_capitals (mem_capitals isSmall)
    rw [notDigit, smallNotDigit]

theorem ignoresCase_isAsciiDigit : IgnoresCase Char.isDigit := ignoresCase_of_capitals (by decide)

theorem ignoresCase_isBlank : IgnoresCase isBlank := ignoresCase_of_capitals (by decide)

theorem ignoresCase_isIndent : IgnoresCase isIndent := ignoresCase_of_capitals (by decide)

theorem ignoresCase_foldToAscii : IgnoresCase foldToAscii := ignoresCase_of_capitals (by decide)

section Texts

variable {p : Char → Bool}

theorem takeWhile_lower (h : IgnoresCase p) (text : List Char) :
    (text.map Char.toLower).takeWhile p = (text.takeWhile p).map Char.toLower := by
  rw [List.takeWhile_map, show p ∘ Char.toLower = p from funext h]

theorem dropWhile_lower (h : IgnoresCase p) (text : List Char) :
    (text.map Char.toLower).dropWhile p = (text.dropWhile p).map Char.toLower := by
  rw [List.dropWhile_map, show p ∘ Char.toLower = p from funext h]

theorem all_lower (h : IgnoresCase p) (text : List Char) :
    (text.map Char.toLower).all p = text.all p := by
  rw [List.all_map, show p ∘ Char.toLower = p from funext h]

theorem filter_lower (h : IgnoresCase p) (text : List Char) :
    (text.map Char.toLower).filter p = (text.filter p).map Char.toLower := by
  rw [List.filter_map, show p ∘ Char.toLower = p from funext h]

/-- Digits of no script are capitals. -/
theorem lower_of_digits {text : List Char} (h : ∀ c ∈ text, isDigit c = true) :
    text.map Char.toLower = text := by
  have isSmall (c : Char) (member : c ∈ text) : c.toLower = c := by
    by_contra isCapital
    have notDigit := (isDigit_of_mem_capitals (mem_capitals isCapital)).1
    rw [h c member] at notDigit
    cases notDigit
  rw [List.map_congr_left isSmall, List.map_id']

theorem takeWhile_digits_lower (text : List Char) :
    (text.map Char.toLower).takeWhile isDigit = text.takeWhile isDigit := by
  rw [takeWhile_lower ignoresCase_isDigit, lower_of_digits fun _ => List.mem_takeWhile_imp]

theorem natural?_lower (text : List Char) : natural? (text.map Char.toLower) = natural? text := by
  rw [natural?, natural?, List.isEmpty_map, all_lower ignoresCase_isAsciiDigit]
  split
  · rfl
  · split
    case isTrue digits =>
      rw [lower_of_digits fun c member => by simp [isDigit, List.all_eq_true.mp digits c member]]
    case isFalse => rfl

theorem trimEnd_lower (text : List Char) :
    trimEnd (text.map Char.toLower) = (trimEnd text).map Char.toLower := by
  induction text with
  | nil => rfl
  | cons c rest ih =>
    rw [List.map_cons, trimEnd, trimEnd, ih, ignoresCase_isBlank c]
    cases trimEnd rest with
    | nil => cases isBlank c <;> rfl
    | cons d kept => rfl

theorem trim_lower (text : List Char) : trim (text.map Char.toLower) = (trim text).map Char.toLower := by
  rw [trim, trim, trimStart, trimStart, dropWhile_lower ignoresCase_isBlank, trimEnd_lower]

theorem spells_lower (text : List Char) (word : String) :
    spells (text.map Char.toLower) word = spells text word := by
  rw [spells, spells, List.map_map, show foldToAscii ∘ Char.toLower = foldToAscii from
    funext ignoresCase_foldToAscii]

theorem pieces_lower {mark : Char} (isMark : mark.isAlpha = false) (text : List Char) :
    pieces mark (text.map Char.toLower) = (pieces mark text).map (List.map Char.toLower) := by
  induction text with
  | nil => rfl
  | cons c rest ih =>
    simp only [List.map_cons, pieces, toLower_eq_iff isMark, ih]
    split
    · rfl
    · cases pieces mark rest <;> rfl

theorem lower_lower (s : String) : lower (lower s) = lower s := by
  rw [lower, toList_lower, List.map_map, show Char.toLower ∘ Char.toLower = Char.toLower from
    funext toLower_toLower, ← lower]

end Texts

/-! ### Case folding -/

/-- Whether two texts have the same folded forms, character by character. -/
def FoldsTo (text word : List Char) : Prop :=
  text.map (fun c => foldedPoint c.toNat) = word.map fun c => foldedPoint c.toNat

/-- All runs but that of the capitals start beyond ASCII, and two of them fold into it. -/
theorem foldingRuns_tail : ∀ run ∈ foldingRuns.tail, 0x80 ≤ run.1 ∧
    (run = (0x17F, 1, 1, -268) ∨ run = (0x212A, 1, 1, -8383) ∨ 0x80 ≤ (run.1 : Int) + run.2.2.2) := by
  decide +kernel

theorem foldedPoint_ascii {point : Nat} (isAscii : point < 0x80) :
    foldedPoint point = if 0x41 ≤ point ∧ point ≤ 0x5A then point + 32 else point := by
  have areRuns : foldingRuns = (0x41, 26, 1, 32) :: foldingRuns.tail := rfl
  have isCapital : inFoldingRun point (0x41, 26, 1, 32) = decide (0x41 ≤ point ∧ point ≤ 0x5A) := by
    rw [Bool.eq_iff_iff]
    simp only [inFoldingRun, Bool.and_eq_true, decide_eq_true_eq, beq_iff_eq]
    omega
  have isNone : foldingRuns.tail.find? (inFoldingRun point) = none := by
    rw [List.find?_eq_none]
    intro run member inRun
    have beyond := (foldingRuns_tail run member).1
    simp only [inFoldingRun, Bool.and_eq_true, decide_eq_true_eq] at inRun
    omega
  rw [foldedPoint, areRuns, List.find?_cons, isCapital, isNone]
  by_cases between : 0x41 ≤ point ∧ point ≤ 0x5A
  · rw [decide_eq_true between, if_pos between]
    rfl
  · rw [decide_eq_false between, if_neg between]

/-- Beyond ASCII only the long s and the Kelvin sign fold into it. -/
theorem le_foldedPoint {point : Nat} (beyond : 0x80 ≤ point) (notLongS : point ≠ 0x17F)
    (notKelvin : point ≠ 0x212A) : 0x80 ≤ foldedPoint point := by
  unfold foldedPoint
  split
  case h_2 => exact beyond
  case h_1 run isRun =>
    have inRun := List.find?_some isRun
    simp only [inFoldingRun, Bool.and_eq_true, decide_eq_true_eq, beq_iff_eq] at inRun
    rcases List.mem_cons.mp (List.mem_of_find?_eq_some isRun) with rfl | member
    · simp only at inRun
      omega
    · rcases (foldingRuns_tail run member).2 with rfl | rfl | far
      · simp only at inRun
        omega
      · simp only at inRun
        omega
      · omega

theorem foldToAscii_of_le {c : Char} (beyond : 0x80 ≤ c.toNat) (notLongS : c.toNat ≠ 0x17F)
    (notKelvin : c.toNat ≠ 0x212A) : foldToAscii c = c := by
  have isOther {d : Char} (other : c.toNat ≠ d.toNat) : (c == d) = false := by
    rw [beq_eq_false_iff_ne]
    rintro rfl
    exact other rfl
  have isSmall : c.toLower = c := by
    by_contra isCapital
    have ascii : (capitals.all fun c => c.toNat < 0x80) = true := by decide
    have := List.all_eq_true.mp ascii c (mem_capitals isCapital)
    simp only [decide_eq_true_eq] at this
    omega
  simp [foldToAscii, isOther (d := 'ſ') notLongS, isOther (d := '\u212a') notKelvin, isSmall]

/-- Case folding gives an ASCII letter for the characters that spell it. -/
theorem foldedPoint_eq_iff {c letter : Char} (isAscii : letter.toNat < 0x80) :
    foldedPoint c.toNat = letter.toNat ↔ foldToAscii c = letter := by
  rw [← Char.toNat_inj]
  by_cases ascii : c.toNat < 0x80
  · have all : ∀ point < 0x80, (foldToAscii (Char.ofNat point)).toNat =
        if 0x41 ≤ point ∧ point ≤ 0x5A then point + 32 else point := by
      decide
    rw [foldedPoint_ascii ascii, ← all c.toNat ascii, Char.ofNat_toNat]
  · have beyond := Nat.le_of_not_lt ascii
    by_cases isLongS : c.toNat = 0x17F
    · obtain rfl : c = 'ſ' := Char.toNat_inj.mp isLongS
      rw [show foldedPoint 'ſ'.toNat = (foldToAscii 'ſ').toNat by decide]
    · by_cases isKelvin : c.toNat = 0x212A
      · obtain rfl : c = '\u212a' := Char.toNat_inj.mp isKelvin
        rw [show foldedPoint '\u212a'.toNat = (foldToAscii '\u212a').toNat by decide]
      · have := le_foldedPoint beyond isLongS isKelvin
        rw [foldToAscii_of_le beyond isLongS isKelvin]
        omega

theorem foldedPoint_eq_foldedPoint_iff {c letter : Char} (isLower : letter.isLower = true) :
    foldedPoint c.toNat = foldedPoint letter.toNat ↔ foldToAscii c = letter := by
  have lower : 97 ≤ letter.toNat ∧ letter.toNat ≤ 122 := by
    delta Char.isLower at isLower
    simpa [UInt32.le_iff_toNat_le] using isLower
  have isFolded : foldedPoint letter.toNat = letter.toNat := by
    rw [foldedPoint_ascii (by omega), if_neg (by omega)]
  rw [isFolded, foldedPoint_eq_iff (by omega)]

/-- A text folds to a word in small letters if it spells it. -/
theorem foldsTo_iff_spells {text : List Char} {word : String}
    (areLower : ∀ c ∈ word.toList, c.isLower = true) :
    FoldsTo text word.toList ↔ spells text word = true := by
  rw [spells, beq_iff_eq, FoldsTo]
  generalize word.toList = letters at areLower
  induction text generalizing letters with
  | nil => cases letters <;> simp
  | cons c text ih =>
    cases letters with
    | nil => simp
    | cons letter letters =>
      rw [List.forall_mem_cons] at areLower
      simp [foldedPoint_eq_foldedPoint_iff areLower.1, ih letters areLower.2]

end ChartLint.Text
