import ChartLint.Proofs.Comment.Blank
import ChartLint.Proofs.Text.Part
import Mathlib.Data.List.TakeWhile

/-!
Comments by lines. Neither mark of a block comment spans two lines, so the lines of a text tell whether
there is anything to blank.
-/
namespace ChartLint

namespace Text

theorem lines_eq_nil {text : List Char} (h : lines text = []) : text = [] := by
  cases text with
  | nil => rfl
  | cons c rest =>
    rw [lines_cons] at h
    split at h
    · cases h
    · split at h
      case isTrue isPair =>
        obtain ⟨rest, rfl⟩ := List.head?_eq_some_iff.mp isPair.2
        cases h
      case isFalse => cases isRest : lines rest <;> simp [isRest, prepend] at h

/-- What starts a text starts its first line, unless it is a line break. -/
theorem head?_lines {text line : List Char} {more : List (List Char)}
    (h : lines text = line :: more) {c : Char} (notFeed : c ≠ '\n') (notReturn : c ≠ '\r') :
    text.head? = some c ↔ line.head? = some c := by
  cases text with
  | nil => cases h
  | cons d rest =>
    rw [lines_cons] at h
    split at h
    case isTrue isFeed =>
      obtain ⟨rfl, -⟩ := List.cons.inj h
      simp [isFeed, notFeed.symm]
    case isFalse =>
      split at h
      case isTrue isPair =>
        obtain ⟨isReturn, isHead⟩ := isPair
        obtain ⟨rest, rfl⟩ := List.head?_eq_some_iff.mp isHead
        obtain ⟨rfl, -⟩ := List.cons.inj h
        simp [isReturn, notReturn.symm]
      case isFalse =>
        cases isRest : lines rest with
        | nil =>
          rw [isRest] at h
          obtain ⟨rfl, -⟩ := List.cons.inj h
          simp
        | cons first others =>
          rw [isRest] at h
          obtain ⟨rfl, -⟩ := List.cons.inj h
          simp

end Text

namespace Comment

open Text (lines prepend lines_cons)

/-- A block comment starts somewhere in a text. -/
def Opens (text : List Char) : Prop := ∃ before after, text = before ++ '/' :: '*' :: after

theorem opens_cons {c : Char} {rest : List Char} :
    Opens (c :: rest) ↔ c = '/' ∧ rest.head? = some '*' ∨ Opens rest := by
  constructor
  · rintro ⟨before, after, isText⟩
    cases before with
    | nil =>
      obtain ⟨rfl, rfl⟩ := List.cons.inj isText
      exact .inl ⟨rfl, rfl⟩
    | cons d before => exact .inr ⟨before, after, (List.cons.inj isText).2⟩
  · rintro (⟨rfl, isHead⟩ | ⟨before, after, rfl⟩)
    · obtain ⟨after, rfl⟩ := List.head?_eq_some_iff.mp isHead
      exact ⟨[], after, rfl⟩
    · exact ⟨c :: before, after, rfl⟩

theorem closes_cons {c : Char} {rest : List Char} :
    closes (c :: rest) = true ↔ c = '*' ∧ rest.head? = some '/' ∨ closes rest = true := by
  by_cases isEnd : c = '*' ∧ rest.head? = some '/'
  · obtain ⟨rfl, isHead⟩ := isEnd
    obtain ⟨after, rfl⟩ := List.head?_eq_some_iff.mp isHead
    simp [closes]
  · rw [closes]
    · simp [isEnd]
    · rintro after rfl rfl
      exact isEnd ⟨rfl, rfl⟩

theorem unclosed_cons {c : Char} {rest : List Char} :
    Unclosed (c :: rest) ↔
      (c = '/' ∧ rest.head? = some '*' → closes rest.tail = false) ∧ Unclosed rest := by
  constructor
  · refine fun h => ⟨?_, h.tail⟩
    rintro ⟨rfl, isHead⟩
    obtain ⟨after, rfl⟩ := List.head?_eq_some_iff.mp isHead
    exact h [] after rfl
  · rintro ⟨isOpen, h⟩
    refine h.cons ?_
    rintro after rfl rfl
    exact isOpen ⟨rfl, rfl⟩

theorem mem_blankChar {c d : Char} (h : d ∈ blankChar c) : d = c ∨ d = ' ' := by
  obtain ⟨-, isKept⟩ | ⟨-, count, isBlank⟩ := blankChar_cases c
  · exact .inl (List.mem_singleton.mp (isKept ▸ h))
  · exact .inr (List.eq_of_mem_replicate (isBlank ▸ h))

theorem feed_notMem_blankChar {c : Char} (notFeed : c ≠ '\n') : '\n' ∉ blankChar c := by
  intro member
  rcases mem_blankChar member with isFeed | isSpace
  · exact notFeed isFeed.symm
  · exact absurd isSpace (by decide)

theorem not_pair_of {c first second : Char} {rest : List Char}
    (isOther : ∀ after, c = first → rest = second :: after → False) :
    ¬ (c = first ∧ rest.head? = some second) := by
  rintro ⟨isFirst, isHead⟩
  obtain ⟨after, isRest⟩ := List.head?_eq_some_iff.mp isHead
  exact isOther after isFirst isRest

theorem blankBlocksFrom_inside {c : Char} {rest : List Char}
    (isOther : ¬ (c = '*' ∧ rest.head? = some '/')) :
    blankBlocksFrom true (c :: rest) = blankChar c ++ blankBlocksFrom true rest := by
  rw [blankBlocksFrom]
  rintro after rfl rfl
  exact isOther ⟨rfl, rfl⟩

theorem blankBlocksFrom_outside {c : Char} {rest : List Char}
    (isOther : ¬ (c = '/' ∧ rest.head? = some '*')) :
    blankBlocksFrom false (c :: rest) = c :: blankBlocksFrom false rest := by
  rw [blankBlocksFrom]
  rintro after rfl rfl
  exact isOther ⟨rfl, rfl⟩

theorem closes_eq_any (text : List Char) : closes text = (lines text).any closes := by
  induction text with
  | nil => rfl
  | cons c rest ih =>
    rw [lines_cons]
    split
    case isTrue isFeed =>
      rw [List.any_cons, ← ih, isFeed]
      rfl
    case isFalse =>
      split
      case isTrue isPair =>
        rw [← ih, isPair.1]
        rfl
      case isFalse =>
        cases isLines : lines rest with
        | nil =>
          rw [Text.lines_eq_nil isLines]
          simp [prepend]
        | cons line more =>
          rw [isLines, List.any_cons] at ih
          have isHead := Text.head?_lines isLines (c := '/') (by decide) (by decide)
          rw [Bool.eq_iff_iff, prepend, List.any_cons, List.singleton_append, Bool.or_eq_true,
            closes_cons, closes_cons, ih, isHead, Bool.or_eq_true, or_assoc]

/-- The end of a comment whose start is the start of a text. -/
theorem closes_tail {rest line : List Char} {more : List (List Char)}
    (isLines : lines rest = line :: more) (isHead : rest.head? = some '*') :
    closes rest.tail = (closes line.tail || more.any closes) := by
  obtain ⟨after, rfl⟩ := List.head?_eq_some_iff.mp isHead
  rw [lines_cons, if_neg (by decide), if_neg (by simp)] at isLines
  rw [List.tail_cons, closes_eq_any]
  cases isAfter : lines after with
  | nil =>
    rw [isAfter] at isLines
    obtain ⟨rfl, rfl⟩ := List.cons.inj isLines
    rfl
  | cons first others =>
    rw [isAfter] at isLines
    obtain ⟨rfl, rfl⟩ := List.cons.inj isLines
    rfl

theorem unclosed_iff_lines (text : List Char) :
    Unclosed text ↔ (∀ line ∈ lines text, Unclosed line) ∧
      (lines text).Pairwise fun line later => Opens line → closes later = false := by
  have notOpens : ¬ Opens [] := by simp [Opens]
  induction text with
  | nil => simp [lines, Unclosed.nil]
  | cons c rest ih =>
    rw [lines_cons, unclosed_cons]
    split
    case isTrue isFeed => simp [isFeed, ih, Unclosed.nil, notOpens]
    case isFalse =>
      split
      case isTrue isPair => simp [isPair.1, ih]
      case isFalse =>
        cases isLines : lines rest with
        | nil =>
          rw [Text.lines_eq_nil isLines]
          simp [prepend, unclosed_cons, Unclosed.nil]
        | cons line more =>
          have sameHead := Text.head?_lines isLines (c := '*') (by decide) (by decide)
          rw [isLines] at ih
          simp only [prepend, List.singleton_append, List.forall_mem_cons, List.pairwise_cons,
            unclosed_cons, opens_cons, ih, sameHead]
          by_cases starts : c = '/' ∧ line.head? = some '*'
          · rw [closes_tail isLines (sameHead.mpr starts.2), Bool.or_eq_false_iff, List.any_eq_false]
            grind
          · grind

theorem blank_eq_self_iff {text : List Char} :
    blank text = text ↔ Unclosed text ∧ (lines text).any isMarked = false := by
  rw [← (marked_eq_any text).1]
  constructor
  · intro isBlanked
    rw [← isBlanked]
    exact ⟨unclosed_blank text, not_marked_blank text⟩
  · rintro ⟨unclosed, unmarked⟩
    rw [blank, blankBlocks_eq_self unclosed]
    exact (blankMarkedFrom_eq_self text).1 unmarked

/-- A text without comments has none either when some of its lines become blank. -/
theorem blank_eq_self_of_lines {text other : List Char} (h : blank text = text)
    (cleared : ∀ (number : Nat) (line : List Char), (lines other)[number]? = some line →
      (lines text)[number]? = some line ∨ line.all Text.isIndent = true) : blank other = other := by
  obtain ⟨unclosed, unmarked⟩ := blank_eq_self_iff.mp h
  obtain ⟨each, pairs⟩ := (unclosed_iff_lines text).mp unclosed
  have absent {line : List Char} (isIndent : line.all Text.isIndent = true) {c : Char}
      (isOther : Text.isIndent c = false) : c ∉ line := by
    intro member
    rw [List.all_eq_true.mp isIndent c member] at isOther
    cases isOther
  have notOpens {line : List Char} (isIndent : line.all Text.isIndent = true) : ¬ Opens line := by
    rintro ⟨before, after, rfl⟩
    exact absent isIndent (c := '/') (by decide) (by simp)
  rw [blank_eq_self_iff, unclosed_iff_lines, List.any_eq_false]
  refine ⟨⟨fun line member => ?_, List.pairwise_iff_getElem.mpr ?_⟩, fun line member => ?_⟩
  · obtain ⟨number, isLine⟩ := List.mem_iff_getElem?.mp member
    rcases cleared number line isLine with isKept | isIndent
    · exact each line (List.mem_of_getElem? isKept)
    · intro before after isText
      exact absurd ⟨before, after, isText⟩ (notOpens isIndent)
  · intro i j isLeft isRight before opens
    rw [Bool.eq_false_iff]
    intro isClosed
    rcases cleared i _ (List.getElem?_eq_getElem isLeft) with isKept | isIndent
    · rcases cleared j _ (List.getElem?_eq_getElem isRight) with isOther | isIndent
      · obtain ⟨left, isFirst⟩ := List.getElem?_eq_some_iff.mp isKept
        obtain ⟨right, isSecond⟩ := List.getElem?_eq_some_iff.mp isOther
        have isOpen := List.pairwise_iff_getElem.mp pairs i j left right before
        rw [isFirst, isSecond] at isOpen
        exact absurd isClosed (Bool.eq_false_iff.mp (isOpen opens))
      · obtain ⟨first, last, isText⟩ := closes_iff.mp isClosed
        exact absent isIndent (c := '*') (by decide) (by simp [isText])
    · exact notOpens isIndent opens
  · obtain ⟨number, isLine⟩ := List.mem_iff_getElem?.mp member
    rcases cleared number line isLine with isKept | isIndent
    · exact List.any_eq_false.mp unmarked line (List.mem_of_getElem? isKept)
    · have isEmpty : line.dropWhile Text.isIndent = [] :=
        List.dropWhile_eq_nil_iff.mpr (List.all_eq_true.mp isIndent)
      simp [isMarked, isEmpty]

end Comment

end ChartLint
