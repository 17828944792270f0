import ChartLint.LineIndex
import ChartLint.Proofs.Comment.Bytes
import ChartLint.Proofs.Validation.Order
import Mathlib.Data.List.Basic

/-!
Offsets and positions. The starts of the lines increase, so an offset lies on one line only, and the
passage between offsets and positions loses nothing inside a text.
-/
namespace ChartLint

/-- Strict document order. -/
def Position.Before (a b : Position) : Prop := a ≤ b ∧ a ≠ b

namespace LineIndex

open Comment (bytes)

/-! ### Where lines start -/

theorem bounds_of_mem_breaks {offset start : Nat} {text : List Char} (h : start ∈ breaks offset text) :
    offset < start ∧ start ≤ offset + Text.byteSize text := by
  induction text generalizing offset with
  | nil => simp [breaks] at h
  | cons c text ih =>
    have isPositive := c.utf8Size_pos
    rw [Text.byteSize_cons]
    have later (h : start ∈ breaks (offset + c.utf8Size) text) :
        offset < start ∧ start ≤ offset + (c.utf8Size + Text.byteSize text) := by
      have inBounds := ih h
      omega
    rw [breaks] at h
    split at h
    · obtain rfl | h := List.mem_cons.mp h
      · omega
      · exact later h
    · exact later h

theorem pairwise_breaks (offset : Nat) (text : List Char) : (breaks offset text).Pairwise (· < ·) := by
  induction text generalizing offset with
  | nil => exact .nil
  | cons c text ih =>
    rw [breaks]
    split
    · exact .cons (fun start h => (bounds_of_mem_breaks h).1) (ih _)
    · exact ih _

/-- The byte at an offset is a line feed, with a number of line feeds before it. -/
def FeedAt (document : List UInt8) (number offset : Nat) : Prop :=
  document[offset]? = some 0x0A ∧ (document.take offset).count 0x0A = number

theorem feedAt_cons_iff {document : List UInt8} {number offset : Nat} :
    FeedAt (0x0A :: document) number offset ↔ number = 0 ∧ offset = 0 ∨
      ∃ before rest, number = before + 1 ∧ offset = rest + 1 ∧ FeedAt document before rest := by
  cases offset with
  | zero => simp [FeedAt, eq_comm]
  | succ offset => simp [FeedAt, eq_comm, and_comm]

theorem feedAt_append_iff {block document : List UInt8} {number offset : Nat} (noFeed : 0x0A ∉ block) :
    FeedAt (block ++ document) number offset ↔
      ∃ rest, offset = block.length + rest ∧ FeedAt document number rest := by
  have isZero (count : Nat) : (block.take count).count 0x0A = 0 :=
    List.count_eq_zero.mpr fun member => noFeed (List.mem_of_mem_take member)
  constructor
  · rintro ⟨isFeed, isNumber⟩
    have isBehind : block.length ≤ offset := by
      by_contra isInside
      rw [List.getElem?_append_left (by omega)] at isFeed
      exact noFeed (List.mem_of_getElem? isFeed)
    obtain ⟨rest, rfl⟩ := Nat.exists_eq_add_of_le isBehind
    refine ⟨rest, rfl, ?_, ?_⟩
    · rwa [List.getElem?_append_right isBehind, Nat.add_sub_cancel_left] at isFeed
    · rwa [List.take_append, List.count_append, isZero, Nat.zero_add, Nat.add_sub_cancel_left]
        at isNumber
  · rintro ⟨rest, rfl, isFeed, isNumber⟩
    refine ⟨?_, ?_⟩
    · rwa [List.getElem?_append_right (Nat.le_add_right ..), Nat.add_sub_cancel_left]
    · rwa [List.take_append, List.count_append, isZero, Nat.zero_add, Nat.add_sub_cancel_left]

theorem feed_notMem {c : Char} (isOther : c ≠ '\n') : 0x0A ∉ String.utf8EncodeChar c := by
  intro member
  rcases Comment.utf8EncodeChar_cases c with ⟨byte, isBytes, isValue⟩ | ⟨-, areHigh⟩
  · rw [isBytes, List.mem_singleton] at member
    exact isOther ((Comment.eq_ofNat_iff isValue '\n' (by decide)).mp member.symm)
  · have isHigh := areHigh _ member
    simp at isHigh

/-- A line starts one byte after each line feed. -/
theorem breaks_eq_some_iff {offset line start : Nat} {text : List Char} :
    (breaks offset text)[line]? = some start ↔
      ∃ feed, FeedAt (bytes text) line feed ∧ start = offset + feed + 1 := by
  induction text generalizing offset line with
  | nil => simp [breaks, bytes, FeedAt]
  | cons c text ih =>
    rw [Comment.bytes_cons, breaks]
    split
    case isTrue isFeed =>
      subst isFeed
      have isByte : String.utf8EncodeChar '\n' ++ bytes text = 0x0A :: bytes text := rfl
      have isSize : '\n'.utf8Size = 1 := rfl
      simp only [isByte, isSize, feedAt_cons_iff]
      cases line with
      | zero =>
        constructor
        · intro isStart
          exact ⟨0, .inl ⟨rfl, rfl⟩, (Option.some.inj isStart).symm⟩
        · rintro ⟨_, ⟨-, rfl⟩ | ⟨_, _, isSucc, -⟩, rfl⟩
          · rfl
          · cases isSucc
      | succ line =>
        rw [List.getElem?_cons_succ, ih]
        constructor
        · rintro ⟨feed, isFeed, rfl⟩
          exact ⟨feed + 1, .inr ⟨line, feed, rfl, rfl, isFeed⟩, by omega⟩
        · rintro ⟨_, ⟨isZero, -⟩ | ⟨_, feed, isSucc, rfl, isFeed⟩, rfl⟩
          · cases isZero
          · obtain rfl := Nat.succ.inj isSucc
            exact ⟨feed, isFeed, by omega⟩
    case isFalse isOther =>
      simp only [feedAt_append_iff (feed_notMem isOther), ih, String.length_utf8EncodeChar]
      constructor
      · rintro ⟨feed, isFeed, rfl⟩
        exact ⟨_, ⟨feed, rfl, isFeed⟩, by omega⟩
      · rintro ⟨_, ⟨feed, rfl, isFeed⟩, rfl⟩
        exact ⟨feed, isFeed, by omega⟩

/-! ### Positions of an index -/

/-- An index whose lines start at increasing offsets of the text, the first at zero. -/
structure Sound (index : LineIndex) : Prop where
  first : index.starts[0]? = some 0
  increasing : index.starts.Pairwise (· < ·)
  within : ∀ start ∈ index.starts, start ≤ index.size

theorem sound_ofText (text : List Char) : (ofText text).Sound where
  first := rfl
  increasing := .cons (fun start h => (bounds_of_mem_breaks h).1) (pairwise_breaks 0 text)
  within start h := by
    obtain rfl | h := List.mem_cons.mp h
    · exact Nat.zero_le _
    · simpa [ofText] using (bounds_of_mem_breaks h).2

/-- Which of the starts are at or before an offset can be told from their number. -/
theorem le_iff_lt_countP {starts : List Nat} (increasing : starts.Pairwise (· < ·))
    {line start offset : Nat} (isStart : starts[line]? = some start) :
    start ≤ offset ↔ line < starts.countP (· ≤ offset) := by
  induction starts generalizing line with
  | nil => simp at isStart
  | cons first starts ih =>
    obtain ⟨isLeast, increasing⟩ := List.pairwise_cons.mp increasing
    rw [List.countP_cons]
    by_cases isReached : first ≤ offset
    · cases line with
      | zero =>
        obtain rfl := Option.some.inj isStart
        simp [isReached]
      | succ line => simp [isReached, ih increasing isStart]
    · -- Beyond a start that is not reached, no start is.
      have noneReached : starts.countP (· ≤ offset) = 0 := by
        rw [List.countP_eq_zero]
        intro later member
        have isLater := isLeast later member
        simp only [decide_eq_true_eq]
        omega
      have isLater : first ≤ start := by
        cases line with
        | zero => exact Nat.le_of_eq (Option.some.inj isStart)
        | succ line => exact Nat.le_of_lt (isLeast start (List.mem_of_getElem? isStart))
      simp only [noneReached, isReached, decide_false, Bool.false_eq_true, if_false]
      omega

/-- An offset lies on a line: at its start or behind it, and before the next line. -/
structure On (index : LineIndex) (offset line start : Nat) : Prop where
  isStart : index.lineStart? line = some start
  reached : start ≤ offset
  before : ∀ next, index.lineStart? (line + 1) = some next → offset < next

/-- The text has a position on a line that starts at an offset: the character stays before the next
line or, on the last line, at most at the end of the text. -/
structure Holds (index : LineIndex) (position : Position) (start : Nat) : Prop where
  isStart : index.lineStart? position.line = some start
  before : ∀ next, index.lineStart? (position.line + 1) = some next → start + position.character < next
  within : index.lineStart? (position.line + 1) = none → start + position.character ≤ index.size

variable {index : LineIndex} {a b offset line start : Nat} {position : Position}

theorem Sound.exists_on (sound : index.Sound) (offset : Nat) :
    ∃ line start, index.On offset line start := by
  have isPositive := (le_iff_lt_countP sound.increasing sound.first).mp (Nat.zero_le offset)
  have isCount : index.starts.countP (· ≤ offset) ≤ index.starts.length := List.countP_le_length
  let line := index.starts.countP (· ≤ offset) - 1
  have isStart : index.starts[line]? = some (index.starts.get ⟨line, by omega⟩) :=
    List.getElem?_eq_getElem _
  refine ⟨line, _, isStart, ?_, fun next isNext => ?_⟩
  · rw [le_iff_lt_countP sound.increasing isStart]
    omega
  · rw [← Nat.not_le, le_iff_lt_countP sound.increasing isNext]
    omega

theorem On.position_eq (on : index.On offset line start) (sound : index.Sound) :
    index.position offset = ⟨line, offset - start⟩ := by
  have isReached := (le_iff_lt_countP sound.increasing on.isStart).mp on.reached
  have isLast : index.starts.countP (· ≤ offset) ≤ line + 1 := by
    cases isNext : index.starts[line + 1]? with
    | none => exact Nat.le_trans List.countP_le_length (List.getElem?_eq_none_iff.mp isNext)
    | some next =>
      rw [← Nat.not_lt, ← le_iff_lt_countP sound.increasing isNext, Nat.not_le]
      exact on.before next isNext
  have isLine : index.starts.countP (· ≤ offset) - 1 = line := by omega
  have isStart : index.starts[line]? = some start := on.isStart
  simp [LineIndex.position, isLine, isStart, List.getD_eq_getElem?_getD]

theorem Sound.offset_position (sound : index.Sound) (offset : Nat) :
    index.offset (index.position offset) = min offset index.size := by
  obtain ⟨line, start, on⟩ := sound.exists_on offset
  have isStart : index.starts[line]? = some start := on.isStart
  rw [on.position_eq sound, LineIndex.offset]
  simp only [isStart, Nat.add_sub_cancel' on.reached]

theorem Holds.position_offset (holds : index.Holds position start) (sound : index.Sound) :
    index.position (index.offset position) = position := by
  have isStart : index.starts[position.line]? = some start := holds.isStart
  have within : start + position.character ≤ index.size := by
    cases isNext : index.starts[position.line + 1]? with
    | none => exact holds.within isNext
    | some next =>
      have isBefore := holds.before next isNext
      have isWithin := sound.within next (List.mem_of_getElem? isNext)
      omega
  have isOffset : index.offset position = start + position.character := by
    simp only [LineIndex.offset, isStart, Nat.min_eq_left within]
  have on : index.On (start + position.character) position.line start :=
    ⟨holds.isStart, Nat.le_add_right .., holds.before⟩
  rw [isOffset, on.position_eq sound, Nat.add_sub_cancel_left]

theorem line_mono (h : a ≤ b) : (index.position a).line ≤ (index.position b).line := by
  apply Nat.sub_le_sub_right
  apply List.countP_mono_left
  intro start _ isReached
  simp only [decide_eq_true_eq] at isReached ⊢
  omega

theorem Sound.before_of_lt (sound : index.Sound) (h : a < b) :
    (index.position a).Before (index.position b) := by
  have isLine : (index.position a).line ≤ (index.position b).line := line_mono (Nat.le_of_lt h)
  obtain ⟨line, start, onFirst⟩ := sound.exists_on a
  obtain ⟨other, otherStart, onSecond⟩ := sound.exists_on b
  rw [onFirst.position_eq sound, onSecond.position_eq sound] at isLine ⊢
  obtain isLess | rfl := Nat.lt_or_eq_of_le isLine
  · exact ⟨.inl isLess, fun same => Nat.ne_of_lt isLess (congrArg Position.line same)⟩
  · obtain rfl := Option.some.inj (onFirst.isStart.symm.trans onSecond.isStart)
    have isLess : a - start < b - start := Nat.sub_lt_sub_right onFirst.reached h
    exact ⟨.inr ⟨rfl, Nat.le_of_lt isLess⟩,
      fun same => Nat.ne_of_lt isLess (congrArg Position.character same)⟩

theorem Sound.lt_iff_before (sound : index.Sound) :
    a < b ↔ (index.position a).Before (index.position b) := by
  refine ⟨sound.before_of_lt, fun isBefore => ?_⟩
  by_contra isAfter
  obtain isLess | rfl := Nat.lt_or_eq_of_le (Nat.not_lt.mp isAfter)
  · have isBack := sound.before_of_lt isLess
    exact isBefore.2 (Position.le_antisymm isBefore.1 isBack.1)
  · exact isBefore.2 rfl

/-- Offsets and positions of a text determine each other, and lines start behind line feeds. -/
theorem ofText_positions (text : String) :
    (∀ offset, (ofText text.toList).offset ((ofText text.toList).position offset) =
      min offset text.utf8ByteSize) ∧
    (∀ position start, (ofText text.toList).Holds position start →
      (ofText text.toList).position ((ofText text.toList).offset position) = position) ∧
    (∀ line start, (ofText text.toList).lineStart? line = some start ↔
      line = 0 ∧ start = 0 ∨ ∃ before feed, line = before + 1 ∧
        FeedAt text.toUTF8.data.toList before feed ∧ start = feed + 1) ∧
    ∀ a b, a < b ↔
      ((ofText text.toList).position a).Before ((ofText text.toList).position b) := by
  have sound := sound_ofText text.toList
  refine ⟨fun offset => ?_, fun position start holds => holds.position_offset sound, ?_,
    fun a b => sound.lt_iff_before⟩
  · have isSize : text.utf8ByteSize = Text.byteSize text.toList := by
      rw [← Comment.utf8ByteSize_ofList, String.ofList_toList]
    rw [sound.offset_position, isSize]
    rfl
  · intro line start
    rw [Comment.bytes_toList]
    cases line with
    | zero => simp [lineStart?, ofText, eq_comm]
    | succ line =>
      have isBreak : (ofText text.toList).lineStart? (line + 1) = (breaks 0 text.toList)[line]? := rfl
      rw [isBreak, breaks_eq_some_iff]
      simp

/-- The end of the last line, behind an empty line and a character of two bytes. -/
theorem ofText_positions_lastLine :
    (ofText "a\n\n\u00E9b".toList).Holds ⟨2, 3⟩ 3 ∧
      (ofText "a\n\n\u00E9b".toList).position ((ofText "a\n\n\u00E9b".toList).offset ⟨2, 3⟩) =
        ⟨2, 3⟩ := by
  have holds : (ofText "a\n\n\u00E9b".toList).Holds ⟨2, 3⟩ 3 :=
    ⟨by decide, fun _ isNext => (by cases isNext), fun _ => (by decide)⟩
  exact ⟨holds, (ofText_positions "a\n\n\u00E9b").2.1 _ _ holds⟩

end LineIndex

end ChartLint
