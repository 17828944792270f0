import ChartLint.LineIndex
import ChartLint.Proofs.Comment.Bytes
import ChartLint.Proofs.Validation.Order
import ChartLint.Proofs.Validation.Place

/-!
Findings lie inside the document. Comments are blanked byte for byte, so a place that is found in the
blanked text is one of the document, between two of its characters.
-/
namespace ChartLint

open Comment (Blanked blankChar blankChar_cases)

namespace Comment.Blanked

open Text (lines prepend lines_cons)

variable {text result : List Char}

theorem append {other otherResult : List Char} (h : Blanked text result)
    (next : Blanked other otherResult) : Blanked (text ++ other) (result ++ otherResult) := by
  induction h with
  | nil => exact next
  | keep c _ ih => exact .keep c ih
  | blank c _ ih =>
    rw [List.append_assoc]
    exact .blank c ih

theorem prepend {start blankedStart : List Char} {texts results : List (List Char)}
    (h : Blanked start blankedStart) (next : List.Forall₂ Blanked texts results) :
    List.Forall₂ Blanked (Text.prepend start texts) (Text.prepend blankedStart results) := by
  cases next with
  | nil => exact .cons h .nil
  | cons first rest => exact .cons (h.append first) rest

theorem head?_eq_feed (h : Blanked text result) :
    text.head? = some '\n' ↔ result.head? = some '\n' := by
  cases h with
  | nil => rfl
  | keep c => rfl
  | blank c h =>
    obtain ⟨-, isKept⟩ | ⟨isOther, count, isBlank⟩ := blankChar_cases c
    · rw [isKept]
      rfl
    · rw [isBlank, List.replicate_succ]
      simpa using fun isFeed => isOther (.inl isFeed)

theorem lines_keep (c : Char) (h : Blanked text result)
    (next : List.Forall₂ Blanked (lines text) (lines result)) :
    List.Forall₂ Blanked (lines (c :: text)) (lines (c :: result)) := by
  simp only [lines_cons, h.head?_eq_feed]
  split
  · exact .cons .nil next
  · split
    · exact next
    · exact prepend (.keep c .nil) next

/-- Blanking goes line by line. -/
theorem lines (h : Blanked text result) :
    List.Forall₂ Blanked (Text.lines text) (Text.lines result) := by
  induction h with
  | nil => exact .nil
  | keep c h ih => exact lines_keep c h ih
  | @blank c text result h ih =>
    obtain ⟨-, isKept⟩ | ⟨isOther, count, isBlank⟩ := blankChar_cases c
    · rw [isKept]
      exact lines_keep c h ih
    · have isPlain : Text.lines (c :: text) = Text.prepend [c] (Text.lines text) := by
        rw [lines_cons, if_neg fun isFeed => isOther (.inl isFeed),
          if_neg fun isPair => isOther (.inr isPair.1)]
      have isStart : Blanked [c] (List.replicate (count + 1) ' ') := by
        rw [← isBlank, ← List.append_nil (blankChar c)]
        exact .blank c .nil
      rw [isPlain, isBlank, Text.lines_spaces]
      exact prepend isStart ih

end Comment.Blanked

namespace LineIndex

open Text (lines byteSize)

/-- Where a line of a text starts. -/
theorem starts_of_lines {text line : List Char} {number : Nat} (offset : Nat)
    (isLine : (lines text)[number]? = some line) :
    ∃ before after, text = before ++ (line ++ after) ∧
      (offset :: breaks offset text)[number]? = some (offset + byteSize before) := by
  fun_induction Text.lines text generalizing offset number line with
  | case1 => simp at isLine
  | case2 rest ih =>
    cases number with
    | zero =>
      obtain rfl := Option.some.inj isLine
      exact ⟨[], '\n' :: rest, rfl, rfl⟩
    | succ number =>
      obtain ⟨before, after, rfl, isStart⟩ := ih (offset + '\n'.utf8Size) isLine
      refine ⟨'\n' :: before, after, rfl, ?_⟩
      simpa [breaks, Nat.add_assoc] using isStart
  | case3 rest ih =>
    cases number with
    | zero =>
      obtain rfl := Option.some.inj isLine
      exact ⟨[], '\r' :: '\n' :: rest, rfl, rfl⟩
    | succ number =>
      obtain ⟨before, after, rfl, isStart⟩ :=
        ih (offset + '\r'.utf8Size + '\n'.utf8Size) isLine
      refine ⟨'\r' :: '\n' :: before, after, rfl, ?_⟩
      simpa [breaks, Nat.add_assoc] using isStart
  | case4 c rest _ _ isNone _ =>
    cases number with
    | zero =>
      obtain rfl := Option.some.inj isLine
      exact ⟨[], rest, rfl, rfl⟩
    | succ number => simp at isLine
  | case5 c rest isChar _ first more isLines ih =>
    have isOther : c ≠ '\n' := fun isFeed => isChar isFeed
    cases number with
    | zero =>
      obtain rfl := Option.some.inj isLine
      obtain ⟨before, after, isRest, isStart⟩ :=
        @ih first 0 (offset + c.utf8Size) (by rw [isLines]; rfl)
      -- The first line starts the text, as what stands before it has no size.
      have isEmpty : byteSize before = 0 := by simpa using isStart
      obtain rfl : before = [] := by
        by_contra nonempty
        exact Nat.ne_of_gt (Text.byteSize_pos nonempty) isEmpty
      exact ⟨[], after, by simp [isRest], rfl⟩
    | succ number =>
      obtain ⟨before, after, isRest, isStart⟩ :=
        @ih line (number + 1) (offset + c.utf8Size) (by rw [isLines]; exact isLine)
      refine ⟨c :: before, after, by simp [isRest], ?_⟩
      simpa [breaks, isOther, Nat.add_assoc] using isStart

theorem offset_of_lines {text line : List Char} {number : Nat}
    (isLine : (lines text)[number]? = some line) :
    ∃ before after, text = before ++ (line ++ after) ∧ ∀ column ≤ byteSize line,
      (ofText text).offset ⟨number, column⟩ = byteSize before + column := by
  obtain ⟨before, after, isText, isStart⟩ := starts_of_lines 0 isLine
  refine ⟨before, after, isText, fun column inside => ?_⟩
  have isSize : byteSize text = byteSize before + (byteSize line + byteSize after) := by
    simp [isText]
  simp only [offset, ofText, isStart]
  omega

end LineIndex

namespace Validation

/-- A nonempty range on one line of a document, with its ends between characters of the document. -/
structure InDocument (text : String) (range : Range) : Prop where
  sameLine : range.stop.line = range.start.line
  nonempty : range.start.character < range.stop.character
  line : ∃ line, (Text.lines text.toList)[range.start.line]? = some line ∧
    range.stop.character ≤ Text.byteSize line
  start : String.Pos.Raw.IsValid text ⟨(LineIndex.ofText text.toList).offset range.start⟩
  stop : String.Pos.Raw.IsValid text ⟨(LineIndex.ofText text.toList).offset range.stop⟩
  less : (LineIndex.ofText text.toList).offset range.start <
    (LineIndex.ofText text.toList).offset range.stop

/-- An edge of a blanked line lies between two characters of the line. -/
theorem split_of_edge {line blanked : List Char} {column : Nat} (h : Blanked line blanked)
    (edge : Line.Edge blanked column) :
    ∃ left right, line = left ++ right ∧ Text.byteSize left = column := by
  obtain ⟨before, c, after, rfl, isSolid, isColumn⟩ := edge
  obtain ⟨left, right, rfl, isLeft, -⟩ := h.split isSolid before
  rcases isColumn with rfl | rfl
  · exact ⟨left, c :: right, rfl, isLeft.byteSize_eq.symm⟩
  · exact ⟨left ++ [c], right, by simp, by simp [isLeft.byteSize_eq]⟩

theorem isValid_of_split {text : String} (before after : List Char)
    (isText : text.toList = before ++ after) :
    String.Pos.Raw.IsValid text ⟨Text.byteSize before⟩ := by
  rw [String.Pos.Raw.isValid_iff_exists_append]
  refine ⟨String.ofList before, String.ofList after, ?_, ?_⟩
  · rw [← String.ofList_append, ← isText, String.ofList_toList]
  · rw [String.rawEndPos, Comment.utf8ByteSize_ofList]

/-- A place that a line of the blanked text gives lies in the document. -/
theorem inDocument_of_places {text : String} {number : Nat} {blanked : List Char} {range : Range}
    (isBlanked : (Text.lines (Comment.blank text.toList))[number]? = some blanked)
    (place : Line.Places blanked number range) : InDocument text range := by
  obtain ⟨line, isLine, h⟩ : ∃ line, (Text.lines text.toList)[number]? = some line ∧
      Blanked line blanked := by
    obtain ⟨sameLength, isSame⟩ :=
      List.forall₂_iff_get.mp (Comment.blanked_blank text.toList).lines
    obtain ⟨isLess, rfl⟩ := List.getElem?_eq_some_iff.mp isBlanked
    exact ⟨_, List.getElem?_eq_getElem (sameLength ▸ isLess), isSame number (sameLength ▸ isLess) isLess⟩
  obtain ⟨startLine, stopLine, nonempty, start, stop⟩ := place.within
  obtain ⟨left, right, isStart, isLeft⟩ := split_of_edge h start
  obtain ⟨front, rest, isStop, isFront⟩ := split_of_edge h stop
  obtain ⟨before, after, isText, isOffset⟩ := LineIndex.offset_of_lines isLine
  have inside : range.stop.character ≤ Text.byteSize line := by simp [isStop, ← isFront]
  have isFirst : (LineIndex.ofText text.toList).offset range.start =
      Text.byteSize before + range.start.character := by
    rw [← isOffset _ (Nat.le_of_lt (Nat.lt_of_lt_of_le nonempty inside)), ← startLine]
  have isLast : (LineIndex.ofText text.toList).offset range.stop =
      Text.byteSize before + range.stop.character := by
    rw [← isOffset _ inside, ← stopLine]
  refine ⟨stopLine.trans startLine.symm, nonempty, ⟨line, startLine ▸ isLine, inside⟩, ?_, ?_, ?_⟩
  · rw [isFirst, ← isLeft, ← Text.byteSize_append]
    exact isValid_of_split _ (right ++ after) (by simp [isText, isStart])
  · rw [isLast, ← isFront, ← Text.byteSize_append]
    exact isValid_of_split _ (rest ++ after) (by simp [isText, isStop])
  · rw [isFirst, isLast]
    omega

/-- Every diagnostic of a document lies in the document, and the diagnostics are in the order in which
they start. All places that reading a line gives lie in the document, reported or not, and the line is
cut between two of its characters. -/
theorem validate_inDocument (catalog : Catalog) (text : String) :
    (∀ diagnostic ∈ (validate catalog text).diagnostics, InDocument text diagnostic.range) ∧
      ((validate catalog text).diagnostics.Pairwise fun a b => a.range.start ≤ b.range.start) ∧
      ∀ (number : Nat) (line : List Char),
        (Text.lines (Comment.blank text.toList))[number]? = some line →
          (∀ range, Line.Places line number range → InDocument text range) ∧
          ∀ token, Line.keyword? line number = some token → ∃ before after, line = before ++ after ∧
            Text.byteSize before = token.range.stop.character ∧
            Line.afterKeyword line = Text.trim after := by
  refine ⟨?_, ?_, ?_⟩
  · intro diagnostic member
    obtain ⟨finding, isFinding, rfl⟩ := List.mem_map.mp member
    obtain ⟨number, line, isLine, place⟩ :=
      Scan.place_of_mem_findings (List.mem_mergeSort.mp isFinding)
    exact inDocument_of_places isLine place
  · rw [diagnostics, List.pairwise_map]
    exact pairwise_mergeSort_start _
  · intro number line isLine
    exact ⟨fun range => inDocument_of_places isLine, fun token => Line.afterKeyword_eq⟩

end Validation

end ChartLint
