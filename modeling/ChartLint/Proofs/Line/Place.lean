import ChartLint.Block.Tracker
import ChartLint.Proofs.Comment.Blank
import ChartLint.Proofs.Line.Parts
import ChartLint.Value.Reference
import Mathlib.Data.List.Basic
import Mathlib.Data.List.TakeWhile

/-!
Places on lines. All that is read from a line lies on the line and is not empty, and at both of its ends
is a character that is neither a space nor part of a line break.
-/
namespace ChartLint

namespace Line

open Comment (Solid)

/-- A column at either end of a solid character. -/
def Edge (line : List Char) (column : Nat) : Prop :=
  ∃ before c after, line = before ++ c :: after ∧ Solid c ∧
    (column = Text.byteSize before ∨ column = Text.byteSize before + c.utf8Size)

/-- A nonempty range of a line with solid characters at its ends. -/
structure Within (line : List Char) (number : Nat) (range : Range) : Prop where
  startLine : range.start.line = number
  stopLine : range.stop.line = number
  nonempty : range.start.character < range.stop.character
  start : Edge line range.start.character
  stop : Edge line range.stop.character

/-- What a line gives a place to. -/
inductive Places (line : List Char) (number : Nat) : Range → Prop
  | keyword {token : KeywordToken} : keyword? line number = some token → Places line number token.range
  | header {header : SectionHeader} :
      sectionHeader? line number = some header → Places line number header.range
  | setting {setting : SettingLine} :
      setting? line number = some setting → Places line number setting.nameRange
  | reference {setting : SettingLine} {reference : Value.Reference} :
      setting? line number = some setting →
      reference ∈ Value.Reference.list setting.value.toList →
      Places line number
        (.span number (setting.valueColumn + reference.offset) (Text.byteSize reference.name))
  | row : Text.trim line ≠ [] → Places line number (Block.Tracker.rowRange line number)

section Solid

variable {c : Char}

/-- What does not hold of blanks holds of solid characters only. -/
theorem solid_of {p : Char → Bool} (h : p c = true) (space : p ' ' = false) (feed : p '\n' = false)
    (carriage : p '\r' = false) : Solid c := by
  refine ⟨?_, ?_, ?_⟩
  · rintro rfl
    simp [space] at h
  · rintro rfl
    simp [feed] at h
  · rintro rfl
    simp [carriage] at h

theorem solid_of_isWord (h : Text.isWord c = true) : Solid c :=
  solid_of h (by decide) (by decide) (by decide)

theorem solid_of_isNameChar (h : isNameChar c = true) : Solid c :=
  solid_of h (by decide) (by decide) (by decide)

theorem solid_of_isQuote (h : Value.Reference.isQuote c = true) : Solid c :=
  solid_of h (by decide) (by decide) (by decide)

theorem solid_of_not_isBlank (h : Text.isBlank c = false) : Solid c := by
  have notBlank : (!Text.isBlank c) = true := by simp [h]
  exact solid_of (p := fun c => !Text.isBlank c) notBlank (by decide) (by decide) (by decide)

end Solid

theorem within_span {line before part after : List Char} (number : Nat)
    (isLine : line = before ++ (part ++ after)) (first : ∃ c ∈ part.head?, Solid c)
    (last : ∃ c ∈ part.getLast?, Solid c) :
    Within line number (.span number (Text.byteSize before) (Text.byteSize part)) := by
  obtain ⟨c, isHead, isSolid⟩ := first
  obtain ⟨d, isLast, isSolidLast⟩ := last
  obtain ⟨rest, rfl⟩ := List.head?_eq_some_iff.mp isHead
  refine ⟨rfl, rfl, Nat.lt_add_of_pos_right (Text.byteSize_pos (List.cons_ne_nil c rest)), ?_, ?_⟩
  · exact ⟨before, c, rest ++ after, isLine, isSolid, .inl rfl⟩
  · obtain ⟨front, isPart⟩ := List.getLast?_eq_some_iff.mp isLast
    refine ⟨before ++ front, d, after, by simp [isLine, isPart], isSolidLast, .inr ?_⟩
    simp [Range.span, isPart, Nat.add_assoc]

theorem solid_of_keyword {keyword : Keyword} {word : List Char}
    (h : word.map Text.foldToAscii = keyword.name.toList) {c : Char} (isChar : c ∈ word) :
    Solid c := by
  have isLetter : (Text.foldToAscii c).isLower = true :=
    keyword.isLower_of_mem_name _ (h ▸ List.mem_map_of_mem isChar)
  exact solid_of (p := fun c => (Text.foldToAscii c).isLower) isLetter (by decide) (by decide)
    (by decide)

theorem ends_of_solid {part : List Char} (nonempty : part ≠ []) (solid : ∀ c ∈ part, Solid c) :
    (∃ c ∈ part.head?, Solid c) ∧ ∃ c ∈ part.getLast?, Solid c := by
  refine ⟨⟨part.head nonempty, List.head?_eq_some_head nonempty, ?_⟩,
    part.getLast nonempty, List.getLast?_eq_some_getLast nonempty, ?_⟩
  · exact solid _ (List.head_mem nonempty)
  · exact solid _ (List.getLast_mem nonempty)

theorem within_keyword {line : List Char} {number : Nat} {token : KeywordToken}
    (h : keyword? line number = some token) : Within line number token.range := by
  obtain ⟨parts, rfl, rfl⟩ := keyword?_eq_some_iff.mp h
  have isSpelled : parts.word.map Text.foldToAscii = parts.keyword.name.toList := by
    simpa [Text.spells] using (Text.foldsTo_iff_spells parts.keyword.isLower_of_mem_name).mp parts.folds
  have nonempty : parts.word ≠ [] := by
    intro isEmpty
    have named : ∀ keyword ∈ Keyword.all, keyword.name.toList ≠ [] := by decide
    exact named parts.keyword parts.keyword.mem_all (by rw [← isSpelled, isEmpty, List.map_nil])
  have ends := ends_of_solid nonempty fun c => solid_of_keyword isSpelled
  exact within_span number rfl ends.1 ends.2

/-- The text after a keyword is what follows its place. -/
theorem afterKeyword_eq {line : List Char} {number : Nat} {token : KeywordToken}
    (h : keyword? line number = some token) :
    ∃ before after, line = before ++ after ∧
      Text.byteSize before = token.range.stop.character ∧ afterKeyword line = Text.trim after := by
  simp only [keyword?, Option.ite_none_right_eq_some, Option.some.injEq] at h
  obtain ⟨-, rfl⟩ := h
  refine ⟨line.takeWhile Text.isIndent ++
    (line.dropWhile Text.isIndent).takeWhile (fun c => !endsWord c), _, ?_, ?_, rfl⟩
  · rw [List.append_assoc, List.takeWhile_append_dropWhile, List.takeWhile_append_dropWhile]
  · exact Text.byteSize_append ..

theorem within_header {line : List Char} {number : Nat} {header : SectionHeader}
    (h : sectionHeader? line number = some header) : Within line number header.range := by
  obtain ⟨parts, rfl, rfl⟩ := sectionHeader?_eq_some_iff.mp h
  have ends := ends_of_solid parts.nonempty fun c member => solid_of_isWord (parts.areWord c member)
  have isLine : parts.line = parts.indent ++ (('[' :: parts.name) ++ ']' :: parts.rest) := rfl
  refine within_span number isLine ⟨'[', rfl, by decide⟩ ?_
  rw [List.getLast?_cons_of_ne_nil parts.nonempty]
  exact ends.2

/-- A name as written has solid characters at its ends. -/
theorem WrittenName.ends {name written : List Char} {quoted : Bool} (h : WrittenName name written quoted) :
    (∃ c ∈ written.head?, Solid c) ∧ ∃ c ∈ written.getLast?, Solid c := by
  cases h with
  | plain nonempty areName =>
    exact ends_of_solid nonempty fun c member => solid_of_isNameChar (areName c member)
  | quoted => exact ⟨⟨'"', rfl, by decide⟩, '"', List.getLast?_concat, by decide⟩

/-- A setting line is its name and, from the column of the value on, its value. -/
theorem setting?_eq_some {line : List Char} {number : Nat} {setting : SettingLine}
    (h : setting? line number = some setting) :
    Within line number setting.nameRange ∧
      ∃ before after, line = before ++ (setting.value.toList ++ after) ∧
        Text.byteSize before = setting.valueColumn := by
  obtain ⟨parts, rfl, rfl⟩ := setting?_eq_some_iff.mp h
  have ends := parts.isWritten.ends
  refine ⟨within_span number parts.line_eq ends.1 ends.2, parts.before, parts.trail, ?_, rfl⟩
  rw [SettingParts.line, parts.trails.isText, SettingParts.setting, String.toList_ofList]

theorem within_row {line : List Char} (nonempty : Text.trim line ≠ []) (number : Nat) :
    Within line number (Block.Tracker.rowRange line number) := by
  obtain ⟨blanks, isTrim⟩ := Text.trimEnd_isPrefix (Text.trimStart line)
  have isLine : line = line.takeWhile Text.isBlank ++ (Text.trim line ++ blanks) := by
    rw [Text.trim, isTrim, Text.trimStart, List.takeWhile_append_dropWhile]
  refine within_span number isLine ?_ ?_
  · have isHead := List.head?_dropWhile_not Text.isBlank line
    have isFirst : (line.dropWhile Text.isBlank).head? = some ((Text.trim line).head nonempty) := by
      rw [← Text.trimStart, ← isTrim, ← Text.trim, List.head?_append_of_ne_nil _ nonempty,
        List.head?_eq_some_head nonempty]
    rw [isFirst] at isHead
    exact ⟨_, List.head?_eq_some_head nonempty, solid_of_not_isBlank (by simpa using isHead)⟩
  · have isLast := List.getLast?_eq_some_getLast nonempty
    exact ⟨_, isLast, solid_of_not_isBlank (Text.not_isBlank_of_getLast? isLast)⟩

end Line

namespace Value.Reference

/-- The alias of a reference stands between quotes. -/
structure Stands (text : List Char) (offset : Nat) (reference : Reference) : Prop where
  nonempty : reference.name ≠ []
  quoted : ∃ before mark close after,
    text = before ++ mark :: (reference.name ++ close :: after) ∧
      isQuote mark = true ∧ isQuote close = true ∧
      reference.offset = offset + Text.byteSize before + mark.utf8Size

theorem stands_read? {text before name after : List Char}
    (h : read? text = some (before, name, after)) (offset : Nat) :
    Stands text offset ⟨name, offset + Text.byteSize before⟩ := by
  simp only [read?, Option.bind_eq_bind, Option.bind_eq_some_iff] at h
  obtain ⟨inner, isInner, h⟩ := h
  split at h
  case h_1 => cases h
  case h_2 mark quoted isQuoted =>
    simp only [Option.ite_none_right_eq_some, Bool.and_eq_true, Option.some.injEq,
      Prod.mk.injEq] at h
    obtain ⟨⟨⟨⟨isMark, nonempty⟩, hasQuote⟩, -⟩, rfl, rfl, -⟩ := h
    have isSuffix : mark :: quoted <:+ text :=
      isQuoted ▸ (List.dropWhile_suffix _).trans (Text.suffix_of_after? isInner)
    obtain ⟨front, isText⟩ := isSuffix
    have isBefore : text.take (text.length - quoted.length) = front ++ [mark] := by
      have isSplit : text = (front ++ [mark]) ++ quoted := by simp [← isText]
      rw [isSplit, List.length_append, Nat.add_sub_cancel, List.take_left]
    refine ⟨by simpa using nonempty, ?_⟩
    cases isRest : quoted.dropWhile (fun c => !isQuote c) with
    | nil =>
      rw [List.dropWhile_eq_nil_iff] at isRest
      obtain ⟨c, member, isQuote⟩ := List.any_eq_true.mp hasQuote
      simpa [isQuote] using isRest c member
    | cons close rest =>
      have isClose := List.head?_dropWhile_not (fun c => !isQuote c) quoted
      refine ⟨front, mark, close, rest, ?_, isMark, by simpa [isRest] using isClose, ?_⟩
      · rw [← isRest, List.takeWhile_append_dropWhile, isText]
      · simp [isBefore, Nat.add_assoc]

theorem stands_listFrom {offset skip : Nat} {text : List Char} {reference : Reference}
    (h : reference ∈ listFrom offset skip text) : Stands text offset reference := by
  have deeper {offset : Nat} {c : Char} {rest : List Char}
      (stands : Stands rest (offset + c.utf8Size) reference) :
      Stands (c :: rest) offset reference := by
    obtain ⟨nonempty, before, mark, close, after, rfl, isMark, isClose, isOffset⟩ := stands
    refine ⟨nonempty, c :: before, mark, close, after, rfl, isMark, isClose, ?_⟩
    simp [isOffset, Nat.add_assoc]
  induction text generalizing offset skip with
  | nil => simp [listFrom] at h
  | cons c rest ih =>
    cases skip with
    | succ skip => exact deeper (ih h)
    | zero =>
      simp only [listFrom] at h
      split at h
      case h_1 before name after isRead =>
        rcases List.mem_cons.mp h with rfl | member
        · exact stands_read? isRead offset
        · exact deeper (ih member)
      case h_2 => exact deeper (ih h)

end Value.Reference

namespace Line

open Comment (Solid)

/-- All places of a line lie on it. -/
theorem Places.within {line : List Char} {number : Nat} {range : Range}
    (h : Places line number range) : Within line number range := by
  cases h with
  | keyword isToken => exact within_keyword isToken
  | header isHeader => exact within_header isHeader
  | setting isSetting => exact (setting?_eq_some isSetting).1
  | row nonempty => exact within_row nonempty number
  | @reference setting reference isSetting member =>
    obtain ⟨-, front, blanks, isLine, isColumn⟩ := setting?_eq_some isSetting
    obtain ⟨nonempty, before, mark, close, after, isValue, isMark, isClose, isOffset⟩ :=
      Value.Reference.stands_listFrom member
    rw [isValue] at isLine
    refine ⟨rfl, rfl, Nat.lt_add_of_pos_right (Text.byteSize_pos nonempty), ?_, ?_⟩
    · refine ⟨front ++ before, mark, reference.name ++ close :: (after ++ blanks), by simp [isLine],
        solid_of_isQuote isMark, .inr ?_⟩
      simp [Range.span, ← isColumn, isOffset, Nat.add_assoc]
    · refine ⟨front ++ (before ++ mark :: reference.name), close, after ++ blanks, by simp [isLine],
        solid_of_isQuote isClose, .inl ?_⟩
      simp [Range.span, ← isColumn, isOffset, Nat.add_assoc]

end Line

end ChartLint
