import ChartLint.Line.Section
import ChartLint.Line.Setting
import ChartLint.Proofs.Block.Relocate
import ChartLint.Proofs.Text.Part
import Mathlib.Data.List.Basic
import Mathlib.Data.List.TakeWhile

/-!
Indents. A line that spaces and tabs are put before reads as before, with all its places moved right:
whatever reads a line skips its indent first.
-/
namespace ChartLint

namespace Position

/-- Where a place goes when each line is moved right by a width of its own. -/
def indent (widths : Nat → Nat) (place : Position) : Position :=
  { place with character := place.character + widths place.line }

theorem indent_le_indent (widths : Nat → Nat) {a b : Position} :
    a.indent widths ≤ b.indent widths ↔ a ≤ b := by
  obtain ⟨line, column⟩ := a
  obtain ⟨other, last⟩ := b
  simp only [indent, le_def]
  by_cases isSame : line = other
  · rw [isSame]
    omega
  · omega

theorem indent_injective (widths : Nat → Nat) : Function.Injective (indent widths) := by
  rintro ⟨line, column⟩ ⟨other, last⟩ same
  simp only [indent, mk.injEq] at same ⊢
  obtain ⟨rfl, isColumn⟩ := same
  exact ⟨rfl, Nat.add_right_cancel isColumn⟩

end Position

namespace Range

def indent (widths : Nat → Nat) (range : Range) : Range :=
  ⟨range.start.indent widths, range.stop.indent widths,
    (Position.indent_le_indent widths).mpr range.ordered⟩

theorem indent_injective (widths : Nat → Nat) : Function.Injective (indent widths) := by
  rintro ⟨start, stop, ordered⟩ ⟨first, last, sorted⟩ same
  simp only [indent, mk.injEq] at same ⊢
  exact ⟨Position.indent_injective widths same.1, Position.indent_injective widths same.2⟩

theorem indent_span (widths : Nat → Nat) (line column size : Nat) :
    (span line column size).indent widths = span line (column + widths line) size := by
  simp only [indent, span, Position.indent, Nat.add_right_comm]

end Range

namespace Line

/-- Spaces and tabs that may be put before a line to move it right by its width. -/
structure Indent (widths : Nat → Nat) (number : Nat) (pad : List Char) : Prop where
  isIndent : pad.all Text.isIndent = true
  length : pad.length = widths number

namespace Indent

variable {widths : Nat → Nat} {number : Nat} {pad : List Char}

theorem takeWhile_append (h : Indent widths number pad) (line : List Char) :
    (pad ++ line).takeWhile Text.isIndent = pad ++ line.takeWhile Text.isIndent :=
  List.takeWhile_append_of_pos (List.all_eq_true.mp h.isIndent)

theorem dropWhile_append (h : Indent widths number pad) (line : List Char) :
    (pad ++ line).dropWhile Text.isIndent = line.dropWhile Text.isIndent :=
  List.dropWhile_append_of_pos (List.all_eq_true.mp h.isIndent)

theorem isBlank (h : Indent widths number pad) : ∀ c ∈ pad, Text.isBlank c = true :=
  fun c member => Text.isBlank_of_isIndent (List.all_eq_true.mp h.isIndent c member)

theorem byteSize_append (h : Indent widths number pad) (text : List Char) :
    Text.byteSize (pad ++ text) = Text.byteSize text + widths number := by
  rw [Text.byteSize_append, Text.byteSize_of_isIndent h.isIndent, h.length, Nat.add_comm]

theorem trim_append (h : Indent widths number pad) (line : List Char) :
    Text.trim (pad ++ line) = Text.trim line := by
  rw [Text.trim, Text.trimStart, List.dropWhile_append_of_pos h.isBlank]
  rfl

end Indent

def KeywordToken.indent (widths : Nat → Nat) (token : KeywordToken) : KeywordToken :=
  { token with range := token.range.indent widths }

def SectionHeader.indent (widths : Nat → Nat) (header : SectionHeader) : SectionHeader :=
  { header with range := header.range.indent widths }

def SettingLine.indent (widths : Nat → Nat) (setting : SettingLine) : SettingLine :=
  { setting with
    nameRange := setting.nameRange.indent widths
    valueColumn := setting.valueColumn + widths setting.nameRange.start.line }

section Readers

variable {widths : Nat → Nat} {number : Nat} {pad : List Char} (h : Indent widths number pad)
  (line : List Char)

include h

theorem keyword?_indent :
    keyword? (pad ++ line) number = (keyword? line number).map (KeywordToken.indent widths) := by
  simp only [keyword?, h.takeWhile_append, h.dropWhile_append, h.byteSize_append]
  split
  · rw [← Range.indent_span]
    rfl
  · rfl

theorem afterKeyword_indent : afterKeyword (pad ++ line) = afterKeyword line := by
  rw [afterKeyword, h.dropWhile_append, afterKeyword]

theorem sectionHeader?_indent :
    sectionHeader? (pad ++ line) number =
      (sectionHeader? line number).map (SectionHeader.indent widths) := by
  simp only [sectionHeader?, h.takeWhile_append, h.dropWhile_append, h.byteSize_append]
  split
  · split
    · rfl
    · rw [← Range.indent_span]
      rfl
  · rfl

theorem setting?_indent :
    setting? (pad ++ line) number = (setting? line number).map (SettingLine.indent widths) := by
  simp only [setting?, h.takeWhile_append, h.dropWhile_append, h.byteSize_append]
  cases readName? (line.dropWhile Text.isIndent) with
  | none => rfl
  | some found =>
    obtain ⟨name, written, after⟩ := found
    simp only [Option.bind_eq_bind, Option.bind_some]
    split
    · split
      · rfl
      · rw [← Range.indent_span]
        simp [SettingLine.indent, Range.span, Nat.add_right_comm]
    · rfl

end Readers

end Line

namespace Block

open Line (Indent)

variable {widths : Nat → Nat} {number : Nat} {pad : List Char} (h : Indent widths number pad)
  (line : List Char)

include h

theorem Statement.ofLine?_indent :
    ofLine? (pad ++ line) number =
      (ofLine? line number).map (Prod.map id (Range.indent widths)) := by
  have sameKeyword (token : Line.KeywordToken) : (token.indent widths).keyword? = token.keyword? := rfl
  unfold ofLine?
  rw [Line.keyword?_indent h, Line.afterKeyword_indent h]
  cases Line.keyword? line number with
  | none => rfl
  | some token =>
    simp only [Option.map_some, Option.bind_eq_bind, Option.bind_some, sameKeyword]
    cases token.keyword? with
    | none => rfl
    | some keyword =>
      simp only [Option.bind_some]
      cases ofKeyword? keyword (Line.afterKeyword line) <;> rfl

namespace Tracker

theorem closing?_indent (body : Body) :
    closing? body (pad ++ line) number = (closing? body line number).map (Range.indent widths) := by
  rw [closing?, closing?, Line.keyword?_indent h, Option.bind_map, Option.map_bind]
  apply congrArg
  funext token
  change (if token.keyword? = some body.closer then _ else _) = Option.map _ (if _ then _ else _)
  split <;> rfl

theorem readRow_indent (kind : Body.Kind) :
    readRow (pad ++ line) number kind =
      Prod.map id (List.map (Finding.relocate (Range.indent widths))) (readRow line number kind) := by
  have isRow : rowRange (pad ++ line) number = (rowRange line number).indent widths := by
    rw [rowRange, rowRange, List.takeWhile_append_of_pos h.isBlank, h.byteSize_append,
      h.trim_append, Range.indent_span]
  unfold readRow
  cases kind with
  | text => rfl
  | rows columns =>
    simp only [h.trim_append, isRow]
    split
    · rfl
    · cases columns with
      | none => rfl
      | some expected =>
        dsimp only
        split <;> rfl

theorem readBody_indent (tracker : Tracker) (body : Body) :
    (tracker.relocate (Range.indent widths)).readBody body (pad ++ line) number =
      relocateBoth (Range.indent widths) (tracker.readBody body line number) := by
  unfold readBody
  rw [closing?_indent h]
  cases closing? body line number with
  | none =>
    rw [readRow_indent h]
    rfl
  | some range =>
    cases body.closer.opener? with
    | none =>
      rw [readRow_indent h]
      rfl
    | some opener => exact close_relocate _ { tracker with body := none } body.closer opener range

theorem read?_indent (tracker : Tracker) :
    (tracker.relocate (Range.indent widths)).read? (pad ++ line) number =
      (tracker.read? line number).map (relocateBoth (Range.indent widths)) := by
  have sameBody : (tracker.relocate (Range.indent widths)).body = tracker.body := rfl
  unfold read?
  rw [sameBody]
  cases tracker.body with
  | some body => exact congrArg some (readBody_indent h line tracker body)
  | none =>
    dsimp only
    rw [Statement.ofLine?_indent h, Option.map_map, Option.map_map]
    apply congrFun
    apply congrArg
    funext read
    exact perform_relocate _ tracker read.2 read.1

end Tracker

end Block

end ChartLint
