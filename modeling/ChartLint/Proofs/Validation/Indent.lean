import ChartLint.Catalog.Builtin
import ChartLint.Proofs.Comment.Indent
import ChartLint.Proofs.Validation.Relocate
import ChartLint.Validation

/-!
Indentation. Spaces and tabs put before the lines of a document move what is reported to the right, each
line by what was put before it, and change nothing else.
-/
namespace ChartLint

/-- A diagnostic at another place. -/
def Diagnostic.relocate (f : Range → Range) (diagnostic : Diagnostic) : Diagnostic :=
  { diagnostic with range := f diagnostic.range }

namespace Text

/-- A text that goes on at a line of a number, at its start or within it, with a pad put before the
first character of each line. -/
def indentFrom (pads : Nat → List Char) : (number : Nat) → (starts : Bool) → List Char → List Char
  | _, _, [] => []
  | number, starts, c :: rest =>
    (if starts then pads number else []) ++
      c :: indentFrom pads (if c = '\n' then number + 1 else number) (c == '\n') rest

/-- A text with a pad put before each of its lines, by their numbers. -/
def indent (pads : Nat → List Char) (text : String) : String :=
  String.ofList (indentFrom pads 0 true text.toList)

variable {pads : Nat → List Char}

theorem indentFrom_start {text : List Char} (nonempty : text ≠ []) (number : Nat) :
    indentFrom pads number true text = pads number ++ indentFrom pads number false text := by
  cases text with
  | nil => exact absurd rfl nonempty
  | cons c rest => rfl

theorem indented_indentFrom (areIndents : ∀ number, (pads number).all isIndent = true) (number : Nat)
    (text : List Char) :
    Indented (fun number => (pads number).length) number text (indentFrom pads number false text) := by
  induction text generalizing number with
  | nil => exact .nil
  | cons c rest ih =>
    by_cases isFeed : c = '\n'
    · subst isFeed
      cases rest with
      | nil => exact .last
      | cons d rest =>
        exact .feed ⟨areIndents (number + 1), rfl⟩ (List.cons_ne_nil d rest) (ih (number + 1))
    · simp only [indentFrom, isFeed, ↓reduceIte, beq_eq_false_iff_ne.mpr isFeed]
      exact .char isFeed (ih number)

end Text

namespace Validation

namespace Scan

variable {widths : Nat → Nat}

theorem readLine_relocate {number : Nat} {pad : List Char} (h : Line.Indent widths number pad)
    (catalog : Catalog) (scan : Scan) (line : List Char) :
    (scan.relocate (Range.indent widths)).readLine catalog (pad ++ line) number =
      (scan.readLine catalog line number).relocate (Range.indent widths) := by
  have isRead := Block.Tracker.read?_indent h line scan.blocks
  unfold readLine
  rw [relocate, isRead]
  cases scan.blocks.read? line number with
  | some both => exact report_relocate _ { scan with blocks := both.1 } both.2
  | none =>
    rw [Line.sectionHeader?_indent h]
    cases Line.sectionHeader? line number with
    | some header => exact scan.readHeader_relocate (Range.indent_injective widths) catalog header
    | none =>
      rw [Line.setting?_indent h]
      cases Line.setting? line number with
      | none => rfl
      | some setting =>
        apply scan.readSetting_relocate catalog setting
        intro offset size
        rw [Range.indent_span, Nat.add_right_comm]
        rfl

/-- The scan of indented lines goes on as that of the lines does. -/
theorem foldl_readLine_relocate {number : Nat} {lines results : List (List Char)}
    (h : Text.IndentedLines widths number lines results) (catalog : Catalog) (scan : Scan) :
    (results.zipIdx number).foldl (fun scan entry => scan.readLine catalog entry.1 entry.2)
        (scan.relocate (Range.indent widths)) =
      ((lines.zipIdx number).foldl (fun scan entry => scan.readLine catalog entry.1 entry.2)
        scan).relocate (Range.indent widths) := by
  induction h generalizing scan with
  | nil => rfl
  | cons isPad _ ih =>
    rw [List.zipIdx_cons, List.foldl_cons, readLine_relocate isPad, ih, List.zipIdx_cons,
      List.foldl_cons]

theorem ofLines_relocate {lines results : List (List Char)}
    (h : Text.IndentedLines widths 0 lines results) (catalog : Catalog) :
    ofLines catalog results = (ofLines catalog lines).relocate (Range.indent widths) := by
  have isEmpty : ({} : Scan).relocate (Range.indent widths) = {} := by
    simp [relocate, Section.Stack.relocate, Section.Tree.relocate, Block.Tracker.relocate]
  have isRun := foldl_readLine_relocate h catalog {}
  rw [isEmpty] at isRun
  rw [ofLines, readLines, isRun, finish_relocate _ (Range.indent_injective widths)]
  rfl

end Scan

theorem diagnostics_ofScan_indent (widths : Nat → Nat) (scan : Scan) :
    (ofScan (scan.relocate (Range.indent widths))).diagnostics =
      (ofScan scan).diagnostics.map (Diagnostic.relocate (Range.indent widths)) := by
  have sameOrder (a b : Finding) : decide (a.range.start ≤ b.range.start) =
      decide ((a.relocate (Range.indent widths)).range.start ≤
        (b.relocate (Range.indent widths)).range.start) :=
    decide_eq_decide.mpr (Position.indent_le_indent widths).symm
  have isSorted : (ofScan (scan.relocate (Range.indent widths))).findings =
      (ofScan scan).findings.map (Finding.relocate (Range.indent widths)) :=
    (List.map_mergeSort fun a _ b _ => sameOrder a b).symm
  rw [diagnostics, diagnostics, isSorted, List.map_map, List.map_map]
  rfl

/-- Indentation does not matter: the indented document gets the same diagnostics in the same order and
the same tree, with both ends of each range moved by what was put before their line. -/
theorem validate_indent (catalog : Catalog) {pads : Nat → List Char}
    (areIndents : ∀ number, (pads number).all Text.isIndent = true) (text : String) :
    (validate catalog (Text.indent pads text)).diagnostics =
        (validate catalog text).diagnostics.map
          (Diagnostic.relocate (Range.indent fun number => (pads number).length)) ∧
      (validate catalog (Text.indent pads text)).tree =
        (validate catalog text).tree.relocate (Range.indent fun number => (pads number).length) := by
  have areLines : Text.IndentedLines (fun number => (pads number).length) 0
      (Text.lines (Comment.blank text.toList))
      (Text.lines (Comment.blank (Text.indentFrom pads 0 true text.toList))) := by
    by_cases isEmpty : text.toList = []
    · rw [isEmpty]
      exact .nil
    · rw [Text.indentFrom_start isEmpty]
      exact Comment.indentedLines_blank (Text.indented_indentFrom areIndents 0 text.toList) isEmpty
        ⟨areIndents 0, rfl⟩
  have isScan := Scan.ofLines_relocate areLines catalog
  rw [validate, Text.indent, String.toList_ofList, isScan]
  exact ⟨diagnostics_ofScan_indent _ _, rfl⟩

/-- Each line is indented by one more than the line above it, also within a comment. -/
theorem validate_indent_stairs :
    (∀ number, ('\t' :: List.replicate number ' ').all Text.isIndent = true) ∧
      (validate .builtin "\t/* a\n\t  */[group]\n\t  # b\n\t   \n\t    endif").diagnostics =
        (validate .builtin "/* a\n */[group]\n# b\n\nendif").diagnostics.map
          (Diagnostic.relocate (Range.indent (· + 1))) ∧
      (validate .builtin "\t/* a\n\t  */[group]\n\t  # b\n\t   \n\t    endif").tree =
        (validate .builtin "/* a\n */[group]\n# b\n\nendif").tree.relocate
          (Range.indent (· + 1)) := by
  have areIndents (number : Nat) : ('\t' :: List.replicate number ' ').all Text.isIndent = true := by
    simp [Text.isIndent]
  have areWidths : (fun number => ('\t' :: List.replicate number ' ').length) = (· + 1) := by
    funext number
    simp
  have isIndented : Text.indent (fun number => '\t' :: List.replicate number ' ')
      "/* a\n */[group]\n# b\n\nendif" =
      "\t/* a\n\t  */[group]\n\t  # b\n\t   \n\t    endif" := by decide
  rw [← isIndented, ← areWidths]
  exact ⟨areIndents, validate_indent .builtin areIndents _⟩

end Validation

end ChartLint
