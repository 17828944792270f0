import ChartLint.Proofs.Comment.Line
import ChartLint.Proofs.Line.Indent

/-!
Indents and comments. Blanking the comments of an indented document gives an indented document: an indent
outside of comments stays as it is, one inside a comment becomes spaces of the same width, and neither
makes or breaks a mark of a comment.
-/
namespace ChartLint

open Line (Indent)

variable {widths : Nat → Nat} {number : Nat}

namespace Text

theorem lines_indent {pad : List Char} (h : pad.all isIndent = true) {text first : List Char}
    {more : List (List Char)} (isLines : lines text = first :: more) :
    lines (pad ++ text) = (pad ++ first) :: more := by
  induction pad with
  | nil => exact isLines
  | cons c pad ih =>
    rw [List.all_cons, Bool.and_eq_true] at h
    have notFeed : c ≠ '\n' := ne_of_isIndent h.1 rfl
    have notReturn : c ≠ '\r' := ne_of_isIndent h.1 rfl
    rw [List.cons_append, lines_cons, if_neg notFeed, if_neg (notReturn ·.1), ih h.2]
    rfl

/-- A text that goes on from within a line of a number, and the same with an indent put before each
of the lines that follow. -/
inductive Indented (widths : Nat → Nat) : Nat → List Char → List Char → Prop
  | nil {number : Nat} : Indented widths number [] []
  | char {number : Nat} {c : Char} {text result : List Char} :
      c ≠ '\n' → Indented widths number text result →
      Indented widths number (c :: text) (c :: result)
  | last {number : Nat} : Indented widths number ['\n'] ['\n']
  | feed {number : Nat} {pad text result : List Char} :
      Indent widths (number + 1) pad → text ≠ [] → Indented widths (number + 1) text result →
      Indented widths number ('\n' :: text) ('\n' :: (pad ++ result))

/-- Lines from a number on, and the same lines with an indent put before each. -/
inductive IndentedLines (widths : Nat → Nat) : Nat → List (List Char) → List (List Char) → Prop
  | nil {number : Nat} : IndentedLines widths number [] []
  | cons {number : Nat} {pad line : List Char} {lines results : List (List Char)} :
      Indent widths number pad → IndentedLines widths (number + 1) lines results →
      IndentedLines widths number (line :: lines) ((pad ++ line) :: results)

namespace Indented

variable {text result : List Char}

theorem head?_eq (h : Indented widths number text result) : result.head? = text.head? := by
  cases h <;> rfl

theorem exists_of_cons {c : Char} (h : Indented widths number (c :: text) result)
    (notFeed : c ≠ '\n') : ∃ rest, result = c :: rest ∧ Indented widths number text rest := by
  cases h with
  | char _ h => exact ⟨_, rfl, h⟩
  | last => exact absurd rfl notFeed
  | feed => exact absurd rfl notFeed

theorem append (h : Indented widths number text result) {start : List Char}
    (noFeed : '\n' ∉ start) : Indented widths number (start ++ text) (start ++ result) := by
  induction start with
  | nil => exact h
  | cons c start ih =>
    rw [List.mem_cons, not_or] at noFeed
    exact .char (Ne.symm noFeed.1) (ih noFeed.2)

theorem exists_lines (h : Indented widths number text result) (nonempty : text ≠ []) :
    ∃ first more others, lines text = first :: more ∧ lines result = first :: others ∧
      IndentedLines widths (number + 1) more others := by
  induction h with
  | nil => exact absurd rfl nonempty
  | last => exact ⟨[], [], [], rfl, rfl, .nil⟩
  | @char number c text result notFeed rest ih =>
    simp only [lines_cons, if_neg notFeed, rest.head?_eq]
    cases text with
    | nil =>
      cases rest
      exact ⟨[c], [], [], by simp [lines, prepend], by simp [lines, prepend], .nil⟩
    | cons d text =>
      obtain ⟨first, more, others, isText, isResult, isMore⟩ := ih (List.cons_ne_nil d text)
      rw [isText, isResult]
      split
      · exact ⟨first, more, others, rfl, rfl, isMore⟩
      · exact ⟨c :: first, more, others, rfl, rfl, isMore⟩
  | @feed number pad text result isPad notEnd rest ih =>
    obtain ⟨first, more, others, isText, isResult, isMore⟩ := ih notEnd
    refine ⟨[], first :: more, (pad ++ first) :: others, ?_, ?_, .cons isPad isMore⟩
    · rw [lines, isText]
    · rw [lines, lines_indent isPad.isIndent isResult]

/-- The lines of an indented text are its lines, indented. -/
theorem lines (h : Indented widths number text result) (nonempty : text ≠ []) {pad : List Char}
    (isPad : Indent widths number pad) :
    IndentedLines widths number (lines text) (lines (pad ++ result)) := by
  obtain ⟨first, more, others, isText, isResult, isMore⟩ := h.exists_lines nonempty
  rw [isText, lines_indent isPad.isIndent isResult]
  exact .cons isPad isMore

end Indented

end Text

namespace Comment

open Text (Indented)

variable {text result : List Char}

theorem Blanked.ne_nil (h : Blanked text result) (nonempty : text ≠ []) : result ≠ [] := by
  rintro rfl
  exact nonempty h.of_nil

theorem closes_indent {pad : List Char} (h : pad.all Text.isIndent = true) (text : List Char) :
    closes (pad ++ text) = closes text := by
  induction pad with
  | nil => rfl
  | cons c pad ih =>
    rw [List.all_cons, Bool.and_eq_true] at h
    have notStar : c ≠ '*' := Text.ne_of_isIndent h.1 rfl
    rw [Bool.eq_iff_iff, List.cons_append, closes_cons, ih h.2]
    simp [notStar]

/-- An indent stays one, of spaces if it stands inside a comment. -/
theorem blankBlocksFrom_indent {pad : List Char} (h : Indent widths number pad) (inside : Bool)
    (text : List Char) :
    ∃ other, Indent widths number other ∧
      blankBlocksFrom inside (pad ++ text) = other ++ blankBlocksFrom inside text := by
  obtain ⟨isIndent, isWidth⟩ := h
  cases inside with
  | false =>
    refine ⟨pad, ⟨isIndent, isWidth⟩, ?_⟩
    clear isWidth
    induction pad with
    | nil => rfl
    | cons c pad ih =>
      rw [List.all_cons, Bool.and_eq_true] at isIndent
      have notSlash : c ≠ '/' := Text.ne_of_isIndent isIndent.1 rfl
      rw [List.cons_append, blankBlocksFrom_outside (notSlash ·.1), ih isIndent.2]
      rfl
  | true =>
    refine ⟨List.replicate pad.length ' ', ⟨?_, ?_⟩, ?_⟩
    · simp [Text.isIndent]
    · rw [List.length_replicate, isWidth]
    · clear isWidth
      induction pad with
      | nil => rfl
      | cons c pad ih =>
        rw [List.all_cons, Bool.and_eq_true] at isIndent
        have notStar : c ≠ '*' := Text.ne_of_isIndent isIndent.1 rfl
        have isSpace : blankChar c = [' '] := by
          rcases Text.isIndent_iff.mp isIndent.1 with rfl | rfl <;> rfl
        rw [List.cons_append, blankBlocksFrom_inside (notStar ·.1), ih isIndent.2, isSpace]
        rfl

theorem blankMarkedFrom_indent {pad : List Char} (h : pad.all Text.isIndent = true)
    (text : List Char) :
    blankMarkedFrom .indent (pad ++ text) = pad ++ blankMarkedFrom .indent text := by
  induction pad with
  | nil => rfl
  | cons c pad ih =>
    rw [List.all_cons, Bool.and_eq_true] at h
    have notFeed : c ≠ '\n' := Text.ne_of_isIndent h.1 rfl
    rw [List.cons_append, blankMarkedFrom, if_neg notFeed]
    simp [h.1, ih h.2]

theorem closes_indented (h : Indented widths number text result) : closes result = closes text := by
  induction h with
  | nil => rfl
  | last => rfl
  | char notFeed rest ih => rw [Bool.eq_iff_iff, closes_cons, closes_cons, rest.head?_eq, ih]
  | @feed number pad text result isPad notEnd rest ih =>
    rw [Bool.eq_iff_iff, closes_cons, closes_cons, closes_indent isPad.isIndent, ih]
    simp

theorem indented_blankBlocksFrom (h : Indented widths number text result) (inside : Bool) :
    Indented widths number (blankBlocksFrom inside text) (blankBlocksFrom inside result) := by
  -- The marks of comments are pairs of characters, and no indent stands within a pair: it follows a
  -- line feed.
  fun_induction blankBlocksFrom inside text generalizing number result with
  | case1 =>
    cases h
    rw [blankBlocksFrom]
    exact .nil
  | case2 rest ih =>
    obtain ⟨_, rfl, tail⟩ := h.exists_of_cons (by decide)
    obtain ⟨_, rfl, after⟩ := tail.exists_of_cons (by decide)
    exact .char (by decide) (.char (by decide) (ih after))
  | case3 c rest isOther ih =>
    cases h with
    | char notFeed h =>
      rw [blankBlocksFrom_inside (h.head?_eq ▸ not_pair_of isOther)]
      exact (ih h).append (feed_notMem_blankChar notFeed)
    | last => exact .last
    | feed isPad notEnd h =>
      obtain ⟨pad, isPad, isBlanked⟩ := blankBlocksFrom_indent isPad true _
      rw [blankBlocksFrom_inside (by simp), isBlanked]
      change Indented widths number ('\n' :: _) ('\n' :: (pad ++ _))
      exact .feed isPad ((blanked_blankBlocksFrom _ rest).ne_nil notEnd) (ih h)
  | case4 rest isClosed ih =>
    obtain ⟨_, rfl, tail⟩ := h.exists_of_cons (by decide)
    obtain ⟨_, rfl, after⟩ := tail.exists_of_cons (by decide)
    rw [blankBlocksFrom, closes_indented after, if_pos isClosed]
    exact .char (by decide) (.char (by decide) (ih after))
  | case5 rest isOpen ih =>
    obtain ⟨_, rfl, tail⟩ := h.exists_of_cons (by decide)
    obtain ⟨_, rfl, after⟩ := tail.exists_of_cons (by decide)
    rw [blankBlocksFrom, closes_indented after, if_neg isOpen]
    exact .char (by decide) (.char (by decide) (ih after))
  | case6 c rest isOther ih =>
    cases h with
    | char notFeed h =>
      rw [blankBlocksFrom_outside (h.head?_eq ▸ not_pair_of isOther)]
      exact .char notFeed (ih h)
    | last => exact .last
    | feed isPad notEnd h =>
      obtain ⟨pad, isPad, isBlanked⟩ := blankBlocksFrom_indent isPad false _
      rw [blankBlocksFrom_outside (by simp), isBlanked]
      exact .feed isPad ((blanked_blankBlocksFrom _ rest).ne_nil notEnd) (ih h)

theorem indented_blankMarkedFrom (h : Indented widths number text result) (spot : Spot) :
    Indented widths number (blankMarkedFrom spot text) (blankMarkedFrom spot result) := by
  induction h generalizing spot with
  | nil => exact .nil
  | last => cases spot <;> exact .last
  | char notFeed _ ih =>
    simp only [blankMarkedFrom, if_neg notFeed]
    cases spot with
    | indent =>
      dsimp only
      split
      · exact .char notFeed (ih .indent)
      · split
        · exact .char (by decide) (ih .comment)
        · exact .char notFeed (ih .content)
    | content => exact .char notFeed (ih .content)
    | comment => exact (ih .comment).append (feed_notMem_blankChar notFeed)
  | @feed number pad text result isPad notEnd _ ih =>
    have isFeed (rest : List Char) :
        blankMarkedFrom spot ('\n' :: rest) = '\n' :: blankMarkedFrom .indent rest := by
      cases spot <;> rfl
    rw [isFeed, isFeed, blankMarkedFrom_indent isPad.isIndent]
    exact .feed isPad ((blanked_blankMarkedFrom .indent text).ne_nil notEnd) (ih .indent)

/-- The lines of an indented text without its comments are its lines without them, indented. -/
theorem indentedLines_blank (h : Indented widths number text result) (nonempty : text ≠ [])
    {pad : List Char} (isPad : Indent widths number pad) :
    Text.IndentedLines widths number (Text.lines (blank text)) (Text.lines (blank (pad ++ result))) := by
  obtain ⟨other, isOther, isBlanked⟩ := blankBlocksFrom_indent isPad false result
  have isText : blank text ≠ [] := (blanked_blank text).ne_nil nonempty
  have isResult : blank (pad ++ result) = other ++ blank result := by
    rw [blank, blankBlocks, isBlanked, blankMarked, blankMarkedFrom_indent isOther.isIndent]
    rfl
  rw [isResult]
  exact (indented_blankMarkedFrom (indented_blankBlocksFrom h false) .indent).lines isText isOther

end Comment

end ChartLint
