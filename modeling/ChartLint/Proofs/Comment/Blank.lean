import ChartLint.Comment.Blank
import ChartLint.Text.Line
import ChartLint.Text.Size

/-!
Blanking of comments. What is left has no closed block comment and no line that a hash starts, and a
text without them stays as it is; so blanking twice is blanking once.
-/
namespace ChartLint.Comment

theorem blankChar_cases (c : Char) :
    (c = '\n' ∨ c = '\r') ∧ blankChar c = [c] ∨
      ¬ (c = '\n' ∨ c = '\r') ∧ ∃ count, blankChar c = List.replicate (count + 1) ' ' := by
  unfold blankChar
  split
  case isTrue isBreak => exact .inl ⟨isBreak, rfl⟩
  case isFalse isOther =>
    exact .inr ⟨isOther, c.utf8Size - 1, by rw [Nat.sub_add_cancel c.utf8Size_pos]⟩

theorem blankChar_ne_nil (c : Char) : blankChar c ≠ [] := by
  obtain ⟨-, isKept⟩ | ⟨-, count, isBlank⟩ := blankChar_cases c
  · simp [isKept]
  · simp [isBlank]

theorem byteSize_blankChar (c : Char) : Text.byteSize (blankChar c) = c.utf8Size := by
  have isSize (count : Nat) : Text.byteSize (List.replicate count ' ') = count := by
    induction count with
    | zero => rfl
    | succ count ih =>
      rw [List.replicate_succ, Text.byteSize_cons, ih, Nat.add_comm]
      rfl
  unfold blankChar
  split
  · simp
  · exact isSize c.utf8Size

/-- Neither a space nor part of a line break, and so never the result of blanking. -/
def Solid (c : Char) : Prop := c ≠ ' ' ∧ c ≠ '\n' ∧ c ≠ '\r'

instance (c : Char) : Decidable (Solid c) :=
  inferInstanceAs (Decidable (c ≠ ' ' ∧ c ≠ '\n' ∧ c ≠ '\r'))

theorem not_solid_of_mem_blankChar {c d : Char} (h : d ∈ blankChar c) : ¬ Solid d := by
  obtain ⟨isBreak, isKept⟩ | ⟨-, count, isBlank⟩ := blankChar_cases c
  · rw [isKept, List.mem_singleton] at h
    subst h
    exact fun solid => isBreak.elim solid.2.1 solid.2.2
  · rw [isBlank] at h
    exact fun solid => solid.1 (List.eq_of_mem_replicate h)

theorem blankChar_of_mem_blankChar {c d : Char} (h : d ∈ blankChar c) : blankChar d = [d] := by
  obtain ⟨isBreak, isKept⟩ | ⟨-, count, isBlank⟩ := blankChar_cases c
  · rw [isKept, List.mem_singleton] at h
    rw [h, isKept]
  · rw [isBlank] at h
    obtain rfl := List.eq_of_mem_replicate h
    rfl

/-- A text some of whose characters are blanked. -/
inductive Blanked : List Char → List Char → Prop
  | nil : Blanked [] []
  | keep (c : Char) {text result : List Char} :
      Blanked text result → Blanked (c :: text) (c :: result)
  | blank (c : Char) {text result : List Char} :
      Blanked text result → Blanked (c :: text) (blankChar c ++ result)

namespace Blanked

variable {text result : List Char}

theorem append_inv {blanks rest : List Char} (areBlank : ∀ d ∈ blanks, blankChar d = [d])
    (h : Blanked (blanks ++ rest) result) : ∃ after, result = blanks ++ after ∧ Blanked rest after := by
  induction blanks generalizing result with
  | nil => exact ⟨result, rfl, h⟩
  | cons d blanks ih =>
    rw [List.forall_mem_cons] at areBlank
    generalize isText : d :: blanks ++ rest = text at h
    cases h with
    | nil => cases isText
    | keep c h | blank c h =>
      obtain ⟨rfl, rfl⟩ := List.cons.inj isText
      obtain ⟨after, rfl, isRest⟩ := ih areBlank.2 h
      exact ⟨after, by simp [areBlank.1], isRest⟩

theorem trans {other : List Char} (h : Blanked text result) (next : Blanked result other) :
    Blanked text other := by
  induction h generalizing other with
  | nil => exact next
  | keep c _ ih =>
    cases next with
    | keep _ next => exact .keep c (ih next)
    | blank _ next => exact .blank c (ih next)
  | blank c _ ih =>
    obtain ⟨after, rfl, isRest⟩ := append_inv (fun _ => blankChar_of_mem_blankChar) next
    exact .blank c (ih isRest)

theorem of_nil (h : Blanked text []) : text = [] := by
  generalize isResult : [] = result at h
  cases h with
  | nil => rfl
  | keep => cases isResult
  | blank c => exact absurd (List.append_eq_nil_iff.mp isResult.symm).1 (blankChar_ne_nil c)

theorem byteSize_eq (h : Blanked text result) : Text.byteSize result = Text.byteSize text := by
  induction h with
  | nil => rfl
  | keep c _ ih => simp [ih]
  | blank c _ ih => simp [ih, byteSize_blankChar]

/-- What is not blank was there before, at the same place. -/
theorem split {c : Char} (solid : Solid c) (left : List Char) {right : List Char}
    (h : Blanked text (left ++ c :: right)) :
    ∃ before after, text = before ++ c :: after ∧ Blanked before left ∧ Blanked after right := by
  generalize isResult : left ++ c :: right = result at h
  induction h generalizing left with
  | nil => simp at isResult
  | @keep d text result h ih =>
    cases left with
    | nil =>
      obtain ⟨rfl, rfl⟩ := List.cons.inj isResult
      exact ⟨[], text, rfl, .nil, h⟩
    | cons e left =>
      obtain ⟨rfl, isRest⟩ := List.cons.inj isResult
      obtain ⟨before, after, rfl, isLeft, isRight⟩ := ih left isRest
      exact ⟨e :: before, after, rfl, .keep e isLeft, isRight⟩
  | @blank d text result h ih =>
    -- The mark cannot lie among the blanks, so these are all to its left.
    rcases List.append_eq_append_iff.mp isResult with ⟨more, isBlank, isRest⟩ | ⟨more, rfl, isRest⟩
    · cases more with
      | nil =>
        rw [List.append_nil] at isBlank
        rw [List.nil_append] at isRest
        obtain ⟨before, after, rfl, isLeft, isRight⟩ := ih [] isRest
        obtain rfl := isLeft.of_nil
        refine ⟨[d], after, rfl, ?_, isRight⟩
        rw [← isBlank, ← List.append_nil (blankChar d)]
        exact .blank d .nil
      | cons e more =>
        obtain ⟨rfl, -⟩ := List.cons.inj isRest
        have member : c ∈ blankChar d := by simp [isBlank]
        exact absurd solid (not_solid_of_mem_blankChar member)
    · obtain ⟨before, after, rfl, isLeft, isRight⟩ := ih more isRest.symm
      exact ⟨d :: before, after, rfl, .blank d isLeft, isRight⟩

theorem cons_solid {c : Char} (solid : Solid c) (h : Blanked text (c :: result)) :
    ∃ rest, text = c :: rest ∧ Blanked rest result := by
  obtain ⟨before, after, rfl, isNil, isRest⟩ := split solid [] h
  exact ⟨after, by simp [isNil.of_nil], isRest⟩

end Blanked

theorem blanked_blankBlocksFrom (inside : Bool) (text : List Char) :
    Blanked text (blankBlocksFrom inside text) := by
  fun_induction blankBlocksFrom inside text with
  | case1 => exact .nil
  | case2 rest ih => exact .blank '*' (.blank '/' ih)
  | case3 c rest _ ih => exact .blank c ih
  | case4 rest _ ih => exact .blank '/' (.blank '*' ih)
  | case5 rest _ ih => exact .keep '/' (.keep '*' ih)
  | case6 c rest _ ih => exact .keep c ih

theorem blanked_blankMarkedFrom (spot : Spot) (text : List Char) :
    Blanked text (blankMarkedFrom spot text) := by
  fun_induction blankMarkedFrom spot text with
  | case1 => exact .nil
  | case4 rest _ _ ih => exact .blank '#' ih
  | case7 c rest _ ih => exact .blank c ih
  | _ => exact .keep _ ‹_›

theorem blanked_blank (text : List Char) : Blanked text (blank text) :=
  (blanked_blankBlocksFrom false text).trans (blanked_blankMarkedFrom .indent _)

/-- The end of a block comment is somewhere in a text. -/
theorem closes_iff {text : List Char} :
    closes text = true ↔ ∃ before after, text = before ++ '*' :: '/' :: after := by
  fun_induction closes text with
  | case1 => simp
  | case2 rest => simpa using ⟨[], rest, rfl⟩
  | case3 c rest isOther ih =>
    rw [ih]
    constructor
    · rintro ⟨before, after, rfl⟩
      exact ⟨c :: before, after, rfl⟩
    · rintro ⟨before, after, isText⟩
      cases before with
      | nil =>
        obtain ⟨rfl, rfl⟩ := List.cons.inj isText
        exact absurd rfl (isOther after rfl)
      | cons d before => exact ⟨before, after, (List.cons.inj isText).2⟩

theorem Blanked.closes {text result : List Char} (h : Blanked text result)
    (isClosed : closes result = true) : closes text = true := by
  obtain ⟨before, after, rfl⟩ := closes_iff.mp isClosed
  obtain ⟨left, _, rfl, -, rest⟩ := h.split (by decide) before
  obtain ⟨right, rfl, -⟩ := rest.cons_solid (by decide)
  exact closes_iff.mpr ⟨left, right, rfl⟩

/-- No block comment of a text is closed. -/
def Unclosed (text : List Char) : Prop :=
  ∀ before after, text = before ++ '/' :: '*' :: after → closes after = false

namespace Unclosed

variable {text rest : List Char}

theorem nil : Unclosed [] := by simp [Unclosed]

theorem cons {c : Char} (h : Unclosed rest)
    (isOpen : ∀ after, c = '/' → rest = '*' :: after → Comment.closes after = false) :
    Unclosed (c :: rest) := by
  intro before after isText
  cases before with
  | nil =>
    obtain ⟨isSlash, isRest⟩ := List.cons.inj isText
    exact isOpen after isSlash isRest
  | cons d before => exact h before after (List.cons.inj isText).2

theorem tail {c : Char} (h : Unclosed (c :: rest)) : Unclosed rest :=
  fun before after isRest => h (c :: before) after (isRest ▸ rfl)

theorem append (h : Unclosed rest) (blanks : List Char) (none : '/' ∉ blanks) :
    Unclosed (blanks ++ rest) := by
  induction blanks with
  | nil => exact h
  | cons c blanks ih =>
    rw [List.mem_cons, not_or] at none
    exact (ih none.2).cons fun _ isSlash => absurd isSlash.symm none.1

theorem blanked {result : List Char} (h : Unclosed text) (isBlanked : Blanked text result) :
    Unclosed result := by
  rintro before after rfl
  obtain ⟨left, _, rfl, -, opened⟩ := isBlanked.split (by decide) before
  obtain ⟨right, rfl, rest⟩ := opened.cons_solid (by decide)
  cases isClosed : Comment.closes after with
  | false => rfl
  | true => exact (h left right rfl) ▸ (rest.closes isClosed).symm

end Unclosed

theorem unclosed_blankBlocksFrom (inside : Bool) (text : List Char) :
    Unclosed (blankBlocksFrom inside text) := by
  have isBlank (c : Char) : '/' ∉ blankChar c :=
    fun member => not_solid_of_mem_blankChar member (by decide)
  fun_induction blankBlocksFrom inside text with
  | case1 => exact .nil
  | case2 rest ih => exact ih.append [' ', ' '] (by decide)
  | case3 c rest _ ih => exact ih.append _ (isBlank c)
  | case4 rest _ ih => exact ih.append [' ', ' '] (by decide)
  | case5 rest isOpen ih =>
    refine (ih.cons (by simp)).cons ?_
    rintro after - isRest
    obtain ⟨-, rfl⟩ := List.cons.inj isRest
    exact Bool.eq_false_iff.mpr fun isClosed =>
      isOpen ((blanked_blankBlocksFrom false rest).closes isClosed)
  | case6 c rest isOther ih =>
    refine ih.cons ?_
    rintro after rfl isRest
    obtain ⟨more, rfl, -⟩ := (isRest ▸ blanked_blankBlocksFrom false rest).cons_solid (by decide)
    exact absurd rfl (isOther more rfl)

/-- A text without closed block comments stays as it is. -/
theorem blankBlocks_eq_self {text : List Char} (h : Unclosed text) : blankBlocks text = text := by
  rw [blankBlocks]
  generalize isOutside : false = inside
  fun_induction blankBlocksFrom inside text with
  | case1 => rfl
  | case2 | case3 => cases isOutside
  | case4 rest isClosed => simp [h [] rest rfl] at isClosed
  | case5 rest _ ih => rw [ih h.tail.tail rfl]
  | case6 c rest _ ih => rw [ih h.tail rfl]

/-- Whether a hash is the first character after the indent. -/
def isMarked (line : List Char) : Bool := (line.dropWhile Text.isIndent).head? == some '#'

/-- Whether some line of a text is marked, the first of them only if it is read from its start. -/
def marked : (atStart : Bool) → List Char → Bool
  | _, [] => false
  | false, c :: rest => if c = '\n' then marked true rest else marked false rest
  | true, c :: rest =>
    if c = '\n' ∨ Text.isIndent c then marked true rest else c == '#' || marked false rest

theorem isMarked_cons (c : Char) (line : List Char) :
    isMarked (c :: line) = if Text.isIndent c then isMarked line else c == '#' := by
  cases isIndent : Text.isIndent c <;> simp [isMarked, isIndent]

theorem marked_eq_any (text : List Char) :
    marked true text = (Text.lines text).any isMarked ∧
      marked false text = (Text.lines text).tail.any isMarked := by
  fun_induction Text.lines text with
  | case1 => exact ⟨rfl, rfl⟩
  | case2 rest ih => simp [marked, isMarked, ih]
  | case3 rest ih => simp [marked, isMarked, ih, Text.isIndent]
  | case4 c rest isChar _ isNone ih =>
    have isOther : c ≠ '\n' := fun isBreak => isChar isBreak
    rw [isNone] at ih
    cases isIndent : Text.isIndent c <;> simp [marked, isMarked, isOther, isIndent, ih]
  | case5 c rest isChar _ line more isLines ih =>
    have isOther : c ≠ '\n' := fun isBreak => isChar isBreak
    rw [isLines] at ih
    cases isIndent : Text.isIndent c <;> simp [marked, isMarked_cons, isOther, isIndent, ih]

theorem marked_spaces (atStart : Bool) (count : Nat) (text : List Char) :
    marked atStart (List.replicate count ' ' ++ text) = marked atStart text := by
  induction count with
  | zero => rfl
  | succ count ih =>
    rw [List.replicate_succ, List.cons_append]
    cases atStart <;> simp [marked, Text.isIndent, ih]

/-- Blanking leaves no marked line. -/
theorem marked_blankMarkedFrom (text : List Char) :
    marked true (blankMarkedFrom .indent text) = false ∧
      marked false (blankMarkedFrom .content text) = false ∧
      ∀ atStart, marked atStart (blankMarkedFrom .comment text) = false := by
  induction text with
  | nil => exact ⟨rfl, rfl, fun atStart => by cases atStart <;> rfl⟩
  | cons c rest ih =>
    obtain ⟨indent, content, comment⟩ := ih
    by_cases isBreak : c = '\n'
    · refine ⟨?_, ?_, fun atStart => ?_⟩
      · simp [blankMarkedFrom, isBreak, marked, indent]
      · simp [blankMarkedFrom, isBreak, marked, indent]
      · cases atStart <;> simp [blankMarkedFrom, isBreak, marked, indent]
    · refine ⟨?_, ?_, fun atStart => ?_⟩
      · simp only [blankMarkedFrom, isBreak, ↓reduceIte]
        split
        case isTrue isIndent => simp [marked, isIndent, indent]
        case isFalse isFirst =>
          split
          · simp [marked, Text.isIndent, comment]
          case isFalse isOther => simp [marked, isBreak, isFirst, isOther, content]
      · simp [blankMarkedFrom, isBreak, marked, content]
      · simp only [blankMarkedFrom, isBreak, ↓reduceIte, blankChar, false_or]
        split
        case isTrue isReturn =>
          cases atStart <;> simp [isReturn, marked, Text.isIndent, comment]
        case isFalse => rw [marked_spaces, comment]

theorem blankMarkedFrom_eq_self (text : List Char) :
    (marked true text = false → blankMarkedFrom .indent text = text) ∧
      (marked false text = false → blankMarkedFrom .content text = text) := by
  induction text with
  | nil => exact ⟨fun _ => rfl, fun _ => rfl⟩
  | cons c rest ih =>
    obtain ⟨indent, content⟩ := ih
    by_cases isBreak : c = '\n'
    · simpa [blankMarkedFrom, marked, isBreak] using indent
    · cases isIndent : Text.isIndent c with
      | true => simpa [blankMarkedFrom, marked, isBreak, isIndent] using ⟨indent, content⟩
      | false =>
        by_cases isHash : c = '#'
        · subst isHash
          simpa [blankMarkedFrom, marked, Text.isIndent] using content
        · simpa [blankMarkedFrom, marked, isBreak, isIndent, isHash] using content

theorem unclosed_blank (text : List Char) : Unclosed (blank text) :=
  (unclosed_blankBlocksFrom false text).blanked (blanked_blankMarkedFrom .indent _)

theorem not_marked_blank (text : List Char) : marked true (blank text) = false :=
  (marked_blankMarkedFrom _).1

/-- Blanked texts stay as they are. -/
theorem blank_blank (text : List Char) : blank (blank text) = blank text := by
  calc
    blank (blank text)
    _ = blankMarked (blank text) := by rw [blank, blankBlocks_eq_self (unclosed_blank text)]
    _ = blank text := (blankMarkedFrom_eq_self _).1 (not_marked_blank text)

end ChartLint.Comment
