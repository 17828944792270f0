import ChartLint.Catalog.Builtin
import ChartLint.Proofs.Comment.Line
import ChartLint.Validation

/-!
Line endings. A document whose line feeds all become a carriage return and a line feed is validated as
before: a carriage return survives in comments, and is dropped with the line feed after it.
-/
namespace ChartLint

namespace Text

/-- A text with a carriage return put before each line feed. -/
def withReturns : List Char → List Char
  | [] => []
  | c :: rest => if c = '\n' then '\r' :: '\n' :: withReturns rest else c :: withReturns rest

attribute [local simp] withReturns

@[simp] theorem withReturns_feed (rest : List Char) :
    withReturns ('\n' :: rest) = '\r' :: '\n' :: withReturns rest := by
  simp

theorem withReturns_cons {c : Char} (notFeed : c ≠ '\n') (rest : List Char) :
    withReturns (c :: rest) = c :: withReturns rest := by
  simp [notFeed]

theorem withReturns_append {start : List Char} (noFeed : '\n' ∉ start) (rest : List Char) :
    withReturns (start ++ rest) = start ++ withReturns rest := by
  induction start with
  | nil => rfl
  | cons c start ih =>
    rw [List.mem_cons, not_or] at noFeed
    rw [List.cons_append, withReturns_cons (Ne.symm noFeed.1), ih noFeed.2, List.cons_append]

/-- What starts a text, unless it is a line feed, still starts it. -/
theorem head?_withReturns {c : Char} (notFeed : c ≠ '\n') (notReturn : c ≠ '\r') (text : List Char) :
    (withReturns text).head? = some c ↔ text.head? = some c := by
  cases text with
  | nil => rfl
  | cons d rest =>
    by_cases isFeed : d = '\n'
    · simp [isFeed, notFeed.symm, notReturn.symm]
    · rw [withReturns_cons isFeed, List.head?_cons, List.head?_cons]

theorem lines_withReturns {text : List Char} (noReturn : '\r' ∉ text) :
    lines (withReturns text) = lines text := by
  induction text with
  | nil => rfl
  | cons c rest ih =>
    rw [List.mem_cons, not_or] at noReturn
    have isRest := ih noReturn.2
    by_cases isFeed : c = '\n'
    · rw [isFeed, withReturns_feed, lines, lines, isRest]
    · have notReturn : c ≠ '\r' := Ne.symm noReturn.1
      rw [withReturns_cons isFeed, lines_cons, lines_cons, isRest]
      simp [isFeed, notReturn]

end Text

namespace Comment

open Text (withReturns withReturns_feed withReturns_cons withReturns_append head?_withReturns)

/-- Blanking brings in nothing but spaces. -/
theorem Blanked.mem {text result : List Char} (h : Blanked text result) {d : Char}
    (member : d ∈ result) : d ∈ text ∨ d = ' ' := by
  induction h with
  | nil => cases member
  | keep c _ ih =>
    rcases List.mem_cons.mp member with rfl | member
    · exact .inl List.mem_cons_self
    · exact (ih member).imp_left (List.mem_cons_of_mem c)
  | blank c _ ih =>
    rcases List.mem_append.mp member with member | member
    · refine (mem_blankChar member).imp_left ?_
      rintro rfl
      exact List.mem_cons_self
    · exact (ih member).imp_left (List.mem_cons_of_mem c)

theorem withReturns_blankChar {c : Char} (notFeed : c ≠ '\n') (rest : List Char) :
    withReturns (blankChar c ++ rest) = blankChar c ++ withReturns rest :=
  withReturns_append (feed_notMem_blankChar notFeed) rest

theorem closes_withReturns (text : List Char) : closes (withReturns text) = closes text := by
  induction text with
  | nil => rfl
  | cons c rest ih =>
    rw [Bool.eq_iff_iff]
    by_cases isFeed : c = '\n'
    · simp [isFeed, closes_cons, ih]
    · rw [withReturns_cons isFeed, closes_cons, closes_cons, ih,
        head?_withReturns (by decide) (by decide)]

theorem blankBlocksFrom_withReturns (inside : Bool) (text : List Char) :
    blankBlocksFrom inside (withReturns text) = withReturns (blankBlocksFrom inside text) := by
  fun_induction blankBlocksFrom inside text with
  | case1 => rfl
  | case2 rest ih => simp [withReturns, blankBlocksFrom, ih]
  | case3 c rest isOther ih =>
    by_cases isFeed : c = '\n'
    · simp [isFeed, blankBlocksFrom, blankChar, ih]
    · rw [withReturns_cons isFeed, withReturns_blankChar isFeed, ← ih]
      apply blankBlocksFrom_inside
      rw [head?_withReturns (by decide) (by decide)]
      exact not_pair_of isOther
  | case4 rest isClosed ih => simp [withReturns, blankBlocksFrom, closes_withReturns, isClosed, ih]
  | case5 rest isOpen ih => simp [withReturns, blankBlocksFrom, closes_withReturns, isOpen, ih]
  | case6 c rest isOther ih =>
    by_cases isFeed : c = '\n'
    · simp [isFeed, blankBlocksFrom, ih]
    · rw [withReturns_cons isFeed, withReturns_cons isFeed, ← ih]
      apply blankBlocksFrom_outside
      rw [head?_withReturns (by decide) (by decide)]
      exact not_pair_of isOther

theorem blankMarkedFrom_withReturns (spot : Spot) (text : List Char) :
    blankMarkedFrom spot (withReturns text) = withReturns (blankMarkedFrom spot text) := by
  induction text generalizing spot with
  | nil => rfl
  | cons c rest ih =>
    by_cases isFeed : c = '\n'
    · cases spot <;> simp [isFeed, blankMarkedFrom, blankChar, Text.isIndent, ih]
    · rw [withReturns_cons isFeed]
      simp only [blankMarkedFrom, isFeed, ↓reduceIte, ih]
      cases spot with
      | indent =>
        dsimp only
        split
        · rw [withReturns_cons isFeed]
        · split
          · rw [withReturns_cons (by decide)]
          · rw [withReturns_cons isFeed]
      | content => exact (withReturns_cons isFeed _).symm
      | comment => exact (withReturns_blankChar isFeed _).symm

/-- A carriage return before a line feed is neither blanked nor the first character of a line that
matters. -/
theorem blank_withReturns (text : List Char) :
    blank (withReturns text) = withReturns (blank text) := by
  rw [blank, blankBlocks, blankBlocksFrom_withReturns, blankMarked, blankMarkedFrom_withReturns]
  rfl

end Comment

namespace Validation

/-- A document without carriage returns gives the same when each of its line feeds becomes a carriage
return and a line feed: the same findings at the same places, and the same tree. -/
theorem validate_withReturns (catalog : Catalog) {text : String} (noReturn : '\r' ∉ text.toList) :
    validate catalog (String.ofList (Text.withReturns text.toList)) = validate catalog text := by
  have noneLeft : '\r' ∉ Comment.blank text.toList := by
    intro member
    rcases (Comment.blanked_blank text.toList).mem member with isThere | isSpace
    · exact noReturn isThere
    · exact absurd isSpace (by decide)
  rw [validate, String.toList_ofList, Comment.blank_withReturns, Text.lines_withReturns noneLeft]
  rfl

/-- A comment that goes on after its first line, and one of a single line. -/
theorem validate_withReturns_comments :
    '\r' ∉ "/* a\n */[group]\n# b\nendif".toList ∧
      validate .builtin "/* a\r\n */[group]\r\n# b\r\nendif" =
        validate .builtin "/* a\n */[group]\n# b\nendif" := by
  have noReturn : '\r' ∉ "/* a\n */[group]\n# b\nendif".toList := by decide
  have isPaired : String.ofList (Text.withReturns "/* a\n */[group]\n# b\nendif".toList) =
      "/* a\r\n */[group]\r\n# b\r\nendif" := by decide
  exact ⟨noReturn, isPaired ▸ validate_withReturns .builtin noReturn⟩

end Validation

end ChartLint
