import ChartLint.Comment.Strip
import Mathlib.Data.List.Infix

/-!
Data files read from left to right, as string literals, comments and characters outside both. Stripping
keeps all but the comments. No comment starts where another was removed, so stripping twice is stripping
once.
-/
namespace ChartLint.Comment

/-- What stands between the quotes of a string literal. A backslash takes the next character with it. -/
inductive Quoted : List Char → Prop
  | nil : Quoted []
  | char {c : Char} {rest : List Char} (isPlain : c ≠ '"' ∧ c ≠ '\\') (quoted : Quoted rest) :
      Quoted (c :: rest)
  | escape (c : Char) {rest : List Char} (quoted : Quoted rest) : Quoted ('\\' :: c :: rest)

/-- What stands after the quote of a string literal that the text does not close. -/
inductive Cut : List Char → Prop
  | content {content : List Char} (quoted : Quoted content) : Cut content
  | backslash {content : List Char} (quoted : Quoted content) : Cut (content ++ ['\\'])

/-- The parts of a data file. Literals and block comments may be cut off by the end of the text. -/
inductive Segment where
  | literal (content : List Char)
  | cutLiteral (content : List Char)
  | plain (c : Char)
  | line (content : List Char)
  | block (content : List Char)
  | cutBlock (content : List Char)
  deriving DecidableEq

namespace Segment

def text : Segment → List Char
  | literal content => '"' :: (content ++ ['"'])
  | cutLiteral content => '"' :: content
  | plain c => [c]
  | line content => '/' :: '/' :: content
  | block content => '/' :: '*' :: (content ++ ['*', '/'])
  | cutBlock content => '/' :: '*' :: content

def isComment : Segment → Bool
  | line _ | block _ | cutBlock _ => true
  | literal _ | cutLiteral _ | plain _ => false

end Segment

/-- The segments of a text, read from left to right. -/
inductive Reading : List Segment → List Char → Prop
  | nil : Reading [] []
  | literal {content rest : List Char} {segments : List Segment} (quoted : Quoted content)
      (reading : Reading segments rest) :
      Reading (.literal content :: segments) ('"' :: (content ++ '"' :: rest))
  | cutLiteral {content : List Char} (cut : Cut content) :
      Reading [.cutLiteral content] ('"' :: content)
  | plain {c : Char} {rest : List Char} {segments : List Segment} (notQuote : c ≠ '"')
      (notMark : c = '/' → rest.head? ≠ some '/' ∧ rest.head? ≠ some '*')
      (reading : Reading segments rest) : Reading (.plain c :: segments) (c :: rest)
  | line {content rest : List Char} {segments : List Segment} (noFeed : '\n' ∉ content)
      (ends : rest = [] ∨ rest.head? = some '\n') (reading : Reading segments rest) :
      Reading (.line content :: segments) ('/' :: '/' :: (content ++ rest))
  | block {content rest : List Char} {segments : List Segment} (noEnd : ¬ ['*', '/'] <:+: content)
      (reading : Reading segments rest) :
      Reading (.block content :: segments) ('/' :: '*' :: (content ++ '*' :: '/' :: rest))
  | cutBlock {content : List Char} (noEnd : ¬ ['*', '/'] <:+: content) :
      Reading [.cutBlock content] ('/' :: '*' :: content)

/-! ### Stripping one segment -/

@[simp] theorem stripFrom_nil (mode : Strip.Mode) : stripFrom mode [] = [] := by cases mode <;> rfl

@[simp] theorem stripFrom_literal_cons (c : Char) (rest : List Char) :
    stripFrom .literal (c :: rest) =
      c :: stripFrom (if c = '\\' then .escaped else if c = '"' then .plain else .literal) rest := rfl

@[simp] theorem stripFrom_escaped_cons (c : Char) (rest : List Char) :
    stripFrom .escaped (c :: rest) = c :: stripFrom .literal rest := rfl

theorem stripFrom_line_cons (c : Char) (rest : List Char) :
    stripFrom .line (c :: rest) =
      if c = '\n' then c :: stripFrom .plain rest else stripFrom .line rest := rfl

@[simp] theorem stripFrom_plain_quote (rest : List Char) :
    stripFrom .plain ('"' :: rest) = '"' :: stripFrom .literal rest := rfl

@[simp] theorem stripFrom_plain_line (rest : List Char) :
    stripFrom .plain ('/' :: '/' :: rest) = stripFrom .line rest := rfl

@[simp] theorem stripFrom_plain_block (rest : List Char) :
    stripFrom .plain ('/' :: '*' :: rest) = stripFrom .block rest := rfl

theorem Quoted.stripFrom {content : List Char} (quoted : Quoted content) (rest : List Char) :
    stripFrom .literal (content ++ rest) = content ++ stripFrom .literal rest := by
  induction quoted with
  | nil => rfl
  | char isPlain _ ih => simp [isPlain, ih]
  | escape c _ ih => simp [ih]

theorem Cut.stripFrom {content : List Char} (cut : Cut content) :
    stripFrom .literal content = content := by
  cases cut with
  | content quoted => simpa using quoted.stripFrom []
  | backslash quoted => simp [quoted.stripFrom]

theorem stripFrom_line {content rest : List Char} (noFeed : '\n' ∉ content)
    (ends : rest = [] ∨ rest.head? = some '\n') :
    stripFrom .line (content ++ rest) = stripFrom .plain rest := by
  induction content with
  | nil =>
    cases rest with
    | nil => rfl
    | cons c rest =>
      obtain rfl : c = '\n' := by simpa using ends
      rfl
  | cons c content ih =>
    rw [List.mem_cons, not_or] at noFeed
    simp [stripFrom_line_cons, Ne.symm noFeed.1, ih noFeed.2]

theorem stripFrom_block_cons {c : Char} {content rest : List Char}
    (noEnd : ¬ ['*', '/'] <:+: c :: content) (isNext : content = [] → rest.head? ≠ some '/') :
    stripFrom .block (c :: (content ++ rest)) = stripFrom .block (content ++ rest) := by
  rw [stripFrom]
  rintro after rfl isAfter
  cases content with
  | nil => exact isNext rfl (by simp_all)
  | cons d content =>
    obtain ⟨rfl, -⟩ := List.cons.inj isAfter
    exact noEnd ⟨[], content, rfl⟩

theorem stripFrom_block {content : List Char} (noEnd : ¬ ['*', '/'] <:+: content) (rest : List Char) :
    stripFrom .block (content ++ '*' :: '/' :: rest) = stripFrom .plain rest := by
  induction content with
  | nil => rfl
  | cons c content ih =>
    rw [List.cons_append, stripFrom_block_cons noEnd (by simp)]
    exact ih fun isEnd => noEnd (List.infix_cons isEnd)

theorem stripFrom_cutBlock {content : List Char} (noEnd : ¬ ['*', '/'] <:+: content) :
    stripFrom .block content = [] := by
  induction content with
  | nil => rfl
  | cons c content ih =>
    rw [← List.append_nil content, stripFrom_block_cons noEnd (by simp), List.append_nil]
    exact ih fun isEnd => noEnd (List.infix_cons isEnd)

theorem stripFrom_plain {c : Char} {rest : List Char} (notQuote : c ≠ '"')
    (notMark : c = '/' → rest.head? ≠ some '/' ∧ rest.head? ≠ some '*') :
    stripFrom .plain (c :: rest) = c :: stripFrom .plain rest := by
  rw [stripFrom, if_neg notQuote]
  · rintro after rfl rfl
    exact (notMark rfl).1 rfl
  · rintro after rfl rfl
    exact (notMark rfl).2 rfl

/-! ### Stripping a text -/

/-- The text that segments make up. -/
def written (segments : List Segment) : List Char := segments.flatMap Segment.text

@[simp] theorem written_nil : written [] = [] := rfl

@[simp] theorem written_cons (segment : Segment) (segments : List Segment) :
    written (segment :: segments) = segment.text ++ written segments := List.flatMap_cons

@[simp] theorem written_append (segments more : List Segment) :
    written (segments ++ more) = written segments ++ written more := List.flatMap_append

/-- The segments that are no comments. -/
def outside (segments : List Segment) : List Segment := segments.filter (!·.isComment)

def comments (segments : List Segment) : List Segment := segments.filter (·.isComment)

/-- Each character stands in a comment or outside. -/
theorem written_perm (segments : List Segment) :
    (written (comments segments) ++ written (outside segments)).Perm (written segments) := by
  rw [← written_append]
  exact (List.filter_append_perm Segment.isComment segments).flatMap_right Segment.text

namespace Reading

variable {segments : List Segment} {text : List Char}

theorem text_eq (reading : Reading segments text) : text = written segments := by
  induction reading with
  | nil => rfl
  | literal _ _ ih => simp [Segment.text, ← ih]
  | cutLiteral => simp [Segment.text]
  | plain _ _ _ ih => simp [Segment.text, ← ih]
  | line _ _ _ ih => simp [Segment.text, ← ih]
  | block _ _ ih => simp [Segment.text, ← ih]
  | cutBlock => simp [Segment.text]

theorem strip_eq (reading : Reading segments text) : strip text = written (outside segments) := by
  unfold strip
  induction reading with
  | nil => rfl
  | literal quoted _ ih =>
    simp [quoted.stripFrom, ih, outside, Segment.isComment, Segment.text]
  | cutLiteral cut => simp [cut.stripFrom, outside, Segment.isComment, Segment.text]
  | plain notQuote notMark _ ih =>
    simp [stripFrom_plain notQuote notMark, ih, outside, Segment.isComment, Segment.text]
  | line noFeed ends _ ih => simp [stripFrom_line noFeed ends, ih, outside, Segment.isComment]
  | block noEnd _ ih => simp [stripFrom_block noEnd, ih, outside, Segment.isComment]
  | cutBlock noEnd => simp [stripFrom_cutBlock noEnd, outside, Segment.isComment]

/-- What does not start with a slash starts with no comment, so its first character stays. -/
theorem head?_outside (reading : Reading segments text) (notSlash : text.head? ≠ some '/') :
    (written (outside segments)).head? = text.head? := by
  cases reading with
  | nil => rfl
  | literal => rfl
  | cutLiteral => rfl
  | plain => rfl
  | line => exact absurd rfl notSlash
  | block => exact absurd rfl notSlash
  | cutBlock => exact absurd rfl notSlash

/-- Without the comments, the other segments are read as before. -/
theorem outside (reading : Reading segments text) :
    Reading (outside segments) (written (outside segments)) := by
  induction reading with
  | nil => exact nil
  | literal quoted _ ih =>
    simpa [Comment.outside, Segment.isComment, Segment.text] using literal quoted ih
  | cutLiteral cut => simpa [Comment.outside, Segment.isComment, Segment.text] using cutLiteral cut
  | plain notQuote notMark reading ih =>
    -- The character behind a slash that is no mark starts no comment, so it stays there.
    have staysPlain := plain notQuote (fun isSlash => by
      rw [reading.head?_outside (notMark isSlash).1]
      exact notMark isSlash) ih
    simpa [Comment.outside, Segment.isComment, Segment.text] using staysPlain
  | line _ _ _ ih => exact ih
  | block _ _ ih => exact ih
  | cutBlock => exact nil

/-- A text stays as it is if and only if it has no comment. -/
theorem strip_eq_self_iff (reading : Reading segments text) :
    strip text = text ↔ ∀ segment ∈ segments, segment.isComment = false := by
  rw [reading.strip_eq, reading.text_eq]
  constructor
  · intro same segment member
    by_contra isComment
    have isShorter := (written_perm segments).length_eq
    rw [List.length_append, same, Nat.add_eq_right, List.length_eq_zero_iff] at isShorter
    have isEmpty := List.flatMap_eq_nil_iff.mp isShorter segment
      (List.mem_filter.mpr ⟨member, by simpa using isComment⟩)
    cases segment <;> cases isEmpty
  · intro noComment
    rw [Comment.outside, List.filter_eq_self.mpr (by simpa using noComment)]

end Reading

/-! ### Every text has segments -/

theorem exists_quoted (text : List Char) :
    ((∃ content rest, Quoted content ∧ text = content ++ '"' :: rest) ∨ Cut text) ∧
      ((∃ content rest, Quoted content ∧ '\\' :: text = content ++ '"' :: rest) ∨
        Cut ('\\' :: text)) := by
  induction text with
  | nil => exact ⟨.inr (.content .nil), .inr (.backslash .nil)⟩
  | cons c text ih =>
    obtain ⟨inside, escaped⟩ := ih
    constructor
    · by_cases isQuote : c = '"'
      · exact .inl ⟨[], text, .nil, by rw [isQuote]; rfl⟩
      · by_cases isBackslash : c = '\\'
        · rw [isBackslash]
          exact escaped
        · obtain ⟨content, rest, quoted, rfl⟩ | cut := inside
          · exact .inl ⟨c :: content, rest, .char ⟨isQuote, isBackslash⟩ quoted, rfl⟩
          · cases cut with
            | content quoted => exact .inr (.content (.char ⟨isQuote, isBackslash⟩ quoted))
            | backslash quoted => exact .inr (.backslash (.char ⟨isQuote, isBackslash⟩ quoted))
    · obtain ⟨content, rest, quoted, rfl⟩ | cut := inside
      · exact .inl ⟨'\\' :: c :: content, rest, .escape c quoted, rfl⟩
      · cases cut with
        | content quoted => exact .inr (.content (.escape c quoted))
        | backslash quoted => exact .inr (.backslash (.escape c quoted))

theorem exists_line (text : List Char) :
    ∃ content rest, '\n' ∉ content ∧ (rest = [] ∨ rest.head? = some '\n') ∧ text = content ++ rest := by
  induction text with
  | nil => exact ⟨[], [], List.not_mem_nil, .inl rfl, rfl⟩
  | cons c text ih =>
    by_cases isFeed : c = '\n'
    · exact ⟨[], c :: text, List.not_mem_nil, .inr (by rw [isFeed]; rfl), rfl⟩
    · obtain ⟨content, rest, noFeed, ends, rfl⟩ := ih
      exact ⟨c :: content, rest, by simp [Ne.symm isFeed, noFeed], ends, rfl⟩

theorem exists_block (text : List Char) :
    (∃ content rest, ¬ ['*', '/'] <:+: content ∧ text = content ++ '*' :: '/' :: rest) ∨
      ¬ ['*', '/'] <:+: text := by
  induction text with
  | nil => exact .inr (by simp)
  | cons c text ih =>
    by_cases isEnd : ['*', '/'] <+: c :: text
    · obtain ⟨rest, isText⟩ := isEnd
      exact .inl ⟨[], rest, by simp, isText.symm⟩
    · obtain ⟨content, rest, noEnd, rfl⟩ | noEnd := ih
      · refine .inl ⟨c :: content, rest, ?_, rfl⟩
        rw [List.infix_cons_iff, not_or]
        refine ⟨fun isStart => isEnd ?_, noEnd⟩
        exact isStart.trans (List.prefix_append (c :: content) _)
      · rw [List.infix_cons_iff]
        exact .inr (not_or.mpr ⟨isEnd, noEnd⟩)

theorem exists_reading (text : List Char) : ∃ segments, Reading segments text := by
  induction isLength : text.length using Nat.strong_induction_on generalizing text with
  | _ length ih =>
    have shorter (rest : List Char) (isShorter : rest.length < text.length) :
        ∃ segments, Reading segments rest := ih _ (isLength ▸ isShorter) rest rfl
    cases text with
    | nil => exact ⟨[], .nil⟩
    | cons c text =>
      by_cases isQuote : c = '"'
      · subst isQuote
        obtain ⟨content, rest, quoted, rfl⟩ | cut := (exists_quoted text).1
        · obtain ⟨segments, reading⟩ := shorter rest (by simp; omega)
          exact ⟨_, .literal quoted reading⟩
        · exact ⟨_, .cutLiteral cut⟩
      · by_cases isLine : c = '/' ∧ text.head? = some '/'
        · obtain ⟨rfl, isNext⟩ := isLine
          obtain ⟨after, rfl⟩ := List.head?_eq_some_iff.mp isNext
          obtain ⟨content, rest, noFeed, ends, rfl⟩ := exists_line after
          obtain ⟨segments, reading⟩ := shorter rest (by simp; omega)
          exact ⟨_, .line noFeed ends reading⟩
        · by_cases isBlock : c = '/' ∧ text.head? = some '*'
          · obtain ⟨rfl, isNext⟩ := isBlock
            obtain ⟨after, rfl⟩ := List.head?_eq_some_iff.mp isNext
            obtain ⟨content, rest, noEnd, rfl⟩ | noEnd := exists_block after
            · obtain ⟨segments, reading⟩ := shorter rest (by simp; omega)
              exact ⟨_, .block noEnd reading⟩
            · exact ⟨_, .cutBlock noEnd⟩
          · obtain ⟨segments, reading⟩ := shorter text (by simp)
            exact ⟨_, .plain isQuote
              (fun isSlash => ⟨fun h => isLine ⟨isSlash, h⟩, fun h => isBlock ⟨isSlash, h⟩⟩) reading⟩

/-- Stripping keeps the segments that are no comments, and nothing else. -/
theorem strip_segments (text : List Char) :
    (∃ segments, Reading segments text) ∧
      (∀ segments, Reading segments text →
        text = written segments ∧ strip text = written (outside segments) ∧
          (strip text = text ↔ ∀ segment ∈ segments, segment.isComment = false)) ∧
      strip (strip text) = strip text := by
  obtain ⟨segments, reading⟩ := exists_reading text
  refine ⟨⟨segments, reading⟩, fun segments reading =>
    ⟨reading.text_eq, reading.strip_eq, reading.strip_eq_self_iff⟩, ?_⟩
  rw [reading.strip_eq, reading.outside.strip_eq_self_iff]
  simp [outside]

/-- Marks inside a literal, a comment that a slash and a quote do not end, a slash that starts no
comment, and a literal that ends in a backslash. -/
def mixedSegments : List Segment := [
  .literal ['\\', '"', '/', '/'], .block ['/', '"', '*'], .plain '/', .plain ' ', .line ['*', '"'],
  .plain '\n', .cutLiteral ['/', '*', '\\']]

theorem reading_mixedSegments : Reading mixedSegments (written mixedSegments) := by
  have noMark {c : Char} {rest : List Char} (other : c ≠ '/') :
      c = '/' → rest.head? ≠ some '/' ∧ rest.head? ≠ some '*' := fun isSlash => absurd isSlash other
  refine .literal (.escape '"' (.char (by decide) (.char (by decide) .nil))) (.block (by decide) ?_)
  refine .plain (by decide) (fun _ => by decide) (.plain (by decide) (noMark (by decide)) ?_)
  refine .line (by decide) (.inr rfl) (.plain (by decide) (noMark (by decide)) (.cutLiteral ?_))
  exact .backslash (.char (by decide) (.char (by decide) .nil))

theorem strip_segments_mixedSegments :
    Reading mixedSegments (written mixedSegments) ∧
      written mixedSegments = "\"\\\"//\"/*/\"**// //*\"\n\"/*\\".toList ∧
      strip (written mixedSegments) = "\"\\\"//\"/ \n\"/*\\".toList :=
  ⟨reading_mixedSegments, by decide,
    ((strip_segments _).2.1 _ reading_mixedSegments).2.1.trans (by decide)⟩

end ChartLint.Comment
