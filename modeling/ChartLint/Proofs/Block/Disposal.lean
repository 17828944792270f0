import ChartLint.Proofs.Block.Nesting
import Mathlib.Data.List.Forall2
import Mathlib.Data.List.Perm.Basic
import Mathlib.Data.List.TakeWhile

/-!
What becomes of the blocks that are opened. A block leaves the open ones exactly once: a keyword of its
own kind closes it, or it is dropped, and then it is reported unless it may stay open.
-/
namespace ChartLint.Block

namespace Statement

theorem keyword_of_declaration {keyword other : Keyword} {text : List Char} {name : String}
    {extent : Extent} (h : ofKeyword? keyword text = some (.declaration other name extent)) :
    other = keyword := by
  cases keyword <;> simp only [ofKeyword?, list, var, csv, importFrom, Option.some.injEq] at h <;>
    grind

theorem keyword_of_body {keyword opener : Keyword} {text : List Char} {statement : Statement}
    (h : ofKeyword? keyword text = some statement) (isBody : statement.role = .body opener) :
    opener = keyword := by
  have member := role_mem_roles h
  rw [isBody] at member
  cases keyword <;> simp_all [roles]

theorem opener?_of_closing {keyword closer opener : Keyword} {text : List Char}
    (h : ofKeyword? keyword text = some (.closing closer opener)) :
    keyword = closer ∧ closer.opener? = some opener := by
  cases keyword <;> simp only [ofKeyword?, list, var, csv, importFrom, Option.some.injEq] at h <;>
    grind [Keyword.opener?]

theorem line_of_keyword? {line : List Char} {number : Nat} {token : Line.KeywordToken}
    (h : Line.keyword? line number = some token) : token.range.start.line = number := by
  simp only [Line.keyword?, Option.ite_none_right_eq_some, Option.some.injEq] at h
  obtain ⟨-, rfl⟩ := h
  rfl

/-- A line that starts with a keyword at a place and makes a statement. -/
structure Reads (line : List Char) (number : Nat) (keyword : Keyword) (range : Range)
    (statement : Statement) : Prop where
  token : ∃ token, Line.keyword? line number = some token ∧ token.keyword? = some keyword ∧
    token.range = range
  statement : ofKeyword? keyword (Line.afterKeyword line) = some statement

theorem ofLine?_eq_some {line : List Char} {number : Nat} {statement : Statement} {range : Range} :
    ofLine? line number = some (statement, range) ↔
      ∃ keyword, Reads line number keyword range statement := by
  simp only [ofLine?, Option.bind_eq_bind, Option.bind_eq_some_iff, Option.pure_def,
    Option.some.injEq, Prod.mk.injEq]
  constructor
  · rintro ⟨token, isToken, keyword, isKeyword, _, isStatement, rfl, isRange⟩
    exact ⟨keyword, ⟨token, isToken, isKeyword, isRange⟩, isStatement⟩
  · rintro ⟨keyword, ⟨token, isToken, isKeyword, isRange⟩, isStatement⟩
    exact ⟨token, isToken, keyword, isKeyword, statement, isStatement, rfl, isRange⟩

theorem Reads.role_eq {line : List Char} {number : Nat} {keyword : Keyword} {range : Range}
    {statement : Statement} (h : Reads line number keyword range statement) :
    Block.role line = statement.role := by
  rw [Block.role, statement?_eq line number, ofLine?_eq_some.mpr ⟨keyword, h⟩]
  rfl

end Statement

theorem opener?_of_closer? {opener closer : Keyword} (h : opener.closer? = some closer) :
    closer.opener? = some opener := by
  cases opener <;> cases h <;> rfl

theorem message_unclosed {opener closer : Keyword} (h : opener.closer? = some closer) :
    (Issue.unmatchedKeyword opener closer).message =
      opener.name ++ " has no matching end" ++ opener.name := by
  cases opener <;> cases h <;> rfl

namespace Tracker

/-- Every open block can be closed, and an open body belongs to the innermost block. -/
structure Sound (tracker : Tracker) : Prop where
  closable : ∀ frame ∈ tracker.frames, frame.keyword.closer?.isSome
  body : ∀ body, tracker.body = some body →
    ∃ frame outer, tracker.frames = frame :: outer ∧ frame.keyword.closer? = some body.closer

theorem sound_empty : Sound {} where
  closable := by simp
  body := nofun

def NoneUnmatched (findings : List Finding) : Prop :=
  ∀ finding ∈ findings, finding.issue.code ≠ .unmatchedKeyword

theorem noneUnmatched_of_quiet {findings : List Finding} (h : Quiet findings) :
    NoneUnmatched findings :=
  fun finding member => (h finding member).1

/-- A closing keyword meets no block of its kind, or ends the innermost of them and drops the blocks
inside it. -/
theorem close_cases (tracker : Tracker) (closer opener : Keyword) (range : Range) :
    (∀ frame ∈ tracker.frames, frame.keyword ≠ opener) ∧
        tracker.close closer opener range =
          (tracker, [⟨.unmatchedKeyword closer opener, range⟩]) ∨
      ∃ dropped target outer, tracker.frames = dropped ++ target :: outer ∧
        target.keyword = opener ∧ (∀ frame ∈ dropped, frame.keyword ≠ opener) ∧
        tracker.close closer opener range =
          ({ tracker with frames := outer }, unclosed dropped) := by
  have split := List.takeWhile_append_dropWhile (p := fun frame => frame.keyword != opener)
    (l := tracker.frames)
  have inner (frame : Frame)
      (member : frame ∈ tracker.frames.takeWhile fun frame => frame.keyword != opener) :
      frame.keyword ≠ opener := by
    simpa using List.mem_takeWhile_imp member
  cases isRest : tracker.frames.dropWhile (fun frame => frame.keyword != opener) with
  | nil =>
    left
    rw [isRest, List.append_nil] at split
    rw [split] at inner
    exact ⟨inner, by simp [close, isRest]⟩
  | cons target outer =>
    right
    refine ⟨_, target, outer, isRest ▸ split.symm, ?_, inner, by simp [close, isRest]⟩
    have isHead := List.head?_dropWhile_not (fun frame => frame.keyword != opener) tracker.frames
    simpa [isRest] using isHead

theorem code_of_mem_unclosed {dropped : List Frame} {finding : Finding}
    (member : finding ∈ unclosed dropped) : finding.issue.code = .unmatchedKeyword := by
  obtain ⟨frame, -, isFinding⟩ := List.mem_filterMap.mp member
  simp only [Frame.unclosed?, Option.ite_none_left_eq_some, Option.map_eq_some_iff] at isFinding
  obtain ⟨-, _, -, rfl⟩ := isFinding
  rfl

theorem code_of_mem_close {tracker : Tracker} {closer opener : Keyword} {range : Range}
    {finding : Finding} (member : finding ∈ (tracker.close closer opener range).2) :
    finding.issue.code = .unmatchedKeyword := by
  obtain ⟨-, isClose⟩ | ⟨dropped, _, _, -, -, -, isClose⟩ := close_cases tracker closer opener range
  · rw [isClose, List.mem_singleton] at member
    rw [member]
    rfl
  · rw [isClose] at member
    exact code_of_mem_unclosed member

/-- A block that the keyword of a line opens. It may stay open if its rows are elsewhere. -/
structure OpenedAt (line : List Char) (number : Nat) (frame : Frame) : Prop where
  token : ∃ token, Line.keyword? line number = some token ∧ token.keyword? = some frame.keyword ∧
    token.range = frame.range
  closable : frame.keyword.closer?.isSome
  tolerant : frame.tolerant = true ↔ role line = .source

/-- What reading a line does to the open blocks. -/
inductive Effect (tracker : Tracker) (line : List Char) (number : Nat)
    (result : Tracker × List Finding) : Prop
  | stays :
      result.1.frames = tracker.frames →
      result.1.body.map Body.closer = tracker.body.map Body.closer →
      NoneUnmatched result.2 → Effect tracker line number result
  | opens (frame : Frame) :
      OpenedAt line number frame → result.1.frames = frame :: tracker.frames →
      (∀ body, result.1.body = some body → frame.keyword.closer? = some body.closer) →
      NoneUnmatched result.2 → Effect tracker line number result
  | stray {token : Line.KeywordToken} {closer opener : Keyword} :
      Line.keyword? line number = some token → token.keyword? = some closer →
      closer.opener? = some opener → (∀ frame ∈ tracker.frames, frame.keyword ≠ opener) →
      result = (tracker, [⟨.unmatchedKeyword closer opener, token.range⟩]) →
      Effect tracker line number result
  | closes (dropped : List Frame) {target : Frame} {outer : List Frame} :
      tracker.frames = dropped ++ target :: outer → leading? line = target.keyword.closer? →
      result = ({ tracker with frames := outer, body := none }, unclosed dropped) →
      Effect tracker line number result

section Body

variable {tracker : Tracker} {body : Body} {line : List Char} (number : Nat)

/-- The closing keyword of an open body ends the innermost block and says nothing. -/
theorem step_closing (sound : tracker.Sound) (isBody : tracker.body = some body)
    (isLeading : leading? line = some body.closer) :
    ∃ frame outer, tracker.frames = frame :: outer ∧ frame.keyword.closer? = some body.closer ∧
      tracker.step line number = ({ tracker with frames := outer, body := none }, []) := by
  obtain ⟨frame, outer, isFrames, isCloser⟩ := sound.body body isBody
  obtain ⟨range, isClosing⟩ :=
    Option.isSome_iff_exists.mp ((Holds.isSome_closing? body line number).mpr isLeading)
  refine ⟨frame, outer, isFrames, isCloser, ?_⟩
  have cleared : { tracker with body := none }.frames = frame :: outer := isFrames
  simp only [step, read?, isBody, readBody, isClosing, opener?_of_closer? isCloser,
    Option.getD_some, close_innermost cleared rfl]

/-- Any other line leaves the blocks around an open body as they are. -/
theorem step_inside (isBody : tracker.body = some body)
    (isOther : leading? line ≠ some body.closer) :
    tracker.step line number =
      ({ tracker with body := some { body with kind := (readRow line number body.kind).1 } },
        (readRow line number body.kind).2) := by
  have isClosing : closing? body line number = none := by
    rw [← Option.not_isSome_iff_eq_none, Holds.isSome_closing?]
    exact isOther
  simp only [step, read?, isBody, readBody, isClosing, Option.getD_some]

end Body

theorem openBody_eq {keyword closer : Keyword} (isCloser : keyword.closer? = some closer)
    (tracker : Tracker) (range : Range) (kind : Body.Kind) :
    tracker.openBody keyword range kind =
      { tracker with body := some ⟨kind, closer⟩ }.push { keyword, range } := by
  simp [openBody, isCloser]

theorem noneUnmatched_loop (tracker : Tracker) (header : Option (String × String)) (range : Range) :
    NoneUnmatched (tracker.loop header range).2 := by
  unfold loop
  split
  · simp [NoneUnmatched, Issue.code]
  · dsimp only
    split <;> simp [NoneUnmatched, Issue.code]

theorem loop_fst (tracker : Tracker) (header : Option (String × String)) (range : Range) :
    (tracker.loop header range).1 =
      tracker.push { keyword := .forEach, range, loopVariable := header.map Prod.fst } := by
  cases header <;> rfl

section Perform

variable {tracker : Tracker} {line : List Char} {number : Nat} {keyword : Keyword} {range : Range}
  {statement : Statement} {result : Tracker × List Finding}

theorem openedAt_of_reads (reads : Statement.Reads line number keyword range statement)
    (closable : keyword.closer?.isSome) (tolerant : Bool)
    (isTolerant : tolerant = true ↔ statement.role = .source) (loopVariable : Option String) :
    OpenedAt line number { keyword, range, tolerant, loopVariable } :=
  ⟨reads.token, closable, reads.role_eq ▸ isTolerant⟩

theorem effect_push (isOutside : tracker.body = none) {frame : Frame}
    (opened : OpenedAt line number frame) (isFrames : result.1.frames = frame :: tracker.frames)
    (isBody : result.1.body = tracker.body) (quiet : NoneUnmatched result.2) :
    Effect tracker line number result := by
  refine .opens frame opened isFrames ?_ quiet
  simp [isBody, isOutside]

theorem effect_openBody (reads : Statement.Reads line number keyword range statement)
    (isBody : statement.role = .body keyword) (other : Tracker)
    (same : other.frames = tracker.frames) (kind : Body.Kind) {findings : List Finding}
    (quiet : Quiet findings) :
    Effect tracker line number (other.openBody keyword range kind, findings) := by
  obtain ⟨closer, isOpener⟩ :=
    exists_closer_of_body_mem (isBody ▸ Statement.role_mem_roles reads.statement)
  have isCloser := closer?_of_opener? isOpener
  have opened := openedAt_of_reads reads (by simp [isCloser]) false (by simp [isBody]) none
  rw [openBody_eq isCloser]
  refine .opens _ opened (by rw [← same]; rfl) ?_ (noneUnmatched_of_quiet quiet)
  rintro _ ⟨⟩
  exact isCloser

theorem effect_closing (reads : Statement.Reads line number keyword range statement)
    (isOutside : tracker.body = none) {closer opener : Keyword}
    (isClosing : statement = .closing closer opener) :
    Effect tracker line number (tracker.close closer opener range) := by
  obtain ⟨token, isToken, isKeyword, rfl⟩ := reads.token
  obtain ⟨rfl, isOpener⟩ := Statement.opener?_of_closing (isClosing ▸ reads.statement)
  obtain ⟨none, isClose⟩ | ⟨dropped, target, outer, isFrames, rfl, -, isClose⟩ :=
    close_cases tracker keyword opener token.range
  · exact .stray isToken isKeyword isOpener none isClose
  · refine .closes dropped isFrames ?_ (by rw [isClose, isOutside])
    rw [leading?_eq line number, isToken, Option.bind_some, isKeyword, closer?_of_opener? isOpener]

/-- The effect of a statement that is read outside of bodies. -/
theorem effect_perform (reads : Statement.Reads line number keyword range statement)
    (isOutside : tracker.body = none) :
    Effect tracker line number (tracker.perform range statement) := by
  have member := Statement.role_mem_roles reads.statement
  cases statement with
  | body opener =>
    obtain rfl := Statement.keyword_of_body reads.statement rfl
    exact effect_openBody reads rfl tracker rfl .text quiet_nil
  | loop header =>
    obtain rfl : keyword = .forEach := by cases keyword <;> simp_all [Statement.role, roles]
    have opened := openedAt_of_reads reads rfl false (by simp [Statement.role])
      (header.map Prod.fst)
    refine effect_push isOutside opened ?_ ?_ (noneUnmatched_loop tracker header range)
    · rw [perform, loop_fst]
      rfl
    · rw [perform, loop_fst]
      rfl
  | branch =>
    obtain rfl : keyword = .ifThen := by cases keyword <;> simp_all [Statement.role, roles]
    have opened := openedAt_of_reads reads rfl false (by simp [Statement.role]) none
    exact effect_push isOutside opened rfl rfl (by simp [perform, NoneUnmatched])
  | divider divider =>
    refine .stays rfl rfl ?_
    simp only [perform]
    split <;> simp [NoneUnmatched, Issue.code]
  | declaration declared name extent =>
    obtain rfl := Statement.keyword_of_declaration reads.statement
    have quiet := Holds.quiet_declare tracker name range
    cases extent with
    | line => exact .stays rfl rfl (noneUnmatched_of_quiet quiet)
    | body kind =>
      have same : (tracker.declare name range).1.frames = tracker.frames := rfl
      exact effect_openBody reads rfl _ same kind quiet
    | source =>
      obtain rfl : declared = .csv := by cases declared <;> simp_all [Statement.role, roles]
      have opened := openedAt_of_reads reads rfl true (by simp [Statement.role]) none
      exact effect_push isOutside opened rfl rfl (noneUnmatched_of_quiet quiet)
  | malformed malformed expected =>
    exact .stays rfl rfl (by simp [perform, NoneUnmatched, Issue.code])
  | closing closer opener => exact effect_closing reads isOutside rfl

end Perform

theorem step_of_reads {tracker : Tracker} {line : List Char} {number : Nat} {keyword : Keyword}
    {range : Range} {statement : Statement} (isOutside : tracker.body = none)
    (reads : Statement.Reads line number keyword range statement) :
    tracker.step line number = tracker.perform range statement := by
  simp [step, read?, isOutside, Statement.ofLine?_eq_some.mpr ⟨keyword, reads⟩]

/-- What reading a line does: it is a line of an open body, none of the tracker's, or makes a
statement. -/
theorem step_cases (tracker : Tracker) (line : List Char) (number : Nat) :
    (∃ body, tracker.body = some body ∧
        tracker.step line number = tracker.readBody body line number) ∨
      tracker.body = none ∧ Statement.ofLine? line number = none ∧
        tracker.step line number = (tracker, []) ∨
      ∃ keyword range statement, tracker.body = none ∧
        Statement.Reads line number keyword range statement ∧
        tracker.step line number = tracker.perform range statement := by
  cases isBody : tracker.body with
  | some body =>
    left
    exact ⟨body, rfl, by simp [step, read?, isBody]⟩
  | none =>
    right
    cases isLine : Statement.ofLine? line number with
    | none => exact .inl ⟨rfl, rfl, by simp [step, read?, isBody, isLine]⟩
    | some found =>
      obtain ⟨keyword, reads⟩ := Statement.ofLine?_eq_some.mp isLine
      exact .inr ⟨keyword, found.2, found.1, rfl, reads, step_of_reads isBody reads⟩

theorem effect_step {tracker : Tracker} (sound : tracker.Sound) (line : List Char) (number : Nat) :
    Effect tracker line number (tracker.step line number) := by
  obtain ⟨body, isBody, -⟩ | ⟨-, -, isStep⟩ | ⟨keyword, range, statement, isOutside, reads, isStep⟩ :=
    step_cases tracker line number
  · by_cases isLeading : leading? line = some body.closer
    · obtain ⟨frame, outer, isFrames, isCloser, isStep⟩ := step_closing number sound isBody isLeading
      exact .closes [] isFrames (isLeading.trans isCloser.symm) isStep
    · rw [step_inside number isBody isLeading]
      exact .stays rfl (by simp [isBody])
        (noneUnmatched_of_quiet (Holds.quiet_readRow line number body.kind))
  · rw [isStep]
    exact .stays rfl rfl (by simp [NoneUnmatched])
  · rw [isStep]
    exact effect_perform reads isOutside

theorem Sound.of_effect {tracker : Tracker} {line : List Char} {number : Nat}
    {result : Tracker × List Finding} (sound : tracker.Sound)
    (effect : Effect tracker line number result) : result.1.Sound := by
  cases effect with
  | stays isFrames isBody _ =>
    refine ⟨isFrames ▸ sound.closable, ?_⟩
    intro body isOpen
    rw [isOpen, Option.map_some, eq_comm, Option.map_eq_some_iff] at isBody
    obtain ⟨before, isBefore, sameCloser⟩ := isBody
    rw [isFrames, ← sameCloser]
    exact sound.body before isBefore
  | opens frame opened isFrames isBody _ =>
    refine ⟨?_, fun body isOpen => ⟨frame, tracker.frames, isFrames, isBody body isOpen⟩⟩
    rw [isFrames, List.forall_mem_cons]
    exact ⟨opened.closable, sound.closable⟩
  | stray _ _ _ _ isResult => exact isResult ▸ sound
  | closes dropped isFrames _ isResult =>
    subst isResult
    refine ⟨fun frame member => sound.closable frame ?_, nofun⟩
    rw [isFrames]
    exact List.mem_append_right _ (List.mem_cons_of_mem _ member)

end Tracker

/-- What a line, or the end of the document, did to a tracker. -/
structure Turn where
  before : Tracker
  /-- The line and its number; the end of the document has none. -/
  line? : Option (List Char × Nat)
  after : Tracker
  findings : List Finding

namespace Turn

/-- Blocks that are open after the turn only. -/
def opened (turn : Turn) : List Frame :=
  turn.after.frames.take (turn.after.frames.length - turn.before.frames.length)

/-- Blocks that are open before the turn only, in the order of their opening. -/
def gone (turn : Turn) : List Frame :=
  (turn.before.frames.take (turn.before.frames.length - turn.after.frames.length)).reverse

/-- The block that a line closes: of those that leave, the one opened first. -/
def closed? (turn : Turn) : Option Frame := turn.line?.bind fun _ => turn.gone.head?

/-- Blocks that leave without being closed, in the order of their opening. -/
def dropped (turn : Turn) : List Frame := if turn.line?.isSome then turn.gone.tail else turn.gone

/-- Blocks that are dropped and have to be reported. -/
def unclosed (turn : Turn) : List Frame := turn.dropped.filter fun frame => !frame.tolerant

def unmatched (turn : Turn) : List Finding :=
  turn.findings.filter fun finding => finding.issue.code == .unmatchedKeyword

theorem closed?_append_dropped (turn : Turn) : turn.closed?.toList ++ turn.dropped = turn.gone := by
  unfold closed? dropped
  cases turn.line? with
  | none => rfl
  | some line => cases turn.gone <;> rfl

/-- A finding that says of a block that it is not closed. -/
def Reports (frame : Frame) (finding : Finding) : Prop :=
  finding.issue.code = .unmatchedKeyword ∧
    finding.issue.message = frame.keyword.name ++ " has no matching end" ++ frame.keyword.name ∧
    finding.range = frame.range

/-- A closing keyword without an open block of its kind, which is all that the turn is about. -/
structure Stray (turn : Turn) : Prop where
  unchanged : turn.after = turn.before
  closing : ∃ line number token closer opener, turn.line? = some (line, number) ∧
    Line.keyword? line number = some token ∧ token.keyword? = some closer ∧
    closer.opener? = some opener ∧ (∀ frame ∈ turn.before.frames, frame.keyword ≠ opener) ∧
    turn.findings = [⟨.unmatchedKeyword closer opener, token.range⟩]

/-- Where the blocks of a turn come from and where they go. -/
structure Accounted (turn : Turn) : Prop where
  frames : turn.gone.reverse ++ turn.after.frames = turn.opened ++ turn.before.frames
  single : turn.opened.length ≤ 1
  opened : ∀ frame ∈ turn.opened, ∃ line number, turn.line? = some (line, number) ∧
    Tracker.OpenedAt line number frame
  closed : ∀ frame, turn.closed? = some frame → ∃ line number closer,
    turn.line? = some (line, number) ∧ leading? line = some closer ∧
    closer.opener? = some frame.keyword
  reported : turn.Stray ∨ List.Forall₂ Reports turn.unclosed turn.unmatched

/-- In an open body, the closing keyword of the body ends the innermost block without a word, and all
other lines leave the blocks and the body open. -/
structure KeepsBody (turn : Turn) (body : Body) (line : List Char) : Prop where
  closes : leading? line = some body.closer →
    ∃ frame, turn.before.frames = frame :: turn.after.frames ∧
      frame.keyword.closer? = some body.closer ∧ turn.after.body = none ∧ turn.findings = []
  stays : leading? line ≠ some body.closer →
    turn.after.frames = turn.before.frames ∧ turn.after.body.map Body.closer = some body.closer

/-- Blocks are reported in their order, each once. -/
theorem forall₂_reports {frames : List Frame}
    (closable : ∀ frame ∈ frames, frame.keyword.closer?.isSome) :
    List.Forall₂ Reports (frames.filter fun frame => !frame.tolerant)
      ((frames.filterMap Frame.unclosed?).filter fun finding =>
        finding.issue.code == .unmatchedKeyword) := by
  induction frames with
  | nil => exact .nil
  | cons frame frames ih =>
    rw [List.forall_mem_cons] at closable
    obtain ⟨closer, isCloser⟩ := Option.isSome_iff_exists.mp closable.1
    cases tolerant : frame.tolerant with
    | true => simpa [Frame.unclosed?, tolerant] using ih closable.2
    | false =>
      have isReport : frame.unclosed? = some ⟨.unmatchedKeyword frame.keyword closer, frame.range⟩ := by
        simp [Frame.unclosed?, tolerant, isCloser]
      have reports : Reports frame ⟨.unmatchedKeyword frame.keyword closer, frame.range⟩ :=
        ⟨rfl, message_unclosed isCloser, rfl⟩
      simpa [isReport, tolerant, Issue.code] using List.Forall₂.cons reports (ih closable.2)

theorem unmatched_eq_nil {turn : Turn} (h : Tracker.NoneUnmatched turn.findings) :
    turn.unmatched = [] := by
  rw [unmatched, List.filter_eq_nil_iff]
  intro finding member
  simpa using h finding member

theorem Accounted.line?_of_opened {turn : Turn} (accounted : turn.Accounted) {frame : Frame}
    (member : frame ∈ turn.opened) :
    ∃ line, turn.line? = some (line, frame.range.start.line) := by
  obtain ⟨line, number, isLine, opened⟩ := accounted.opened frame member
  obtain ⟨token, isToken, -, isRange⟩ := opened.token
  exact ⟨line, by rw [isLine, ← isRange, Statement.line_of_keyword? isToken]⟩

section Lines

variable {turn : Turn}

theorem gone_eq {removed : List Frame}
    (isFrames : turn.before.frames = removed ++ turn.after.frames) : turn.gone = removed.reverse := by
  simp [gone, isFrames]

theorem accounted_of_opened (new : List Frame)
    (isFrames : turn.after.frames = new ++ turn.before.frames) (single : new.length ≤ 1)
    (opened : ∀ frame ∈ new, ∃ line number, turn.line? = some (line, number) ∧
      Tracker.OpenedAt line number frame)
    (reported : turn.Stray ∨ Tracker.NoneUnmatched turn.findings) : turn.Accounted := by
  have isOpened : turn.opened = new := by simp [Turn.opened, isFrames]
  have isGone : turn.gone = [] := by simp [gone, isFrames]
  have isParts := turn.closed?_append_dropped
  rw [isGone, List.append_eq_nil_iff, Option.toList_eq_nil_iff] at isParts
  refine ⟨by simp [isGone, isOpened, isFrames], isOpened ▸ single, isOpened ▸ opened, ?_, ?_⟩
  · simp [isParts.1]
  · refine reported.imp_right fun quiet => ?_
    rw [unmatched_eq_nil quiet, unclosed, isParts.2]
    exact .nil

/-- A turn in which some blocks leave, the outermost of them closed by a line. -/
theorem accounted_of_gone (removed : List Frame) (sound : turn.before.Sound)
    (isFrames : turn.before.frames = removed ++ turn.after.frames)
    (closed : ∀ frame, turn.closed? = some frame → ∃ line number closer,
      turn.line? = some (line, number) ∧ leading? line = some closer ∧
      closer.opener? = some frame.keyword)
    (isFindings : turn.findings = turn.dropped.filterMap Frame.unclosed?) : turn.Accounted := by
  have isOpened : turn.opened = [] := by simp [Turn.opened, isFrames]
  have isGone := gone_eq isFrames
  have closable (frame : Frame) (member : frame ∈ turn.dropped) : frame.keyword.closer?.isSome := by
    have leaves : frame ∈ turn.gone := by
      rw [← turn.closed?_append_dropped]
      exact List.mem_append_right _ member
    rw [isGone, List.mem_reverse] at leaves
    exact sound.closable frame (isFrames ▸ List.mem_append_left _ leaves)
  refine ⟨?_, by simp [isOpened], by simp [isOpened], closed, .inr ?_⟩
  · simp [isGone, isOpened, isFrames]
  · rw [unmatched, isFindings]
    exact forall₂_reports closable

/-- What a line does to the open blocks is all accounted for. -/
theorem accounted_of_effect {line : List Char} {number : Nat} (sound : turn.before.Sound)
    (isLine : turn.line? = some (line, number))
    (effect : turn.before.Effect line number (turn.after, turn.findings)) : turn.Accounted := by
  cases effect with
  | stays isFrames _ quiet =>
    exact accounted_of_opened [] isFrames (by simp) (by simp) (.inr quiet)
  | opens frame opened isFrames _ quiet =>
    refine accounted_of_opened [frame] isFrames (by simp) ?_ (.inr quiet)
    rw [List.forall_mem_singleton]
    exact ⟨line, number, isLine, opened⟩
  | @stray token closer opener isToken isKeyword isOpener none isResult =>
    obtain ⟨isAfter, isFindings⟩ := Prod.mk.inj isResult
    refine accounted_of_opened [] (by rw [isAfter]; rfl) (by simp) (by simp) (.inl ⟨isAfter, ?_⟩)
    exact ⟨line, number, token, closer, opener, isLine, isToken, isKeyword, isOpener, none,
      isFindings⟩
  | @closes dropped target outer isFrames isLeading isResult =>
    obtain ⟨isAfter, isFindings⟩ := Prod.mk.inj isResult
    have isRemoved : turn.before.frames = (dropped ++ [target]) ++ turn.after.frames := by
      simp [isFrames, isAfter]
    have isGone : turn.gone = target :: dropped.reverse := by simp [gone_eq isRemoved]
    have hasCloser : target.keyword.closer?.isSome := by
      apply sound.closable
      simp [isFrames]
    obtain ⟨closer, isCloser⟩ := Option.isSome_iff_exists.mp hasCloser
    refine accounted_of_gone _ sound isRemoved ?_ ?_
    · intro frame isClosed
      obtain rfl : target = frame := by simpa [closed?, isLine, isGone] using isClosed
      exact ⟨line, number, closer, isLine, isLeading.trans isCloser, opener?_of_closer? isCloser⟩
    · rw [isFindings, Turn.dropped, isLine, isGone]
      rfl

end Lines

end Turn

namespace Tracker

/-- The turns of lines from a number on and of the end of the document after them. -/
def turns (tracker : Tracker) (number : Nat) : List (List Char) → List Turn
  | [] => [⟨tracker, none, tracker.finish.1, tracker.finish.2⟩]
  | line :: rest =>
    ⟨tracker, some (line, number), (tracker.step line number).1, (tracker.step line number).2⟩ ::
      (tracker.step line number).1.turns (number + 1) rest

@[simp] theorem turns_nil (tracker : Tracker) (number : Nat) :
    tracker.turns number [] = [⟨tracker, none, tracker.finish.1, tracker.finish.2⟩] := rfl

@[simp] theorem turns_cons (tracker : Tracker) (number : Nat) (line : List Char)
    (rest : List (List Char)) :
    tracker.turns number (line :: rest) =
      ⟨tracker, some (line, number), (tracker.step line number).1, (tracker.step line number).2⟩ ::
        (tracker.step line number).1.turns (number + 1) rest := rfl

theorem flatMap_findings_turns (tracker : Tracker) (number : Nat) (lines : List (List Char)) :
    (tracker.turns number lines).flatMap Turn.findings = tracker.findings number lines := by
  induction lines generalizing tracker number with
  | nil => simp [findings]
  | cons line lines ih => simp [findings, ih]

theorem accounted_turns {tracker : Tracker} (sound : tracker.Sound) (number : Nat)
    (lines : List (List Char)) : ∀ turn ∈ tracker.turns number lines, turn.Accounted := by
  induction lines generalizing tracker number with
  | nil =>
    rw [turns_nil, List.forall_mem_singleton]
    refine Turn.accounted_of_gone tracker.frames sound (by simp [finish]) (by simp [Turn.closed?]) ?_
    simp [Turn.dropped, Turn.gone, finish, unclosed]
  | cons line lines ih =>
    have effect := effect_step sound line number
    rw [turns_cons, List.forall_mem_cons]
    exact ⟨Turn.accounted_of_effect sound rfl effect, ih (sound.of_effect effect) (number + 1)⟩

theorem keepsBody_turns {tracker : Tracker} (sound : tracker.Sound) (number : Nat)
    (lines : List (List Char)) : ∀ turn ∈ tracker.turns number lines,
      ∀ body line number, turn.before.body = some body → turn.line? = some (line, number) →
        turn.KeepsBody body line := by
  induction lines generalizing tracker number with
  | nil => simp
  | cons line lines ih =>
    rw [turns_cons, List.forall_mem_cons]
    refine ⟨?_, ih (sound.of_effect (effect_step sound line number)) (number + 1)⟩
    rintro body _ _ isBody ⟨⟩
    constructor
    · intro isLeading
      obtain ⟨frame, outer, isFrames, isCloser, isStep⟩ := step_closing number sound isBody isLeading
      exact ⟨frame, by simp [isFrames, isStep], isCloser, by simp [isStep], by simp [isStep]⟩
    · intro isOther
      simp [step_inside number isBody isOther]

open scoped List in
/-- All blocks that are opened leave in the end. -/
theorem opened_perm_gone {tracker : Tracker} (sound : tracker.Sound) (number : Nat)
    (lines : List (List Char)) :
    (tracker.turns number lines).flatMap Turn.opened ++ tracker.frames ~
      (tracker.turns number lines).flatMap Turn.gone := by
  induction lines generalizing tracker number with
  | nil => simp [Turn.opened, Turn.gone, finish, List.Perm.refl]
  | cons line lines ih =>
    let after := (tracker.step line number).1
    let turn : Turn := ⟨tracker, some (line, number), after, (tracker.step line number).2⟩
    let later := after.turns (number + 1) lines
    have effect := effect_step sound line number
    have frames : turn.gone.reverse ++ after.frames = turn.opened ++ tracker.frames :=
      (Turn.accounted_of_effect sound rfl effect).frames
    have rest : later.flatMap Turn.opened ++ after.frames ~ later.flatMap Turn.gone :=
      ih (sound.of_effect effect) (number + 1)
    calc
      (turn.opened ++ later.flatMap Turn.opened) ++ tracker.frames
      _ ~ (later.flatMap Turn.opened ++ turn.opened) ++ tracker.frames :=
        List.perm_append_comm.append_right _
      _ = later.flatMap Turn.opened ++ (turn.gone.reverse ++ after.frames) := by
        rw [List.append_assoc, frames]
      _ ~ later.flatMap Turn.opened ++ (turn.gone ++ after.frames) :=
        ((List.reverse_perm _).append_right _).append_left _
      _ ~ turn.gone ++ (later.flatMap Turn.opened ++ after.frames) := List.perm_append_comm_assoc ..
      _ ~ turn.gone ++ later.flatMap Turn.gone := rest.append_left _

theorem le_of_mem_turns {tracker : Tracker} {number : Nat} {lines : List (List Char)} {turn : Turn}
    (member : turn ∈ tracker.turns number lines) {line : List Char} {place : Nat}
    (isLine : turn.line? = some (line, place)) : number ≤ place := by
  induction lines generalizing tracker number with
  | nil =>
    rw [turns_nil, List.mem_singleton] at member
    simp [member] at isLine
  | cons first lines ih =>
    rw [turns_cons, List.mem_cons] at member
    rcases member with rfl | member
    · simp only [Option.some.injEq, Prod.mk.injEq] at isLine
      exact Nat.le_of_eq isLine.2
    · exact Nat.le_of_succ_le (ih member)

/-- Blocks are opened on different lines, one after the other. -/
theorem opened_pairwise {tracker : Tracker} (sound : tracker.Sound) (number : Nat)
    (lines : List (List Char)) :
    ((tracker.turns number lines).flatMap Turn.opened).Pairwise fun a b =>
      a.range.start.line < b.range.start.line := by
  induction lines generalizing tracker number with
  | nil => simp [Turn.opened, finish]
  | cons line lines ih =>
    have effect := effect_step sound line number
    have accounted := accounted_turns sound number (line :: lines)
    have later := ih (sound.of_effect effect) (number + 1)
    rw [turns_cons, List.forall_mem_cons] at accounted
    rw [turns_cons, List.flatMap_cons, List.pairwise_append]
    refine ⟨?_, later, ?_⟩
    · have single := accounted.1.single
      generalize Turn.opened _ = opened at single
      cases opened with
      | nil => exact .nil
      | cons frame others =>
        obtain rfl : others = [] := by simpa using single
        exact List.pairwise_singleton ..
    · intro frame member other otherMember
      obtain ⟨turn, isTurn, otherMember⟩ := List.mem_flatMap.mp otherMember
      obtain ⟨_, isLine⟩ := accounted.1.line?_of_opened member
      obtain ⟨_, isOther⟩ := (accounted.2 turn isTurn).line?_of_opened otherMember
      have isNumber : number = frame.range.start.line := congrArg Prod.snd (Option.some.inj isLine)
      rw [← isNumber]
      exact le_of_mem_turns isTurn isOther

/-- The turn of the end of the document comes last. -/
theorem getLast?_turns (tracker : Tracker) (number : Nat) (lines : List (List Char)) :
    ∃ final : Tracker, (tracker.turns number lines).getLast? =
      some ⟨final, none, final.finish.1, final.finish.2⟩ := by
  induction lines generalizing tracker number with
  | nil => exact ⟨tracker, rfl⟩
  | cons line lines ih =>
    obtain ⟨final, isLast⟩ := ih (tracker.step line number).1 (number + 1)
    exact ⟨final, by simp [List.getLast?_cons, isLast]⟩

/-- Every block that lines open leaves exactly once: a keyword of its own kind closes it, or it is
dropped. Of the blocks that a line or the end of the document drops, those that have to be closed are
reported in the order of their opening, each once and at its keyword. In an open body the closing
keyword of the body ends the innermost block without a word. After the end nothing is open. -/
theorem turns_accounted (lines : List (List Char)) :
    let turns := ({} : Tracker).turns 0 lines
    (turns.flatMap Turn.opened).Nodup ∧
      (turns.flatMap Turn.opened).Perm
        (turns.filterMap Turn.closed? ++ turns.flatMap Turn.dropped) ∧
      (∀ turn ∈ turns, turn.Accounted) ∧
      (∀ turn ∈ turns, ∀ body line number, turn.before.body = some body →
        turn.line? = some (line, number) → turn.KeepsBody body line) ∧
      turns.flatMap Turn.findings = ({} : Tracker).findings 0 lines ∧
      ∃ last, turns.getLast? = some last ∧ last.line? = none ∧ last.after.frames = [] ∧
        last.after.body = none := by
  intro turns
  refine ⟨?_, ?_, accounted_turns sound_empty 0 lines, keepsBody_turns sound_empty 0 lines,
    flatMap_findings_turns {} 0 lines, ?_⟩
  · refine (opened_pairwise sound_empty 0 lines).imp ?_
    rintro a _ less rfl
    exact Nat.lt_irrefl _ less
  · have leaves := opened_perm_gone sound_empty 0 lines
    have parts : turns.flatMap Turn.gone =
        turns.flatMap fun turn => turn.closed?.toList ++ turn.dropped := by
      simp only [Turn.closed?_append_dropped]
    rw [List.append_nil] at leaves
    rw [List.filterMap_eq_flatMap_toList]
    exact (leaves.trans (.of_eq parts)).trans (List.flatMap_append_perm ..).symm
  · obtain ⟨final, isLast⟩ := getLast?_turns {} 0 lines
    exact ⟨_, isLast, rfl, rfl, rfl⟩

end Tracker

end ChartLint.Block
