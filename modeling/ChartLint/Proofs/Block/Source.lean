import ChartLint.Proofs.Block.Run

/-!
Rows that are elsewhere. A line that declares them opens a block that may stay open, and the tracker
says the same of the lines around it as without the line, except of a divider: it looks for the branch
directly around it, and does not find it behind that block.
-/
namespace ChartLint

/-- Where a place goes when a line is inserted at a number. -/
def Position.shift (first : Nat) (place : Position) : Position :=
  { place with line := if first ≤ place.line then place.line + 1 else place.line }

theorem Position.shift_le_shift (first : Nat) {a b : Position} (h : a ≤ b) :
    a.shift first ≤ b.shift first := by
  simp only [shift, le_def] at *
  split <;> split <;> omega

namespace Range

def shift (first : Nat) (range : Range) : Range :=
  ⟨range.start.shift first, range.stop.shift first, Position.shift_le_shift first range.ordered⟩

theorem shift_span {first number : Nat} (later : first ≤ number) (column size : Nat) :
    (span number column size).shift first = span (number + 1) column size := by
  simp [shift, span, Position.shift, later]

theorem shift_of_lt {first : Nat} {range : Range} (h : range.stop.line < first) :
    range.shift first = range := by
  have ordered := Position.le_def.mp range.ordered
  have start : ¬ first ≤ range.start.line := by omega
  have stop : ¬ first ≤ range.stop.line := by omega
  simp [shift, Position.shift, start, stop]

theorem line_shift_ne (first : Nat) (range : Range) : (range.shift first).start.line ≠ first := by
  simp only [shift, Position.shift]
  split <;> simp <;> omega

end Range

def Finding.shift (first : Nat) (finding : Finding) : Finding :=
  { finding with range := finding.range.shift first }

namespace Line

def KeywordToken.shift (first : Nat) (token : KeywordToken) : KeywordToken :=
  { token with range := token.range.shift first }

theorem keyword?_succ {first number : Nat} (later : first ≤ number) (line : List Char) :
    keyword? line (number + 1) = (keyword? line number).map (KeywordToken.shift first) := by
  simp only [keyword?]
  split
  · simp [KeywordToken.shift, Range.shift_span later]
  · rfl

end Line

namespace Block

def Frame.shift (first : Nat) (frame : Frame) : Frame :=
  { frame with range := frame.range.shift first }

theorem Statement.Reads.succ {line : List Char} {number first : Nat} {keyword : Keyword}
    {range : Range} {statement : Statement} (later : first ≤ number)
    (reads : Reads line number keyword range statement) :
    Reads line (number + 1) keyword (range.shift first) statement := by
  obtain ⟨⟨token, isToken, isKeyword, rfl⟩, isStatement⟩ := reads
  refine ⟨⟨token.shift first, ?_, isKeyword, rfl⟩, isStatement⟩
  rw [Line.keyword?_succ later, isToken]
  rfl

namespace Tracker

section Shift

variable {first number : Nat}

theorem unclosed_shift (first : Nat) (frames : List Frame) :
    unclosed (frames.map (Frame.shift first)) = (unclosed frames).map (Finding.shift first) := by
  have isShift (frame : Frame) :
      (frame.shift first).unclosed? = frame.unclosed?.map (Finding.shift first) := by
    unfold Frame.unclosed? Frame.shift
    cases frame.tolerant <;> simp [Function.comp_def, Finding.shift]
  rw [unclosed, unclosed, ← List.map_reverse, List.filterMap_map, List.map_filterMap]
  simp only [Function.comp_def, isShift]

theorem unclosed_append (inner outer : List Frame) :
    unclosed (inner ++ outer) = unclosed outer ++ unclosed inner := by
  simp [unclosed]

theorem closing?_succ (later : first ≤ number) (body : Body) (line : List Char) :
    closing? body line (number + 1) = (closing? body line number).map (Range.shift first) := by
  rw [closing?, closing?, Line.keyword?_succ later]
  cases Line.keyword? line number with
  | none => rfl
  | some token =>
    have same : (token.shift first).keyword? = token.keyword? := rfl
    simp only [Option.map_some, Option.bind_some, same]
    split <;> rfl

theorem readRow_succ (later : first ≤ number) (line : List Char) (kind : Body.Kind) :
    readRow line (number + 1) kind =
      ((readRow line number kind).1, (readRow line number kind).2.map (Finding.shift first)) := by
  have isShift : rowRange line (number + 1) = (rowRange line number).shift first :=
    (Range.shift_span later _ _).symm
  cases kind with
  | text => rfl
  | rows columns =>
    simp only [readRow]
    split
    · rfl
    · cases columns with
      | none => rfl
      | some expected =>
        dsimp only
        split
        · rfl
        · simp [Finding.shift, isShift]

end Shift

section Close

variable {tracker : Tracker} {opener : Keyword}

theorem close_of_none (none : ∀ frame ∈ tracker.frames, frame.keyword ≠ opener) (closer : Keyword)
    (range : Range) :
    tracker.close closer opener range =
      (tracker, [⟨.unmatchedKeyword closer opener, range⟩]) := by
  obtain ⟨-, isClose⟩ | ⟨dropped, target, outer, isFrames, isOpener, -⟩ :=
    close_cases tracker closer opener range
  · exact isClose
  · exact absurd isOpener (none target (by simp [isFrames]))

theorem close_of_split {dropped outer : List Frame} {target : Frame}
    (isFrames : tracker.frames = dropped ++ target :: outer) (isOpener : target.keyword = opener)
    (others : ∀ frame ∈ dropped, frame.keyword ≠ opener) (closer : Keyword) (range : Range) :
    tracker.close closer opener range = ({ tracker with frames := outer }, unclosed dropped) := by
  have others (frame : Frame) (member : frame ∈ dropped) : (frame.keyword != opener) = true := by
    simpa using others frame member
  simp [close, isFrames, List.dropWhile_append_of_pos others, List.takeWhile_append_of_pos others,
    isOpener]

end Close

theorem split_of_append {α : Type} {inner outer dropped rest : List α} {target : α}
    (h : inner ++ outer = dropped ++ target :: rest) :
    (∃ between, inner = dropped ++ target :: between ∧ rest = between ++ outer) ∨
      ∃ between, dropped = inner ++ between ∧ outer = between ++ target :: rest := by
  rcases List.append_eq_append_iff.mp h with inside | ⟨others, isInner, isRest⟩
  · exact .inr inside
  · rcases List.cons_eq_append_iff.mp isRest with ⟨rfl, isOuter⟩ | ⟨between, rfl, isBetween⟩
    · exact .inr ⟨[], by simpa using isInner.symm, isOuter⟩
    · exact .inl ⟨between, isInner, isBetween⟩

/-- At most one block, that of rows that are elsewhere, which a line of some number opens. -/
structure Extra (first : Nat) (frames : List Frame) : Prop where
  single : frames.length ≤ 1
  source : ∀ frame ∈ frames, frame.keyword = .csv ∧ frame.tolerant = true ∧
    frame.loopVariable = none ∧ frame.range.start.line = first

theorem Extra.unclosed_eq {first : Nat} {frames : List Frame} (extra : Extra first frames) :
    unclosed frames = [] := by
  rw [unclosed, List.filterMap_eq_nil_iff]
  intro frame member
  simp [Frame.unclosed?, (extra.source frame (List.mem_reverse.mp member)).2.1]

/-- A tracker that has read the same lines as another, and one more that is inserted at some number: it
may know the name that the line declares, and may have the block that the line opens. -/
structure Extends (name : String) (first : Nat) (plain other : Tracker) : Prop where
  names : ∀ declared, declared ≠ name → (declared ∈ other.names ↔ declared ∈ plain.names)
  body : other.body = plain.body
  frames : ∃ inner extra outer, Extra first extra ∧ plain.frames = inner ++ outer ∧
    other.frames =
      inner.map (Frame.shift first) ++ (extra ++ outer.map (Frame.shift first))

/-- Results that say the same. -/
structure Agree (name : String) (first : Nat) (plain other : Tracker × List Finding) : Prop where
  tracker : Extends name first plain.1 other.1
  findings : other.2 = plain.2.map (Finding.shift first)

namespace Extends

variable {name : String} {first : Nat} {plain other : Tracker}

theorem push (h : Extends name first plain other) (frame : Frame) :
    Extends name first (plain.push frame) (other.push (frame.shift first)) := by
  obtain ⟨inner, extra, outer, isExtra, isPlain, isOther⟩ := h.frames
  refine ⟨h.names, h.body, frame :: inner, extra, outer, isExtra, ?_, ?_⟩
  · simp [Tracker.push, isPlain]
  · simp [Tracker.push, isOther]

theorem openBody (h : Extends name first plain other) (keyword : Keyword) (range : Range)
    (kind : Body.Kind) :
    Extends name first (plain.openBody keyword range kind)
      (other.openBody keyword (range.shift first) kind) := by
  unfold Tracker.openBody
  split
  case h_1 closer _ =>
    have opened : Extends name first { plain with body := some ⟨kind, closer⟩ }
        { other with body := some ⟨kind, closer⟩ } := ⟨h.names, rfl, h.frames⟩
    exact opened.push { keyword, range }
  case h_2 => exact h

theorem declares (h : Extends name first plain other) {declared : String}
    (isOther : declared ≠ name) : other.declares declared = plain.declares declared := by
  obtain ⟨inner, extra, outer, isExtra, isPlain, isFrames⟩ := h.frames
  have none : extra.any (fun frame => frame.loopVariable == some declared) = false := by
    rw [List.any_eq_false]
    intro frame member
    simp [(isExtra.source frame member).2.2.1]
  have known : other.names.contains declared = plain.names.contains declared := by
    rw [Bool.eq_iff_iff, List.contains_iff_mem, List.contains_iff_mem]
    exact h.names declared isOther
  simp only [Tracker.declares, known, isPlain, isFrames, List.any_append, List.any_map, none,
    Bool.false_or]
  rfl

theorem declare (h : Extends name first plain other) {declared : String}
    (isOther : declared ≠ name) (range : Range) :
    Agree name first (plain.declare declared range) (other.declare declared (range.shift first)) := by
  constructor
  · refine ⟨fun later isLater => ?_, h.body, h.frames⟩
    simp only [Tracker.declare, mem_insertName, h.names later isLater]
  · simp only [Tracker.declare, List.contains_iff_mem, h.names declared isOther]
    split <;> rfl

theorem loop (h : Extends name first plain other) {header : Option (String × String)}
    (isOther : ∀ collection, header.map Prod.snd = some collection → collection ≠ name)
    (range : Range) :
    Agree name first (plain.loop header range) (other.loop header (range.shift first)) := by
  constructor
  · rw [loop_fst, loop_fst]
    exact h.push _
  · cases header with
    | none => rfl
    | some header =>
      simp only [Tracker.loop, h.declares (isOther header.2 rfl)]
      split <;> rfl

/-- A keyword that closes other blocks finds the same one, as it passes by the extra block. -/
theorem close (h : Extends name first plain other) {opener : Keyword} (isOther : opener ≠ .csv)
    (closer : Keyword) (range : Range) :
    Agree name first (plain.close closer opener range)
      (other.close closer opener (range.shift first)) := by
  obtain ⟨inner, extra, outer, isExtra, isPlain, isFrames⟩ := h.frames
  have others (frame : Frame) (member : frame ∈ extra) : frame.keyword ≠ opener :=
    (isExtra.source frame member).1 ▸ isOther.symm
  have shifted {frames : List Frame} (none : ∀ frame ∈ frames, frame.keyword ≠ opener) :
      ∀ frame ∈ frames.map (Frame.shift first), frame.keyword ≠ opener := by
    simpa [Frame.shift] using none
  obtain ⟨none, isClose⟩ | ⟨dropped, target, rest, isSplit, isOpener, isDropped, isClose⟩ :=
    close_cases plain closer opener range
  · have absent : ∀ frame ∈ other.frames, frame.keyword ≠ opener := by
      rw [isPlain, List.forall_mem_append] at none
      rw [isFrames, List.forall_mem_append, List.forall_mem_append]
      exact ⟨shifted none.1, others, shifted none.2⟩
    rw [isClose, close_of_none absent]
    exact ⟨h, rfl⟩
  · rw [isClose]
    obtain ⟨between, isInner, isRest⟩ | ⟨between, isDrop, isOuter⟩ :=
      split_of_append (isPlain.symm.trans isSplit)
    · -- The block lies inside the extra one.
      have isTarget : other.frames = dropped.map (Frame.shift first) ++ target.shift first ::
          (between.map (Frame.shift first) ++ (extra ++ outer.map (Frame.shift first))) := by
        simp [isFrames, isInner]
      rw [close_of_split isTarget isOpener (shifted isDropped)]
      exact ⟨⟨h.names, h.body, between, extra, outer, isExtra, isRest, rfl⟩, unclosed_shift ..⟩
    · -- The block lies outside the extra one, which is dropped without a word.
      have isTarget : other.frames =
          (inner.map (Frame.shift first) ++ (extra ++ between.map (Frame.shift first))) ++
            target.shift first :: rest.map (Frame.shift first) := by
        simp [isFrames, isOuter]
      have passed : ∀ frame ∈
          inner.map (Frame.shift first) ++ (extra ++ between.map (Frame.shift first)),
          frame.keyword ≠ opener := by
        rw [isDrop, List.forall_mem_append] at isDropped
        rw [List.forall_mem_append, List.forall_mem_append]
        exact ⟨shifted isDropped.1, others, shifted isDropped.2⟩
      rw [close_of_split isTarget isOpener passed]
      refine ⟨⟨h.names, h.body, rest, [], [], ⟨by simp, by simp⟩, by simp, by simp⟩, ?_⟩
      simp [unclosed_append, unclosed_shift, isExtra.unclosed_eq, isDrop]

/-- A divider that does not stand directly in the extra block is where it was. -/
theorem divider (h : Extends name first plain other)
    (isFree : ∀ source branch rest, other.frames = source :: branch :: rest →
      source.range.start.line = first → branch.keyword ≠ .ifThen)
    (keyword : Keyword) (range : Range) :
    Agree name first (plain.perform range (.divider keyword))
      (other.perform (range.shift first) (.divider keyword)) := by
  refine ⟨h, ?_⟩
  obtain ⟨inner, extra, outer, isExtra, isPlain, isFrames⟩ := h.frames
  have same : (other.frames.head?.any fun frame => frame.keyword == .ifThen) =
      plain.frames.head?.any fun frame => frame.keyword == .ifThen := by
    cases inner with
    | cons frame inner => simp [isPlain, isFrames, Frame.shift]
    | nil =>
      cases extra with
      | nil => cases outer <;> simp [isPlain, isFrames, Frame.shift]
      | cons source extra =>
        obtain rfl : extra = [] := by simpa using isExtra.single
        obtain ⟨isCsv, -, -, isFirst⟩ := isExtra.source source List.mem_cons_self
        cases outer with
        | nil => simp [isPlain, isFrames, isCsv]
        | cons branch outer =>
          have isOther := isFree source (branch.shift first) _ isFrames isFirst
          simpa [isPlain, isFrames, isCsv, Frame.shift] using isOther
  simp only [Tracker.perform, same]
  split <;> rfl

theorem perform (h : Extends name first plain other) {statement : Statement}
    (isOther : ∀ mentioned, statement.mentioned? = some mentioned → mentioned ≠ name)
    (closesOther : statement.role ≠ .closes .csv)
    (isFree : statement.role = .divides → ∀ source branch rest,
      other.frames = source :: branch :: rest → source.range.start.line = first →
        branch.keyword ≠ .ifThen)
    (range : Range) :
    Agree name first (plain.perform range statement)
      (other.perform (range.shift first) statement) := by
  cases statement with
  | body keyword => exact ⟨h.openBody keyword range .text, rfl⟩
  | loop header => exact h.loop isOther range
  | branch => exact ⟨h.push _, rfl⟩
  | divider keyword => exact h.divider (isFree rfl) keyword range
  | declaration keyword declared extent =>
    have agree := h.declare (isOther declared rfl) range
    cases extent with
    | line => exact agree
    | body kind => exact ⟨agree.tracker.openBody keyword range kind, agree.findings⟩
    | source => exact ⟨agree.tracker.push _, agree.findings⟩
  | malformed keyword expected => exact ⟨h, rfl⟩
  | closing closer opener =>
    refine h.close ?_ closer range
    rintro rfl
    exact closesOther rfl

theorem readBody (h : Extends name first plain other) {number : Nat} (later : first ≤ number)
    {line : List Char} (isOther : leading? line ≠ some .endCsv) (body : Body) :
    Agree name first (plain.readBody body line number) (other.readBody body line (number + 1)) := by
  have isLeading := Holds.isSome_closing? body line number
  simp only [Tracker.readBody, closing?_succ later, readRow_succ later]
  cases isClosing : closing? body line number with
  | none => exact ⟨⟨h.names, rfl, h.frames⟩, rfl⟩
  | some range =>
    cases isOpener : body.closer.opener? with
    | none => exact ⟨⟨h.names, rfl, h.frames⟩, rfl⟩
    | some opener =>
      have cleared : Extends name first { plain with body := none } { other with body := none } :=
        ⟨h.names, rfl, h.frames⟩
      refine cleared.close ?_ body.closer range
      rintro rfl
      rw [isClosing] at isLeading
      have isCloser : Keyword.csv.closer? = some body.closer := closer?_of_opener? isOpener
      exact isOther ((isLeading.mp rfl).trans isCloser.symm)

theorem finish (h : Extends name first plain other) :
    other.finish.2 = plain.finish.2.map (Finding.shift first) := by
  obtain ⟨inner, extra, outer, isExtra, isPlain, isFrames⟩ := h.frames
  simp [Tracker.finish, isPlain, isFrames, unclosed_append, unclosed_shift, isExtra.unclosed_eq]

end Extends

/-- Whether a line divides a branch, but stands directly in a block that a line of some number
opened. -/
def bars (tracker : Tracker) (first : Nat) (line : List Char) : Bool :=
  tracker.body.isNone && role line == .divides &&
    match tracker.frames with
    | source :: branch :: _ => source.range.start.line == first && branch.keyword == .ifThen
    | _ => false

/-- Whether some of the lines does. -/
def barsDivider (tracker : Tracker) (first number : Nat) : List (List Char) → Bool
  | [] => false
  | line :: rest =>
    tracker.bars first line || (tracker.step line number).1.barsDivider first (number + 1) rest

theorem bars_eq_true {tracker : Tracker} {first : Nat} {line : List Char} :
    tracker.bars first line = true ↔
      tracker.body = none ∧ role line = .divides ∧
        ∃ source branch rest, tracker.frames = source :: branch :: rest ∧
          source.range.start.line = first ∧ branch.keyword = .ifThen := by
  unfold bars
  split
  case h_1 source branch rest isFrames => simp [isFrames, and_assoc]
  case h_2 isOther =>
    simp only [Bool.and_false, Bool.false_eq_true, false_iff]
    rintro ⟨-, -, source, branch, rest, isFrames, -⟩
    exact isOther source branch rest isFrames

theorem ofLine?_succ_eq_none {line : List Char} {number : Nat}
    (h : Statement.ofLine? line number = none) : Statement.ofLine? line (number + 1) = none := by
  rw [← Option.map_eq_none_iff, ← statement?_eq] at *
  exact h

namespace Extends

variable {name : String} {first number : Nat} {plain other : Tracker} {line : List Char}

/-- A block that the inserted line opened hides the branch around it. -/
theorem head_of_barred (h : Extends name first plain other) {source branch : Frame}
    {rest : List Frame} (isTop : other.frames = source :: branch :: rest)
    (isFirst : source.range.start.line = first) (isBranch : branch.keyword = .ifThen) :
    (plain.frames.head?.any fun frame => frame.keyword == .ifThen) = true ∧
      source.keyword = .csv := by
  obtain ⟨inner, extra, outer, isExtra, isPlain, isFrames⟩ := h.frames
  have isOld (frame : Frame) : source ≠ frame.shift first := by
    rintro rfl
    exact Range.line_shift_ne first frame.range isFirst
  rw [isFrames] at isTop
  cases inner with
  | cons frame inner => exact absurd (List.cons.inj isTop).1.symm (isOld frame)
  | nil =>
    cases extra with
    | nil =>
      obtain ⟨frame, _, -, isFrame, -⟩ := List.map_eq_cons_iff.mp isTop
      exact absurd isFrame.symm (isOld frame)
    | cons found extra =>
      obtain rfl : extra = [] := by simpa using isExtra.single
      obtain ⟨rfl, isOuter⟩ := List.cons.inj isTop
      obtain ⟨frame, _, rfl, rfl, -⟩ := List.map_eq_cons_iff.mp isOuter
      exact ⟨by simpa [isPlain, Frame.shift] using isBranch, (isExtra.source found List.mem_cons_self).1⟩

theorem step_barred (h : Extends name first plain other) (later : first ≤ number)
    (isBarred : other.bars first line = true) :
    plain.step line number = (plain, []) ∧ ∃ keyword range,
      other.step line (number + 1) = (other, [⟨.misplacedKeyword keyword, range⟩]) := by
  obtain ⟨isOutside, isRole, source, branch, rest, isTop, isFirst, isBranch⟩ :=
    bars_eq_true.mp isBarred
  obtain ⟨body, isBody, -⟩ | ⟨-, isLine, -⟩ | ⟨keyword, range, statement, isPlainOutside, reads, -⟩ :=
    step_cases plain line number
  · rw [← h.body, isOutside] at isBody
    cases isBody
  · simp [role, statement?_eq line number, isLine] at isRole
  · rw [reads.role_eq] at isRole
    obtain ⟨divider, rfl⟩ : ∃ divider, statement = .divider divider := by
      cases statement with
      | divider divider => exact ⟨divider, rfl⟩
      | declaration _ _ extent => cases extent <;> cases isRole
      | _ => cases isRole
    have isHead := h.head_of_barred isTop isFirst isBranch
    rw [step_of_reads isPlainOutside reads, step_of_reads isOutside (reads.succ later)]
    refine ⟨by simp [Tracker.perform, isHead.1], divider, range.shift first, ?_⟩
    simp [Tracker.perform, isTop, isHead.2]

/-- A line that is not barred says the same to both. -/
theorem step (h : Extends name first plain other) (later : first ≤ number)
    (isOther : leading? line ≠ some .endCsv) (isFresh : ¬ name.toList <:+: line)
    (isFree : other.bars first line = false) :
    Agree name first (plain.step line number) (other.step line (number + 1)) := by
  obtain ⟨body, isBody, isStep⟩ | ⟨isOutside, isLine, isStep⟩ |
      ⟨keyword, range, statement, isOutside, reads, isStep⟩ := step_cases plain line number
  · have isOtherStep : other.step line (number + 1) = other.readBody body line (number + 1) := by
      simp [Tracker.step, read?, h.body, isBody]
    rw [isStep, isOtherStep]
    exact h.readBody later isOther body
  · have isOtherStep : other.step line (number + 1) = (other, []) := by
      simp [Tracker.step, read?, h.body, isOutside, ofLine?_succ_eq_none isLine]
    rw [isStep, isOtherStep]
    exact ⟨h, rfl⟩
  · rw [isStep, step_of_reads (h.body.trans isOutside) (reads.succ later)]
    refine h.perform ?_ ?_ ?_ range
    · rintro mentioned isMentioned rfl
      exact isFresh (reads.infix_of_mentioned? isMentioned)
    · rw [← reads.role_eq, ne_eq, role_eq_closes (rfl : Keyword.endCsv.opener? = _)]
      exact isOther
    · intro isRole source branch rest isFrames isFirst isBranch
      have isBarred : other.bars first line = true := by
        rw [bars_eq_true, reads.role_eq]
        exact ⟨h.body.trans isOutside, isRole, source, branch, rest, isFrames, isFirst, isBranch⟩
      rw [isFree] at isBarred
      cases isBarred

/-- Nothing that the lines say without the inserted one is lost, and nothing is added unless a divider
is barred. -/
theorem findings (h : Extends name first plain other) (later : first ≤ number)
    {lines : List (List Char)} (areOther : ∀ line ∈ lines, leading? line ≠ some .endCsv)
    (areFresh : ∀ line ∈ lines, ¬ name.toList <:+: line) :
    ((plain.findings number lines).map (Finding.shift first)).Sublist
        (other.findings (number + 1) lines) ∧
      (other.findings (number + 1) lines = (plain.findings number lines).map (Finding.shift first) ↔
        other.barsDivider first (number + 1) lines = false) := by
  induction lines generalizing plain other number with
  | nil =>
    rw [Tracker.findings, Tracker.findings, h.finish]
    exact ⟨List.Sublist.refl _, iff_of_true rfl rfl⟩
  | cons line lines ih =>
    have latest : first ≤ number + 1 := Nat.le_succ_of_le later
    rw [List.forall_mem_cons] at areOther areFresh
    simp only [Tracker.findings, barsDivider, List.map_append, Bool.or_eq_false_iff]
    cases isBarred : other.bars first line with
    | true =>
      obtain ⟨isPlain, keyword, range, isOther⟩ := h.step_barred later isBarred
      rw [isPlain, isOther]
      have rest := ih h latest areOther.2 areFresh.2
      have sublist := rest.1.cons ⟨.misplacedKeyword keyword, range⟩
      refine ⟨sublist, iff_of_false ?_ (by simp)⟩
      intro same
      have longer := rest.1.length_le
      have length := congrArg List.length same
      simp only [List.length_append, List.map_nil, List.length_cons, List.length_nil] at length
      omega
    | false =>
      have agree := h.step later areOther.1 areFresh.1 isBarred
      have rest := ih agree.tracker latest areOther.2 areFresh.2
      rw [agree.findings]
      refine ⟨rest.1.append_left _, ?_⟩
      rw [List.append_cancel_left_eq, rest.2, and_iff_right rfl]

end Extends

section Insert

variable {name : String} {before after : List (List Char)} {line : List Char}

theorem map_shift_frames {first : Nat} {frames : List Frame}
    (h : ∀ frame ∈ frames, frame.range.stop.line < first) :
    frames.map (Frame.shift first) = frames := by
  rw [List.map_congr_left (g := id), List.map_id]
  intro frame member
  simp [Frame.shift, Range.shift_of_lt (h frame member)]

theorem map_shift_findings {first : Nat} {findings : List Finding}
    (h : ∀ finding ∈ findings, finding.range.stop.line < first) :
    findings.map (Finding.shift first) = findings := by
  rw [List.map_congr_left (g := id), List.map_id]
  intro finding member
  simp [Finding.shift, Range.shift_of_lt (h finding member)]

theorem places_before (before : List (List Char)) :
    Places (fun range => range.stop.line < before.length) (({} : Tracker).run 0 before) := by
  refine Places.run (by simp) fun line number member => ?_
  have isLess : number < before.length := by simpa using List.snd_lt_add_of_mem_zipIdx member
  refine ⟨?_, fun _ => isLess⟩
  intro token isToken
  simp only [Line.keyword?, Option.ite_none_right_eq_some, Option.some.injEq] at isToken
  obtain ⟨-, rfl⟩ := isToken
  exact isLess

theorem step_source {tracker : Tracker}
    (isSource : statement? line = some (.declaration .csv name .source))
    (isOutside : tracker.body = none) (isNew : name ∉ tracker.names) (number : Nat) :
    ∃ range, range.start.line = number ∧ tracker.step line number =
      ({ tracker with names := insertName name tracker.names }.push
        { keyword := .csv, range, tolerant := true }, []) := by
  rw [statement?_eq line number, Option.map_eq_some_iff] at isSource
  obtain ⟨⟨_, range⟩, isLine, rfl⟩ := isSource
  obtain ⟨keyword, reads⟩ := Statement.ofLine?_eq_some.mp isLine
  obtain ⟨token, isToken, -, isRange⟩ := reads.token
  refine ⟨range, isRange ▸ Statement.line_of_keyword? isToken, ?_⟩
  rw [step_of_reads isOutside reads]
  simp [perform, declare, isNew]

/-- Inserting a line that declares rows elsewhere under a new name, outside of bodies and without a
line that would close its block, loses nothing that is said of the other lines. It adds nothing if and
only if no divider of a branch stands directly in the block that the line leaves open. -/
theorem findings_insert_source
    (isSource : statement? line = some (.declaration .csv name .source))
    (isOutside : (({} : Tracker).run 0 before).1.body = none)
    (areOther : ∀ other ∈ after, leading? other ≠ some .endCsv)
    (areFresh : ∀ other ∈ before ++ after, ¬ name.toList <:+: other) :
    let first := before.length
    let plain := (({} : Tracker).findings 0 (before ++ after)).map (Finding.shift first)
    let found := ({} : Tracker).findings 0 (before ++ line :: after)
    let opened := ((({} : Tracker).run 0 before).1.step line first).1
    plain.Sublist found ∧
      (found = plain ↔ opened.barsDivider first (first + 1) after = false) := by
  intro first plain found opened
  let tracker := (({} : Tracker).run 0 before).1
  have places := places_before before
  rw [List.forall_mem_append] at areFresh
  have isNew : name ∉ tracker.names := by
    intro member
    obtain member | ⟨other, isLine, isPart⟩ := mem_names_run member
    · simp at member
    · exact areFresh.1 other isLine isPart
  obtain ⟨range, isFirst, isStep⟩ := step_source isSource isOutside isNew first
  have extended : Extends name first tracker opened := by
    have isOpened : opened = _ := congrArg Prod.fst isStep
    rw [isOpened]
    refine ⟨fun declared isOther => ?_, rfl, [], [{ keyword := .csv, range, tolerant := true }],
      tracker.frames, ⟨by simp, by simpa using isFirst⟩, rfl, ?_⟩
    · simp [push, tracker, mem_insertName, isOther]
    · rw [map_shift_frames places.frames]
      rfl
  have isPlain : plain = (({} : Tracker).run 0 before).2 ++
      (tracker.findings first after).map (Finding.shift first) := by
    have same := map_shift_findings places.findings
    simp only [plain, findings_append, List.map_append, Nat.zero_add]
    rw [same]
  have isFound : found = (({} : Tracker).run 0 before).2 ++
      opened.findings (first + 1) after := by
    have silent : (tracker.step line first).2 = [] := congrArg Prod.snd isStep
    simp only [found, findings_append, findings, Nat.zero_add]
    rw [silent]
    rfl
  have result := extended.findings (Nat.le_refl first) areOther areFresh.2
  rw [isPlain, isFound, List.append_cancel_left_eq]
  exact ⟨result.1.append_left _, result.2⟩

/-- Rows elsewhere in a loop inside a branch: the loop is closed before the branch is divided. -/
theorem findings_insert_source_loop :
    let before := ["if level > 1", "for x in (1, 2)"].map String.toList
    let line := "csv rows from http://host/a.csv".toList
    let after := ["endfor", "else", "endif", "endlist"].map String.toList
    statement? line = some (.declaration .csv "rows" .source) ∧
      (({} : Tracker).run 0 before).1.body = none ∧
      (∀ other ∈ after, leading? other ≠ some .endCsv) ∧
      (∀ other ∈ before ++ after, ¬ "rows".toList <:+: other) ∧
      ({} : Tracker).findings 0 (before ++ line :: after) =
        (({} : Tracker).findings 0 (before ++ after)).map (Finding.shift 2) := by
  intro before line after
  have isSource : statement? line = some (.declaration .csv "rows" .source) := by decide +kernel
  have isOutside : (({} : Tracker).run 0 before).1.body = none := by decide +kernel
  have areOther : ∀ other ∈ after, leading? other ≠ some .endCsv := by decide +kernel
  have areFresh : ∀ other ∈ before ++ after, ¬ "rows".toList <:+: other := by decide +kernel
  have result := findings_insert_source isSource isOutside areOther areFresh
  exact ⟨isSource, isOutside, areOther, areFresh, result.2.mpr (by decide +kernel)⟩

/-- A divider directly after the rows: it is misplaced only because of them. -/
theorem findings_source_divider :
    let before := ["if x".toList]
    let line := "csv rows from http://x/y.csv".toList
    let after := ["else", "endif"].map String.toList
    statement? line = some (.declaration .csv "rows" .source) ∧
      (({} : Tracker).run 0 before).1.body = none ∧
      (∀ other ∈ after, leading? other ≠ some .endCsv) ∧
      (∀ other ∈ before ++ after, ¬ "rows".toList <:+: other) ∧
      ({} : Tracker).findings 0 (before ++ after) = [] ∧
      ((({} : Tracker).findings 0 (before ++ line :: after)).map fun finding =>
        (finding.issue.message, finding.range)) = [("else has no matching if", .span 2 0 4)] := by
  decide +kernel

end Insert

end Tracker

end Block

end ChartLint
