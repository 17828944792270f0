import ChartLint.Block.Tracker

/-!
What lines do to the open blocks depends on their roles alone. As long as no rows are elsewhere, the
tracker reports an unmatched or misplaced keyword where the roles do not nest, and only there.
-/
namespace ChartLint.Block

inductive Nest where
  | loop
  | branch
  deriving DecidableEq

def Nest.keyword : Nest → Keyword
  | .loop => .forEach
  | .branch => .ifThen

/-- What a line outside of bodies is to the blocks. -/
inductive Role where
  | plain
  | opens (nest : Nest)
  | divides
  /-- Opens a body. -/
  | body (opener : Keyword)
  /-- Declares rows that are elsewhere. -/
  | source
  | closes (opener : Keyword)
  deriving DecidableEq

def Statement.role : Statement → Role
  | .body keyword => .body keyword
  | .loop _ => .opens .loop
  | .branch => .opens .branch
  | .divider _ => .divides
  | .declaration _ _ .line => .plain
  | .declaration keyword _ (.body _) => .body keyword
  | .declaration _ _ .source => .source
  | .malformed .. => .plain
  | .closing _ opener => .closes opener

def roles : Keyword → List Role
  | .importFrom => [.plain]
  | .var => [.plain, .body .var]
  | .list => [.plain, .body .list]
  | .csv => [.plain, .body .csv, .source]
  | .script => [.body .script]
  | .sql => [.body .sql]
  | .forEach => [.opens .loop]
  | .ifThen => [.opens .branch]
  | .elseIf | .otherwise => [.divides]
  | .endVar => [.closes .var]
  | .endCsv => [.closes .csv]
  | .endFor => [.closes .forEach]
  | .endIf => [.closes .ifThen]
  | .endScript => [.closes .script]
  | .endSql => [.closes .sql]
  | .endList => [.closes .list]

namespace Statement

theorem role_list (text : List Char) : (list text).role ∈ roles .list := by
  unfold list
  split
  · dsimp only
    split
    · exact .tail _ (.head _)
    · exact .head _
  · exact .head _

theorem role_var (text : List Char) : (var text).role ∈ roles .var := by
  unfold var
  split
  · dsimp only
    split
    · exact .tail _ (.head _)
    · exact .head _
  · exact .head _

theorem role_csv (text : List Char) : (csv text).role ∈ roles .csv := by
  unfold csv
  split
  · exact .tail _ (.tail _ (.head _))
  · split
    · exact .tail _ (.head _)
    · exact .head _

theorem role_importFrom (text : List Char) : (importFrom text).role ∈ roles .importFrom := by
  unfold importFrom
  dsimp only
  split
  · split <;> exact .head _
  · exact .head _

theorem role_mem_roles {keyword : Keyword} {text : List Char} {statement : Statement}
    (h : ofKeyword? keyword text = some statement) : statement.role ∈ roles keyword := by
  cases keyword with
  | script | sql =>
    simp only [ofKeyword?] at h
    split at h
    · cases h
    · obtain rfl := Option.some.inj h
      exact .head _
  | list => exact Option.some.inj h ▸ role_list text
  | var => exact Option.some.inj h ▸ role_var text
  | csv => exact Option.some.inj h ▸ role_csv text
  | importFrom => exact Option.some.inj h ▸ role_importFrom text
  | _ =>
    obtain rfl := Option.some.inj h
    exact .head _

end Statement

theorem closer?_of_opener? {closer opener : Keyword} (h : closer.opener? = some opener) :
    opener.closer? = some closer := by
  cases closer <;> cases h <;> rfl

theorem exists_closer_of_body_mem {keyword opener : Keyword} (h : .body opener ∈ roles keyword) :
    ∃ closer : Keyword, closer.opener? = some opener := by
  have isCloser : opener.closer?.bind Keyword.opener? = some opener := by
    cases keyword <;> simp_all [roles, Keyword.closer?, Keyword.opener?]
  obtain ⟨closer, -, isOpener⟩ := Option.bind_eq_some_iff.mp isCloser
  exact ⟨closer, isOpener⟩

theorem opener?_of_closes_mem {keyword opener : Keyword} (h : .closes opener ∈ roles keyword) :
    keyword.opener? = some opener := by
  cases keyword <;> simp_all [roles, Keyword.opener?]

def leading? (line : List Char) : Option Keyword :=
  (Line.keyword? line 0).bind Line.KeywordToken.keyword?

theorem leading?_eq (line : List Char) (number : Nat) :
    leading? line = (Line.keyword? line number).bind Line.KeywordToken.keyword? := by
  simp only [leading?, Line.keyword?]
  split <;> rfl

def statement? (line : List Char) : Option Statement :=
  (leading? line).bind fun keyword => Statement.ofKeyword? keyword (Line.afterKeyword line)

theorem statement?_eq (line : List Char) (number : Nat) :
    statement? line = (Statement.ofLine? line number).map Prod.fst := by
  rw [statement?, leading?_eq line number, Statement.ofLine?]
  cases Line.keyword? line number with
  | none => rfl
  | some token =>
    cases isKeyword : token.keyword? with
    | none => simp [isKeyword]
    | some keyword =>
      cases isStatement : Statement.ofKeyword? keyword (Line.afterKeyword line) with
      | none => simp [isKeyword, isStatement]
      | some statement => simp [isKeyword, isStatement]

def role (line : List Char) : Role := ((statement? line).map Statement.role).getD .plain

theorem role_mem_roles {line : List Char} {keyword : Keyword}
    (isLeading : leading? line = some keyword) : role line = .plain ∨ role line ∈ roles keyword := by
  rw [role, statement?, isLeading, Option.bind_some]
  cases isStatement : Statement.ofKeyword? keyword (Line.afterKeyword line) with
  | none => exact .inl rfl
  | some statement => exact .inr (Statement.role_mem_roles isStatement)

/-- A line closes a block if and only if it starts with the block's closing keyword. -/
theorem role_eq_closes {line : List Char} {closer opener : Keyword}
    (isCloser : closer.opener? = some opener) :
    role line = .closes opener ↔ leading? line = some closer := by
  constructor
  · intro isRole
    cases isLeading : leading? line with
    | none => simp [role, statement?, isLeading] at isRole
    | some keyword =>
      have member := role_mem_roles isLeading
      simp only [isRole, reduceCtorEq, false_or] at member
      rw [← closer?_of_opener? (opener?_of_closes_mem member), closer?_of_opener? isCloser]
  · intro isLeading
    have isStatement (text : List Char) :
        Statement.ofKeyword? closer text = some (.closing closer opener) := by
      cases closer <;> simp_all [Keyword.opener?, Statement.ofKeyword?]
    simp [role, statement?, isLeading, isStatement, Statement.role]

/-- The blocks that are open, the innermost first; an open body lies inside all of the others. -/
structure Blocks where
  body : Option Keyword := none
  nests : List Nest := []

namespace Blocks

def next? : Blocks → Role → Option Blocks
  | ⟨some opener, nests⟩, role =>
    some ⟨if role = .closes opener then none else some opener, nests⟩
  | ⟨none, nests⟩, .plain => some ⟨none, nests⟩
  | ⟨none, nests⟩, .opens nest => some ⟨none, nest :: nests⟩
  | ⟨none, .branch :: outer⟩, .divides => some ⟨none, .branch :: outer⟩
  | ⟨none, nests⟩, .body opener => some ⟨some opener, nests⟩
  | ⟨none, nest :: outer⟩, .closes opener =>
    if nest.keyword = opener then some ⟨none, outer⟩ else none
  | ⟨none, _⟩, _ => none

/-- Whether lines fit the open blocks and close them all. -/
def fits : Blocks → List Role → Bool
  | blocks, [] => blocks.body.isNone && blocks.nests.isEmpty
  | blocks, role :: rest =>
    match blocks.next? role with
    | some after => after.fits rest
    | none => false

end Blocks

/-- No keyword lacks its counterpart or stands in the wrong place. -/
def Quiet (findings : List Finding) : Prop :=
  ∀ finding ∈ findings, finding.issue.code ≠ .unmatchedKeyword ∧
    finding.issue.code ≠ .misplacedKeyword

theorem quiet_nil : Quiet [] := by simp [Quiet]

theorem quiet_append {findings others : List Finding} :
    Quiet (findings ++ others) ↔ Quiet findings ∧ Quiet others :=
  List.forall_mem_append

namespace Tracker

/-- Reads a line; what is left to others changes nothing. -/
def step (tracker : Tracker) (line : List Char) (number : Nat) : Tracker × List Finding :=
  (tracker.read? line number).getD (tracker, [])

/-- The findings of lines from a number on and of the end of the document after them. -/
def findings (tracker : Tracker) (number : Nat) : List (List Char) → List Finding
  | [] => tracker.finish.2
  | line :: rest =>
    (tracker.step line number).2 ++ (tracker.step line number).1.findings (number + 1) rest

/-- Whether some line outside of bodies declares rows that are elsewhere. -/
def readsSource (tracker : Tracker) (number : Nat) : List (List Char) → Bool
  | [] => false
  | line :: rest =>
    tracker.body.isNone && role line == .source ||
      (tracker.step line number).1.readsSource (number + 1) rest

section Close

variable {tracker : Tracker} {closer opener : Keyword} {range : Range}

theorem close_innermost {frame : Frame} {outer : List Frame}
    (isFrames : tracker.frames = frame :: outer) (isOpener : frame.keyword = opener) :
    tracker.close closer opener range = ({ tracker with frames := outer }, []) := by
  simp [close, isFrames, isOpener, unclosed]

/-- All that a line of a body can say is that it has another number of fields. -/
theorem eq_of_mem_readRow {line : List Char} {number : Nat} {kind : Body.Kind} {finding : Finding}
    (member : finding ∈ (readRow line number kind).2) :
    ∃ expected found, Text.trim line ≠ [] ∧
      finding = ⟨.csvColumnCount expected found, rowRange line number⟩ := by
  cases kind with
  | text => cases member
  | rows columns =>
    simp only [readRow] at member
    split at member
    case isTrue => cases member
    case isFalse isRow =>
      cases columns with
      | none => cases member
      | some expected =>
        dsimp only at member
        split at member
        · cases member
        · exact ⟨_, _, by simpa using isRow, List.mem_singleton.mp member⟩

theorem not_quiet_unmatched {findings : List Finding} {keyword expected : Keyword}
    (h : ⟨.unmatchedKeyword keyword expected, range⟩ ∈ findings) : ¬ Quiet findings :=
  fun quiet => (quiet _ h).1 rfl

theorem not_quiet_unclosed {dropped : List Frame} {frame : Frame} (isDropped : frame ∈ dropped)
    (strict : frame.tolerant = false) (hasCloser : frame.keyword.closer?.isSome) :
    ¬ Quiet (unclosed dropped) := by
  obtain ⟨expected, isCloser⟩ := Option.isSome_iff_exists.mp hasCloser
  have isReported : frame.unclosed? =
      some ⟨.unmatchedKeyword frame.keyword expected, frame.range⟩ := by
    simp [Frame.unclosed?, strict, isCloser]
  apply not_quiet_unmatched
  rw [unclosed, List.mem_filterMap]
  exact ⟨frame, List.mem_reverse.mpr isDropped, isReported⟩

theorem not_quiet_close (strict : ∀ frame, tracker.frames.head? = some frame →
      frame.keyword ≠ opener ∧ frame.tolerant = false ∧ frame.keyword.closer?.isSome) :
    ¬ Quiet (tracker.close closer opener range).2 := by
  cases isFrames : tracker.frames with
  | nil =>
    apply not_quiet_unmatched
    simp only [close, isFrames]
    exact List.mem_singleton_self _
  | cons frame outer =>
    obtain ⟨isOther, isStrict, hasCloser⟩ := strict frame (by rw [isFrames]; rfl)
    simp only [close, isFrames, List.dropWhile_cons, List.takeWhile_cons, bne_iff_ne, ne_eq,
      isOther, not_false_eq_true, ↓reduceIte]
    split
    · exact not_quiet_unmatched (List.mem_singleton_self _)
    · exact not_quiet_unclosed List.mem_cons_self isStrict hasCloser

end Close

/-- A tracker with some open blocks, all of which have to be closed. -/
structure Holds (tracker : Tracker) (blocks : Blocks) : Prop where
  frames : tracker.frames.map (fun frame => (frame.keyword, frame.tolerant)) =
    (blocks.body.toList ++ blocks.nests.map Nest.keyword).map fun keyword => (keyword, false)
  closer : tracker.body.map Body.closer = blocks.body.bind Keyword.closer?
  opener : ∀ keyword, blocks.body = some keyword →
    ∃ closer : Keyword, closer.opener? = some keyword

theorem holds_empty : Holds {} {} where
  frames := rfl
  closer := rfl
  opener := nofun

/-- What reading a line gives: open blocks without a word about nesting, or the contrary. -/
def Reaches (result : Tracker × List Finding) : Option Blocks → Prop
  | some blocks => result.1.Holds blocks ∧ Quiet result.2
  | none => ¬ Quiet result.2

namespace Holds

variable {tracker : Tracker} {nest : Nest} {nests : List Nest}

theorem push (holds : tracker.Holds ⟨none, nests⟩) {frame : Frame} {nest : Nest}
    (isKeyword : frame.keyword = nest.keyword) (strict : frame.tolerant = false) :
    (tracker.push frame).Holds ⟨none, nest :: nests⟩ where
  frames := by
    have frames := holds.frames
    simp_all [Tracker.push]
  closer := holds.closer
  opener := nofun

theorem openBody (holds : tracker.Holds ⟨none, nests⟩) {opener closer : Keyword}
    (isOpener : closer.opener? = some opener) (range : Range) (kind : Body.Kind) :
    (tracker.openBody opener range kind).Holds ⟨some opener, nests⟩ := by
  have isCloser := closer?_of_opener? isOpener
  have frames := holds.frames
  refine ⟨?_, ?_, ?_⟩
  · simp_all [Tracker.openBody, Tracker.push]
  · simp [Tracker.openBody, Tracker.push, isCloser]
  · rintro _ ⟨⟩
    exact ⟨closer, isOpener⟩

theorem declare {blocks : Blocks} (holds : tracker.Holds blocks) (name : String) (range : Range) :
    (tracker.declare name range).1.Holds blocks :=
  ⟨holds.frames, holds.closer, holds.opener⟩

theorem frames_cons (holds : tracker.Holds ⟨none, nest :: nests⟩) :
    ∃ frame outer, tracker.frames = frame :: outer ∧ frame.keyword = nest.keyword ∧
      frame.tolerant = false ∧ { tracker with frames := outer }.Holds ⟨none, nests⟩ := by
  obtain ⟨frame, outer, isFrames, isFrame, isOuter⟩ := List.map_eq_cons_iff.mp holds.frames
  simp only [Prod.mk.injEq] at isFrame
  exact ⟨frame, outer, isFrames, isFrame.1, isFrame.2, isOuter, holds.closer, nofun⟩

theorem body_eq_none (holds : tracker.Holds ⟨none, nests⟩) : tracker.body = none :=
  Option.map_eq_none_iff.mp holds.closer

theorem divider (holds : tracker.Holds ⟨none, nests⟩) (range : Range) (keyword : Keyword) :
    Reaches (tracker.perform range (.divider keyword)) (Blocks.next? ⟨none, nests⟩ .divides) := by
  have misplaced : ¬ Quiet [⟨.misplacedKeyword keyword, range⟩] :=
    fun quiet => (quiet _ (List.mem_singleton_self _)).2 rfl
  cases nests with
  | nil =>
    have isEmpty : tracker.frames = [] := List.map_eq_nil_iff.mp holds.frames
    simpa [Reaches, Blocks.next?, Tracker.perform, isEmpty] using misplaced
  | cons nest outer =>
    obtain ⟨frame, frames, isFrames, isKeyword, -⟩ := holds.frames_cons
    cases nest with
    | loop =>
      simpa [Reaches, Blocks.next?, Tracker.perform, isFrames, isKeyword, Nest.keyword] using misplaced
    | branch =>
      simp only [Tracker.perform, isFrames, List.head?_cons, Option.any_some, isKeyword]
      exact ⟨holds, quiet_nil⟩

theorem closing (holds : tracker.Holds ⟨none, nests⟩) (range : Range) (closer opener : Keyword) :
    Reaches (tracker.close closer opener range) (Blocks.next? ⟨none, nests⟩ (.closes opener)) := by
  cases nests with
  | nil =>
    apply not_quiet_close
    intro frame isFrame
    have isEmpty : tracker.frames = [] := List.map_eq_nil_iff.mp holds.frames
    simp [isEmpty] at isFrame
  | cons nest outer =>
    obtain ⟨frame, frames, isFrames, isKeyword, strict, inner⟩ := holds.frames_cons
    simp only [Blocks.next?]
    split
    case isTrue isOpener =>
      rw [close_innermost isFrames (isKeyword.trans isOpener)]
      exact ⟨inner, quiet_nil⟩
    case isFalse isOther =>
      apply not_quiet_close
      intro other isHead
      obtain rfl : frame = other := by simpa [isFrames] using isHead
      refine ⟨isKeyword ▸ isOther, strict, ?_⟩
      rw [isKeyword]
      cases nest <;> rfl

theorem loop (holds : tracker.Holds ⟨none, nests⟩) (range : Range)
    (header : Option (String × String)) :
    Reaches (tracker.loop header range) (some ⟨none, .loop :: nests⟩) := by
  unfold Tracker.loop
  split
  · exact ⟨holds.push rfl rfl, by simp [Quiet, Issue.code]⟩
  · refine ⟨holds.push rfl rfl, ?_⟩
    dsimp only
    split <;> simp [Quiet, Issue.code]

theorem quiet_declare (tracker : Tracker) (name : String) (range : Range) :
    Quiet (tracker.declare name range).2 := by
  simp only [Tracker.declare]
  split <;> simp [Quiet, Issue.code]

/-- A statement leads to the blocks that its role leads to, unless rows are elsewhere. -/
theorem perform (holds : tracker.Holds ⟨none, nests⟩) (range : Range) {statement : Statement}
    (hasCloser : ∀ opener, statement.role = .body opener →
      ∃ closer : Keyword, closer.opener? = some opener)
    (isHere : statement.role ≠ .source) :
    Reaches (tracker.perform range statement) (Blocks.next? ⟨none, nests⟩ statement.role) := by
  cases statement with
  | body keyword =>
    obtain ⟨closer, isOpener⟩ := hasCloser keyword rfl
    exact ⟨holds.openBody isOpener range .text, quiet_nil⟩
  | loop header => exact holds.loop range header
  | branch => exact ⟨holds.push rfl rfl, quiet_nil⟩
  | divider keyword => exact holds.divider range keyword
  | declaration keyword name extent =>
    have declared := holds.declare name range
    have quiet := quiet_declare tracker name range
    cases extent with
    | line => exact ⟨declared, quiet⟩
    | body kind =>
      obtain ⟨closer, isOpener⟩ := hasCloser keyword rfl
      exact ⟨declared.openBody isOpener range kind, quiet⟩
    | source => exact absurd rfl isHere
  | malformed keyword expected => exact ⟨holds, by simp [Tracker.perform, Quiet, Issue.code]⟩
  | closing closer opener => exact holds.closing range closer opener

theorem isSome_closing? (body : Body) (line : List Char) (number : Nat) :
    (closing? body line number).isSome ↔ leading? line = some body.closer := by
  rw [leading?_eq line number, closing?]
  cases Line.keyword? line number with
  | none => simp
  | some token =>
    simp only [Option.bind_some]
    split <;> simp_all

theorem quiet_readRow (line : List Char) (number : Nat) (kind : Body.Kind) :
    Quiet (readRow line number kind).2 := by
  intro finding member
  obtain ⟨_, _, -, rfl⟩ := eq_of_mem_readRow member
  simp [Issue.code]

/-- A body takes all lines up to the one that closes it. -/
theorem step_inside {opener : Keyword} (holds : tracker.Holds ⟨some opener, nests⟩)
    (line : List Char) (number : Nat) :
    Reaches (tracker.step line number) (Blocks.next? ⟨some opener, nests⟩ (role line)) := by
  obtain ⟨closer, isOpener⟩ := holds.opener opener rfl
  have isCloser := holds.closer
  rw [Option.bind_some, closer?_of_opener? isOpener] at isCloser
  obtain ⟨body, isBody, rfl⟩ := Option.map_eq_some_iff.mp isCloser
  have isStep : tracker.step line number = tracker.readBody body line number := by
    simp [step, read?, isBody]
  rw [isStep, readBody]
  simp only [Blocks.next?, role_eq_closes isOpener, ← isSome_closing? body line number]
  cases isClosing : closing? body line number with
  | none =>
    have isCloser := (closer?_of_opener? isOpener).symm
    exact ⟨⟨holds.frames, isCloser, holds.opener⟩, quiet_readRow line number body.kind⟩
  | some range =>
    obtain ⟨frame, outer, isFrames, isFrame, isOuter⟩ := List.map_eq_cons_iff.mp holds.frames
    have isKeyword : frame.keyword = opener := congrArg Prod.fst isFrame
    have cleared : { tracker with body := none }.frames = frame :: outer := isFrames
    rw [isOpener]
    dsimp only
    rw [close_innermost cleared isKeyword]
    exact ⟨⟨isOuter, rfl, nofun⟩, quiet_nil⟩

theorem step {blocks : Blocks} (holds : tracker.Holds blocks) (line : List Char) (number : Nat)
    (isHere : ¬ (tracker.body.isNone && role line == .source) = true) :
    Reaches (tracker.step line number) (blocks.next? (role line)) := by
  obtain ⟨body, nests⟩ := blocks
  cases body with
  | some opener => exact holds.step_inside line number
  | none =>
    have isOutside := holds.body_eq_none
    have isStatement := statement?_eq line number
    cases isLine : Statement.ofLine? line number with
    | none =>
      have isPlain : role line = .plain := by simp [role, isStatement, isLine]
      have isStep : tracker.step line number = (tracker, []) := by
        simp [Tracker.step, read?, isOutside, isLine]
      rw [isPlain, isStep]
      exact ⟨holds, quiet_nil⟩
    | some found =>
      obtain ⟨statement, range⟩ := found
      rw [isLine, Option.map_some] at isStatement
      have isRole : role line = statement.role := by simp [role, isStatement]
      have isStep : tracker.step line number = tracker.perform range statement := by
        simp [Tracker.step, read?, isOutside, isLine]
      rw [isStep, isRole]
      refine holds.perform range ?_ (by simpa [isOutside, isRole] using isHere)
      intro opener isBody
      obtain ⟨keyword, -, isStatement⟩ := Option.bind_eq_some_iff.mp isStatement
      exact exists_closer_of_body_mem (isBody ▸ Statement.role_mem_roles isStatement)

theorem quiet_finish {blocks : Blocks} (holds : tracker.Holds blocks) :
    Quiet tracker.finish.2 ↔ (blocks.body.isNone && blocks.nests.isEmpty) = true := by
  change Quiet (unclosed tracker.frames) ↔ _
  obtain ⟨body, nests⟩ := blocks
  cases body with
  | some opener =>
    obtain ⟨frame, outer, isFrames, isFrame, -⟩ := List.map_eq_cons_iff.mp holds.frames
    obtain ⟨isKeyword, strict⟩ := Prod.mk.inj isFrame
    obtain ⟨closer, isOpener⟩ := holds.opener opener rfl
    refine iff_of_false (not_quiet_unclosed (isFrames ▸ List.mem_cons_self) strict ?_) (by simp)
    rw [isKeyword, closer?_of_opener? isOpener]
    rfl
  | none =>
    cases nests with
    | nil =>
      have isEmpty : tracker.frames = [] := List.map_eq_nil_iff.mp holds.frames
      rw [isEmpty]
      exact iff_of_true quiet_nil rfl
    | cons nest nests =>
      obtain ⟨frame, outer, isFrames, isKeyword, strict, -⟩ := holds.frames_cons
      refine iff_of_false (not_quiet_unclosed (isFrames ▸ List.mem_cons_self) strict ?_) (by simp)
      rw [isKeyword]
      cases nest <;> rfl

end Holds

theorem quiet_findings_iff {tracker : Tracker} {blocks : Blocks} (holds : tracker.Holds blocks)
    {number : Nat} {lines : List (List Char)} (isHere : tracker.readsSource number lines = false) :
    Quiet (tracker.findings number lines) ↔ blocks.fits (lines.map role) := by
  induction lines generalizing tracker blocks number with
  | nil => exact holds.quiet_finish
  | cons line lines ih =>
    -- A line that does not fit is reported at once, whatever follows it.
    simp only [readsSource, Bool.or_eq_false_iff] at isHere
    have reached := holds.step line number (by simp [isHere.1])
    simp only [findings, quiet_append, List.map_cons, Blocks.fits]
    cases isNext : blocks.next? (role line) with
    | none =>
      rw [isNext] at reached
      simp only [Bool.false_eq_true, iff_false]
      exact fun h => reached h.1
    | some after =>
      rw [isNext] at reached
      rw [and_iff_right reached.2]
      exact ih reached.1 isHere.2

end Tracker

end ChartLint.Block
