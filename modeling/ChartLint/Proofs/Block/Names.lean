import ChartLint.Proofs.Block.Run

/-!
Which names are known where. A declaration is known from its line on, and the variable of a loop as long
as the loop is open. Lines of bodies declare nothing and look for nothing.
-/
namespace ChartLint.Block

/-- A bare name: word characters and nothing else. -/
def IsIdentifier (name : String) : Prop :=
  name.toList ≠ [] ∧ ∀ c ∈ name.toList, Text.isWord c = true

namespace Statement

/-- The variable of a loop that is well formed. -/
def loopVariable? : Statement → Option String
  | .loop header => header.map Prod.fst
  | _ => none

theorem loopVariable?_eq_some {statement : Statement} {name : String} :
    statement.loopVariable? = some name ↔
      ∃ collection, statement = .loop (some (name, collection)) := by
  cases statement with
  | loop header => cases header <;> simp [loopVariable?, Prod.ext_iff, eq_comm]
  | _ => simp [loopVariable?]

end Statement

namespace Turn

/-- What the line of a turn states, if it is read outside of bodies. -/
def statement? (turn : Turn) : Option Statement :=
  if turn.before.body.isNone then turn.line?.bind fun line => Block.statement? line.1 else none

/-- The line declares a name: outside of bodies, it is a list, a variable, rows or an import, and well
formed. -/
def Declares (turn : Turn) (name : String) : Prop :=
  ∃ keyword extent, turn.statement? = some (.declaration keyword name extent)

/-- A turn opened a block, and none of the turns since then closed or dropped it. -/
structure OpenSince (opener : Turn) (since : List Turn) (frame : Frame) : Prop where
  opened : frame ∈ opener.opened
  stays : ∀ turn ∈ since, turn.closed? ≠ some frame ∧ frame ∉ turn.dropped

/-- A name is the variable of a loop that is open after some turns. -/
def LoopOpen (history : List Turn) (name : String) : Prop :=
  ∃ before opener since frame collection, history = before ++ opener :: since ∧
    opener.statement? = some (.loop (some (name, collection))) ∧ opener.OpenSince since frame

theorem mem_gone {turn : Turn} {frame : Frame} :
    frame ∈ turn.gone ↔ turn.closed? = some frame ∨ frame ∈ turn.dropped := by
  rw [← turn.closed?_append_dropped, List.mem_append, Option.mem_toList]

/-- The turn of a line. -/
def ofLine (tracker : Tracker) (line : List Char) (number : Nat) : Turn :=
  ⟨tracker, some (line, number), (tracker.step line number).1, (tracker.step line number).2⟩

/-- The turn of the end of the document. -/
def ofEnd (tracker : Tracker) : Turn := ⟨tracker, none, tracker.finish.1, tracker.finish.2⟩

end Turn

section Loop

variable {text : List Char} {item collection : String}

/-- A loop goes through something. -/
theorem collection_ne_nil (h : readLoop? text = some (item, collection)) :
    collection.toList ≠ [] := by
  simp only [readLoop?, Option.bind_eq_bind, Option.bind_eq_some_iff,
    Option.ite_none_right_eq_some, Option.some.injEq, Prod.mk.injEq, Bool.and_eq_true] at h
  obtain ⟨_, -, rest, -, ⟨starts, -⟩, -, rfl⟩ := h
  obtain ⟨c, isHead, notBlank⟩ := (Option.any_eq_true ..).mp starts
  obtain ⟨others, rfl⟩ := List.head?_eq_some_iff.mp isHead
  rw [String.toList_ofList, Text.trim, Text.trimStart,
    List.dropWhile_cons_of_neg (by simpa using notBlank), Text.trimEnd]
  split
  · simpa using notBlank
  · exact List.cons_ne_nil _ _

theorem Statement.collection_ne_nil {keyword : Keyword}
    (h : ofKeyword? keyword text = some (.loop (some (item, collection)))) :
    collection.toList ≠ [] := by
  have isFor : keyword = .forEach := by
    have member := role_mem_roles h
    cases keyword <;> simp_all [role, roles]
  subst isFor
  simp only [ofKeyword?, Option.some.injEq, Statement.loop.injEq] at h
  exact Block.collection_ne_nil h

end Loop

namespace Tracker

/-- Nothing is said of names. -/
def NamesNone (findings : List Finding) : Prop :=
  ∀ finding ∈ findings, ∀ name, finding.issue ≠ .unknownVariable name ∧
    finding.issue ≠ .duplicateVariable name

theorem namesNone_nil : NamesNone [] := List.forall_mem_nil _

/-- What is said of keywords alone is said of no name. -/
theorem namesNone_of_unmatched {findings : List Finding}
    (codes : ∀ finding ∈ findings, finding.issue.code = .unmatchedKeyword) : NamesNone findings := by
  intro finding member name
  have isCode := codes finding member
  constructor
  · intro isIssue
    rw [isIssue] at isCode
    cases isCode
  · intro isIssue
    rw [isIssue] at isCode
    cases isCode

theorem namesNone_close (tracker : Tracker) (closer opener : Keyword) (range : Range) :
    NamesNone (tracker.close closer opener range).2 :=
  namesNone_of_unmatched fun _ => code_of_mem_close

theorem namesNone_readRow (line : List Char) (number : Nat) (kind : Body.Kind) :
    NamesNone (readRow line number kind).2 := by
  intro finding member
  obtain ⟨_, _, -, rfl⟩ := eq_of_mem_readRow member
  simp

theorem namesNone_readBody (tracker : Tracker) (body : Body) (line : List Char) (number : Nat) :
    NamesNone (tracker.readBody body line number).2 := by
  unfold readBody
  split
  · apply namesNone_close
  · exact namesNone_readRow line number body.kind

section Perform

variable {tracker : Tracker} {range : Range} {statement : Statement} {name : String}

/-- What a statement says of names: a loop may miss the name of its collection, and a declaration may
find its name taken. -/
theorem perform_names (tracker : Tracker) (range : Range) (statement : Statement) :
    (∃ item collection, statement = .loop (some (item, collection)) ∧
        (tracker.perform range statement).2 =
          if collection.toList.all Text.isWord && !tracker.declares collection then
            [⟨.unknownVariable collection, range⟩] else []) ∨
      (∃ keyword name extent, statement = .declaration keyword name extent ∧
        (tracker.perform range statement).2 =
          if tracker.names.contains name then [⟨.duplicateVariable name, range⟩] else []) ∨
      (∀ item collection, statement ≠ .loop (some (item, collection))) ∧
        (∀ keyword name extent, statement ≠ .declaration keyword name extent) ∧
        NamesNone (tracker.perform range statement).2 := by
  cases statement with
  | loop header =>
    cases header with
    | none => exact .inr (.inr ⟨by simp, by simp, by simp [perform, loop, NamesNone]⟩)
    | some header => exact .inl ⟨header.1, header.2, rfl, rfl⟩
  | declaration keyword name extent =>
    refine .inr (.inl ⟨keyword, name, extent, rfl, ?_⟩)
    cases extent <;> rfl
  | closing closer opener =>
    exact .inr (.inr ⟨by simp, by simp, namesNone_close tracker closer opener range⟩)
  | divider keyword =>
    refine .inr (.inr ⟨by simp, by simp, ?_⟩)
    simp only [perform]
    split <;> simp [NamesNone]
  | body keyword => exact .inr (.inr ⟨by simp, by simp, namesNone_nil⟩)
  | branch => exact .inr (.inr ⟨by simp, by simp, namesNone_nil⟩)
  | malformed keyword expected => exact .inr (.inr ⟨by simp, by simp, by simp [perform, NamesNone]⟩)

theorem unknownVariable_perform :
    (∃ finding ∈ (tracker.perform range statement).2, finding.issue = .unknownVariable name) ↔
      (∃ item, statement = .loop (some (item, name))) ∧ name.toList.all Text.isWord = true ∧
        tracker.declares name = false := by
  obtain ⟨item, collection, rfl, isSaid⟩ | ⟨keyword, declared, extent, rfl, isSaid⟩ |
    ⟨noLoop, -, silent⟩ := perform_names tracker range statement
  · rw [isSaid]
    by_cases same : collection = name
    · subst same
      simp [and_assoc]
    · simp [same]
  · rw [isSaid]
    split <;> simp
  · constructor
    · rintro ⟨finding, member, isIssue⟩
      exact absurd isIssue (silent finding member name).1
    · rintro ⟨⟨item, isLoop⟩, -⟩
      exact absurd isLoop (noLoop item name)

theorem duplicateVariable_perform :
    (∃ finding ∈ (tracker.perform range statement).2, finding.issue = .duplicateVariable name) ↔
      (∃ keyword extent, statement = .declaration keyword name extent) ∧ name ∈ tracker.names := by
  obtain ⟨item, collection, rfl, isSaid⟩ | ⟨keyword, declared, extent, rfl, isSaid⟩ |
    ⟨-, noDeclaration, silent⟩ := perform_names tracker range statement
  · rw [isSaid]
    split <;> simp
  · rw [isSaid]
    by_cases same : declared = name
    · subst same
      simp
    · simp [same]
  · constructor
    · rintro ⟨finding, member, isIssue⟩
      exact absurd isIssue (silent finding member name).2
    · rintro ⟨⟨keyword, extent, isDeclaration⟩, -⟩
      exact absurd isDeclaration (noDeclaration keyword name extent)

theorem names_perform :
    name ∈ (tracker.perform range statement).1.names ↔
      name ∈ tracker.names ∨ ∃ keyword extent, statement = .declaration keyword name extent := by
  cases statement with
  | body keyword => simp [perform, names_openBody]
  | loop header => simp [perform, loop_fst, push]
  | declaration keyword declared extent =>
    have isNames : (tracker.perform range (.declaration keyword declared extent)).1.names =
        insertName declared tracker.names := by
      cases extent with
      | body kind => exact names_openBody ..
      | line => rfl
      | source => rfl
    rw [isNames, mem_insertName, or_comm]
    simp [eq_comm]
  | closing closer opener => simp [perform, names_close]
  | branch => simp [perform, push]
  | divider keyword => simp [perform]
  | malformed keyword expected => simp [perform]

theorem length_frames_close (tracker : Tracker) (closer opener : Keyword) (range : Range) :
    (tracker.close closer opener range).1.frames.length ≤ tracker.frames.length := by
  obtain ⟨-, isClose⟩ | ⟨dropped, target, outer, isFrames, -, -, isClose⟩ :=
    close_cases tracker closer opener range
  · rw [isClose]
  · rw [isClose, isFrames, List.length_append, List.length_cons]
    exact Nat.le_trans (Nat.le_succ _) (Nat.le_add_left _ _)

theorem frames_openBody (tracker : Tracker) (keyword : Keyword) (range : Range) (kind : Body.Kind) :
    (tracker.openBody keyword range kind).frames = { keyword, range } :: tracker.frames ∨
      (tracker.openBody keyword range kind).frames = tracker.frames := by
  unfold openBody
  split
  · exact .inl rfl
  · exact .inr rfl

/-- A statement opens at most one block, and the block has a variable if it is that of a loop. -/
theorem frames_perform (tracker : Tracker) (range : Range) (statement : Statement) :
    (∃ frame, (tracker.perform range statement).1.frames = frame :: tracker.frames ∧
        frame.loopVariable = statement.loopVariable?) ∨
      (tracker.perform range statement).1.frames.length ≤ tracker.frames.length := by
  cases statement with
  | body keyword =>
    obtain opened | same := frames_openBody tracker keyword range .text
    · exact .inl ⟨_, opened, rfl⟩
    · exact .inr (Nat.le_of_eq (congrArg List.length same))
  | loop header =>
    rw [perform, loop_fst]
    exact .inl ⟨_, rfl, rfl⟩
  | branch => exact .inl ⟨_, rfl, rfl⟩
  | declaration keyword name extent =>
    cases extent with
    | line => exact .inr (Nat.le_refl _)
    | source => exact .inl ⟨_, rfl, rfl⟩
    | body kind =>
      obtain opened | same := frames_openBody (tracker.declare name range).1 keyword range kind
      · exact .inl ⟨_, opened, rfl⟩
      · exact .inr (Nat.le_of_eq (congrArg List.length same))
  | closing closer opener => exact .inr (length_frames_close tracker closer opener range)
  | divider keyword => exact .inr (Nat.le_refl _)
  | malformed keyword expected => exact .inr (Nat.le_refl _)

theorem length_frames_readBody (tracker : Tracker) (body : Body) (line : List Char) (number : Nat) :
    (tracker.readBody body line number).1.frames.length ≤ tracker.frames.length := by
  unfold readBody
  split
  · exact length_frames_close { tracker with body := none } _ _ _
  · exact Nat.le_refl _

end Perform

end Tracker

namespace Turn

variable {turn : Turn} {frame : Frame} {name : String}

theorem opened_of_cons (isFrames : turn.after.frames = frame :: turn.before.frames) :
    turn.opened = [frame] := by
  simp [opened, isFrames]

theorem opened_of_le (fewer : turn.after.frames.length ≤ turn.before.frames.length) :
    turn.opened = [] := by
  simp [opened, Nat.sub_eq_zero_of_le fewer]

variable (tracker : Tracker) (line : List Char) (number : Nat)

/-- A line states nothing, and then says nothing of names and opens nothing, or its statement is
performed. -/
theorem ofLine_cases :
    ((ofLine tracker line number).statement? = none ∧
        (tracker.step line number).1.names = tracker.names ∧
        Tracker.NamesNone (tracker.step line number).2 ∧ (ofLine tracker line number).opened = []) ∨
      ∃ keyword range statement, (ofLine tracker line number).statement? = some statement ∧
        Statement.ofKeyword? keyword (Line.afterKeyword line) = some statement ∧
        tracker.step line number = tracker.perform range statement := by
  obtain ⟨body, isBody, isStep⟩ | ⟨isOutside, noStatement, isStep⟩ |
    ⟨keyword, range, statement, isOutside, reads, isStep⟩ := Tracker.step_cases tracker line number
  · left
    refine ⟨by simp [statement?, ofLine, isBody], ?_, ?_, opened_of_le ?_⟩
    · rw [isStep, Tracker.names_readBody]
    · rw [isStep]
      exact Tracker.namesNone_readBody tracker body line number
    · rw [ofLine, isStep]
      exact Tracker.length_frames_readBody tracker body line number
  · left
    refine ⟨?_, ?_, ?_, opened_of_le ?_⟩
    · simp [statement?, ofLine, isOutside, statement?_eq line number, noStatement]
    · rw [isStep]
    · rw [isStep]
      exact Tracker.namesNone_nil
    · rw [ofLine, isStep]
  · right
    refine ⟨keyword, range, statement, ?_, reads.statement, isStep⟩
    have isRead := Statement.ofLine?_eq_some.mpr ⟨keyword, reads⟩
    simp [statement?, ofLine, isOutside, statement?_eq line number, isRead]

/-- The block that a line opens has the variable of its loop. -/
theorem loopVariable_of_opened (member : frame ∈ (ofLine tracker line number).opened) :
    frame.loopVariable =
      (ofLine tracker line number).statement?.bind Statement.loopVariable? := by
  obtain ⟨-, -, -, none⟩ | ⟨keyword, range, statement, isStatement, isRead, isStep⟩ :=
    ofLine_cases tracker line number
  · rw [none] at member
    cases member
  · rw [isStatement, Option.bind_some]
    obtain ⟨new, isFrames, isVariable⟩ | fewer := Tracker.frames_perform tracker range statement
    · rw [opened_of_cons (by rw [ofLine, isStep]; exact isFrames)] at member
      rw [List.mem_singleton.mp member, isVariable]
    · rw [opened_of_le (by rw [ofLine, isStep]; exact fewer)] at member
      cases member

end Turn

open Turn (ofLine ofEnd)

section Frames

variable {turn : Turn} {frame : Frame}

/-- Blocks are opened one below the other. -/
def Descending (frames : List Frame) : Prop :=
  frames.Pairwise fun inner outer => outer.range.start.line < inner.range.start.line

theorem Descending.nodup {frames : List Frame} (h : Descending frames) : frames.Nodup := by
  refine h.imp ?_
  rintro frame _ less rfl
  exact Nat.lt_irrefl _ less

/-- With blocks that all differ, those open after a turn are those it opened and those it left open. -/
theorem Turn.mem_after (accounted : turn.Accounted)
    (distinct : (turn.opened ++ turn.before.frames).Nodup) :
    frame ∈ turn.after.frames ↔
      frame ∈ turn.opened ∨ frame ∈ turn.before.frames ∧ frame ∉ turn.gone := by
  have whole : frame ∈ turn.gone ∨ frame ∈ turn.after.frames ↔
      frame ∈ turn.opened ∨ frame ∈ turn.before.frames := by
    rw [← List.mem_reverse, ← List.mem_append, accounted.frames, List.mem_append]
  have apart : frame ∈ turn.gone → frame ∉ turn.after.frames := by
    rw [← accounted.frames] at distinct
    intro isGone isAfter
    exact (List.nodup_append.mp distinct).2.2 frame (List.mem_reverse.mpr isGone) frame isAfter rfl
  have older : frame ∈ turn.gone → frame ∈ turn.before.frames := by
    intro isGone
    rw [gone, List.mem_reverse] at isGone
    exact List.mem_of_mem_take isGone
  have new : frame ∈ turn.opened → frame ∉ turn.before.frames := fun isOpened isBefore =>
    (List.nodup_append.mp distinct).2.2 frame isOpened frame isBefore rfl
  tauto

end Frames

/-- What a tracker knows before a line is what the turns so far tell: the names that were declared and
the blocks that were opened and have not left. -/
structure Recalls (history : List Turn) (number : Nat) (tracker : Tracker) : Prop where
  sound : tracker.Sound
  descending : Descending tracker.frames
  earlier : ∀ frame ∈ tracker.frames, frame.range.start.line < number
  names : ∀ name, name ∈ tracker.names ↔ ∃ turn ∈ history, turn.Declares name
  frames : ∀ frame, frame ∈ tracker.frames ↔
    ∃ before opener since, history = before ++ opener :: since ∧ opener.OpenSince since frame
  loops : ∀ turn ∈ history, ∀ frame ∈ turn.opened,
    frame.loopVariable = turn.statement?.bind Statement.loopVariable?

namespace Recalls

variable {history : List Turn} {number : Nat} {tracker : Tracker}

theorem empty : Recalls [] 0 {} where
  sound := Tracker.sound_empty
  descending := .nil
  earlier := List.forall_mem_nil _
  names := by simp
  frames := by simp
  loops := List.forall_mem_nil _

theorem names_step (line : List Char) (number : Nat) (name : String) :
    name ∈ (tracker.step line number).1.names ↔
      name ∈ tracker.names ∨ (ofLine tracker line number).Declares name := by
  obtain ⟨isNone, same, -, -⟩ | ⟨keyword, range, statement, isStatement, -, isStep⟩ :=
    Turn.ofLine_cases tracker line number
  · simp [same, Turn.Declares, isNone]
  · simp [isStep, Tracker.names_perform, Turn.Declares, isStatement]

/-- Of the blocks that are open after one more turn, the older ones were so before it. -/
theorem openSince_concat {turn : Turn} {frame : Frame} :
    (∃ before opener since, history ++ [turn] = before ++ opener :: since ∧
        opener.OpenSince since frame) ↔
      frame ∈ turn.opened ∨ (∃ before opener since, history = before ++ opener :: since ∧
        opener.OpenSince since frame) ∧ frame ∉ turn.gone := by
  rw [Turn.mem_gone, not_or]
  constructor
  · rintro ⟨before, opener, since, isHistory, isOpen⟩
    rcases List.eq_nil_or_concat' since with rfl | ⟨since, last, rfl⟩
    · obtain ⟨-, isLast⟩ := List.append_inj' isHistory rfl
      obtain rfl := List.singleton_inj.mp isLast
      exact .inl isOpen.opened
    · rw [← List.cons_append, ← List.append_assoc] at isHistory
      obtain ⟨isEarlier, isLast⟩ := List.append_inj' isHistory rfl
      obtain rfl := List.singleton_inj.mp isLast
      refine .inr ⟨⟨before, opener, since, isEarlier, isOpen.opened, fun other member => ?_⟩, ?_⟩
      · exact isOpen.stays other (List.mem_append_left _ member)
      · exact isOpen.stays turn (List.mem_append_right _ (List.mem_singleton_self _))
  · rintro (isOpened | ⟨⟨before, opener, since, rfl, isOpen⟩, stays⟩)
    · exact ⟨history, turn, [], rfl, isOpened, List.forall_mem_nil _⟩
    · refine ⟨before, opener, since ++ [turn], by simp, isOpen.opened, ?_⟩
      exact List.forall_mem_append.mpr ⟨isOpen.stays, List.forall_mem_singleton.mpr stays⟩

theorem step (h : Recalls history number tracker) (line : List Char) :
    Recalls (history ++ [ofLine tracker line number]) (number + 1)
      (tracker.step line number).1 := by
  let turn := ofLine tracker line number
  have effect := Tracker.effect_step h.sound line number
  have accounted : turn.Accounted := Turn.accounted_of_effect h.sound rfl effect
  have here (frame : Frame) (member : frame ∈ turn.opened) : frame.range.start.line = number := by
    obtain ⟨_, isLine⟩ := accounted.line?_of_opened member
    exact (congrArg Prod.snd (Option.some.inj isLine)).symm
  have descending : Descending (turn.opened ++ tracker.frames) := by
    refine List.pairwise_append.mpr ⟨?_, h.descending, fun frame isOpened other member => ?_⟩
    · have single := accounted.single
      cases isOpened : turn.opened with
      | nil => exact .nil
      | cons frame others =>
        obtain rfl : others = [] := by simpa [isOpened] using single
        exact List.pairwise_singleton _ _
    · rw [here frame isOpened]
      exact h.earlier other member
  have isSuffix : turn.after.frames <:+ turn.opened ++ tracker.frames :=
    ⟨turn.gone.reverse, accounted.frames⟩
  refine ⟨h.sound.of_effect effect, descending.sublist isSuffix.sublist, ?_, ?_, ?_, ?_⟩
  · intro frame member
    rcases List.mem_append.mp (isSuffix.subset member) with isOpened | isOlder
    · rw [here frame isOpened]
      exact Nat.lt_succ_self number
    · exact Nat.lt_succ_of_lt (h.earlier frame isOlder)
  · intro name
    rw [names_step, h.names]
    simp [or_and_right, exists_or]
  · intro frame
    rw [openSince_concat, ← h.frames]
    exact Turn.mem_after accounted descending.nodup
  · refine List.forall_mem_append.mpr ⟨h.loops, List.forall_mem_singleton.mpr ?_⟩
    exact fun frame member => Turn.loopVariable_of_opened tracker line number member

/-- What a tracker misses when it looks for a name. -/
theorem declares_eq_false (h : Recalls history number tracker) (name : String) :
    tracker.declares name = false ↔
      (∀ turn ∈ history, ¬ turn.Declares name) ∧ ¬ Turn.LoopOpen history name := by
  have loops : (∃ frame ∈ tracker.frames, frame.loopVariable = some name) ↔
      Turn.LoopOpen history name := by
    constructor
    · rintro ⟨frame, member, isVariable⟩
      obtain ⟨before, opener, since, isHistory, isOpen⟩ := (h.frames frame).mp member
      rw [h.loops opener (by simp [isHistory]) frame isOpen.opened] at isVariable
      obtain ⟨statement, isStatement, isVariable⟩ := Option.bind_eq_some_iff.mp isVariable
      obtain ⟨collection, rfl⟩ := Statement.loopVariable?_eq_some.mp isVariable
      exact ⟨before, opener, since, frame, collection, isHistory, isStatement, isOpen⟩
    · rintro ⟨before, opener, since, frame, collection, isHistory, isStatement, isOpen⟩
      refine ⟨frame, (h.frames frame).mpr ⟨before, opener, since, isHistory, isOpen⟩, ?_⟩
      rw [h.loops opener (by simp [isHistory]) frame isOpen.opened, isStatement]
      rfl
  have undeclared : name ∉ tracker.names ↔ ∀ turn ∈ history, ¬ turn.Declares name := by
    simp [h.names]
  rw [← loops, ← undeclared]
  simp [Tracker.declares]

/-- Before each of the turns of some lines, a tracker knows what the turns before it tell. -/
theorem turns (h : Recalls history number tracker) (lines : List (List Char)) {index : Nat}
    {turn : Turn} (isTurn : (tracker.turns number lines)[index]? = some turn) :
    Recalls (history ++ (tracker.turns number lines).take index) (number + index) turn.before ∧
      ((∃ line, turn = ofLine turn.before line (number + index)) ∨ turn = ofEnd turn.before) := by
  induction lines generalizing history number tracker index with
  | nil =>
    rw [Tracker.turns_nil, List.getElem?_singleton, Option.ite_none_right_eq_some] at isTurn
    obtain ⟨rfl, isEnd⟩ := isTurn
    obtain rfl : ofEnd tracker = turn := Option.some.inj isEnd
    rw [List.take_zero, List.append_nil]
    exact ⟨h, .inr rfl⟩
  | cons line lines ih =>
    cases index with
    | zero =>
      obtain rfl : ofLine tracker line number = turn := Option.some.inj isTurn
      rw [List.take_zero, List.append_nil]
      exact ⟨h, .inl ⟨line, rfl⟩⟩
    | succ index =>
      have later := ih (h.step line) isTurn
      rw [List.append_assoc, Nat.add_assoc, Nat.add_comm 1] at later
      exact later

end Recalls

namespace Turn

variable {turn : Turn} {number : Nat} {name : String}

theorem findings_cases
    (isTurn : (∃ line, turn = ofLine turn.before line number) ∨ turn = ofEnd turn.before) :
    turn.statement? = none ∧ Tracker.NamesNone turn.findings ∨
      ∃ keyword range text statement, turn.statement? = some statement ∧
        Statement.ofKeyword? keyword text = some statement ∧
        turn.findings = (turn.before.perform range statement).2 := by
  rcases isTurn with ⟨line, isLine⟩ | isEnd
  · rw [isLine]
    obtain ⟨isNone, -, silent, -⟩ | ⟨keyword, range, statement, isStatement, isRead, isStep⟩ :=
      ofLine_cases turn.before line number
    · exact .inl ⟨isNone, silent⟩
    · exact .inr ⟨keyword, range, _, statement, isStatement, isRead, congrArg Prod.snd isStep⟩
  · rw [isEnd]
    refine .inl ⟨by simp [statement?, ofEnd], ?_⟩
    exact Tracker.namesNone_of_unmatched fun _ => Tracker.code_of_mem_unclosed

variable (isTurn : (∃ line, turn = ofLine turn.before line number) ∨ turn = ofEnd turn.before)
include isTurn

theorem unknownVariable_iff :
    (∃ finding ∈ turn.findings, finding.issue = .unknownVariable name) ↔
      (∃ item, turn.statement? = some (.loop (some (item, name)))) ∧ IsIdentifier name ∧
        turn.before.declares name = false := by
  obtain ⟨isNone, silent⟩ | ⟨keyword, range, text, statement, isStatement, isRead, isSaid⟩ :=
    findings_cases isTurn
  · simp only [isNone, reduceCtorEq, exists_false, false_and, iff_false]
    rintro ⟨finding, member, isIssue⟩
    exact (silent finding member name).1 isIssue
  · rw [isSaid, Tracker.unknownVariable_perform, isStatement, List.all_eq_true]
    simp only [Option.some.injEq, IsIdentifier]
    refine and_congr_right ?_
    rintro ⟨item, rfl⟩
    rw [and_iff_right (Statement.collection_ne_nil isRead)]

theorem duplicateVariable_iff :
    (∃ finding ∈ turn.findings, finding.issue = .duplicateVariable name) ↔
      turn.Declares name ∧ name ∈ turn.before.names := by
  obtain ⟨isNone, silent⟩ | ⟨keyword, range, text, statement, isStatement, isRead, isSaid⟩ :=
    findings_cases isTurn
  · simp only [Declares, isNone, reduceCtorEq, exists_false, false_and, iff_false]
    rintro ⟨finding, member, isIssue⟩
    exact (silent finding member name).2 isIssue
  · rw [isSaid, Tracker.duplicateVariable_perform, Declares, isStatement]
    simp only [Option.some.injEq]

end Turn

/-- A loop outside of bodies misses the bare name of its collection if no earlier line outside of bodies
declares it and it is not the variable of a loop that is still open, and nothing else misses a name. A
declaration outside of bodies finds its name taken if an earlier one declares it, and nothing else
does. -/
theorem turns_know_names (lines : List (List Char)) {number : Nat} {turn : Turn}
    (isTurn : (({} : Tracker).turns 0 lines)[number]? = some turn) (name : String) :
    let earlier := (({} : Tracker).turns 0 lines).take number
    ((∃ finding ∈ turn.findings, finding.issue = .unknownVariable name) ↔
      (∃ item, turn.statement? = some (.loop (some (item, name)))) ∧ IsIdentifier name ∧
        (∀ other ∈ earlier, ¬ other.Declares name) ∧ ¬ Turn.LoopOpen earlier name) ∧
    ((∃ finding ∈ turn.findings, finding.issue = .duplicateVariable name) ↔
      turn.Declares name ∧ ∃ other ∈ earlier, other.Declares name) := by
  intro earlier
  obtain ⟨recalls, isRead⟩ := Recalls.empty.turns lines isTurn
  rw [List.nil_append] at recalls
  rw [Turn.unknownVariable_iff isRead, Turn.duplicateVariable_iff isRead,
    recalls.declares_eq_false, recalls.names]
  exact ⟨Iff.rfl, Iff.rfl⟩

/-- A script that looks as if it declared a name, and a loop over the name after the loop whose variable
it is was dropped. -/
def droppedLoop : List (List Char) :=
  ["list a = 1", "script", "list x = 1", "endscript", "if q", "for x in a", "for y in x", "endif",
    "for z in x"].map String.toList

theorem turns_know_names_droppedLoop :
    let turns := ({} : Tracker).turns 0 droppedLoop
    ∃ turn, turns[8]? = some turn ∧ turn.findings = [⟨.unknownVariable "x", .span 8 0 3⟩] ∧
      (∀ other ∈ turns.take 8, ¬ other.Declares "x") ∧ ¬ Turn.LoopOpen (turns.take 8) "x" := by
  intro turns
  have said : turns[8]?.map Turn.findings = some [⟨.unknownVariable "x", .span 8 0 3⟩] := rfl
  obtain ⟨turn, isTurn, isSaid⟩ := Option.map_eq_some_iff.mp said
  have unknown : ∃ finding ∈ turn.findings, finding.issue = .unknownVariable "x" := by
    simp [isSaid]
  obtain ⟨-, -, undeclared, closed⟩ := (turns_know_names droppedLoop isTurn "x").1.mp unknown
  exact ⟨turn, isTurn, isSaid, undeclared, closed⟩

end ChartLint.Block
