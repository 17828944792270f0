import ChartLint.Proofs.Block.Disposal
import ChartLint.Proofs.Table
import ChartLint.Proofs.Text.Part

/-!
Runs of the tracker over lines. The places that it keeps and reports are those of keywords and rows,
and the names that it declares or looks for are parts of the lines.
-/
namespace ChartLint

namespace Block

section Names

variable {text rest : List Char} {name : String}

theorem prefix_of_readName? (h : readName? text = some (name, rest)) :
    name.toList <+: text ∧ rest <:+ text := by
  simp only [readName?, Option.ite_none_left_eq_some, Option.some.injEq, Prod.mk.injEq] at h
  obtain ⟨-, rfl, rfl⟩ := h
  rw [String.toList_ofList]
  exact ⟨List.takeWhile_prefix _, List.dropWhile_suffix _⟩

theorem suffix_of_afterWord? {word : String} (h : afterWord? word text = some rest) :
    rest <:+ text := by
  simp only [afterWord?, Option.bind_eq_bind, Option.bind_eq_some_iff,
    Option.ite_none_right_eq_some, Option.some.injEq] at h
  obtain ⟨after, isAfter, -, rfl⟩ := h
  have isSuffix := (Text.suffix_of_after? isAfter).trans (List.dropWhile_suffix _)
  exact (List.dropWhile_suffix _).trans isSuffix

theorem infix_of_readLoop? {item : String} (h : readLoop? text = some (item, name)) :
    name.toList <:+: text := by
  simp only [readLoop?, Option.bind_eq_bind, Option.bind_eq_some_iff,
    Option.ite_none_right_eq_some, Option.some.injEq, Prod.mk.injEq] at h
  obtain ⟨⟨_, rest⟩, isName, collection, isCollection, -, -, rfl⟩ := h
  rw [String.toList_ofList]
  exact (Text.trim_infix collection).trans
    ((suffix_of_afterWord? isCollection).trans (prefix_of_readName? isName).2).isInfix

theorem prefix_of_readSource? (h : readSource? text = some name) : name.toList <+: text := by
  simp only [readSource?, Option.bind_eq_bind, Option.bind_eq_some_iff,
    Option.ite_none_right_eq_some, Option.some.injEq] at h
  obtain ⟨⟨_, rest⟩, isName, _, -, -, rfl⟩ := h
  exact (prefix_of_readName? isName).1

theorem prefix_of_readDeclaration? {value : List Char}
    (h : readDeclaration? text = some (name, value)) : name.toList <+: text := by
  simp only [readDeclaration?, Option.bind_eq_bind, Option.bind_eq_some_iff] at h
  obtain ⟨⟨found, rest⟩, isName, isValue⟩ := h
  split at isValue
  · simp only [Option.ite_none_left_eq_some, Option.some.injEq, Prod.mk.injEq] at isValue
    exact isValue.2.1 ▸ (prefix_of_readName? isName).1
  · cases isValue

end Names

namespace Statement

/-- The name that a statement declares, or that of the collection it goes through. -/
def mentioned? : Statement → Option String
  | .declaration _ name _ => some name
  | .loop header => header.map Prod.snd
  | _ => none

theorem infix_of_mentioned? {keyword : Keyword} {text : List Char} {statement : Statement}
    {name : String} (h : ofKeyword? keyword text = some statement)
    (isName : statement.mentioned? = some name) : name.toList <:+: text := by
  cases keyword with
  | forEach =>
    obtain rfl := Option.some.inj h
    obtain ⟨⟨item, _⟩, isLoop, rfl⟩ := Option.map_eq_some_iff.mp isName
    exact infix_of_readLoop? isLoop
  | list =>
    obtain rfl := Option.some.inj h
    unfold list at isName
    split at isName
    case h_1 isDeclaration =>
      exact Option.some.inj isName ▸ (prefix_of_readDeclaration? isDeclaration).isInfix
    case h_2 => cases isName
  | var =>
    obtain rfl := Option.some.inj h
    unfold var at isName
    split at isName
    case h_1 isDeclaration =>
      exact Option.some.inj isName ▸ (prefix_of_readDeclaration? isDeclaration).isInfix
    case h_2 => cases isName
  | csv =>
    obtain rfl := Option.some.inj h
    unfold csv at isName
    split at isName
    case h_1 isSource => exact Option.some.inj isName ▸ (prefix_of_readSource? isSource).isInfix
    case h_2 =>
      split at isName
      case h_1 isDeclaration =>
        exact Option.some.inj isName ▸ (prefix_of_readDeclaration? isDeclaration).isInfix
      case h_2 => cases isName
  | importFrom =>
    obtain rfl := Option.some.inj h
    unfold importFrom at isName
    dsimp only at isName
    split at isName
    case h_1 isDeclaration =>
      split at isName
      · cases isName
      · exact Option.some.inj isName ▸ (prefix_of_readDeclaration? isDeclaration).isInfix
    case h_2 => cases isName
  | script | sql =>
    simp only [ofKeyword?, Option.ite_none_left_eq_some, Option.some.injEq] at h
    obtain ⟨-, rfl⟩ := h
    cases isName
  | _ =>
    obtain rfl := Option.some.inj h
    cases isName

theorem Reads.infix_of_mentioned? {line : List Char} {number : Nat} {keyword : Keyword}
    {range : Range} {statement : Statement} {name : String}
    (reads : Reads line number keyword range statement)
    (isName : statement.mentioned? = some name) : name.toList <:+: line := by
  have isPart := Statement.infix_of_mentioned? reads.statement isName
  refine (isPart.trans (Text.trim_infix _)).trans ?_
  exact ((List.dropWhile_suffix _).trans (List.dropWhile_suffix _)).isInfix

end Statement

namespace Tracker

/-- The tracker after lines from a number on, and what they say. -/
def run (tracker : Tracker) (number : Nat) : List (List Char) → Tracker × List Finding
  | [] => (tracker, [])
  | line :: rest =>
    let after := (tracker.step line number).1.run (number + 1) rest
    (after.1, (tracker.step line number).2 ++ after.2)

theorem findings_append (tracker : Tracker) (number : Nat) (lines others : List (List Char)) :
    tracker.findings number (lines ++ others) =
      (tracker.run number lines).2 ++
        (tracker.run number lines).1.findings (number + lines.length) others := by
  induction lines generalizing tracker number with
  | nil => rfl
  | cons line lines ih =>
    simp only [List.cons_append, findings, run, ih, List.length_cons, List.append_assoc,
      Nat.add_assoc, Nat.add_comm 1]

theorem names_close (tracker : Tracker) (closer opener : Keyword) (range : Range) :
    (tracker.close closer opener range).1.names = tracker.names := by
  obtain ⟨-, isClose⟩ | ⟨_, _, _, -, -, -, isClose⟩ := close_cases tracker closer opener range
  · rw [isClose]
  · rw [isClose]

theorem names_openBody (tracker : Tracker) (keyword : Keyword) (range : Range) (kind : Body.Kind) :
    (tracker.openBody keyword range kind).names = tracker.names := by
  unfold openBody
  split <;> rfl

theorem mem_names_perform {tracker : Tracker} {range : Range} {statement : Statement} {name : String}
    (h : name ∈ (tracker.perform range statement).1.names) :
    name ∈ tracker.names ∨ statement.mentioned? = some name := by
  cases statement with
  | body keyword => exact .inl (names_openBody tracker keyword range .text ▸ h)
  | loop header =>
    rw [perform, loop_fst] at h
    exact .inl h
  | declaration keyword declared extent =>
    have isName : name ∈ insertName declared tracker.names := by
      cases extent with
      | body kind =>
        rw [perform, names_openBody] at h
        exact h
      | _ => exact h
    rcases mem_insertName.mp isName with rfl | member
    · exact .inr rfl
    · exact .inl member
  | closing closer opener => exact .inl (names_close tracker closer opener range ▸ h)
  | _ => exact .inl h

theorem names_readBody (tracker : Tracker) (body : Body) (line : List Char) (number : Nat) :
    (tracker.readBody body line number).1.names = tracker.names := by
  unfold readBody
  split
  · exact names_close ..
  · rfl

theorem mem_names_step {tracker : Tracker} {line : List Char} {number : Nat} {name : String}
    (h : name ∈ (tracker.step line number).1.names) :
    name ∈ tracker.names ∨ name.toList <:+: line := by
  obtain ⟨body, -, isStep⟩ | ⟨-, -, isStep⟩ | ⟨keyword, range, statement, -, reads, isStep⟩ :=
    step_cases tracker line number
  · rw [isStep, names_readBody] at h
    exact .inl h
  · rw [isStep] at h
    exact .inl h
  · rw [isStep] at h
    exact (mem_names_perform h).imp_right reads.infix_of_mentioned?

/-- Names that lines declare are parts of the lines. -/
theorem mem_names_run {tracker : Tracker} {number : Nat} {lines : List (List Char)} {name : String}
    (h : name ∈ (tracker.run number lines).1.names) :
    name ∈ tracker.names ∨ ∃ line ∈ lines, name.toList <:+: line := by
  induction lines generalizing tracker number with
  | nil => exact .inl h
  | cons line lines ih =>
    obtain member | ⟨other, isLine, isPart⟩ := ih h
    · refine (mem_names_step member).imp_right fun isPart => ?_
      exact ⟨line, List.mem_cons_self, isPart⟩
    · exact .inr ⟨other, List.mem_cons_of_mem line isLine, isPart⟩

/-- All places that a tracker keeps and reports are of a kind. -/
structure Places (P : Range → Prop) (result : Tracker × List Finding) : Prop where
  frames : ∀ frame ∈ result.1.frames, P frame.range
  findings : ∀ finding ∈ result.2, P finding.range

/-- The places of a line that a tracker may report are of a kind. -/
structure LinePlaces (P : Range → Prop) (line : List Char) (number : Nat) : Prop where
  keyword : ∀ token, Line.keyword? line number = some token → P token.range
  row : Text.trim line ≠ [] → P (rowRange line number)

namespace Places

variable {P : Range → Prop} {tracker : Tracker} {range : Range} {line : List Char} {number : Nat}

theorem unclosed {dropped : List Frame} (frames : ∀ frame ∈ dropped, P frame.range) :
    ∀ finding ∈ unclosed dropped, P finding.range := by
  intro finding member
  simp only [Tracker.unclosed, List.mem_filterMap, List.mem_reverse, Frame.unclosed?,
    Option.ite_none_left_eq_some, Option.map_eq_some_iff] at member
  obtain ⟨frame, isDropped, -, closer, -, rfl⟩ := member
  exact frames frame isDropped

theorem push {findings : List Finding} {frame : Frame}
    (places : Places P (tracker, findings)) (isPlace : P frame.range) :
    Places P (tracker.push frame, findings) :=
  ⟨List.forall_mem_cons.mpr ⟨isPlace, places.frames⟩, places.findings⟩

theorem openBody {findings : List Finding} (places : Places P (tracker, findings))
    (isPlace : P range) (keyword : Keyword) (kind : Body.Kind) :
    Places P (tracker.openBody keyword range kind, findings) := by
  unfold Tracker.openBody
  split
  · exact push ⟨places.frames, places.findings⟩ isPlace
  · exact places

theorem close (tracker : Tracker) (frames : ∀ frame ∈ tracker.frames, P frame.range)
    (isPlace : P range) (closer opener : Keyword) :
    Places P (tracker.close closer opener range) := by
  obtain ⟨-, isClose⟩ | ⟨dropped, target, outer, isFrames, -, -, isClose⟩ :=
    close_cases tracker closer opener range
  · rw [isClose]
    exact ⟨frames, by simpa using isPlace⟩
  · rw [isFrames] at frames
    rw [isClose]
    exact ⟨fun frame member => frames frame (by simp [member]),
      unclosed fun frame member => frames frame (by simp [member])⟩

theorem declare (frames : ∀ frame ∈ tracker.frames, P frame.range) (isPlace : P range)
    (name : String) : Places P (tracker.declare name range) := by
  refine ⟨frames, ?_⟩
  simp only [Tracker.declare]
  split <;> simp [isPlace]

theorem perform (frames : ∀ frame ∈ tracker.frames, P frame.range) (isPlace : P range)
    (statement : Statement) : Places P (tracker.perform range statement) := by
  have silent : Places P (tracker, []) := ⟨frames, by simp⟩
  cases statement with
  | body keyword => exact silent.openBody isPlace keyword .text
  | loop header =>
    cases header with
    | none => exact push ⟨frames, by simpa using isPlace⟩ isPlace
    | some header =>
      refine push ⟨frames, ?_⟩ isPlace
      split <;> simp [isPlace]
  | branch => exact silent.push isPlace
  | divider keyword =>
    refine ⟨frames, ?_⟩
    simp only [Tracker.perform]
    split <;> simp [isPlace]
  | declaration keyword name extent =>
    have declared := declare frames isPlace name
    cases extent with
    | line => exact declared
    | body kind => exact openBody declared isPlace keyword kind
    | source => exact push declared isPlace
  | malformed keyword expected => exact ⟨frames, by simpa [Tracker.perform] using isPlace⟩
  | closing closer opener => exact close tracker frames isPlace closer opener

theorem readRow (isRow : Text.trim line ≠ [] → P (rowRange line number)) (kind : Body.Kind) :
    ∀ finding ∈ (readRow line number kind).2, P finding.range := by
  intro finding member
  obtain ⟨_, _, notBlank, rfl⟩ := eq_of_mem_readRow member
  exact isRow notBlank

theorem readBody (frames : ∀ frame ∈ tracker.frames, P frame.range)
    (places : LinePlaces P line number) (body : Body) :
    Places P (tracker.readBody body line number) := by
  unfold Tracker.readBody
  split
  case h_1 range opener isClosing _ =>
    simp only [closing?, Option.bind_eq_some_iff, Option.ite_none_right_eq_some,
      Option.some.injEq] at isClosing
    obtain ⟨token, isToken, -, rfl⟩ := isClosing
    exact close { tracker with body := none } frames (places.keyword token isToken) body.closer opener
  case h_2 => exact ⟨frames, readRow places.row body.kind⟩

theorem step (frames : ∀ frame ∈ tracker.frames, P frame.range) (places : LinePlaces P line number) :
    Places P (tracker.step line number) := by
  obtain ⟨body, -, isStep⟩ | ⟨-, -, isStep⟩ | ⟨keyword, range, statement, -, reads, isStep⟩ :=
    step_cases tracker line number
  · rw [isStep]
    exact readBody frames places body
  · rw [isStep]
    exact ⟨frames, by simp⟩
  · rw [isStep]
    obtain ⟨token, isToken, -, rfl⟩ := reads.token
    exact perform frames (places.keyword token isToken) statement

theorem run (frames : ∀ frame ∈ tracker.frames, P frame.range) {lines : List (List Char)}
    (places : ∀ line later, (line, later) ∈ lines.zipIdx number → LinePlaces P line later) :
    Places P (tracker.run number lines) := by
  induction lines generalizing tracker number with
  | nil => exact ⟨frames, by simp [Tracker.run]⟩
  | cons line lines ih =>
    have first := step frames (places line number (by simp))
    have rest := ih first.frames fun other later member =>
      places other later (List.mem_cons_of_mem _ member)
    refine ⟨rest.frames, ?_⟩
    rw [Tracker.run, List.forall_mem_append]
    exact ⟨first.findings, rest.findings⟩

end Places

end Tracker

end Block

end ChartLint
