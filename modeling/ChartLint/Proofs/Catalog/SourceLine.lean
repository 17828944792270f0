import ChartLint.Catalog.Reading
import ChartLint.Proofs.Comment.Segment
import Mathlib.Data.List.Basic

/-!
Line numbers of catalog sources. A character outside comments keeps its line but for the line feeds of
the block comments before it, and so do the places that errors name.
-/
namespace ChartLint

namespace Comment

def Segment.isBlock : Segment → Bool
  | block _ | cutBlock _ => true
  | _ => false

/-- A character of a text outside comments, in its segment. -/
structure Survivor (text : List Char) where
  before : List Segment
  segment : Segment
  after : List Segment
  front : List Char
  char : Char
  back : List Char
  reading : Reading (before ++ segment :: after) text
  isOutside : segment.isComment = false
  isText : segment.text = front ++ char :: back

theorem Reading.feed_notMem {segments : List Segment} {text content : List Char}
    (reading : Reading segments text) (member : .line content ∈ segments) : '\n' ∉ content := by
  induction reading with
  | nil => simp at member
  | literal _ _ ih => exact ih (by simpa using member)
  | cutLiteral => simp at member
  | plain _ _ _ ih => exact ih (by simpa using member)
  | line noFeed _ _ ih =>
    obtain isFirst | member := List.mem_cons.mp member
    · obtain rfl := Segment.line.inj isFirst
      exact noFeed
    · exact ih member
  | block _ _ ih => exact ih (by simpa using member)
  | cutBlock => simp at member

/-- What is outside comments belongs to a segment that is no comment. -/
theorem exists_segment {segments : List Segment} {result rest : List Char} {c : Char}
    (h : written (outside segments) = result ++ c :: rest) :
    ∃ before segment after front back, segments = before ++ segment :: after ∧
      segment.isComment = false ∧ segment.text = front ++ c :: back ∧
      written (outside before) ++ front = result := by
  induction segments generalizing result with
  | nil => simp [outside] at h
  | cons first segments ih =>
    have later {middle : List Char} (isLater : written (outside segments) = middle ++ c :: rest) :
        ∃ before segment after front back, first :: segments = before ++ segment :: after ∧
          segment.isComment = false ∧ segment.text = front ++ c :: back ∧
          written (outside before) ++ front = written (outside [first]) ++ middle := by
      obtain ⟨before, segment, after, front, back, rfl, isOutside, isText, rfl⟩ := ih isLater
      refine ⟨first :: before, segment, after, front, back, rfl, isOutside, isText, ?_⟩
      have isSplit : outside (first :: before) = outside [first] ++ outside before :=
        List.filter_append [first] before
      rw [isSplit, written_append, List.append_assoc]
    cases isComment : first.isComment with
    | true =>
      have isDropped : outside (first :: segments) = outside segments := by simp [outside, isComment]
      simpa [outside, isComment] using later (isDropped ▸ h)
    | false =>
      have isKept : outside (first :: segments) = first :: outside segments := by
        simp [outside, isComment]
      rw [isKept, written_cons, List.append_eq_append_iff] at h
      obtain ⟨middle, rfl, isLater⟩ | ⟨back, isText, isRest⟩ := h
      · simpa [outside, isComment] using later isLater
      · cases back with
        | nil => simpa [outside, isComment, isText] using @later [] isRest.symm
        | cons d back =>
          obtain ⟨rfl, -⟩ := List.cons.inj isRest
          exact ⟨[], first, segments, result, back, rfl, isComment, isText, rfl⟩

namespace Survivor

variable {text : List Char} (survivor : Survivor text)

/-- What stands before the character in the text. -/
def source : List Char := written survivor.before ++ survivor.front

/-- What stands before the character in the text without comments. -/
def result : List Char := written (outside survivor.before) ++ survivor.front

/-- Number of line feeds in the comments before the character. -/
def lost : Nat := (written (comments survivor.before)).count '\n'

theorem text_eq : text = survivor.source ++
    survivor.char :: (survivor.back ++ written survivor.after) := by
  apply survivor.reading.text_eq.trans
  simp [source, survivor.isText]

theorem strip_eq : strip text = survivor.result ++
    survivor.char :: (survivor.back ++ written (outside survivor.after)) := by
  apply survivor.reading.strip_eq.trans
  simp [result, outside, survivor.isOutside, survivor.isText]

theorem count_source : survivor.source.count '\n' = survivor.result.count '\n' + survivor.lost := by
  have isCount := (written_perm survivor.before).count_eq '\n'
  simp only [source, result, lost, List.count_append] at isCount ⊢
  omega

/-- Line comments have no line feeds, so only block comments move what stands behind them. -/
theorem lost_eq_zero_iff : survivor.lost = 0 ↔
    ∀ segment ∈ survivor.before, segment.isBlock = true → '\n' ∉ segment.text := by
  rw [lost, List.count_eq_zero]
  constructor
  · intro noFeed segment member isBlock isFeed
    have isComment : segment.isComment = true := by
      cases segment <;> first | rfl | cases isBlock
    exact noFeed (List.mem_flatMap.mpr ⟨segment, List.mem_filter.mpr ⟨member, isComment⟩, isFeed⟩)
  · intro noFeed isFeed
    obtain ⟨segment, isListed, isFeed⟩ := List.mem_flatMap.mp isFeed
    obtain ⟨member, isComment⟩ := List.mem_filter.mp isListed
    cases segment with
    | line content =>
      have isLine := survivor.reading.feed_notMem (List.mem_append_left _ member)
      exact isLine (by simpa [Segment.text] using isFeed)
    | block content => exact noFeed _ member rfl isFeed
    | cutBlock content => exact noFeed _ member rfl isFeed
    | literal content => cases isComment
    | cutLiteral content => cases isComment
    | plain c => cases isComment

/-- The character is the last of which a byte is among the first of the text without comments. -/
def IsLast (offset : Nat) : Prop :=
  Text.byteSize survivor.result < offset ∧
    (offset ≤ Text.byteSize survivor.result + survivor.char.utf8Size ∨
      strip text = survivor.result ++ [survivor.char])

end Survivor

/-- Every character of the text without comments is a character outside comments. -/
theorem exists_survivor {text result rest : List Char} {c : Char}
    (h : strip text = result ++ c :: rest) :
    ∃ survivor : Survivor text, survivor.result = result ∧ survivor.char = c := by
  obtain ⟨segments, reading⟩ := exists_reading text
  rw [reading.strip_eq] at h
  obtain ⟨before, segment, after, front, back, rfl, isOutside, isText, isResult⟩ := exists_segment h
  exact ⟨⟨before, segment, after, front, c, back, reading, isOutside, isText⟩, isResult, rfl⟩

theorem exists_last {text : List Char} (nonempty : text ≠ []) {offset : Nat} (isRead : 0 < offset) :
    ∃ before c rest, text = before ++ c :: rest ∧ Text.byteSize before < offset ∧
      (offset ≤ Text.byteSize before + c.utf8Size ∨ rest = []) := by
  induction text generalizing offset with
  | nil => exact absurd rfl nonempty
  | cons c text ih =>
    by_cases ends : offset ≤ c.utf8Size ∨ text = []
    · exact ⟨[], c, text, rfl, isRead, by simpa using ends⟩
    · rw [not_or] at ends
      have isLeft : 0 < offset - c.utf8Size := by omega
      obtain ⟨before, d, rest, rfl, reached, ends⟩ := ih ends.2 isLeft
      refine ⟨c :: before, d, rest, rfl, ?_, ends.imp_left fun within => ?_⟩
      · rw [Text.byteSize_cons]
        omega
      · rw [Text.byteSize_cons]
        omega

theorem exists_isLast {text : List Char} (nonempty : strip text ≠ []) {offset : Nat}
    (isRead : 0 < offset) : ∃ survivor : Survivor text, survivor.IsLast offset := by
  obtain ⟨result, c, rest, isText, reached, ends⟩ := exists_last nonempty isRead
  obtain ⟨survivor, rfl, rfl⟩ := exists_survivor isText
  refine ⟨survivor, reached, ends.imp_right ?_⟩
  rintro rfl
  exact isText

end Comment

/-! ### Places of errors -/

namespace Json

theorem placeAfter_go_append (before rest : List Char) (left line column : Nat) :
    ∃ reached, placeAfter.go (Text.byteSize before + left) line column (before ++ rest) =
      placeAfter.go left (line + before.count '\n') reached rest := by
  induction before generalizing line column with
  | nil => exact ⟨column, by simp⟩
  | cons c before ih =>
    have isRead : ¬ Text.byteSize (c :: before) + left < c.utf8Size := by
      rw [Text.byteSize_cons]
      omega
    have isLeft : Text.byteSize (c :: before) + left - c.utf8Size = Text.byteSize before + left := by
      rw [Text.byteSize_cons]
      omega
    rw [List.cons_append, placeAfter.go, if_neg isRead]
    split
    case isTrue isFeed =>
      subst isFeed
      obtain ⟨reached, isPlace⟩ := ih (line + 1) 0
      have isCount : line + ('\n' :: before).count '\n' = line + 1 + before.count '\n' := by
        rw [List.count_cons_self]
        omega
      exact ⟨reached, by rw [isCount, ← isPlace, ← isLeft]; rfl⟩
    case isFalse isOther =>
      obtain ⟨reached, isPlace⟩ := ih line (column + c.utf8Size)
      refine ⟨reached, ?_⟩
      rw [List.count_cons_of_ne isOther, ← isPlace, ← isLeft]

theorem placeAfter_go_end {left : Nat} {rest : List Char} (ends : left = 0 ∨ rest = [])
    (line column : Nat) : (placeAfter.go left line column rest).1 = line := by
  cases rest with
  | nil => rfl
  | cons c rest =>
    obtain rfl : left = 0 := by simpa using ends
    rw [placeAfter.go, if_pos c.utf8Size_pos]

/-- The line that is reached with the last character of which a byte is read. -/
theorem placeAfter_fst {before rest : List Char} {c : Char} {offset : Nat}
    (reached : Text.byteSize before < offset)
    (ends : offset ≤ Text.byteSize before + c.utf8Size ∨ rest = []) :
    (placeAfter offset (before ++ c :: rest)).1 = 1 + (before ++ [c]).count '\n' := by
  obtain ⟨left, rfl⟩ := Nat.exists_eq_add_of_lt reached
  obtain ⟨column, isPlace⟩ := placeAfter_go_append before (c :: rest) (left + 1) 1 0
  rw [placeAfter, Nat.add_assoc, isPlace, List.count_append, ← Nat.add_assoc, placeAfter.go]
  have isEnd : left + 1 - c.utf8Size = 0 ∨ rest = [] := ends.imp_left (by omega)
  split
  case isTrue isPart =>
    -- A line feed is one byte, so it is read as a whole.
    have isOther : c ≠ '\n' := by
      rintro rfl
      have isByte : '\n'.utf8Size = 1 := rfl
      omega
    simp [isOther]
  case isFalse =>
    split
    case isTrue isFeed =>
      subst isFeed
      rw [List.count_singleton_self]
      exact placeAfter_go_end isEnd _ _
    case isFalse isOther =>
      rw [placeAfter_go_end isEnd, List.count_singleton]
      simp [isOther]

end Json

namespace Catalog

/-- The problem without its place. -/
def Problem.text : Problem → String
  | malformed fault => fault.kind.text
  | unfit mismatch _ => mismatch.message

/-- Number of bytes read when the problem is met. -/
def Problem.offset : Problem → Nat
  | malformed fault => fault.offset
  | unfit _ offset => offset

theorem Problem.message_eq (problem : Problem) (text : List Char) :
    let place := Json.placeAfter problem.offset text
    problem.message text = s!"{problem.text} at line {place.1} column {place.2}" := by
  cases problem <;> rfl

/-- No failure is a problem of the text. -/
def TextFree {α : Type} (result : Except Error α) : Prop :=
  ∀ problem text, result ≠ .error (.invalidJson problem text)

namespace TextFree

variable {α β σ : Type}

theorem ok (a : α) : TextFree (.ok a : Except Error α) := by
  rintro _ _ ⟨⟩

theorem bind {result : Except Error α} {next : α → Except Error β} (first : TextFree result)
    (then_ : ∀ a, TextFree (next a)) : TextFree (result >>= next) := by
  cases result with
  | error e => exact fun problem text h => first problem text (by cases h; rfl)
  | ok a => exact then_ a

theorem mapM {f : α → Except Error β} (each : ∀ a, TextFree (f a)) (list : List α) :
    TextFree (list.mapM f) := by
  induction list with
  | nil => exact ok []
  | cons a rest ih =>
    rw [List.mapM_cons]
    exact bind (each a) fun _ => bind ih fun _ => ok _

theorem foldlM {f : σ → α → Except Error σ} (each : ∀ s a, TextFree (f s a)) (list : List α) (s : σ) :
    TextFree (list.foldlM f s) := by
  induction list generalizing s with
  | nil => exact ok s
  | cons a rest ih => exact bind (each s a) ih

theorem knownSection (depths : Table Nat) (reference : Reference) (name : String) :
    TextFree (knownSection depths reference name) := by
  unfold Catalog.knownSection
  dsimp only
  split
  · exact ok _
  · rintro _ _ ⟨⟩

theorem buildPattern (setting : String) (pattern hint : Option String) :
    TextFree (buildPattern setting pattern hint) := by
  unfold Catalog.buildPattern
  split
  · exact ok _
  · split
    · exact ok _
    · rintro _ _ ⟨⟩
  · rintro _ _ ⟨⟩

theorem buildOverride (setting : String) (source : OverrideSource) :
    TextFree (buildOverride setting source) := by
  unfold Catalog.buildOverride
  split
  · exact ok _
  · rintro _ _ ⟨⟩

theorem buildSetting (depths : Table Nat) (source : SettingSource) :
    TextFree (buildSetting depths source) := by
  unfold Catalog.buildSetting
  dsimp only
  split
  · rintro _ _ ⟨⟩
  · split
    · rintro _ _ ⟨⟩
    · refine bind (buildPattern _ _ _) fun pattern => ?_
      refine bind (mapM (knownSection depths .settings) _) fun sections => ?_
      exact bind (mapM (buildOverride source.displayName) _) fun overrides => ok _

theorem addSetting (depths : Table Nat) (settings : Table Descriptor) (source : SettingSource) :
    TextFree (addSetting depths settings source) := by
  refine bind (buildSetting depths source) fun setting => ?_
  split
  · rintro _ _ ⟨⟩
  · exact ok _

theorem buildTable {entry : String → α → Except Error (String × β)}
    (each : ∀ key value, TextFree (entry key value)) (source : Table α) :
    TextFree (buildTable entry source) :=
  bind (mapM (fun pair => each pair.1 pair.2) source) fun _ => ok _

/-- A source that is read has no problem of its text. -/
theorem ofSource (source : Source) : TextFree (ofSource source) := by
  have known (reference : Reference) := knownSection
    (Table.ofList (source.sectionDepth.map fun entry => (Text.lower entry.1, entry.2))) reference
  unfold Catalog.ofSource
  refine bind (foldlM (addSetting _) _ _) fun settings => ?_
  refine bind (mapM (known .inheritableSections) _) fun inheritable => ?_
  refine bind (buildTable (fun child parents => ?_) _) fun parents => ?_
  · exact bind (known .parentSections child) fun _ =>
      bind (mapM (known .parentSections) _) fun _ => ok _
  refine bind (buildTable (fun name requirements => ?_) _) fun required => ?_
  · exact bind (known .requiredSectionSettings name) fun _ =>
      bind (mapM (mapM (known .requiredSectionSettings)) _) fun _ => ok _
  refine bind (buildTable (fun type alternatives => ?_) _) fun widgetRequirements => ?_
  · exact bind (mapM (mapM (known .widgetRequirementsByType)) _) fun _ => ok _
  refine bind (buildTable (fun deprecated canonical => ?_) _) fun aliases => ?_
  · exact bind (known .sectionAliases canonical) fun _ => ok _
  exact bind (mapM (known .freeFormSections) _) fun freeForm => ok _

end TextFree

theorem text_eq_strip {source : String} {problem : Problem} {text : List Char}
    (h : read source = .error (.invalidJson problem text)) : text = Comment.strip source.toList := by
  unfold read at h
  dsimp only at h
  split at h
  · cases h
    rfl
  · exact absurd h (TextFree.ofSource _ problem text)

/-- The line of an error is short of that in the source by the line feeds of the block comments before
the last character that was read. -/
theorem line_of_isLast {source : String} {problem : Problem} {text : List Char}
    (h : read source = .error (.invalidJson problem text)) {survivor : Comment.Survivor source.toList}
    (isLast : survivor.IsLast problem.offset) :
    (Json.placeAfter problem.offset text).1 + survivor.lost =
      1 + (survivor.source ++ [survivor.char]).count '\n' := by
  obtain ⟨reached, ends⟩ := isLast
  rw [survivor.strip_eq, List.append_cancel_left_eq, List.cons.injEq] at ends
  have isLine := Json.placeAfter_fst reached (ends.imp_right And.right)
  rw [← survivor.strip_eq, ← text_eq_strip h] at isLine
  rw [isLine, List.count_append, List.count_append, survivor.count_source]
  omega

/-- What stripping does to the lines of a source, and to the lines that errors name. -/
theorem read_lines (source : String) :
    (∀ survivor : Comment.Survivor source.toList,
      survivor.source.count '\n' = survivor.result.count '\n' + survivor.lost ∧
      (survivor.source.count '\n' = survivor.result.count '\n' ↔
        ∀ segment ∈ survivor.before, segment.isBlock = true → '\n' ∉ segment.text)) ∧
    (∀ result c rest, Comment.strip source.toList = result ++ c :: rest →
      ∃ survivor : Comment.Survivor source.toList, survivor.result = result ∧ survivor.char = c) ∧
    ∀ problem text, read source = .error (.invalidJson problem text) →
      ∃ line column : Nat, problem.message text = s!"{problem.text} at line {line} column {column}" ∧
        (text ≠ [] → 0 < problem.offset →
          ∃ survivor : Comment.Survivor source.toList, survivor.IsLast problem.offset) ∧
        ∀ survivor : Comment.Survivor source.toList, survivor.IsLast problem.offset →
          line + survivor.lost = 1 + (survivor.source ++ [survivor.char]).count '\n' := by
  refine ⟨fun survivor => ⟨survivor.count_source, ?_⟩, fun _ _ _ => Comment.exists_survivor, ?_⟩
  · rw [← survivor.lost_eq_zero_iff, survivor.count_source]
    exact Nat.add_eq_left
  · intro problem text h
    refine ⟨_, _, problem.message_eq text, fun nonempty isRead => ?_, fun _ => line_of_isLast h⟩
    exact Comment.exists_isLast (text_eq_strip h ▸ nonempty) isRead

/-- A source with a comment of two lines before its first character. -/
def spread : String := "/*\n*/x"

def spreadSurvivor : Comment.Survivor spread.toList where
  before := [.block ['\n']]
  segment := .plain 'x'
  after := []
  front := []
  char := 'x'
  back := []
  reading := .block (by decide) (.plain (by decide) (fun isSlash => absurd isSlash (by decide)) .nil)
  isOutside := rfl
  isText := rfl

theorem read_spread :
    read spread = .error (.invalidJson (.malformed ⟨.expectedValue, 1⟩) ['x']) := by
  have isStripped : Comment.strip spread.toList = ['x'] := by decide
  have isRead : Json.read ['x'] = ⟨.broken ⟨.expectedValue, 1⟩, none⟩ := by
    rw [Json.read]
    have areTokens : Json.tokens ['x'] = [⟨0, 1, 'x', .error ⟨.expectedValue, 1⟩⟩] := rfl
    rw [areTokens, Json.Draft.build, Json.Draft.buildValue]
    rfl
  unfold read readSource
  dsimp only
  rw [isStripped, isRead]
  rfl

theorem read_lines_spread :
    read spread = .error (.invalidJson (.malformed ⟨.expectedValue, 1⟩) ['x']) ∧
      spreadSurvivor.IsLast 1 ∧ ∃ line column : Nat,
        Problem.message ['x'] (.malformed ⟨.expectedValue, 1⟩) =
          s!"expected value at line {line} column {column}" ∧
        line + 1 = 1 + (spreadSurvivor.source ++ ['x']).count '\n' := by
  have isLast : spreadSurvivor.IsLast 1 := ⟨by decide, .inl (by decide)⟩
  obtain ⟨line, column, isMessage, -, isLine⟩ := (read_lines spread).2.2 _ _ read_spread
  exact ⟨read_spread, isLast, line, column, isMessage, isLine spreadSurvivor isLast⟩

/-- The only character outside comments stands on the second line, and its error on the first. -/
theorem lines_spread :
    spreadSurvivor.source.count '\n' = 1 ∧ spreadSurvivor.result.count '\n' = 0 ∧
      ∃ problem text, read spread = .error (.invalidJson problem text) ∧
        problem.message text = "expected value at line 1 column 1" :=
  ⟨by decide, by decide, _, _, read_spread, by decide⟩

end Catalog

end ChartLint
