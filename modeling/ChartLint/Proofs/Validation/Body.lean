import ChartLint.Catalog.Builtin
import ChartLint.Proofs.Validation.Rejected

/-!
Bodies of free text. The lines of a script, a query, a variable or a list that goes on are taken by the
tracker and looked at for nothing but the closing keyword. So two documents that differ only in such
lines are validated alike.
-/
namespace ChartLint

namespace Block

/-- Keywords whose bodies are free text. -/
def textKeywords : List Keyword := [.script, .sql, .var, .list]

theorem Statement.kind_of_declaration {keyword other : Keyword} {text : List Char} {name : String}
    {kind : Body.Kind} (h : ofKeyword? keyword text = some (.declaration other name (.body kind)))
    (notRows : other ≠ .csv) : kind = .text := by
  cases keyword <;> simp only [ofKeyword?, list, var, csv, importFrom, Option.some.injEq] at h <;>
    grind

namespace Tracker

/-- The keyword of the innermost block when its body is open and free text. -/
def openText? (tracker : Tracker) : Option Keyword :=
  tracker.body.bind fun _ =>
    (tracker.frames.head?.map Frame.keyword).filter fun keyword => textKeywords.contains keyword

/-- Whether a line is text of an open body: it does not start with the keyword that closes the body. -/
def isText (tracker : Tracker) (line : List Char) : Bool :=
  tracker.openText?.any fun keyword => leading? line != keyword.closer?

/-- An open body is free text, unless it belongs to rows. -/
def TextBodies (tracker : Tracker) : Prop :=
  ∀ body frame outer, tracker.body = some body → tracker.frames = frame :: outer →
    frame.keyword ≠ .csv → body.kind = .text

namespace TextBodies

variable {tracker : Tracker}

theorem of_none (isOutside : tracker.body = none) : TextBodies tracker := by
  intro body frame outer isBody
  cases isOutside.symm.trans isBody

theorem openBody (h : TextBodies tracker) {keyword : Keyword} {kind : Body.Kind}
    (isText : keyword ≠ .csv → kind = .text) (range : Range) :
    TextBodies (tracker.openBody keyword range kind) := by
  unfold Tracker.openBody
  split
  · rintro body frame outer ⟨⟩ ⟨⟩
    exact isText
  · exact h

theorem close (isOutside : tracker.body = none) (closer opener : Keyword) (range : Range) :
    TextBodies (tracker.close closer opener range).1 := by
  apply of_none
  obtain ⟨-, isClose⟩ | ⟨_, _, _, -, -, -, isClose⟩ := close_cases tracker closer opener range
  · rwa [isClose]
  · rwa [isClose]

theorem readBody (h : TextBodies tracker) {body : Body} (isBody : tracker.body = some body)
    (line : List Char) (number : Nat) : TextBodies (tracker.readBody body line number).1 := by
  unfold Tracker.readBody
  split
  · apply close
    rfl
  · rintro _ frame outer ⟨⟩ isFrames notRows
    have isText := h body frame outer isBody isFrames notRows
    dsimp only
    rw [isText]

theorem perform (isOutside : tracker.body = none) {line : List Char} {number : Nat}
    {keyword : Keyword} {range : Range} {statement : Statement}
    (reads : Statement.Reads line number keyword range statement) :
    TextBodies (tracker.perform range statement).1 := by
  cases statement with
  | body opener => exact (of_none isOutside).openBody (fun _ => rfl) range
  | loop header =>
    rw [Tracker.perform, loop_fst]
    exact of_none isOutside
  | declaration declared name extent =>
    cases extent with
    | body kind =>
      have noBody : TextBodies (tracker.declare name range).1 := of_none isOutside
      exact noBody.openBody (Statement.kind_of_declaration reads.statement) range
    | line => exact of_none isOutside
    | source => exact of_none isOutside
  | closing closer opener => exact close isOutside closer opener range
  | branch => exact of_none isOutside
  | divider divider => exact of_none isOutside
  | malformed malformed expected => exact of_none isOutside

theorem step (h : TextBodies tracker) (line : List Char) (number : Nat) :
    TextBodies (tracker.step line number).1 := by
  obtain ⟨body, isBody, isStep⟩ | ⟨-, -, isStep⟩ | ⟨keyword, range, statement, isOutside, reads, isStep⟩ :=
    step_cases tracker line number
  · rw [isStep]
    exact h.readBody isBody line number
  · rwa [isStep]
  · rw [isStep]
    exact perform isOutside reads

end TextBodies

theorem textBodies_run (lines : List (List Char)) : TextBodies (({} : Tracker).run 0 lines).1 := by
  induction lines using List.reverseRecOn with
  | nil => exact .of_none rfl
  | append_singleton lines line ih =>
    rw [run_concat]
    exact ih.step line _

theorem sound_run (lines : List (List Char)) : Sound (({} : Tracker).run 0 lines).1 := by
  induction lines using List.reverseRecOn with
  | nil => exact sound_empty
  | append_singleton lines line ih =>
    rw [run_concat]
    exact ih.of_effect (effect_step ih line _)

theorem isText_eq_true {tracker : Tracker} {line : List Char} :
    tracker.isText line = true ↔ ∃ body frame outer, tracker.body = some body ∧
      tracker.frames = frame :: outer ∧ frame.keyword ∈ textKeywords ∧
      leading? line ≠ frame.keyword.closer? := by
  obtain ⟨frames, body, names⟩ := tracker
  cases body with
  | none => simp [isText, openText?]
  | some body =>
    cases frames with
    | nil => simp [isText, openText?]
    | cons frame outer => simp [isText, openText?, Option.any_filter, bne]

/-- A line of text changes nothing and says nothing. -/
theorem step_isText {tracker : Tracker} (sound : Sound tracker) (bodies : TextBodies tracker)
    {line : List Char} (isText : tracker.isText line = true) (number : Nat) :
    tracker.step line number = (tracker, []) := by
  obtain ⟨body, frame, outer, isBody, isFrames, isKeyword, isLine⟩ := isText_eq_true.mp isText
  have isFree : body.kind = .text := by
    apply bodies body frame outer isBody isFrames
    intro isRows
    rw [isRows] at isKeyword
    exact absurd isKeyword (by decide)
  have isCloser : frame.keyword.closer? = some body.closer := by
    obtain ⟨_, _, isOpen, isCloser⟩ := sound.body body isBody
    obtain ⟨rfl, -⟩ := List.cons.inj (isFrames.symm.trans isOpen)
    exact isCloser
  have same : some { body with kind := .text } = tracker.body := by
    rw [isBody, ← isFree]
  rw [step_inside number isBody (isCloser ▸ isLine), isFree]
  dsimp only [readRow]
  rw [same]

end Tracker

end Block

namespace Validation

namespace Scan

theorem readLine_isText (catalog : Catalog) {scan : Scan} (sound : scan.blocks.Sound)
    (bodies : scan.blocks.TextBodies) {line : List Char} (isText : scan.blocks.isText line = true)
    (number : Nat) : scan.readLine catalog line number = scan := by
  have noEvent : Event.read? scan.blocks line number = none := by
    obtain ⟨body, _, _, isBody, -⟩ := Block.Tracker.isText_eq_true.mp isText
    rw [Option.eq_none_iff_forall_ne_some]
    intro event isEvent
    cases isBody.symm.trans (Event.body_eq_none isEvent)
  rw [readLine_eq, noEvent]
  dsimp only
  rw [Block.Tracker.step_isText sound bodies isText, report, List.append_nil]

end Scan

/-- The blocks before a line of a document. -/
def blocksBefore (lines : List (List Char)) (number : Nat) : Block.Tracker :=
  (({} : Block.Tracker).run 0 (lines.take number)).1

/-- As many lines, which differ only where both are text of a body that is open before them. -/
structure DifferInText (lines others : List (List Char)) : Prop where
  length : lines.length = others.length
  isText : ∀ (number : Nat) (line other : List Char), lines[number]? = some line →
    others[number]? = some other → line ≠ other →
      (blocksBefore lines number).isText line = true ∧
        (blocksBefore lines number).isText other = true

namespace DifferInText

variable {lines others : List (List Char)}

/-- Before each line the two scans are the same. -/
theorem readLines_take (h : DifferInText lines others) (catalog : Catalog) (number : Nat) :
    Scan.readLines catalog (lines.take number) = Scan.readLines catalog (others.take number) := by
  induction number with
  | zero => rfl
  | succ number ih =>
    rw [Scan.readLines_take_succ, Scan.readLines_take_succ, ← ih]
    cases isLine : lines[number]? with
    | none =>
      rw [List.getElem?_eq_none_iff, h.length, ← List.getElem?_eq_none_iff] at isLine
      rw [isLine]
    | some line =>
      obtain ⟨other, isOther⟩ : ∃ other, others[number]? = some other :=
        ⟨_, List.getElem?_eq_getElem (h.length ▸ (List.getElem?_eq_some_iff.mp isLine).1)⟩
      rw [isOther]
      dsimp only
      by_cases same : line = other
      · rw [same]
      · have isBlocks := Scan.blocks_readLines catalog (lines.take number)
        have sound := isBlocks ▸ Block.Tracker.sound_run (lines.take number)
        have bodies := isBlocks ▸ Block.Tracker.textBodies_run (lines.take number)
        obtain ⟨isText, isOtherText⟩ := h.isText number line other isLine isOther same
        rw [blocksBefore, ← isBlocks] at isText isOtherText
        rw [Scan.readLine_isText catalog sound bodies isText,
          Scan.readLine_isText catalog sound bodies isOtherText]

theorem readLines (h : DifferInText lines others) (catalog : Catalog) :
    Scan.readLines catalog lines = Scan.readLines catalog others := by
  have atEnd := h.readLines_take catalog lines.length
  rwa [List.take_length, h.length, List.take_length] at atEnd

end DifferInText

/-- Documents without comments that differ only in the text of scripts, queries, variables and lists
that go on give the same findings and the same tree. -/
theorem validate_differInText (catalog : Catalog) {text other : String}
    (plain : Comment.blank text.toList = text.toList)
    (alsoPlain : Comment.blank other.toList = other.toList)
    (h : DifferInText (Text.lines text.toList) (Text.lines other.toList)) :
    validate catalog text = validate catalog other := by
  rw [validate, validate, plain, alsoPlain, Scan.ofLines, Scan.ofLines, h.readLines catalog]

/-- Text that looks like headers, settings, other bodies and their ends. -/
theorem validate_differInText_script :
    let text := "script\n[widget]\nlist x =\nendsql\nendscript\nvar v = [\n1\nendvar\n[group]"
    let other := "script\ncsv\nendlist\ntype = 1\nendscript\nvar v = [\nelse\nendvar\n[group]"
    Comment.blank text.toList = text.toList ∧ Comment.blank other.toList = other.toList ∧
      DifferInText (Text.lines text.toList) (Text.lines other.toList) ∧
      validate .builtin text = validate .builtin other := by
  intro text other
  have plain : Comment.blank text.toList = text.toList := by decide +kernel
  have alsoPlain : Comment.blank other.toList = other.toList := by decide +kernel
  have length : (Text.lines text.toList).length = 9 ∧ (Text.lines other.toList).length = 9 := by
    decide +kernel
  have isText : ∀ number < 9,
      let line := (Text.lines text.toList)[number]?.getD []
      let changed := (Text.lines other.toList)[number]?.getD []
      let blocks := blocksBefore (Text.lines text.toList) number
      line = changed ∨ blocks.isText line = true ∧ blocks.isText changed = true := by
    decide +kernel
  have differ : DifferInText (Text.lines text.toList) (Text.lines other.toList) := by
    refine ⟨length.1.trans length.2.symm, fun number line changed isLine isChanged distinct => ?_⟩
    have here := isText number (length.1 ▸ (List.getElem?_eq_some_iff.mp isLine).1)
    rw [isLine, isChanged] at here
    exact here.resolve_left distinct
  exact ⟨plain, alsoPlain, differ, validate_differInText .builtin plain alsoPlain differ⟩

end Validation

end ChartLint
