import ChartLint.Proofs.Catalog.Levels
import ChartLint.Proofs.Validation.Document
import ChartLint.Proofs.Validation.Paired
import ChartLint.Proofs.Validation.Widget

/-!
The type and the address of a widget in the one order and the other. A listed type replaces the child
sections that the widget has to hold, so it drops the placeholders that an address above it asks for.
-/
namespace ChartLint

open Section (Frame Stack)

theorem Catalog.builtin_spares {type : String} {options : List (List String)}
    (isListed : builtin.requirementsOfWidget? type = some options) :
    ∀ names ∈ options, "placeholders" ∉ names := by
  have all : ∀ entry ∈ builtin.widgetRequirements, ∀ names ∈ entry.2, "placeholders" ∉ names := by
    rw [builtin_eq_load]
    obtain isEmpty | stores := load_eq_or_stores Builtin.source
    · simp [isEmpty]
    · rw [stores.widgetRequirements]
      decide +kernel
  exact all _ (Table.mem_of_find? isListed)

/-- Whether a section has to hold a child section, whichever alternative it meets. -/
def Section.Frame.Requires (child : String) (frame : Frame) : Prop :=
  frame.alternatives ≠ [] ∧ ∀ alternative ∈ frame.alternatives, child ∈ alternative.missing

theorem Section.Frame.requires_require (child : String) (frame : Frame) :
    (frame.require [child]).Requires child := by
  unfold Requires require
  split
  · simp
  case isFalse nonempty =>
    refine ⟨by simpa using nonempty, ?_⟩
    simp only [List.forall_mem_map]
    intro alternative _
    simp only [Alternative.require, List.foldl_cons, List.foldl_nil]
    split
    case isTrue has => exact List.contains_iff_mem.mp has
    case isFalse => simp

namespace Validation

namespace Scan

variable {catalog : Catalog} {scan : Scan} {number : Nat}

theorem range_of_unmet? {closed : List Frame} {finding : Finding}
    (h : Stack.unmet? closed = some finding) : ∃ frame ∈ closed, frame.range = finding.range := by
  obtain ⟨frame, isFrame, isFinding⟩ := Option.bind_eq_some_iff.mp h
  obtain ⟨best, -, rfl⟩ := Option.map_eq_some_iff.mp isFinding
  exact ⟨frame, List.mem_of_find?_eq_some isFrame, rfl⟩

/-- Open sections start one below the other, and what is reported of child sections concerns sections
above the current one. -/
structure Placed (number : Nat) (scan : Scan) : Prop where
  ranges : scan.stack.ranges.Pairwise fun inner outer => outer.start.line < inner.start.line
  unmet : ∀ finding ∈ scan.findings, finding.isUnmet = true → finding.range.start.line < number ∧
    ∀ current, scan.current = some current →
      finding.range.start.line < current.range.start.line

namespace Placed

theorem of_outline (h : Placed number scan) {after : Scan} (same : after.outline = scan.outline)
    {findings : List Finding} (quiet : NoneUnmet findings)
    (isFindings : after.findings = scan.findings ++ findings) : Placed (number + 1) after := by
  have sameStack : after.stack.entries = scan.stack.entries := congrArg (fun outline => outline.1) same
  constructor
  · rw [Stack.ranges, sameStack]
    exact h.ranges
  · intro finding member isUnmet
    rw [isFindings, List.mem_append] at member
    rcases member with member | member
    · obtain ⟨above, aboveCurrent⟩ := h.unmet finding member isUnmet
      refine ⟨Nat.lt_succ_of_lt above, fun current isCurrent => ?_⟩
      obtain ⟨before, isBefore, -, sameRange, -⟩ := exists_current_of_outline same isCurrent
      exact sameRange ▸ aboveCurrent before isBefore
    · cases (quiet finding member).symm.trans isUnmet

theorem readHeader (h : Placed number scan) (coherent : Coherent catalog number scan)
    {header : Line.SectionHeader} (isLine : header.range.start.line = number) :
    Placed (number + 1) (scan.readHeader catalog header) := by
  obtain ⟨findings, quiet, isRead⟩ := readHeader_eq catalog scan header
  obtain ⟨-, -, -, more, moreQuiet, isMore⟩ := ended_flush catalog (scan.report findings)
  have sameRanges := ranges_flush catalog (scan.report findings)
  have earlier := coherent.earlier_flush findings isLine
  have before : ∀ finding ∈ ((scan.report findings).flush catalog).findings,
      finding.isUnmet = true → finding.range.start.line < number := by
    rw [isMore, findings_report, List.append_assoc]
    intro finding member isUnmet
    rcases List.mem_append.mp member with member | member
    · exact (h.unmet finding member isUnmet).1
    · cases (quiet.append moreQuiet finding member).symm.trans isUnmet
  have ranges : ((scan.report findings).flush catalog).stack.ranges.Pairwise
      fun inner outer => outer.start.line < inner.start.line := sameRanges ▸ h.ranges
  generalize (scan.report findings).flush catalog = flushed at *
  have all (name : String) (accepted : Bool) {finding : Finding}
      (above : finding.range.start.line < number) : finding.range.start.line < number + 1 ∧
        ∀ current : Current, some { name, range := header.range, accepted } = some current →
          finding.range.start.line < current.range.start.line := by
    refine ⟨Nat.lt_succ_of_lt above, ?_⟩
    rintro _ ⟨⟩
    exact isLine ▸ above
  rw [isRead]
  cases isLevel : flushed.stack.accept catalog (sectionName catalog header) with
  | ok level =>
    rw [startSection_of_accepted isLevel]
    constructor
    · rw [stack_report, Stack.ranges, Stack.entries_openAt, List.map_cons, List.map_drop,
        List.pairwise_cons]
      exact ⟨fun other member => earlier other (List.mem_of_mem_drop member),
        ranges.sublist (List.drop_sublist _ _)⟩
    · intro finding member isUnmet
      apply all
      rcases List.mem_append.mp member with member | member
      · exact before finding member isUnmet
      · obtain ⟨frame, isClosed, isRange⟩ := range_of_unmet? (Option.mem_toList.mp member)
        have isOpen : frame.range ∈ flushed.stack.ranges :=
          List.mem_map_of_mem (List.mem_map_of_mem (List.mem_of_mem_take isClosed))
        exact isRange ▸ isLine ▸ earlier frame.range isOpen
  | error issue =>
    rw [startSection_of_rejected isLevel earlier]
    refine ⟨ranges, fun finding member isUnmet => all _ _ ?_⟩
    rcases List.mem_append.mp member with member | member
    · exact before finding member isUnmet
    · cases (noneUnmet_rejected isLevel header.range finding member).symm.trans isUnmet

theorem readLine (h : Placed number scan) (coherent : Coherent catalog number scan)
    (line : List Char) : Placed (number + 1) (scan.readLine catalog line number) := by
  rw [readLine_eq]
  cases isEvent : Event.read? scan.blocks line number with
  | none =>
    exact h.of_outline rfl (Block.Tracker.noneUnmet_step scan.blocks line number) rfl
  | some event =>
    cases event with
    | header found => exact h.readHeader coherent (Event.line_of_header isEvent)
    | setting line =>
      obtain ⟨findings, found, isFindings⟩ := findings_readSetting catalog scan line
      exact h.of_outline (outline_readSetting catalog scan line) found.noneUnmet isFindings

end Placed

theorem placed_readLines (catalog : Catalog) (lines : List (List Char)) :
    Placed lines.length (readLines catalog lines) := by
  induction lines using List.reverseRecOn with
  | nil => exact ⟨.nil, by simp [readLines]⟩
  | append_singleton lines line ih =>
    rw [readLines_concat, List.length_append, List.length_singleton]
    exact ih.readLine (readLines_coherent catalog lines) line

/-- Whether a type replaces the child sections of its widget, and an address asks for placeholders. -/
def drops (catalog : Catalog) (type url : String) : Bool :=
  (catalog.requirementsOfWidget? type).isSome && Value.hasField url.toList

/-- The section whose placeholders are dropped, if any are. -/
def debt (catalog : Catalog) (type url : String) (range : Range) : Option Range :=
  if drops catalog type url then some range else none

theorem debt_eq_some {type url : String} {range other : Range} :
    debt catalog type url range = some other ↔ drops catalog type url = true ∧ other = range := by
  unfold debt
  split
  case isTrue isDropped => simp [isDropped, eq_comm]
  case isFalse isKept => simp [isKept]

/-- The frame of a widget with its type above its address, and the other way around. -/
theorem alike_exchange {type : String} (url : String) {frame : Frame}
    (spare : ∀ options, catalog.requirementsOfWidget? type = some options →
      ∀ names ∈ options, "placeholders" ∉ names) :
    (noted catalog "url" url (noted catalog "type" type frame)).Alike "placeholders"
      (debt catalog type url frame.range)
      (noted catalog "type" type (noted catalog "url" url frame)) := by
  cases isListed : catalog.requirementsOfWidget? type with
  | none =>
    simp only [debt, drops, isListed, noted]
    exact Frame.alike_of_ne (by simp)
  | some options =>
    cases hasField : Value.hasField url.toList with
    | false =>
      simp only [debt, drops, isListed, hasField, noted]
      exact Frame.alike_of_ne (by simp)
    | true =>
      have spareAll : ∀ alternative ∈ options.map fun names => (⟨names, 0⟩ : Section.Alternative),
          "placeholders" ∉ alternative.missing := by
        intro alternative member
        obtain ⟨names, isNames, rfl⟩ := List.mem_map.mp member
        exact spare options isListed names isNames
      simp only [debt, drops, isListed, hasField, noted]
      refine ⟨rfl, rfl, fun isOther => absurd rfl isOther, fun _ => spareAll, fun _ => .inl ?_⟩
      exact Section.Alternative.map_require spareAll

theorem requires_typeFirst (catalog : Catalog) (type : String) {url : String}
    (hasField : Value.hasField url.toList = true) (frame : Frame) :
    (noted catalog "url" url (noted catalog "type" type frame)).Requires "placeholders" := by
  rw [noted, if_neg (by decide), if_pos ⟨rfl, hasField⟩]
  exact Frame.requires_require ..

theorem requires_urlFirst {type url : String} (hasField : Value.hasField url.toList = true)
    (spare : ∀ options, catalog.requirementsOfWidget? type = some options →
      ∀ names ∈ options, "placeholders" ∉ names) (frame : Frame) :
    (noted catalog "type" type (noted catalog "url" url frame)).Requires "placeholders" ↔
      catalog.requirementsOfWidget? type = none := by
  rw [noted, if_pos rfl]
  cases isListed : catalog.requirementsOfWidget? type with
  | none =>
    rw [noted, if_neg (by decide), if_pos ⟨rfl, hasField⟩]
    simpa using Frame.requires_require ..
  | some options =>
    simp only [Frame.Requires, reduceCtorEq, iff_false, not_and, ne_eq, List.map_eq_nil_iff]
    intro nonempty misses
    obtain ⟨names, member⟩ := List.exists_mem_of_ne_nil options nonempty
    exact spare options isListed names member (misses _ (List.mem_map_of_mem member))

/-- Lines that declare the type and the address of an accepted widget, with no header and no other
declaration of the two between them or before them. -/
structure Exchange (catalog : Catalog) (before between : List (List Char)) (typeLine urlLine : List Char)
    (type url : String) (range : Range) : Prop where
  widget : ∃ current, (readLines catalog before).current = some current ∧ current.name = "widget" ∧
    current.range = range ∧ current.accepted = true ∧ current.declares "type" = false ∧
    current.declares "url" = false
  outside : (readLines catalog before).blocks.body = none
  isType : Event.declared? catalog typeLine = some ("type", type)
  isUrl : Event.declared? catalog urlLine = some ("url", url)
  within : ∀ event ∈ Event.list (readLines catalog before).blocks (before.length + 1) between,
    event.isPlain catalog = true
  stillOutside : ((readLines catalog before).blocks.run (before.length + 1) between).1.body = none

namespace Exchange

variable {before between : List (List Char)} {typeLine urlLine : List Char} {type url : String}
  {range : Range}

/-- Both orders leave the scan in the widget with the same declarations and the same sections around
it. What was reported of child sections concerns sections above. -/
theorem exists_inWidget (h : Exchange catalog before between typeLine urlLine type url range) :
    ∃ frame outer blocks declared unmet,
      (readLines catalog before).stack.frames = frame :: outer ∧ frame.range = range ∧
      InWidget (readLines catalog (before ++ typeLine :: (between ++ [urlLine]))) blocks range
        (noted catalog "url" url (noted catalog "type" type frame)) outer declared unmet ∧
      InWidget (readLines catalog (before ++ urlLine :: (between ++ [typeLine]))) blocks range
        (noted catalog "type" type (noted catalog "url" url frame)) outer declared unmet ∧
      declared "type" = true ∧ declared "url" = true ∧
      ∀ finding ∈ unmet, finding.range.start.line < range.start.line := by
  obtain ⟨current, isCurrent, isName, isRange, accepted, noType, noUrl⟩ := h.widget
  obtain ⟨frame, outer, isFrames, frameName, frameRange⟩ :=
    (readLines_coherent catalog before).follows.exists_top isCurrent accepted
  have inWidget : InWidget (readLines catalog before) _ range frame outer current.declares _ :=
    ⟨rfl, ⟨current, isCurrent, isName, isRange, accepted, fun _ => rfl⟩, isFrames,
      frameName.trans isName, frameRange.trans isRange, rfl⟩
  have typeFirst := inWidget.readPair h.outside h.isType noType h.within h.stillOutside h.isUrl
    (.inr rfl) noUrl (by simp)
  have urlFirst := inWidget.readPair h.outside h.isUrl noUrl h.within h.stillOutside h.isType
    (.inl rfl) noType (by simp)
  refine ⟨frame, outer, _, _, _, isFrames, frameRange.trans isRange, typeFirst, ?_, by simp, by simp,
    ?_⟩
  · convert urlFirst using 2
    ac_rfl
  · intro finding member
    obtain ⟨member, isUnmet⟩ := List.mem_filter.mp member
    have above := ((placed_readLines catalog before).unmet finding member isUnmet).2
    exact isRange ▸ above current isCurrent

theorem line_lt (h : Exchange catalog before between typeLine urlLine type url range) :
    range.start.line < before.length := by
  obtain ⟨frame, outer, _, _, _, isFrames, rfl, -⟩ := h.exists_inWidget
  apply (readLines_coherent catalog before).earlier
  rw [Stack.ranges, Stack.entries, isFrames]
  exact List.mem_cons_self

theorem paired (h : Exchange catalog before between typeLine urlLine type url range)
    (spare : ∀ options, catalog.requirementsOfWidget? type = some options →
      ∀ names ∈ options, "placeholders" ∉ names) :
    Paired (debt catalog type url range)
      (readLines catalog (before ++ typeLine :: (between ++ [urlLine])))
      (readLines catalog (before ++ urlLine :: (between ++ [typeLine]))) := by
  obtain ⟨frame, outer, blocks, declared, unmet, isFrames, rfl, typeFirst, urlFirst, isType, isUrl,
    above⟩ := h.exists_inWidget
  refine ⟨typeFirst.blocks.trans urlFirst.blocks.symm, ?_, ?_, ?_, ?_⟩
  · rw [typeFirst.frames, urlFirst.frames]
    refine .cons (alike_exchange url spare) (List.forall₂_same.mpr ?_)
    intro around member
    apply Frame.alike_of_ne
    intro isDebt
    -- The sections around the widget start above it.
    have ranges := (placed_readLines catalog before).ranges
    rw [Stack.ranges, Stack.entries, isFrames, List.map_cons, List.map_cons, List.pairwise_cons]
      at ranges
    have aboveWidget := ranges.1 around.range (List.mem_map_of_mem (List.mem_map_of_mem member))
    rw [(debt_eq_some.mp isDebt).2] at aboveWidget
    exact Nat.lt_irrefl _ aboveWidget
  · obtain ⟨current, isCurrent, isName, isRange, accepted, areDeclared⟩ := typeFirst.current
    obtain ⟨other, isOther, isOtherName, isOtherRange, otherAccepted, areOtherDeclared⟩ :=
      urlFirst.current
    rw [isCurrent, isOther]
    refine .some ⟨isName.trans isOtherName.symm, isRange.trans isOtherRange.symm,
      accepted.trans otherAccepted.symm, fun name => ?_, fun _ => ?_⟩
    · rw [areDeclared, areOtherDeclared]
    · rw [areOtherDeclared, areOtherDeclared]
      exact ⟨isType, isUrl⟩
  · exact .inl (typeFirst.unmet.trans urlFirst.unmet.symm)
  · intro finding member owes
    have isUnmet : finding ∈ unmet := urlFirst.unmet ▸ List.mem_filter.mpr ⟨member, owes.isUnmet⟩
    have aboveWidget := above finding isUnmet
    rw [(debt_eq_some.mp owes.1).2] at aboveWidget
    exact Nat.lt_irrefl _ aboveWidget

/-- What the documents of the two orders report in the end. -/
theorem agree (h : Exchange catalog before between typeLine urlLine type url range)
    (spare : ∀ options, catalog.requirementsOfWidget? type = some options →
      ∀ names ∈ options, "placeholders" ∉ names) (after : List (List Char)) :
    Agree "placeholders" (debt catalog type url range)
      (ofLines catalog (before ++ typeLine :: (between ++ urlLine :: after))).findings
      (ofLines catalog (before ++ urlLine :: (between ++ typeLine :: after))).findings := by
  have above : ∀ other, debt catalog type url range = some other →
      other.start.line < (before ++ typeLine :: (between ++ [urlLine])).length := by
    intro other isDebt
    rw [(debt_eq_some.mp isDebt).2, List.length_append]
    exact Nat.lt_add_right _ h.line_lt
  have paired := (h.paired spare).readLines (by simp) above after
  simpa [ofLines] using paired.finish catalog

end Exchange

end Scan

/-- What is reported of child sections. -/
def unmet (validation : Validation) : List Finding := validation.findings.filter Finding.isUnmet

theorem unmet_ofScan (scan : Scan) : (ofScan scan).unmet =
    (scan.findings.filter Finding.isUnmet).mergeSort fun a b => a.range.start ≤ b.range.start := by
  apply filter_mergeSort
  · intro a b c first second
    exact decide_eq_true (Position.le_trans (of_decide_eq_true first) (of_decide_eq_true second))
  · intro a b
    simpa using Position.le_total a.range.start b.range.start

theorem mem_unmet {scan : Scan} {finding : Finding} :
    finding ∈ (ofScan scan).unmet ↔ finding ∈ scan.findings ∧ finding.isUnmet = true := by
  rw [unmet_ofScan, List.mem_mergeSort, List.mem_filter]

theorem unmet_eq_iff {child : String} {debt : Option Range} {scan other : Scan}
    (h : Agree child debt scan.findings other.findings) :
    (ofScan scan).unmet = (ofScan other).unmet ↔
      ∀ finding ∈ (ofScan scan).unmet, ¬ finding.Owes child debt := by
  constructor
  · intro same finding member
    rw [same] at member
    exact h.spare finding (mem_unmet.mp member).1
  · intro none
    rcases h.same with same | ⟨finding, member, owes⟩
    · rw [unmet_ofScan, unmet_ofScan, same]
    · exact absurd owes (none finding (mem_unmet.mpr ⟨member, owes.isUnmet⟩))

/-- A document in which the type of a widget stands above its address says of child sections what it
says with the two lines exchanged, unless the type is listed, the address has a field, and the
placeholders are reported as missing from the widget; with the address above they never are. An address
with a field asks for placeholders below the type, and above it if and only if the type is not
listed. -/
theorem validate_exchange {before between after : List (List Char)} {typeLine urlLine : List Char}
    {type url : String} {range : Range} {typeFirst urlFirst : String}
    (h : Scan.Exchange .builtin before between typeLine urlLine type url range)
    (isTypeFirst : Text.lines (Comment.blank typeFirst.toList) =
      before ++ typeLine :: (between ++ urlLine :: after))
    (isUrlFirst : Text.lines (Comment.blank urlFirst.toList) =
      before ++ urlLine :: (between ++ typeLine :: after)) :
    ((validate .builtin typeFirst).unmet = (validate .builtin urlFirst).unmet ↔
      ¬ (Scan.drops .builtin type url = true ∧ ∃ finding ∈ (validate .builtin typeFirst).unmet,
        finding.range = range ∧ finding.issue.lacks "placeholders" = true)) ∧
    (Scan.drops .builtin type url = true → ∀ finding ∈ (validate .builtin urlFirst).unmet,
      finding.range = range → finding.issue.lacks "placeholders" = false) ∧
    (Value.hasField url.toList = true →
      (∃ frame, frame.range = range ∧ frame.Requires "placeholders" ∧
        (Scan.readLines .builtin (before ++ typeLine :: (between ++ [urlLine]))).stack.top? =
          some frame) ∧
      ∃ frame, frame.range = range ∧
        (frame.Requires "placeholders" ↔ Catalog.builtin.requirementsOfWidget? type = none) ∧
        (Scan.readLines .builtin (before ++ urlLine :: (between ++ [typeLine]))).stack.top? =
          some frame) := by
  have spare (options : List (List String))
      (isListed : Catalog.builtin.requirementsOfWidget? type = some options) :=
    Catalog.builtin_spares isListed
  have agree := h.agree spare after
  rw [← isTypeFirst, ← isUrlFirst] at agree
  refine ⟨(unmet_eq_iff agree).trans ?_, ?_, ?_⟩
  · simp only [Finding.Owes, Scan.debt_eq_some]
    constructor
    · rintro none ⟨isDropped, finding, member, isRange, lacks⟩
      exact none finding member ⟨⟨isDropped, isRange⟩, lacks⟩
    · rintro none finding member ⟨⟨isDropped, isRange⟩, lacks⟩
      exact none ⟨isDropped, finding, member, isRange, lacks⟩
  · intro isDropped finding member isRange
    have spared := agree.spare finding (mem_unmet.mp member).1
    simpa [Finding.Owes, Scan.debt_eq_some, isDropped, isRange] using spared
  · intro hasField
    obtain ⟨frame, outer, _, _, _, -, -, typeFirst, urlFirst, -⟩ := h.exists_inWidget
    refine ⟨⟨_, typeFirst.range, Scan.requires_typeFirst .builtin type hasField frame, ?_⟩,
      _, urlFirst.range, Scan.requires_urlFirst hasField spare frame, ?_⟩
    · rw [Stack.top?, typeFirst.frames, List.head?_cons]
    · rw [Stack.top?, urlFirst.frames, List.head?_cons]

section Address

open Scan (readLines ofLines)

def typeLine : List Char := "type = text".toList

def addressLine : List Char := "url = https://x/\x7bentity\x7d".toList

def linesAbove : List (List Char) := ["[configuration]", "[group]", "[widget]"].map String.toList

def linesBetween : List (List Char) := ["title = t".toList]

/-- A document with a type above an address. -/
def typeAbove : String :=
  "[configuration]\n[group]\n[widget]\ntype = text\ntitle = t\nurl = https://x/\x7bentity\x7d"

/-- The same document with the address above the type. -/
def addressAbove : String :=
  "[configuration]\n[group]\n[widget]\nurl = https://x/\x7bentity\x7d\ntitle = t\ntype = text"

-- The built-in catalog is costly to evaluate, so all that is needed of it is evaluated at once.
theorem read_addresses :
    ((readLines .builtin linesAbove).current.any fun current =>
      current.name == "widget" && current.range == .span 2 0 7 && current.accepted &&
        !current.declares "type" && !current.declares "url") = true ∧
    (readLines .builtin linesAbove).blocks.body = none ∧
    Event.declared? .builtin typeLine = some ("type", "text") ∧
    Event.declared? .builtin addressLine = some ("url", "https://x/\x7bentity\x7d") ∧
    (∀ event ∈ Event.list (readLines .builtin linesAbove).blocks (linesAbove.length + 1) linesBetween,
      event.isPlain .builtin = true) ∧
    ((readLines .builtin linesAbove).blocks.run (linesAbove.length + 1) linesBetween).1.body = none ∧
    Scan.drops .builtin "text" "https://x/\x7bentity\x7d" = true ∧
    (((ofLines .builtin (linesAbove ++ typeLine :: (linesBetween ++ [addressLine]))).findings.filter
      Finding.isUnmet).map fun finding => (finding.range, finding.issue.lacks "placeholders")) =
        [(.span 2 0 7, true)] ∧
    ((ofLines .builtin (linesAbove ++ addressLine :: (linesBetween ++ [typeLine]))).findings.filter
      Finding.isUnmet).isEmpty = true := by
  decide +kernel

theorem lines_typeAbove : Text.lines (Comment.blank typeAbove.toList) =
    linesAbove ++ typeLine :: (linesBetween ++ [addressLine]) := by
  decide +kernel

theorem lines_addressAbove : Text.lines (Comment.blank addressAbove.toList) =
    linesAbove ++ addressLine :: (linesBetween ++ [typeLine]) := by
  decide +kernel

/-- The two documents differ in what they say of child sections. -/
theorem validate_exchange_addresses :
    (validate .builtin typeAbove).unmet ≠ (validate .builtin addressAbove).unmet := by
  obtain ⟨isOpen, outside, isType, isUrl, within, stillOutside, isDropped, areUnmet, -⟩ :=
    read_addresses
  obtain ⟨current, isCurrent, isWidget⟩ := (Option.any_eq_true ..).mp isOpen
  simp only [Bool.and_eq_true, beq_iff_eq, Bool.not_eq_true'] at isWidget
  obtain ⟨⟨⟨⟨isName, isRange⟩, accepted⟩, noType⟩, noUrl⟩ := isWidget
  have exchange : Scan.Exchange .builtin linesAbove linesBetween typeLine addressLine "text"
      "https://x/\x7bentity\x7d" (.span 2 0 7) :=
    ⟨⟨current, isCurrent, isName, isRange, accepted, noType, noUrl⟩, outside, isType, isUrl, within,
      stillOutside⟩
  obtain ⟨same, -⟩ := validate_exchange exchange lines_typeAbove lines_addressAbove
  rw [Ne, same, not_not]
  have member := List.mem_singleton_self ((.span 2 0 7, true) : Range × Bool)
  rw [← areUnmet, ← lines_typeAbove] at member
  obtain ⟨finding, isFinding, isEntry⟩ := List.mem_map.mp member
  rw [Prod.mk.injEq] at isEntry
  exact ⟨isDropped, finding, mem_unmet.mpr (List.mem_filter.mp isFinding), isEntry.1, isEntry.2⟩

/-- With the address above the type nothing is said of the placeholders that the widget lacks. -/
theorem unmet_addresses :
    (validate .builtin typeAbove).unmet.map
        (fun finding => (finding.range, finding.issue.lacks "placeholders")) =
      [(.span 2 0 7, true)] ∧
    (validate .builtin addressAbove).unmet = [] := by
  obtain ⟨-, -, -, -, -, -, -, areUnmet, noneUnmet⟩ := read_addresses
  obtain ⟨finding, isSingle, isEntry⟩ := List.map_eq_singleton_iff.mp areUnmet
  rw [List.isEmpty_iff] at noneUnmet
  rw [validate, validate, unmet_ofScan, unmet_ofScan, lines_typeAbove, lines_addressAbove, isSingle,
    noneUnmet]
  simp [isEntry]

end Address

end Validation

end ChartLint
