import ChartLint.Proofs.Section.Depth
import Mathlib.Data.List.DropRight

/-!
What closing sections lack. A section has to hold the child sections of one of its alternatives, and it
meets the sections that are opened while it is open. Of the sections that one event closes, the deepest
that lacks something is reported.
-/
namespace ChartLint.Section

section Alternative

namespace Alternative

/-- Names that were not met. -/
def missingOf (met names : List String) : List String := names.filter fun name => !met.contains name

/-- How far an alternative has come. -/
def progress (met names : List String) : Alternative :=
  ⟨missingOf met names, names.countP met.contains⟩

theorem missingOf_eq_nil {met names : List String} : missingOf met names = [] ↔ names ⊆ met := by
  simp [missingOf, List.subset_def]

@[simp] theorem progress_nil (names : List String) : progress [] names = ⟨names, 0⟩ := by
  simp [progress, missingOf]

theorem resolve_progress (name : String) (met names : List String) :
    (progress met names).resolve name = progress (name :: met) names := by
  simp only [progress, missingOf, resolve, Alternative.mk.injEq, List.filter_filter]
  constructor
  · congr 1
    funext other
    rw [List.contains_cons, Bool.not_or]
    rfl
  · rw [List.count, List.countP_filter]
    induction names with
    | nil => rfl
    | cons other names ih =>
      simp only [List.countP_cons, List.contains_cons, ← ih]
      cases met.contains other <;> cases other == name <;> simp <;> omega

theorem atLeast_iff {a b : Alternative} :
    a.atLeast b = true ↔ b.resolved < a.resolved ∨
      b.resolved = a.resolved ∧ a.missing.length ≤ b.missing.length := by
  simp [atLeast]

end Alternative

/-- Nothing before the best alternative is closer to completion, and all after it are less close. -/
structure Best (alternatives before after : List Alternative) (best : Alternative) : Prop where
  split : alternatives = before ++ best :: after
  before : ∀ other ∈ before, best.atLeast other = true
  after : ∀ other ∈ after, other.atLeast best = false

theorem Best.concat {alternatives before after : List Alternative} {best : Alternative}
    (h : Best alternatives before after best) (alternative : Alternative) :
    if alternative.atLeast best then Best (alternatives ++ [alternative]) alternatives [] alternative
    else Best (alternatives ++ [alternative]) before (after ++ [alternative]) best := by
  have beaten : ∀ other ∈ after, best.atLeast other = true := by
    intro other member
    have less := h.after other member
    rw [← Bool.not_eq_true, Alternative.atLeast_iff] at less
    rw [Alternative.atLeast_iff]
    omega
  split
  case isTrue better =>
    refine ⟨rfl, fun other member => ?_, nofun⟩
    have below : best.atLeast other = true := by
      rw [h.split, List.mem_append, List.mem_cons] at member
      rcases member with member | rfl | member
      · exact h.before other member
      · simp [Alternative.atLeast_iff]
      · exact beaten other member
    rw [Alternative.atLeast_iff] at better below ⊢
    omega
  case isFalse worse =>
    refine ⟨by simp [h.split], h.before, ?_⟩
    simp only [List.forall_mem_append, List.forall_mem_singleton]
    exact ⟨h.after, by simpa using worse⟩

theorem Frame.exists_best {frame : Frame} (nonempty : frame.alternatives ≠ []) :
    ∃ before after best, frame.best? = some best ∧ Best frame.alternatives before after best := by
  unfold Frame.best?
  generalize frame.alternatives = alternatives at nonempty
  induction alternatives using List.reverseRecOn with
  | nil => exact absurd rfl nonempty
  | append_singleton alternatives alternative ih =>
    rw [List.foldl_append]
    by_cases isEmpty : alternatives = []
    · subst isEmpty
      exact ⟨[], [], alternative, rfl, rfl, nofun, nofun⟩
    · obtain ⟨before, after, best, isBest, h⟩ := ih isEmpty
      have next := h.concat alternative
      simp only [isBest, List.foldl_cons, List.foldl_nil]
      split
      case isTrue better =>
        rw [if_pos better] at next
        exact ⟨_, _, _, rfl, next⟩
      case isFalse worse =>
        rw [if_neg worse] at next
        exact ⟨_, _, _, rfl, next⟩

end Alternative

/-- A section that was opened, with its level on the stack. -/
structure Opening where
  name : String
  range : Range
  level : Nat

namespace Opening

/-- Whether a section is open after some openings, the latest first, with those since its own: all of
them lie inside it. -/
def IsOpen (history : List Opening) (opening : Opening) (since : List Opening) : Prop :=
  (∃ before, history = since ++ opening :: before) ∧ ∀ later ∈ since, opening.level < later.level

/-- Whether a section has to hold child sections, and those opened since meet none of its
alternatives. -/
def Lacks (catalog : Catalog) (opening : Opening) (since : List Opening) : Prop :=
  catalog.requiredSections opening.name ≠ [] ∧
    ∀ names ∈ catalog.requiredSections opening.name, ¬ names ⊆ since.map Opening.name

/-- The openings while a section is open, out of all that come later. -/
def whileOpen (opening : Opening) (later : List Opening) : List Opening :=
  later.rtakeWhile fun other => opening.level < other.level

/-- Whether more of an alternative was met than of another, or as much of it and less is missing. -/
def Closer (met names others : List String) : Prop :=
  others.countP met.contains < names.countP met.contains ∨
    others.countP met.contains = names.countP met.contains ∧
      (Alternative.missingOf met names).length < (Alternative.missingOf met others).length

theorem closer_iff {met names others : List String} :
    Closer met names others ↔
      (Alternative.progress met others).atLeast (.progress met names) = false := by
  rw [← Bool.not_eq_true, Alternative.atLeast_iff]
  simp only [Closer, Alternative.progress]
  omega

/-- The last of the alternatives that are closest to completion. -/
def IsClosest (met : List String) (alternatives : List (List String)) (names : List String) : Prop :=
  ∃ before after, alternatives = before ++ names :: after ∧
    (∀ other ∈ before, ¬ Closer met other names) ∧ ∀ other ∈ after, Closer met names other

/-- A section as the stack holds it after further openings. -/
def frame (catalog : Catalog) (opening : Opening) (since : List Opening) : Frame where
  name := opening.name
  range := opening.range
  alternatives :=
    (catalog.requiredSections opening.name).map (Alternative.progress (since.map Opening.name))

theorem resolve_frame (catalog : Catalog) (opening next : Opening) (since : List Opening) :
    (opening.frame catalog since).resolve next.name = opening.frame catalog (next :: since) := by
  simp [frame, Frame.resolve, Alternative.resolve_progress]

theorem isSatisfied_frame {catalog : Catalog} {opening : Opening} {since : List Opening} :
    (opening.frame catalog since).isSatisfied = false ↔ Lacks catalog opening since := by
  simp only [frame, Frame.isSatisfied, Lacks, Bool.or_eq_false_iff, List.isEmpty_eq_false_iff,
    ne_eq, List.map_eq_nil_iff, List.any_map, List.any_eq_false]
  refine and_congr_right fun _ => forall₂_congr fun names _ => not_congr ?_
  rw [Function.comp_apply, List.isEmpty_iff]
  exact Alternative.missingOf_eq_nil

/-- The open sections, the innermost first, each with the openings since its own. -/
def standing : List Opening → List (Opening × List Opening)
  | [] => []
  | next :: past =>
    (next, []) :: ((standing past).filter fun entry => entry.1.level < next.level).map
      fun entry => (entry.1, next :: entry.2)

theorem mem_standing {history since : List Opening} {opening : Opening} :
    (opening, since) ∈ standing history ↔ IsOpen history opening since := by
  induction history generalizing since with
  | nil => simp [standing, IsOpen]
  | cons next past ih =>
    cases since with
    | nil => simp [standing, IsOpen, eq_comm]
    | cons later since =>
      simp only [standing, List.mem_cons, Prod.mk.injEq, reduceCtorEq, and_false, false_or,
        List.mem_map, List.mem_filter, decide_eq_true_eq, Prod.exists, List.cons.injEq]
      constructor
      · rintro ⟨_, _, ⟨member, inside⟩, rfl, rfl, rfl⟩
        obtain ⟨⟨before, rfl⟩, deeper⟩ := ih.mp member
        exact ⟨⟨before, rfl⟩, List.forall_mem_cons.mpr ⟨inside, deeper⟩⟩
      · rintro ⟨⟨before, same⟩, deeper⟩
        obtain ⟨rfl, rfl⟩ := List.cons.inj same
        obtain ⟨inside, deeper⟩ := List.forall_mem_cons.mp deeper
        exact ⟨_, _, ⟨ih.mpr ⟨⟨before, rfl⟩, deeper⟩, inside⟩, rfl, rfl, rfl⟩

/-- Each section lies at the level that is the number of those around it. -/
def Descends : List (Opening × List Opening) → Prop
  | [] => True
  | entry :: outer => entry.1.level = outer.length ∧ Descends outer

namespace Descends

variable {entries : List (Opening × List Opening)}

theorem level_lt (h : Descends entries) : ∀ entry ∈ entries, entry.1.level < entries.length := by
  induction entries with
  | nil => nofun
  | cons first outer ih =>
    rw [List.forall_mem_cons, List.length_cons, h.1]
    exact ⟨Nat.lt_succ_self _, fun entry member => Nat.lt_succ_of_lt (ih h.2 entry member)⟩

theorem pairwise (h : Descends entries) :
    entries.Pairwise fun inner outer => outer.1.level < inner.1.level := by
  induction entries with
  | nil => exact .nil
  | cons first outer ih =>
    refine .cons (fun entry member => ?_) (ih h.2)
    rw [h.1]
    exact h.2.level_lt entry member

theorem split (h : Descends entries) {level : Nat} (inside : level ≤ entries.length) :
    entries.take (entries.length - level) =
        entries.filter (fun entry => level ≤ entry.1.level) ∧
      entries.drop (entries.length - level) =
        entries.filter (fun entry => entry.1.level < level) := by
  induction entries with
  | nil => simp
  | cons first outer ih =>
    rw [List.length_cons] at inside ⊢
    rcases Nat.eq_or_lt_of_le inside with rfl | less
    · rw [Nat.sub_self, List.take_zero, List.drop_zero]
      have all := h.level_lt
      rw [List.length_cons] at all
      constructor
      · rw [eq_comm, List.filter_eq_nil_iff]
        intro entry member
        simpa using all entry member
      · rw [eq_comm, List.filter_eq_self]
        intro entry member
        simpa using all entry member
    · have le := Nat.le_of_lt_succ less
      obtain ⟨isTaken, isKept⟩ := ih h.2 le
      rw [Nat.succ_sub le, List.take_succ_cons, List.drop_succ_cons, isTaken, isKept]
      constructor
      · rw [List.filter_cons_of_pos (by simpa [h.1] using le)]
      · rw [List.filter_cons_of_neg (by simpa [h.1] using le)]

theorem filter_lt (h : Descends entries) {level : Nat} (inside : level ≤ entries.length) :
    Descends (entries.filter fun entry => entry.1.level < level) := by
  rw [← (h.split inside).2]
  clear inside
  generalize entries.length - level = count
  induction entries generalizing count with
  | nil => rwa [List.drop_nil]
  | cons first outer ih =>
    cases count with
    | zero => exact h
    | succ count => exact ih h.2 count

theorem map (h : Descends entries) (f : Opening × List Opening → List Opening) :
    Descends (entries.map fun entry => (entry.1, f entry)) := by
  induction entries with
  | nil => trivial
  | cons first outer ih =>
    refine ⟨?_, ih h.2⟩
    rw [List.length_map]
    exact h.1

theorem getElem?_reverse (h : Descends entries) {level : Nat} {entry : Opening × List Opening} :
    entries.reverse[level]? = some entry ↔ entry ∈ entries ∧ entry.1.level = level := by
  induction entries with
  | nil => simp
  | cons first outer ih =>
    rw [List.reverse_cons, List.getElem?_append, List.length_reverse, List.mem_cons]
    have below := h.2.level_lt entry
    have isLevel := h.1
    split
    case isTrue less =>
      rw [ih h.2]
      grind
    case isFalse =>
      rw [List.getElem?_singleton]
      grind

end Descends

theorem whileOpen_of_deeper {opening : Opening} {later : List Opening}
    (deeper : ∀ other ∈ later, opening.level < other.level) : opening.whileOpen later = later :=
  List.rtakeWhile_eq_self_iff.mpr (by simpa using deeper)

/-- Whether a section was closed by one of the openings after it. -/
def WasClosed (opening : Opening) (later : List Opening) : Prop :=
  ∃ next ∈ later, next.level ≤ opening.level

/-- What comes after a section was closed does not count. -/
theorem whileOpen_cons_of_closed {opening next : Opening} {later : List Opening}
    (isClosed : WasClosed opening later) :
    opening.whileOpen (next :: later) = opening.whileOpen later := by
  have ends : (later.reverse.takeWhile fun other => opening.level < other.level).length ≠
      later.reverse.length := by
    intro same
    obtain ⟨other, member, le⟩ := isClosed
    have all := List.takeWhile_eq_self_iff.mp ((List.takeWhile_prefix _).eq_of_length same)
    have inside := all other (List.mem_reverse.mpr member)
    rw [decide_eq_true_eq] at inside
    omega
  simp only [whileOpen, List.rtakeWhile, List.reverse_cons, List.takeWhile_append, if_neg ends]

theorem whileOpen_cons_of_closes {opening next : Opening} {later : List Opening}
    (deeper : ∀ other ∈ later, opening.level < other.level) (le : next.level ≤ opening.level) :
    opening.whileOpen (next :: later) = later := by
  have all : (later.reverse.takeWhile fun other => opening.level < other.level) = later.reverse := by
    rw [List.takeWhile_eq_self_iff]
    simpa using deeper
  simp only [whileOpen, List.rtakeWhile, List.reverse_cons, List.takeWhile_append, all, if_true]
  simp [Nat.not_lt.mpr le]

end Opening

open Opening

/-- Sections offered one after the other. -/
structure Run where
  stack : Stack := {}
  /-- The sections that were opened, the latest first. -/
  history : List Opening := []
  /-- What was reported so far. -/
  findings : List Finding := []

namespace Run

def offer (catalog : Catalog) (run : Run) (name : String) (range : Range) : Run where
  stack := (run.stack.offer catalog name range).1
  history :=
    match run.stack.accept catalog name with
    | .ok level => ⟨name, range, level⟩ :: run.history
    | .error _ => run.history
  findings := run.findings ++ (run.stack.offer catalog name range).2.toList

def ofSections (catalog : Catalog) (sections : List (String × Range)) : Run :=
  sections.foldl (fun run entry => run.offer catalog entry.1 entry.2) {}

theorem ofSections_concat (catalog : Catalog) (sections : List (String × Range))
    (entry : String × Range) :
    ofSections catalog (sections ++ [entry]) =
      (ofSections catalog sections).offer catalog entry.1 entry.2 := by
  simp [ofSections]

/-- The stack holds what the history says. -/
structure Recorded (catalog : Catalog) (run : Run) : Prop where
  frames : run.stack.frames = (standing run.history).map fun entry => entry.1.frame catalog entry.2
  descends : Descends (standing run.history)

namespace Recorded

variable {catalog : Catalog} {run : Run}

theorem size_eq (h : Recorded catalog run) : run.stack.size = (standing run.history).length := by
  rw [Stack.size, h.frames, List.length_map]

theorem offer (h : Recorded catalog run) (name : String) (range : Range) :
    Recorded catalog (run.offer catalog name range) := by
  cases isLevel : run.stack.accept catalog name with
  | error issue =>
    simp only [Run.offer, isLevel, Stack.offer_of_rejected isLevel]
    exact ⟨h.frames, h.descends⟩
  | ok level =>
    simp only [Run.offer, isLevel, Stack.offer_of_accepted isLevel]
    obtain ⟨_, -, inside, -⟩ := Stack.accept_eq_ok isLevel
    rw [h.size_eq] at inside
    have isKept := (h.descends.split inside).2
    constructor
    · simp only [Stack.openAt, standing, List.map_cons, h.size_eq, h.frames, ← List.map_drop, isKept,
        List.map_map]
      congr 1
      · simp [frame]
      · apply List.map_congr_left
        intro entry _
        exact resolve_frame catalog entry.1 ⟨name, range, level⟩ entry.2
    · refine ⟨?_, (h.descends.filter_lt inside).map _⟩
      rw [List.length_map, ← isKept, List.length_drop, Nat.sub_sub_self inside]

end Recorded

theorem recorded_ofSections (catalog : Catalog) (sections : List (String × Range)) :
    Recorded catalog (ofSections catalog sections) := by
  induction sections using List.reverseRecOn with
  | nil => exact ⟨rfl, trivial⟩
  | append_singleton sections entry ih =>
    rw [ofSections_concat]
    exact ih.offer entry.1 entry.2

end Run

theorem Opening.exists_unmet? {catalog : Catalog} {opening : Opening} {since : List Opening}
    (lacks : Lacks catalog opening since) :
    ∃ names, IsClosest (since.map Opening.name) (catalog.requiredSections opening.name) names ∧
      Alternative.missingOf (since.map Opening.name) names ≠ [] ∧
      (opening.frame catalog since).unmet? =
        some ⟨.requiredSectionMissing opening.name
          (Alternative.missingOf (since.map Opening.name) names), opening.range⟩ := by
  have nonempty : (opening.frame catalog since).alternatives ≠ [] :=
    mt List.map_eq_nil_iff.mp lacks.1
  obtain ⟨_, _, _, isBest, best⟩ := Frame.exists_best nonempty
  obtain ⟨before, rest, isSplit, rfl, isRest⟩ := List.map_eq_append_iff.mp best.split
  obtain ⟨names, after, rfl, rfl, rfl⟩ := List.map_eq_cons_iff.mp isRest
  refine ⟨names, ⟨before, after, isSplit, fun other member => ?_, fun other member => ?_⟩, ?_, ?_⟩
  · rw [closer_iff, best.before _ (List.mem_map_of_mem member)]
    exact Bool.true_eq_false_eq_False
  · exact closer_iff.mpr (best.after _ (List.mem_map_of_mem member))
  · exact mt Alternative.missingOf_eq_nil.mp (lacks.2 names (by simp [isSplit]))
  · rw [Frame.unmet?, isBest]
    rfl

/-- What is reported of the sections that an event closes: the deepest that lacks child sections, with
those missing of its alternative that is closest to completion. -/
structure Reports (catalog : Catalog) (history : List Opening) (closes : Opening → Prop)
    (report : Option Finding) : Prop where
  reported_iff : (∃ finding, report = some finding ∧
      finding.issue.code = .requiredSectionMissing) ↔
    ∃ opening since, IsOpen history opening since ∧ closes opening ∧ Lacks catalog opening since
  deepest : ∀ finding, report = some finding → finding.issue.code = .requiredSectionMissing →
    ∃ opening since names, IsOpen history opening since ∧ closes opening ∧
      Lacks catalog opening since ∧
      (∀ other later, IsOpen history other later → closes other → Lacks catalog other later →
        other.level ≤ opening.level) ∧
      IsClosest (since.map Opening.name) (catalog.requiredSections opening.name) names ∧
      Alternative.missingOf (since.map Opening.name) names ≠ [] ∧
      finding = ⟨.requiredSectionMissing opening.name
        (Alternative.missingOf (since.map Opening.name) names), opening.range⟩

namespace Reports

variable {catalog : Catalog} {history : List Opening} {closes : Opening → Prop}

/-- Nothing is closed, and what is reported says something else. -/
theorem of_other {report : Option Finding} (none : ∀ opening, ¬ closes opening)
    (other : ∀ finding, report = some finding →
      finding.issue.code ≠ .requiredSectionMissing) : Reports catalog history closes report where
  reported_iff := by
    refine iff_of_false ?_ ?_
    · rintro ⟨finding, isFinding, isCode⟩
      exact other finding isFinding isCode
    · rintro ⟨opening, _, _, isClosed, _⟩
      exact none opening isClosed
  deepest finding isFinding isCode := absurd isCode (other finding isFinding)

/-- The sections from a level on are closed. -/
theorem of_level (descends : Descends (standing history)) {level : Nat}
    (isLevel : ∀ opening, closes opening ↔ level ≤ opening.level) :
    Reports catalog history closes
      (Stack.unmet? (((standing history).filter fun entry => level ≤ entry.1.level).map
        fun entry => entry.1.frame catalog entry.2)) := by
  have member {opening : Opening} {since : List Opening} :
      (opening, since) ∈ (standing history).filter (fun entry => level ≤ entry.1.level) ↔
        IsOpen history opening since ∧ closes opening := by
    rw [List.mem_filter, mem_standing, decide_eq_true_eq, isLevel]
  have sorted := descends.pairwise.filter fun entry => level ≤ entry.1.level
  generalize (standing history).filter (fun entry => level ≤ entry.1.level) = closed at *
  unfold Stack.unmet?
  rw [List.find?_map]
  cases isFound : closed.find? ((fun frame => !frame.isSatisfied) ∘
      fun entry => entry.1.frame catalog entry.2) with
  | none =>
    have satisfied := List.find?_eq_none.mp isFound
    refine ⟨iff_of_false (by simp) ?_, by simp⟩
    rintro ⟨opening, since, isOpen, isClosed, lacks⟩
    refine satisfied (opening, since) (member.mpr ⟨isOpen, isClosed⟩) ?_
    simp [isSatisfied_frame.mpr lacks]
  | some entry =>
    obtain ⟨opening, since⟩ := entry
    obtain ⟨unsatisfied, inner, outer, rfl, satisfied⟩ :=
      List.find?_eq_some_iff_append.mp isFound
    have lacks : Lacks catalog opening since := by
      rw [← isSatisfied_frame]
      simpa using unsatisfied
    obtain ⟨isOpen, isClosed⟩ := member.mp (List.mem_append_right inner List.mem_cons_self)
    obtain ⟨names, isClosest, missing, isUnmet⟩ := exists_unmet? lacks
    simp only [Option.map_some, Option.bind_some, isUnmet]
    refine ⟨iff_of_true ⟨_, rfl, rfl⟩ ⟨opening, since, isOpen, isClosed, lacks⟩, ?_⟩
    rintro _ ⟨⟩ -
    refine ⟨opening, since, names, isOpen, isClosed, lacks, ?_, isClosest, missing, rfl⟩
    intro other later isOpen isClosed lacks
    rcases List.mem_append.mp (member.mpr ⟨isOpen, isClosed⟩) with isInner | isOuter
    · have := satisfied _ isInner
      simp [isSatisfied_frame.mpr lacks] at this
    · rcases List.mem_cons.mp isOuter with same | isOuter
      · obtain ⟨rfl, rfl⟩ := Prod.mk.inj same
        exact Nat.le_refl _
      · have below := (List.pairwise_append.mp sorted).2.1
        exact Nat.le_of_lt (List.rel_of_pairwise_cons below isOuter)

end Reports

namespace Run

variable {catalog : Catalog} {run : Run}

/-- Whether offering a section closes an open one. -/
def Closes (catalog : Catalog) (run : Run) (name : String) (opening : Opening) : Prop :=
  ∃ level, run.stack.accept catalog name = .ok level ∧ level ≤ opening.level

theorem Recorded.reports_offer (h : Recorded catalog run) (name : String) (range : Range) :
    Reports catalog run.history (run.Closes catalog name)
      (run.stack.offer catalog name range).2 := by
  cases isLevel : run.stack.accept catalog name with
  | error issue =>
    rw [Stack.offer_of_rejected isLevel]
    refine .of_other (by simp [Closes, isLevel]) ?_
    rintro _ ⟨⟩ isCode
    have := Stack.code_mem_rejections isLevel
    simp [isCode, Stack.rejections] at this
  | ok level =>
    rw [Stack.offer_of_accepted isLevel]
    obtain ⟨_, -, inside, -⟩ := Stack.accept_eq_ok isLevel
    simp only [Stack.openAt, h.size_eq, h.frames, ← List.map_take,
      (h.descends.split (h.size_eq ▸ inside)).1]
    exact .of_level h.descends (by simp [Closes, isLevel])

theorem Recorded.reports_finish (h : Recorded catalog run) :
    Reports catalog run.history (fun _ => True) run.stack.finish.2 := by
  have isLevel (opening : Opening) : True ↔ 0 ≤ opening.level := by simp
  have all : Reports catalog run.history (fun _ => True) _ := .of_level h.descends isLevel
  simpa [Stack.finish, h.frames] using all

/-- The open sections of the history are those of the stack. -/
theorem Recorded.isOpen_iff (h : Recorded catalog run) {opening : Opening} :
    (∃ since, IsOpen run.history opening since) ↔
      ∃ frame, run.stack.frames.reverse[opening.level]? = some frame ∧
        frame.name = opening.name ∧ frame.range = opening.range := by
  simp only [← mem_standing, h.frames, ← List.map_reverse, List.getElem?_map,
    Option.map_eq_some_iff]
  constructor
  · rintro ⟨since, member⟩
    exact ⟨_, ⟨_, h.descends.getElem?_reverse.mpr ⟨member, rfl⟩, rfl⟩, rfl, rfl⟩
  · rintro ⟨_, ⟨⟨other, since⟩, isEntry, rfl⟩, sameName, sameRange⟩
    obtain ⟨member, sameLevel⟩ := h.descends.getElem?_reverse.mp isEntry
    obtain ⟨name, range, level⟩ := opening
    obtain ⟨rfl, rfl, rfl⟩ : other.name = name ∧ other.range = range ∧ other.level = level :=
      ⟨sameName, sameRange, sameLevel⟩
    exact ⟨since, member⟩

/-- Every section that was closed by an opening held what it had to. -/
def Satisfied (catalog : Catalog) (history : List Opening) : Prop :=
  ∀ later opening before, history = later ++ opening :: before → WasClosed opening later →
    ¬ Lacks catalog opening (opening.whileOpen later)

theorem satisfied_cons {history : List Opening} {next : Opening} :
    Satisfied catalog (next :: history) ↔ Satisfied catalog history ∧
      ¬ ∃ opening since, IsOpen history opening since ∧ next.level ≤ opening.level ∧
        Lacks catalog opening since := by
  constructor
  · intro h
    constructor
    · rintro later opening before rfl isClosed
      have closed : WasClosed opening (next :: later) := by
        obtain ⟨other, member, le⟩ := isClosed
        exact ⟨other, List.mem_cons_of_mem _ member, le⟩
      have satisfied := h (next :: later) opening before rfl closed
      rwa [whileOpen_cons_of_closed isClosed] at satisfied
    · rintro ⟨opening, since, ⟨⟨before, rfl⟩, deeper⟩, le, lacks⟩
      refine h (next :: since) opening before rfl ⟨next, List.mem_cons_self, le⟩ ?_
      rwa [whileOpen_cons_of_closes deeper le]
  · rintro ⟨h, none⟩ later opening before same isClosed
    cases later with
    | nil => obtain ⟨_, ⟨⟩, -⟩ := isClosed
    | cons first later =>
      obtain ⟨rfl, rfl⟩ := List.cons.inj same
      by_cases earlier : WasClosed opening later
      · rw [whileOpen_cons_of_closed earlier]
        exact h later opening before rfl earlier
      · have deeper : ∀ other ∈ later, opening.level < other.level := by
          simpa [WasClosed] using earlier
        have le : next.level ≤ opening.level := by
          obtain ⟨other, member, le⟩ := isClosed
          rcases List.mem_cons.mp member with rfl | member
          · exact le
          · exact absurd le (Nat.not_le_of_lt (deeper other member))
        rw [whileOpen_cons_of_closes deeper le]
        exact fun lacks => none ⟨opening, later, ⟨⟨before, rfl⟩, deeper⟩, le, lacks⟩

/-- Offering a section reports nothing missing if and only if what it closes holds what it has to. -/
theorem Recorded.satisfied_offer (h : Recorded catalog run) (name : String) (range : Range) :
    Satisfied catalog (run.offer catalog name range).history ↔ Satisfied catalog run.history ∧
      ∀ finding ∈ (run.stack.offer catalog name range).2.toList,
        finding.issue.code ≠ .requiredSectionMissing := by
  have reported := (h.reports_offer name range).reported_iff
  have isQuiet : (∀ finding ∈ (run.stack.offer catalog name range).2.toList,
      finding.issue.code ≠ .requiredSectionMissing) ↔
        ¬ ∃ opening since, IsOpen run.history opening since ∧ run.Closes catalog name opening ∧
          Lacks catalog opening since := by
    rw [← reported]
    simp [Option.mem_toList]
  rw [isQuiet]
  cases isLevel : run.stack.accept catalog name with
  | error issue => simp [Run.offer, isLevel, Closes]
  | ok level => simp [Run.offer, isLevel, Closes, satisfied_cons]

theorem quiet_ofSections (catalog : Catalog) (sections : List (String × Range)) :
    (∀ finding ∈ (ofSections catalog sections).findings,
      finding.issue.code ≠ .requiredSectionMissing) ↔
        Satisfied catalog (ofSections catalog sections).history := by
  induction sections using List.reverseRecOn with
  | nil => simp [ofSections, Satisfied]
  | append_singleton sections entry ih =>
    have recorded := recorded_ofSections catalog sections
    rw [ofSections_concat, recorded.satisfied_offer, ← ih, Run.offer, List.forall_mem_append]

/-- In every run of sections offered to a stack, each event that closes sections reports the deepest of
them that lacks child sections, if there is one, and the whole run is quiet if and only if every section
that was ever opened held what it had to when it was closed. -/
theorem ofSections_reports (catalog : Catalog) (sections : List (String × Range)) :
    let run := ofSections catalog sections
    (∀ opening, (∃ since, IsOpen run.history opening since) ↔
      ∃ frame, run.stack.frames.reverse[opening.level]? = some frame ∧
        frame.name = opening.name ∧ frame.range = opening.range) ∧
    (∀ name range, Reports catalog run.history (run.Closes catalog name)
      (run.stack.offer catalog name range).2) ∧
    Reports catalog run.history (fun _ => True) run.stack.finish.2 ∧
    ((∀ finding ∈ run.findings ++ run.stack.finish.2.toList,
        finding.issue.code ≠ .requiredSectionMissing) ↔
      ∀ later opening before, run.history = later ++ opening :: before →
        ¬ Lacks catalog opening (opening.whileOpen later)) := by
  intro run
  have recorded : Recorded catalog run := recorded_ofSections catalog sections
  refine ⟨fun _ => recorded.isOpen_iff, recorded.reports_offer, recorded.reports_finish, ?_⟩
  have isQuiet : (∀ finding ∈ run.stack.finish.2.toList,
      finding.issue.code ≠ .requiredSectionMissing) ↔
        ¬ ∃ opening since, IsOpen run.history opening since ∧ True ∧
          Lacks catalog opening since := by
    rw [← recorded.reports_finish.reported_iff]
    simp [Option.mem_toList]
  rw [List.forall_mem_append, quiet_ofSections catalog sections, isQuiet]
  constructor
  · rintro ⟨closed, opened⟩ later opening before same
    by_cases isClosed : WasClosed opening later
    · exact closed later opening before same isClosed
    · have deeper : ∀ other ∈ later, opening.level < other.level := by
        simpa [WasClosed] using isClosed
      rw [whileOpen_of_deeper deeper]
      exact fun lacks => opened ⟨opening, later, ⟨⟨before, same⟩, deeper⟩, trivial, lacks⟩
  · intro all
    refine ⟨fun later opening before same _ => all later opening before same, ?_⟩
    rintro ⟨opening, since, ⟨⟨before, same⟩, deeper⟩, -, lacks⟩
    refine all since opening before same ?_
    rwa [whileOpen_of_deeper deeper]

end Run

end ChartLint.Section
