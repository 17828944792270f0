import ChartLint.Proofs.Catalog.Levels
import ChartLint.Proofs.Section.Commit
import Mathlib.Data.List.MinMax
import Mathlib.Order.Nat

/-!
Open sections lie at their depths, whatever is done to the stack. Only a section that may be declared at
any level can lie less deep than the catalog says, and never in place of the root.
-/
namespace ChartLint

/-- The depth of the deepest known section. -/
def Catalog.maxDepth (catalog : Catalog) : Nat :=
  (catalog.sectionDepth.map Prod.snd).foldr max 0

theorem Catalog.depth?_le_maxDepth {catalog : Catalog} {name : String} {depth : Nat}
    (h : catalog.depth? name = some depth) : depth ≤ catalog.maxDepth := by
  have member : depth ∈ catalog.sectionDepth.map Prod.snd :=
    List.mem_map_of_mem (Table.mem_of_find? h)
  exact List.le_max_of_le member (Nat.le_refl depth)

namespace Section

/-- Names of sections, the innermost first, each no deeper than the catalog says. -/
inductive Levelled (catalog : Catalog) : List String → Prop
  | nil : Levelled catalog []
  | cons {name : String} {outer : List String} {depth : Nat} :
      catalog.depth? name = some depth → outer.length ≤ depth →
      (outer.length = depth ∨ catalog.isInheritable name = true ∧ outer ≠ []) →
      Levelled catalog outer → Levelled catalog (name :: outer)

namespace Levelled

variable {catalog : Catalog} {names : List String}

theorem of_suffix (h : Levelled catalog names) {outer : List String} (inside : outer <:+ names) :
    Levelled catalog outer := by
  induction h with
  | nil => rw [List.suffix_nil.mp inside]; exact .nil
  | cons isDepth le level outside ih =>
    rcases List.suffix_cons_iff.mp inside with rfl | inside
    · exact .cons isDepth le level outside
    · exact ih inside

theorem root (h : Levelled catalog names) {name : String} (isLast : names.getLast? = some name) :
    catalog.depth? name = some 0 := by
  obtain ⟨inner, rfl⟩ := List.getLast?_eq_some_iff.mp isLast
  cases h.of_suffix (List.suffix_append inner [name]) with
  | cons isDepth _ level _ =>
    rcases level with rfl | ⟨-, nonempty⟩
    · exact isDepth
    · exact absurd rfl nonempty

theorem level (h : Levelled catalog names) {index : Nat} {name : String}
    (isName : names.reverse[index]? = some name) :
    ∃ depth, catalog.depth? name = some depth ∧ index ≤ depth ∧
      (index = depth ∨ catalog.isInheritable name = true) := by
  induction h with
  | nil => cases isName
  | @cons inner outer depth isDepth le level _ ih =>
    rw [List.reverse_cons, List.getElem?_append, List.length_reverse] at isName
    split at isName
    · exact ih isName
    · obtain ⟨rfl, isIndex⟩ : inner = name ∧ index = outer.length := by
        rw [List.getElem?_singleton] at isName
        split at isName
        · exact ⟨Option.some.inj isName, by omega⟩
        · cases isName
      exact ⟨depth, isDepth, isIndex ▸ le, isIndex ▸ level.imp_right And.left⟩

theorem length_le (h : Levelled catalog names) : names.length ≤ catalog.maxDepth + 1 := by
  cases h with
  | nil => exact Nat.zero_le _
  | cons isDepth le _ _ => exact Nat.succ_le_succ (le.trans (Catalog.depth?_le_maxDepth isDepth))

end Levelled

namespace Stack

def names (stack : Stack) : List String := stack.frames.map Frame.name

theorem names_eq (stack : Stack) : stack.names = stack.entries.map Entry.name := by
  simp [names, entries, Frame.entry]

@[simp] theorem length_names (stack : Stack) : stack.names.length = stack.size := by
  simp [names, size]

/-- Offers a section: the open sections afterwards, and what is reported. A rejected section leaves the
stack as it is. -/
def offer (catalog : Catalog) (stack : Stack) (name : String) (range : Range) :
    Stack × Option Finding :=
  match stack.insert catalog name range with
  | .ok opened => opened
  | .error issue => (stack, some ⟨issue, range⟩)

theorem offer_of_accepted {catalog : Catalog} {stack : Stack} {name : String} {level : Nat}
    (h : stack.accept catalog name = .ok level) (range : Range) :
    stack.offer catalog name range = stack.openAt catalog name range level := by
  simp [offer, insert, h, Except.map]

theorem offer_of_rejected {catalog : Catalog} {stack : Stack} {name : String} {issue : Issue}
    (h : stack.accept catalog name = .error issue) (range : Range) :
    stack.offer catalog name range = (stack, some ⟨issue, range⟩) := by
  simp [offer, insert, h, Except.map]

/-- What can be done to a stack. -/
inductive Operation where
  | offer (name : String) (range : Range)
  | addSettings (settings : List Setting)
  | require (target : String) (names : List String)
  | replaceRequirements (target : String) (options : List (List String))
  | finish

def perform (catalog : Catalog) (stack : Stack) : Operation → Stack
  | .offer name range => (stack.offer catalog name range).1
  | .addSettings settings => stack.addSettings settings
  | .require target names => stack.require target names
  | .replaceRequirements target options => stack.replaceRequirements target options
  | .finish => stack.finish.1

/-- The stack after some operations on an empty one. -/
def after (catalog : Catalog) (operations : List Operation) : Stack :=
  operations.foldl (perform catalog) {}

theorem names_addSettings (stack : Stack) (settings : List Setting) :
    (stack.addSettings settings).names = stack.names := by
  obtain ⟨frames⟩ := stack
  cases frames <;> rfl

theorem names_modify (stack : Stack) (target : String) {f : Frame → Frame}
    (keeps : ∀ frame, (f frame).entry = frame.entry) :
    (stack.modify target f).names = stack.names := by
  rw [names_eq, names_eq, entries_modify stack target keeps]

theorem names_openAt (catalog : Catalog) (stack : Stack) (name : String) (range : Range)
    (level : Nat) :
    (stack.openAt catalog name range level).1.names =
      name :: stack.names.drop (stack.size - level) := by
  rw [names_eq, names_eq, entries_openAt, List.map_cons, List.map_drop]

section Levels

variable {catalog : Catalog} {stack : Stack}

theorem levelled_openAt (h : Levelled catalog stack.names) {name : String} {level : Nat}
    (isLevel : stack.accept catalog name = .ok level) (range : Range) :
    Levelled catalog (stack.openAt catalog name range level).1.names := by
  obtain ⟨depth, isDepth, inside, first, place⟩ := accept_eq_ok isLevel
  have length : (stack.names.drop (stack.size - level)).length = level := by
    rw [List.length_drop, length_names]
    omega
  rw [names_openAt]
  refine .cons isDepth ?_ ?_ (h.of_suffix (List.drop_suffix _ _))
  · rw [length]
    omega
  · rw [length]
    refine place.imp_right fun ⟨_, nonempty, isInheritable, _⟩ => ⟨isInheritable, fun isEmpty => ?_⟩
    rw [isEmpty, List.length_nil] at length
    exact Nat.ne_of_gt nonempty (first length.symm)

theorem levelled_perform (h : Levelled catalog stack.names) (operation : Operation) :
    Levelled catalog (stack.perform catalog operation).names := by
  cases operation with
  | offer name range =>
    cases isLevel : stack.accept catalog name with
    | ok level =>
      rw [perform, offer_of_accepted isLevel]
      exact levelled_openAt h isLevel range
    | error issue =>
      rw [perform, offer_of_rejected isLevel]
      exact h
  | addSettings settings => rwa [perform, names_addSettings]
  | require target names =>
    rw [perform, Stack.require, names_modify]
    · exact h
    · exact fun _ => rfl
  | replaceRequirements target options =>
    rw [perform, Stack.replaceRequirements, names_modify]
    · exact h
    · exact fun _ => rfl
  | finish => exact .nil

theorem levelled_after (catalog : Catalog) (operations : List Operation) :
    Levelled catalog (after catalog operations).names := by
  have run (operations : List Operation) (stack : Stack) (h : Levelled catalog stack.names) :
      Levelled catalog (operations.foldl (perform catalog) stack).names := by
    induction operations generalizing stack with
    | nil => exact h
    | cons operation operations ih => exact ih _ (levelled_perform h operation)
  exact run operations {} .nil

/-- A section that may be declared at any level never takes the place of the root: that would be a
section of its own name, which then has the depth of the root. -/
theorem depthFor_eq_zero (h : Levelled catalog stack.names) (nonempty : 0 < stack.size)
    {name : String} {depth : Nat} (isDepth : catalog.depth? name = some depth) :
    stack.depthFor catalog name depth = 0 ↔ depth = 0 := by
  unfold depthFor
  split
  case isTrue tooDeep =>
    refine iff_of_false ?_ (by omega)
    split
    case isTrue same =>
      obtain ⟨frame, isTop, same⟩ := (Option.any_eq_true ..).mp same
      intro isFirst
      have single : stack.names = [name] := by
        obtain ⟨outer, isFrames⟩ := List.head?_eq_some_iff.mp isTop
        have length : outer = [] := List.length_eq_zero_iff.mp (by simp_all [size])
        simp [names, isFrames, length, (beq_iff_eq.mp same)]
      have isRoot : catalog.depth? name = some 0 := h.root (by rw [single]; rfl)
      rw [isDepth, Option.some.injEq] at isRoot
      omega
    case isFalse => omega
  case isFalse => rfl

theorem accept_eq_duplicateRoot (h : Levelled catalog stack.names) (name : String) :
    (∃ issue, stack.accept catalog name = .error issue ∧ issue.code = .duplicateRootSection) ↔
      catalog.depth? name = some 0 ∧ stack.frames ≠ [] := by
  have nonempty : stack.frames ≠ [] ↔ 0 < stack.size := by
    rw [size, List.length_pos_iff]
  rw [nonempty]
  unfold accept
  cases isDepth : catalog.depth? name with
  | none => simp [Issue.code]
  | some depth =>
    dsimp only
    rw [Option.some.injEq]
    split
    case isTrue tooDeep =>
      have unchanged : depth = 0 → stack.depthFor catalog name depth = 0 := by
        rintro rfl
        simp [depthFor]
      simp only [Except.error.injEq, exists_eq_left', Issue.code, reduceCtorEq, false_iff, not_and]
      omega
    case isFalse =>
      split
      case isTrue first =>
        refine iff_of_true ⟨_, rfl, rfl⟩ ⟨?_, first.2⟩
        exact (depthFor_eq_zero h first.2 isDepth).mp first.1
      case isFalse notFirst =>
        simp only [reduceCtorEq, false_and, exists_false, false_iff]
        rintro ⟨isRoot, nonempty⟩
        exact notFirst ⟨(depthFor_eq_zero h nonempty isDepth).mpr isRoot, nonempty⟩

end Levels

/-- Codes of the sections that are rejected. -/
def rejections : List Code := [.unknownSection, .unexpectedSection, .duplicateRootSection]

theorem code_mem_rejections {catalog : Catalog} {stack : Stack} {name : String} {issue : Issue}
    (h : stack.accept catalog name = .error issue) : issue.code ∈ rejections := by
  unfold accept at h
  split at h
  · obtain rfl := Except.error.inj h
    simp [Issue.code, rejections]
  · dsimp only at h
    split at h
    · obtain rfl := Except.error.inj h
      simp [Issue.code, rejections]
    · split at h
      · obtain rfl := Except.error.inj h
        simp [Issue.code, rejections]
      · cases h

theorem code_of_unmet? {closed : List Frame} {finding : Finding} (h : unmet? closed = some finding) :
    finding.issue.code = .requiredSectionMissing := by
  simp only [unmet?, Option.bind_eq_some_iff, Frame.unmet?, Option.map_eq_some_iff] at h
  obtain ⟨_, _, _, _, rfl⟩ := h
  rfl

/-- What becomes of an offered section. -/
structure Answers (catalog : Catalog) (stack : Stack) (name : String) (range : Range)
    (answer : Stack × Option Finding) : Prop where
  unchanged : ∀ finding, answer.2 = some finding → finding.issue.code ∈ rejections →
    answer.1 = stack
  duplicateRoot : (∃ finding, answer.2 = some finding ∧
      finding.issue.code = .duplicateRootSection) ↔
    catalog.depth? name = some 0 ∧ stack.frames ≠ []
  opened : (∀ finding, answer.2 = some finding → finding.issue.code ∉ rejections) →
    ∃ frame kept, kept <:+ stack.frames ∧
      answer.1.frames = frame :: kept.map (Frame.resolve name) ∧
      answer.1.entries = ⟨name, range, []⟩ :: kept.map Frame.entry

theorem answers_offer {catalog : Catalog} {stack : Stack} (h : Levelled catalog stack.names)
    (name : String) (range : Range) :
    Answers catalog stack name range (stack.offer catalog name range) := by
  have isDuplicate := accept_eq_duplicateRoot h name
  cases isLevel : stack.accept catalog name with
  | ok level =>
    rw [offer_of_accepted isLevel]
    have notRejected : ∀ finding, (stack.openAt catalog name range level).2 = some finding →
        finding.issue.code = .requiredSectionMissing := fun _ => code_of_unmet?
    refine ⟨fun finding isFinding member => ?_, ?_, fun _ => ?_⟩
    · rw [notRejected finding isFinding] at member
      simp [rejections] at member
    · rw [← isDuplicate, isLevel]
      refine iff_of_false ?_ (by simp)
      rintro ⟨finding, isFinding, isCode⟩
      rw [notRejected finding isFinding] at isCode
      cases isCode
    · refine ⟨_, stack.frames.drop (stack.size - level), List.drop_suffix _ _, rfl, ?_⟩
      rw [entries_openAt, entries, List.map_drop]
  | error issue =>
    rw [offer_of_rejected isLevel]
    refine ⟨fun _ _ _ => rfl, ?_, fun accepted => ?_⟩
    · rw [← isDuplicate, isLevel]
      simp
    · exact absurd (code_mem_rejections isLevel) (accepted _ rfl)

/-- After any operations the outermost section is a root, every open section lies at its depth or may
be declared at any level and lies less deep, and a further section is either rejected, with no effect,
or becomes the innermost of those that stay open. -/
theorem after_operations_levels (catalog : Catalog) (operations : List Operation) :
    let stack := after catalog operations
    (∀ frame, stack.frames.getLast? = some frame → catalog.depth? frame.name = some 0) ∧
    (∀ index frame, stack.frames.reverse[index]? = some frame →
      ∃ depth, catalog.depth? frame.name = some depth ∧ index ≤ depth ∧
        (index = depth ∨ catalog.isInheritable frame.name = true)) ∧
    stack.size ≤ catalog.maxDepth + 1 ∧
    ∀ name range, Answers catalog stack name range (stack.offer catalog name range) := by
  intro stack
  have h : Levelled catalog stack.names := levelled_after catalog operations
  refine ⟨fun frame isLast => h.root ?_, fun index frame isFrame => h.level ?_, ?_, answers_offer h⟩
  · rw [names, List.getLast?_map, isLast, Option.map_some]
  · exact (by rw [names, ← List.map_reverse, List.getElem?_map, isFrame, Option.map_some])
  · rw [← length_names]
    exact h.length_le

end Stack

end Section

end ChartLint
