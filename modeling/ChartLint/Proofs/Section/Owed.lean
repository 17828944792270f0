import ChartLint.Proofs.Section.Unmet

/-!
Two stacks that agree but for one section, which on the one has to hold a child section that it need
not hold on the other. They report the same, unless that child section is reported as missing.
-/
namespace ChartLint

open Section (Stack)

/-- Whether a child section is reported as missing. -/
def Issue.lacks (child : String) : Issue → Bool
  | .requiredSectionMissing _ missing => missing.contains child
  | _ => false

/-- Whether a child section is reported as missing from the section of a place. -/
def Finding.Owes (child : String) (debt : Option Range) (finding : Finding) : Prop :=
  debt = some finding.range ∧ finding.issue.lacks child = true

namespace Section

namespace Alternative

/-- Alternatives with a child section that every one of them misses. -/
def owing (child : String) (alternatives : List Alternative) : List Alternative :=
  if alternatives = [] then [⟨[child], 0⟩]
  else alternatives.map fun alternative => ⟨alternative.missing ++ [child], alternative.resolved⟩

/-- Alternatives with a child section that every one of them has met. -/
def paid (alternatives : List Alternative) : List Alternative :=
  if alternatives = [] then [⟨[], 1⟩]
  else alternatives.map fun alternative => ⟨alternative.missing, alternative.resolved + 1⟩

variable {child name : String} {alternatives : List Alternative}

theorem resolve_paid (name : String) (alternatives : List Alternative) :
    (paid alternatives).map (resolve name) = paid (alternatives.map (resolve name)) := by
  by_cases empty : alternatives = []
  · simp [paid, empty, resolve]
  · simp only [paid, empty, List.map_eq_nil_iff, if_false, List.map_map]
    apply List.map_congr_left
    intro alternative _
    simp [resolve, Nat.add_right_comm]

theorem resolve_owing (isOther : name ≠ child) (alternatives : List Alternative) :
    (owing child alternatives).map (resolve name) = owing child (alternatives.map (resolve name)) := by
  by_cases empty : alternatives = []
  · simp [owing, empty, resolve, Ne.symm isOther]
  · simp only [owing, empty, List.map_eq_nil_iff, if_false, List.map_map]
    apply List.map_congr_left
    intro alternative _
    simp [resolve, Ne.symm isOther]

theorem resolve_of_notMem {alternative : Alternative} (missed : child ∉ alternative.missing) :
    alternative.resolve child = alternative := by
  obtain ⟨missing, resolved⟩ := alternative
  simp only [resolve, mk.injEq, List.filter_eq_self, bne_iff_ne, List.count_eq_zero.mpr missed,
    Nat.add_zero, and_true]
  rintro other member rfl
  exact missed member

theorem map_resolve_eq_self (spare : ∀ alternative ∈ alternatives, child ∉ alternative.missing) :
    alternatives.map (resolve child) = alternatives := by
  rw [List.map_congr_left fun alternative member => resolve_of_notMem (spare alternative member),
    List.map_id']

/-- Meeting the child section pays for it. -/
theorem map_resolve_owing (spare : ∀ alternative ∈ alternatives, child ∉ alternative.missing) :
    (owing child alternatives).map (resolve child) = paid alternatives := by
  by_cases empty : alternatives = []
  · simp [owing, paid, empty, resolve]
  · simp only [owing, paid, empty, if_false, List.map_map]
    apply List.map_congr_left
    intro alternative member
    have absent := spare alternative member
    have kept := congrArg missing (resolve_of_notMem absent)
    simp only [resolve] at kept
    simp [resolve, kept, List.count_eq_zero.mpr absent]

theorem map_require (spare : ∀ alternative ∈ alternatives, child ∉ alternative.missing) :
    (if alternatives.isEmpty then [⟨[child], 0⟩] else alternatives.map (require [child])) =
      owing child alternatives := by
  by_cases empty : alternatives = []
  · simp [owing, empty]
  · simp only [owing, empty, List.isEmpty_iff, if_false]
    apply List.map_congr_left
    intro alternative member
    simp [require, spare alternative member]

theorem mem_missing_of_mem_owing {alternative : Alternative}
    (member : alternative ∈ owing child alternatives) : child ∈ alternative.missing := by
  unfold owing at member
  split at member
  · obtain rfl := List.mem_singleton.mp member
    exact List.mem_singleton.mpr rfl
  · obtain ⟨_, -, rfl⟩ := List.mem_map.mp member
    simp

theorem owing_ne_nil (child : String) (alternatives : List Alternative) :
    owing child alternatives ≠ [] := by
  unfold owing
  split
  · exact List.cons_ne_nil _ _
  case isFalse nonempty => simpa using nonempty

end Alternative

namespace Frame

/-- Two frames that agree, unless they are of the section of a debt: then the one has to hold the child
section, or has met it already. -/
structure Alike (child : String) (debt : Option Range) (frame other : Frame) : Prop where
  name : frame.name = other.name
  range : frame.range = other.range
  same : debt ≠ some other.range → frame.alternatives = other.alternatives
  spare : debt = some other.range →
    ∀ alternative ∈ other.alternatives, child ∉ alternative.missing
  owing : debt = some other.range →
    frame.alternatives = Alternative.owing child other.alternatives ∨
      frame.alternatives = Alternative.paid other.alternatives

variable {child : String} {debt : Option Range} {frame other : Frame}

theorem alike_of_ne (isOther : debt ≠ some frame.range) : Alike child debt frame frame where
  name := rfl
  range := rfl
  same _ := rfl
  spare isDebt := absurd isDebt isOther
  owing isDebt := absurd isDebt isOther

theorem Alike.resolve (h : Alike child debt frame other) (name : String) :
    Alike child debt (frame.resolve name) (other.resolve name) where
  name := h.name
  range := h.range
  same isOther := congrArg (List.map (Alternative.resolve name)) (h.same isOther)
  spare isDebt alternative member := by
    obtain ⟨before, isBefore, rfl⟩ := List.mem_map.mp member
    exact fun missing => h.spare isDebt before isBefore (List.mem_of_mem_filter missing)
  owing isDebt := by
    simp only [Frame.resolve]
    rcases h.owing isDebt with isOwing | isPaid
    · by_cases isChild : name = child
      · subst isChild
        right
        rw [isOwing, Alternative.map_resolve_owing (h.spare isDebt),
          Alternative.map_resolve_eq_self (h.spare isDebt)]
      · left
        rw [isOwing, Alternative.resolve_owing isChild]
    · right
      rw [isPaid, Alternative.resolve_paid]

theorem best?_paid (nonempty : other.alternatives ≠ [])
    (isPaid : frame.alternatives = Alternative.paid other.alternatives) :
    frame.best? = other.best?.map fun best => ⟨best.missing, best.resolved + 1⟩ := by
  have atLeast_succ (a b : Alternative) :
      (⟨a.missing, a.resolved + 1⟩ : Alternative).atLeast ⟨b.missing, b.resolved + 1⟩ =
        a.atLeast b := by
    simp [Alternative.atLeast]
  rw [best?, best?, isPaid, Alternative.paid, if_neg nonempty]
  induction other.alternatives using List.reverseRecOn with
  | nil => rfl
  | append_singleton alternatives alternative ih =>
    simp only [List.map_append, List.map_cons, List.map_nil, List.foldl_append, List.foldl_cons,
      List.foldl_nil, ih]
    cases alternatives.foldl _ none with
    | none => rfl
    | some best =>
      simp only [Option.map_some, atLeast_succ]
      split <;> rfl

theorem isSatisfied_paid (isPaid : frame.alternatives = Alternative.paid other.alternatives) :
    frame.isSatisfied = other.isSatisfied := by
  by_cases empty : other.alternatives = []
  · simp [isSatisfied, isPaid, Alternative.paid, empty]
  · simp [isSatisfied, isPaid, Alternative.paid, empty, Function.comp_def]

/-- A section that has to hold the child section is not satisfied, and its finding says so. -/
theorem unmet?_owing (isOwing : frame.alternatives = Alternative.owing child other.alternatives) :
    frame.isSatisfied = false ∧ ∃ missing, child ∈ missing ∧
      frame.unmet? = some ⟨.requiredSectionMissing frame.name missing, frame.range⟩ := by
  have nonempty : frame.alternatives ≠ [] := isOwing ▸ Alternative.owing_ne_nil child _
  have misses : ∀ alternative ∈ frame.alternatives, child ∈ alternative.missing := by
    rw [isOwing]
    exact fun alternative => Alternative.mem_missing_of_mem_owing
  constructor
  · simp only [isSatisfied, Bool.or_eq_false_iff, List.isEmpty_eq_false_iff, List.any_eq_false,
      List.isEmpty_iff]
    exact ⟨nonempty, fun alternative member => List.ne_nil_of_mem (misses alternative member)⟩
  · obtain ⟨before, after, best, isBest, h⟩ := exists_best nonempty
    refine ⟨best.missing, misses best ?_, by rw [unmet?, isBest, Option.map_some]⟩
    rw [h.split]
    simp

theorem unmet?_congr (sameName : frame.name = other.name) (sameRange : frame.range = other.range)
    (same : frame.best?.map Alternative.missing = other.best?.map Alternative.missing) :
    frame.unmet? = other.unmet? := by
  have eq_map (frame : Frame) : frame.unmet? = (frame.best?.map Alternative.missing).map
      fun missing => ⟨.requiredSectionMissing frame.name missing, frame.range⟩ := by
    rw [Option.map_map]
    rfl
  rw [eq_map, eq_map, same, sameName, sameRange]

/-- The frame of the debt owes the child section, or else both frames say the same. -/
theorem Alike.cases (h : Alike child debt frame other) :
    debt = some other.range ∧
        frame.alternatives = Alternative.owing child other.alternatives ∨
      frame.isSatisfied = other.isSatisfied ∧
        (other.isSatisfied = false → frame.unmet? = other.unmet?) := by
  by_cases isDebt : debt = some other.range
  · rcases h.owing isDebt with isOwing | isPaid
    · exact .inl ⟨isDebt, isOwing⟩
    · refine .inr ⟨isSatisfied_paid isPaid, fun unsatisfied => ?_⟩
      have nonempty : other.alternatives ≠ [] := by
        rintro empty
        simp [isSatisfied, empty] at unsatisfied
      apply unmet?_congr h.name h.range
      rw [best?_paid nonempty isPaid, Option.map_map]
      rfl
  · have same := h.same isDebt
    refine .inr ⟨by rw [isSatisfied, isSatisfied, same], fun _ => ?_⟩
    apply unmet?_congr h.name h.range
    rw [best?, best?, same]

theorem Alike.not_owes (h : Alike child debt frame other) {finding : Finding}
    (isFinding : other.unmet? = some finding) : ¬ finding.Owes child debt := by
  obtain ⟨best, isBest, rfl⟩ := Option.map_eq_some_iff.mp isFinding
  rintro ⟨isDebt, lacks⟩
  have nonempty : other.alternatives ≠ [] := by
    intro empty
    simp [best?, empty] at isBest
  obtain ⟨before, after, found, isFound, split⟩ := exists_best nonempty
  obtain rfl := Option.some.inj (isBest.symm.trans isFound)
  refine h.spare isDebt best ?_ (by simpa [Issue.lacks] using lacks)
  rw [split.split]
  simp

end Frame

namespace Stack

theorem unmet?_cons (frame : Frame) (frames : List Frame) :
    unmet? (frame :: frames) = if frame.isSatisfied then unmet? frames else frame.unmet? := by
  cases isSatisfied : frame.isSatisfied <;> simp [unmet?, isSatisfied]

variable {child : String} {debt : Option Range}

/-- Closing sections reports the same, unless the child section is reported as missing. -/
theorem unmet?_alike {frames others : List Frame}
    (h : List.Forall₂ (Frame.Alike child debt) frames others) :
    (unmet? frames = unmet? others ∨
      ∃ finding, unmet? frames = some finding ∧ finding.Owes child debt) ∧
    ∀ finding, unmet? others = some finding → ¬ finding.Owes child debt := by
  induction h with
  | nil => exact ⟨.inl rfl, by simp [unmet?]⟩
  | @cons frame other frames others alike _ ih =>
    rw [unmet?_cons, unmet?_cons]
    constructor
    · rcases alike.cases with ⟨isDebt, isOwing⟩ | ⟨sameSatisfied, sameUnmet⟩
      · obtain ⟨unsatisfied, missing, isMissing, isUnmet⟩ := Frame.unmet?_owing isOwing
        refine .inr ⟨⟨.requiredSectionMissing frame.name missing, frame.range⟩, ?_, ?_, ?_⟩
        · simpa [unsatisfied] using isUnmet
        · rw [isDebt, alike.range]
        · simpa [Issue.lacks] using isMissing
      · rw [sameSatisfied]
        cases isSatisfied : other.isSatisfied with
        | true => simpa using ih.1
        | false => exact .inl (by simpa using sameUnmet isSatisfied)
    · cases other.isSatisfied with
      | true => simpa using ih.2
      | false => exact fun finding isFinding => alike.not_owes (by simpa using isFinding)

variable (catalog : Catalog) {stack other : Stack}

theorem size_of_alike (h : List.Forall₂ (Frame.Alike child debt) stack.frames other.frames) :
    stack.size = other.size := h.length_eq

/-- Whether a section is accepted depends on the names of the open ones alone. -/
theorem accept_alike (h : List.Forall₂ (Frame.Alike child debt) stack.frames other.frames)
    (name : String) : stack.accept catalog name = other.accept catalog name := by
  have sameTop : (stack.top?.any fun frame => frame.name == name) =
      other.top?.any fun frame => frame.name == name := by
    obtain ⟨frames⟩ := stack
    obtain ⟨others⟩ := other
    cases h with
    | nil => rfl
    | cons alike => simp [top?, alike.name]
  have sameDepth : stack.depthFor catalog name = other.depthFor catalog name := by
    funext depth
    rw [depthFor, depthFor, sameTop, size_of_alike h]
  rw [accept, accept, sameDepth, size_of_alike h]

theorem openAt_alike (h : List.Forall₂ (Frame.Alike child debt) stack.frames other.frames)
    (name : String) {range : Range} (isOther : debt ≠ some range) (level : Nat) :
    List.Forall₂ (Frame.Alike child debt) (stack.openAt catalog name range level).1.frames
      (other.openAt catalog name range level).1.frames := by
  rw [openAt, openAt, size_of_alike h]
  refine .cons (Frame.alike_of_ne isOther) ?_
  rw [List.forall₂_map_left_iff, List.forall₂_map_right_iff]
  exact (List.forall₂_drop _ h).imp fun _ _ alike => alike.resolve name

theorem addSettings_alike (h : List.Forall₂ (Frame.Alike child debt) stack.frames other.frames)
    (settings others : List Setting) :
    List.Forall₂ (Frame.Alike child debt) (stack.addSettings settings).frames
      (other.addSettings others).frames := by
  obtain ⟨frames⟩ := stack
  obtain ⟨otherFrames⟩ := other
  cases h with
  | nil => exact .nil
  | cons alike rest => exact .cons ⟨alike.name, alike.range, alike.same, alike.spare, alike.owing⟩ rest

end Stack

end Section

end ChartLint
