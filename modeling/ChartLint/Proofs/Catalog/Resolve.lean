import ChartLint.Catalog.Descriptor
import ChartLint.Proofs.Text.Case
import Mathlib.Data.List.Induction

/-!
Descriptors in a scope, field by field. Overrides that hold at the same time combine by field and not
by patch: each field is the one given last, and a field that none of them gives stays as it was.
-/
namespace ChartLint

namespace Scope

/-- What an expression says of a scope. Literals are compared in any letter case, and a key that is not
bound is unequal to all of them. -/
def Expr.Holds (scope : Scope) : Expr → Prop
  | equal key literal => ∃ value, scope.get key = some value ∧ Text.lower value = Text.lower literal
  | notEqual key literal =>
    ∀ value, scope.get key = some value → Text.lower value ≠ Text.lower literal
  | not operand => ¬operand.Holds scope
  | and left right => left.Holds scope ∧ right.Holds scope
  | or left right => left.Holds scope ∨ right.Holds scope

theorem binds_iff {scope : Scope} {key : Key} {literal : String} :
    scope.binds key literal = true ↔ (Expr.equal key literal).Holds scope := by
  simp [binds, Option.any_eq_true, Text.equalIgnoringCase_iff, Expr.Holds]

theorem Expr.eval_iff {scope : Scope} {expr : Expr} : expr.eval scope = true ↔ expr.Holds scope := by
  induction expr with
  | equal key literal => exact binds_iff
  | notEqual key literal =>
    rw [eval, Bool.not_eq_true', ← Bool.not_eq_true, binds_iff]
    simp [Holds]
  | not operand ih => simp [eval, Holds, ← ih]
  | and left right ihLeft ihRight => simp [eval, Holds, ← ihLeft, ← ihRight]
  | or left right ihLeft ihRight => simp [eval, Holds, ← ihLeft, ← ihRight]

end Scope

namespace Override

variable {α : Type} {scope : Scope} {field : Patch → Option α} {base value : α}
  {overrides : List Override}

/-- What a field is in a scope: what the last override gives that holds and gives the field, and else
what it was. -/
inductive Decides (scope : Scope) (field : Patch → Option α) (base : α) (overrides : List Override) :
    α → Prop where
  | last {before after : List Override} {override : Override} {value : α}
      (split : overrides = before ++ override :: after) (holds : override.guard.Holds scope)
      (gives : field override.patch = some value)
      (later : ∀ other ∈ after, other.guard.Holds scope → field other.patch = none) :
      Decides scope field base overrides value
  | unchanged (absent : ∀ override ∈ overrides, override.guard.Holds scope → field override.patch = none) :
      Decides scope field base overrides base

theorem decides_concat {override : Override} :
    Decides scope field base (overrides ++ [override]) value ↔
      override.guard.Holds scope ∧ field override.patch = some value ∨
        (override.guard.Holds scope → field override.patch = none) ∧
          Decides scope field base overrides value := by
  constructor
  · intro h
    cases h with
    | @last before after found _ split holds gives later =>
      rcases List.eq_nil_or_concat after with rfl | ⟨after, final, rfl⟩
      · obtain ⟨-, same⟩ := List.append_inj' split rfl
        cases same
        exact .inl ⟨holds, gives⟩
      · rw [List.concat_eq_append] at split later
        rw [← List.cons_append, ← List.append_assoc] at split
        obtain ⟨isFront, same⟩ := List.append_inj' split rfl
        cases same
        obtain ⟨others, isLast⟩ := List.forall_mem_append.mp later
        exact .inr ⟨isLast override (List.mem_singleton_self _), .last isFront holds gives others⟩
    | unchanged absent =>
      obtain ⟨others, isLast⟩ := List.forall_mem_append.mp absent
      exact .inr ⟨isLast override (List.mem_singleton_self _), .unchanged others⟩
  · rintro (⟨holds, gives⟩ | ⟨absent, h⟩)
    · exact .last rfl holds gives (List.forall_mem_nil _)
    · cases h with
      | @last before after found _ split holds gives later =>
        have split : overrides ++ [override] = before ++ found :: (after ++ [override]) := by
          rw [split, List.append_assoc, List.cons_append]
        exact .last split holds gives
          (List.forall_mem_append.mpr ⟨later, List.forall_mem_singleton.mpr absent⟩)
      | unchanged others =>
        exact .unchanged (List.forall_mem_append.mpr ⟨others, List.forall_mem_singleton.mpr absent⟩)

theorem Decides.unique {other : α} (h : Decides scope field base overrides value)
    (h' : Decides scope field base overrides other) : value = other := by
  induction overrides using List.reverseRecOn with
  | nil =>
    cases h with
    | last split => simp at split
    | unchanged =>
      cases h' with
      | last split => simp at split
      | unchanged => rfl
  | append_singleton overrides final ih =>
    rcases decides_concat.mp h with ⟨holds, gives⟩ | ⟨absent, h⟩
    · rcases decides_concat.mp h' with ⟨-, gives'⟩ | ⟨absent, -⟩
      · exact Option.some.inj (gives.symm.trans gives')
      · simp [absent holds] at gives
    · rcases decides_concat.mp h' with ⟨holds, gives⟩ | ⟨-, h'⟩
      · simp [absent holds] at gives
      · exact ih h h'

/-- Where no override decides, the value stays, so deciding again changes nothing. -/
theorem Decides.again (h : Decides scope field base overrides value) :
    Decides scope field value overrides value := by
  cases h with
  | last split holds gives later => exact .last split holds gives later
  | unchanged absent => exact .unchanged absent

end Override

namespace Descriptor

open Override (Decides)

/-- What no patch replaces is the same in every scope. -/
theorem resolve_unpatched {α : Type} (f : Descriptor → α)
    (patched : ∀ descriptor patch, f (Descriptor.patched descriptor patch) = f descriptor)
    (descriptor : Descriptor) (scope : Scope) : f (descriptor.resolve scope) = f descriptor := by
  unfold resolve
  generalize descriptor.overrides.filter (fun override => override.guard.eval scope) = overrides
  induction overrides generalizing descriptor with
  | nil => rfl
  | cons override overrides ih => rw [List.foldl_cons, ih, patched]

theorem name_resolve (descriptor : Descriptor) (scope : Scope) :
    (descriptor.resolve scope).name = descriptor.name :=
  resolve_unpatched Descriptor.name (fun _ _ => rfl) descriptor scope

/-- A field on which a patch acts by replacing it is decided by the overrides. -/
theorem decides_foldl {α : Type} {field : Patch → Option α} {get : Descriptor → α}
    (patched : ∀ descriptor patch, get (Descriptor.patched descriptor patch) =
      (field patch).getD (get descriptor))
    (descriptor : Descriptor) (scope : Scope) (overrides : List Override) :
    Decides scope field (get descriptor) overrides
      (get ((overrides.filter fun override => override.guard.eval scope).foldl
        (fun resolved override => resolved.patched override.patch) descriptor)) := by
  induction overrides using List.reverseRecOn with
  | nil => exact .unchanged (List.forall_mem_nil _)
  | append_singleton overrides final ih =>
    rw [Override.decides_concat, List.filter_append, List.foldl_append, List.filter_cons, List.filter_nil]
    by_cases holds : final.guard.eval scope = true
    · rw [if_pos holds, List.foldl_cons, List.foldl_nil, patched]
      cases gives : field final.patch with
      | none => exact .inr ⟨fun _ => rfl, ih⟩
      | some value => exact .inl ⟨Scope.Expr.eval_iff.mp holds, rfl⟩
    · rw [if_neg holds, List.foldl_nil]
      exact .inr ⟨fun holds' => absurd (Scope.Expr.eval_iff.mpr holds') holds, ih⟩

/-- A descriptor with what patches may replace taken from another. -/
def withFieldsOf (descriptor resolved : Descriptor) : Descriptor :=
  { descriptor with
    kind := resolved.kind
    enumValues := resolved.enumValues
    minimum := resolved.minimum
    maximum := resolved.maximum
    example? := resolved.example?
    default? := resolved.default? }

/-- A descriptor in a scope: what overrides may replace is decided by them, and all else is as it was. -/
structure Resolution (descriptor : Descriptor) (scope : Scope) (resolved : Descriptor) : Prop where
  kind : Decides scope Patch.kind descriptor.kind descriptor.overrides resolved.kind
  enumValues : Decides scope (fun patch => patch.enumValues.map normalizeEnum)
    descriptor.enumValues descriptor.overrides resolved.enumValues
  minimum : Decides scope (fun patch => patch.minimum.map some)
    descriptor.minimum descriptor.overrides resolved.minimum
  maximum : Decides scope (fun patch => patch.maximum.map some)
    descriptor.maximum descriptor.overrides resolved.maximum
  example? : Decides scope (fun patch => patch.example?.map some)
    descriptor.example? descriptor.overrides resolved.example?
  default? : Decides scope (fun patch => patch.default?.map some)
    descriptor.default? descriptor.overrides resolved.default?
  others : resolved = descriptor.withFieldsOf resolved

theorem or_eq_getD {α : Type} (given earlier : Option α) :
    given.or earlier = (given.map some).getD earlier := by
  cases given <;> rfl

theorem resolution_resolve (descriptor : Descriptor) (scope : Scope) :
    Resolution descriptor scope (descriptor.resolve scope) where
  kind := decides_foldl (fun _ _ => rfl) descriptor scope descriptor.overrides
  enumValues := decides_foldl (fun _ _ => rfl) descriptor scope descriptor.overrides
  minimum := decides_foldl (fun _ _ => or_eq_getD _ _) descriptor scope descriptor.overrides
  maximum := decides_foldl (fun _ _ => or_eq_getD _ _) descriptor scope descriptor.overrides
  example? := decides_foldl (fun _ _ => or_eq_getD _ _) descriptor scope descriptor.overrides
  default? := decides_foldl (fun _ _ => or_eq_getD _ _) descriptor scope descriptor.overrides
  others := resolve_unpatched (·.withFieldsOf (descriptor.resolve scope)) (fun _ _ => rfl)
    descriptor scope

theorem Resolution.unique {descriptor resolved other : Descriptor} {scope : Scope}
    (h : Resolution descriptor scope resolved) (h' : Resolution descriptor scope other) :
    resolved = other := by
  rw [h.others, h'.others, withFieldsOf, withFieldsOf, h.kind.unique h'.kind,
    h.enumValues.unique h'.enumValues, h.minimum.unique h'.minimum, h.maximum.unique h'.maximum,
    h.example?.unique h'.example?, h.default?.unique h'.default?]

/-- A descriptor that is resolved is its own resolution in that scope. -/
theorem Resolution.again {descriptor resolved : Descriptor} {scope : Scope}
    (h : Resolution descriptor scope resolved) : Resolution resolved scope resolved := by
  have same : resolved.overrides = descriptor.overrides :=
    (congrArg Descriptor.overrides h.others).trans rfl
  refine ⟨?_, ?_, ?_, ?_, ?_, ?_, rfl⟩
  all_goals rw [same]
  exacts [h.kind.again, h.enumValues.again, h.minimum.again, h.maximum.again, h.example?.again,
    h.default?.again]

/-- Resolving gives the one descriptor whose fields are each decided by the last override that holds in the
scope and gives the field. Resolving it again in that scope gives the same. -/
theorem resolve_eq_iff_resolution (descriptor : Descriptor) (scope : Scope) :
    (∀ resolved, descriptor.resolve scope = resolved ↔ Resolution descriptor scope resolved) ∧
      (descriptor.resolve scope).resolve scope = descriptor.resolve scope := by
  have isResolution := resolution_resolve descriptor scope
  refine ⟨fun resolved => ⟨?_, fun h => isResolution.unique h⟩, ?_⟩
  · rintro rfl
    exact isResolution
  · exact (resolution_resolve _ scope).unique isResolution.again

end Descriptor

end ChartLint
