import ChartLint.Proofs.Catalog.Closed
import ChartLint.Proofs.Catalog.Resolve

/-!
Bounds of loaded settings. Loading refuses a setting whose own bounds are the wrong way round, and does
not compare the bounds that overrides give. So a range is inverted in a scope exactly when the bounds in
force there are the wrong way round, and then an override has given one of them.
-/
namespace ChartLint.Catalog

open Override (Decides)

theorem inverted_ne_none {minimum maximum : Option Bound} :
    inverted minimum maximum ≠ none ↔ ∃ least greatest, minimum = some least ∧
      maximum = some greatest ∧ greatest.value.less least.value = true := by
  cases minimum <;> cases maximum <;> simp [inverted]

/-- The bounds that a setting has in a scope. -/
structure BoundsIn (descriptor : Descriptor) (scope : Scope) (least greatest : Bound) : Prop where
  minimum : Decides scope (fun patch => patch.minimum.map some) descriptor.minimum
    descriptor.overrides (some least)
  maximum : Decides scope (fun patch => patch.maximum.map some) descriptor.maximum
    descriptor.overrides (some greatest)

/-- A bound in a scope is the setting's own or is given by an override that holds. -/
theorem given_of_decides {scope : Scope} {bound : Patch → Option Bound} {own value : Option Bound}
    {overrides : List Override}
    (h : Decides scope (fun patch => (bound patch).map some) own overrides value) :
    own = value ∨
      ∃ override ∈ overrides, override.guard.Holds scope ∧ bound override.patch = value := by
  cases h with
  | @last before after override _ split holds gives later =>
    obtain ⟨given, isGiven, rfl⟩ := Option.map_eq_some_iff.mp gives
    have member : override ∈ overrides := split ▸ List.mem_append_right _ List.mem_cons_self
    exact .inr ⟨override, member, holds, isGiven⟩
  | unchanged absent => exact .inl rfl

section Loading

variable {depths : Table Nat} {source : Source} {catalog : Catalog} {descriptor : Descriptor}

theorem inverted_of_buildSetting {setting : SettingSource}
    (h : buildSetting depths setting = .ok descriptor) :
    inverted descriptor.minimum descriptor.maximum = none := by
  unfold buildSetting at h
  dsimp only at h
  split at h
  · cases h
  · split at h
    · cases h
    case h_2 inOrder =>
      obtain ⟨pattern, -, h⟩ := bind_eq_ok.mp h
      obtain ⟨sections, -, h⟩ := bind_eq_ok.mp h
      obtain ⟨overrides, -, h⟩ := bind_eq_ok.mp h
      cases h
      exact Option.eq_none_iff_forall_ne_some.mpr inOrder

/-- What holds of every setting that is built holds of all that are gathered. -/
theorem forall_mem_foldlM {P : Descriptor → Prop}
    (each : ∀ setting descriptor, buildSetting depths setting = .ok descriptor → P descriptor)
    {settings : List SettingSource} {before after : Table Descriptor}
    (h : settings.foldlM (addSetting depths) before = .ok after)
    (earlier : ∀ entry ∈ before, P entry.2) : ∀ entry ∈ after, P entry.2 := by
  induction settings generalizing before with
  | nil =>
    cases h
    exact earlier
  | cons setting settings ih =>
    rw [List.foldlM_cons] at h
    obtain ⟨between, isAdded, h⟩ := bind_eq_ok.mp h
    obtain ⟨descriptor, isBuilt, isAdded⟩ := bind_eq_ok.mp isAdded
    refine ih h fun entry member => ?_
    split at isAdded
    · cases isAdded
    · cases isAdded
      rcases Table.mem_insert member with rfl | member
      · exact each setting descriptor isBuilt
      · exact earlier entry member

theorem foldlM_of_ofSource (h : ofSource source = .ok catalog) :
    ∃ depths, source.settings.foldlM (addSetting depths) [] = .ok catalog.settings := by
  obtain ⟨settings, areSettings, h⟩ := bind_eq_ok.mp h
  obtain ⟨inheritable, -, h⟩ := bind_eq_ok.mp h
  obtain ⟨parents, -, h⟩ := bind_eq_ok.mp h
  obtain ⟨required, -, h⟩ := bind_eq_ok.mp h
  obtain ⟨widgetRequirements, -, h⟩ := bind_eq_ok.mp h
  obtain ⟨aliases, -, h⟩ := bind_eq_ok.mp h
  obtain ⟨freeForm, -, h⟩ := bind_eq_ok.mp h
  cases h
  exact ⟨_, areSettings⟩

theorem inverted_of_lookup {name : String} (h : ofSource source = .ok catalog)
    (isFound : catalog.lookup name = some descriptor) :
    inverted descriptor.minimum descriptor.maximum = none := by
  obtain ⟨depths, areSettings⟩ := foldlM_of_ofSource h
  exact forall_mem_foldlM (fun _ _ => inverted_of_buildSetting) areSettings
    (List.forall_mem_nil _) _ (Table.mem_of_find? isFound)

end Loading

theorem inverted_resolve_ne_none {descriptor : Descriptor} {scope : Scope} :
    inverted (descriptor.resolve scope).minimum (descriptor.resolve scope).maximum ≠ none ↔
      ∃ least greatest, BoundsIn descriptor scope least greatest ∧
        greatest.value.less least.value = true := by
  have resolution := descriptor.resolution_resolve scope
  rw [inverted_ne_none]
  constructor
  · rintro ⟨least, greatest, isLeast, isGreatest, less⟩
    exact ⟨least, greatest, ⟨isLeast ▸ resolution.minimum, isGreatest ▸ resolution.maximum⟩, less⟩
  · rintro ⟨least, greatest, bounds, less⟩
    exact ⟨least, greatest, resolution.minimum.unique bounds.minimum,
      resolution.maximum.unique bounds.maximum, less⟩

/-- A loaded setting has an inverted range in a scope exactly when its bounds there are the wrong way
round and an override that holds has given one of them. Where no such override gives a bound, the range
is in order. -/
theorem inverted_resolve_iff {source : Source} {catalog : Catalog} (h : ofSource source = .ok catalog)
    {name : String} {descriptor : Descriptor} (isFound : catalog.lookup name = some descriptor)
    (scope : Scope) :
    (inverted (descriptor.resolve scope).minimum (descriptor.resolve scope).maximum ≠ none ↔
      ∃ least greatest, BoundsIn descriptor scope least greatest ∧
        greatest.value.less least.value = true ∧
        ∃ override ∈ descriptor.overrides, override.guard.Holds scope ∧
          (override.patch.minimum = some least ∨ override.patch.maximum = some greatest)) ∧
    ((∀ override ∈ descriptor.overrides, override.guard.Holds scope →
        override.patch.minimum = none ∧ override.patch.maximum = none) →
      inverted (descriptor.resolve scope).minimum (descriptor.resolve scope).maximum = none) := by
  have given {least greatest : Bound} (bounds : BoundsIn descriptor scope least greatest)
      (less : greatest.value.less least.value = true) :
      ∃ override ∈ descriptor.overrides, override.guard.Holds scope ∧
        (override.patch.minimum = some least ∨ override.patch.maximum = some greatest) := by
    rcases given_of_decides bounds.minimum with ownLeast | ⟨override, member, holds, gives⟩
    · rcases given_of_decides bounds.maximum with ownGreatest | ⟨override, member, holds, gives⟩
      · -- Both bounds are the setting's own, and loading has compared these.
        exact absurd (inverted_of_lookup h isFound)
          (inverted_ne_none.mpr ⟨least, greatest, ownLeast, ownGreatest, less⟩)
      · exact ⟨override, member, holds, .inr gives⟩
    · exact ⟨override, member, holds, .inl gives⟩
  refine ⟨inverted_resolve_ne_none.trans ⟨?_, ?_⟩, fun absent => ?_⟩
  · rintro ⟨least, greatest, bounds, less⟩
    exact ⟨least, greatest, bounds, less, given bounds less⟩
  · rintro ⟨least, greatest, bounds, less, -⟩
    exact ⟨least, greatest, bounds, less⟩
  · by_contra isInverted
    obtain ⟨least, greatest, bounds, less⟩ := inverted_resolve_ne_none.mp isInverted
    obtain ⟨override, member, holds, gives⟩ := given bounds less
    simp [absent override member holds] at gives

/-- A setting whose override raises the lower bound above the upper one. -/
def raised : Source where
  settings := [
    { displayName := "limit", kind := .integer, minimum := some ⟨.ofNat 0, false⟩,
      maximum := some ⟨.ofNat 10, false⟩,
      overrides := [
        { guard := "type == 'chart'", patch := { minimum := some ⟨.ofNat 20, false⟩ } }] }]

theorem exists_raised :
    ∃ catalog descriptor, ofSource raised = .ok catalog ∧ catalog.lookup "limit" = some descriptor ∧
      inverted (descriptor.resolve { type := some "chart" }).minimum
        (descriptor.resolve { type := some "chart" }).maximum ≠ none ∧
      ∀ override ∈ descriptor.overrides, ¬override.guard.Holds {} := by
  have evaluated : (((ofSource raised).toOption.bind fun catalog => catalog.lookup "limit").map
      fun descriptor =>
        (inverted (descriptor.resolve { type := some "chart" }).minimum
          (descriptor.resolve { type := some "chart" }).maximum).isSome &&
        descriptor.overrides.all fun override => !override.guard.eval {}) = some true := by
    decide +kernel
  obtain ⟨descriptor, isFound, evaluated⟩ := Option.map_eq_some_iff.mp evaluated
  obtain ⟨catalog, isCatalog, isFound⟩ := Option.bind_eq_some_iff.mp isFound
  obtain ⟨isInverted, absent⟩ := Bool.and_eq_true_iff.mp evaluated
  refine ⟨catalog, descriptor, eq_ok_of_toOption isCatalog, isFound,
    Option.isSome_iff_ne_none.mp isInverted, fun override member holds => ?_⟩
  simpa [Scope.Expr.eval_iff.mpr holds] using List.all_eq_true.mp absent override member

/-- A catalog that loads has a setting with an inverted range. -/
theorem inverted_raised :
    ∃ catalog descriptor, ofSource raised = .ok catalog ∧ catalog.lookup "limit" = some descriptor ∧
      inverted (descriptor.resolve { type := some "chart" }).minimum
        (descriptor.resolve { type := some "chart" }).maximum ≠ none := by
  obtain ⟨catalog, descriptor, loads, isFound, isInverted, -⟩ := exists_raised
  exact ⟨catalog, descriptor, loads, isFound, isInverted⟩

theorem inverted_resolve_iff_raised :
    ∃ catalog descriptor, ofSource raised = .ok catalog ∧ catalog.lookup "limit" = some descriptor ∧
      (∃ least greatest, BoundsIn descriptor { type := some "chart" } least greatest ∧
        greatest.value.less least.value = true ∧
        ∃ override ∈ descriptor.overrides, override.guard.Holds { type := some "chart" } ∧
          (override.patch.minimum = some least ∨ override.patch.maximum = some greatest)) ∧
      inverted (descriptor.resolve {}).minimum (descriptor.resolve {}).maximum = none := by
  obtain ⟨catalog, descriptor, loads, isFound, isInverted, absent⟩ := exists_raised
  exact ⟨catalog, descriptor, loads, isFound, (inverted_resolve_iff loads isFound _).1.mp isInverted,
    (inverted_resolve_iff loads isFound {}).2 fun override member holds =>
      absurd holds (absent override member)⟩

end ChartLint.Catalog
