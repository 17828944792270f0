import ChartLint.Proofs.Catalog.Closed
import ChartLint.Proofs.Catalog.EditDistance

/-!
Suggestions of a loaded catalog. The setting that is suggested is the fewest edits away, and comes first by
name among those that are; a name that is known is its own suggestion.
-/
namespace ChartLint.Catalog

/-- A candidate that is nearer than all before it and as near as all after it. -/
def FirstNearest (candidates : List (Nat × Descriptor)) (best : Nat × Descriptor) : Prop :=
  ∃ before after, candidates = before ++ best :: after ∧
    (∀ other ∈ before, best.1 < other.1) ∧ ∀ other ∈ after, best.1 ≤ other.1

namespace FirstNearest

variable {candidates : List (Nat × Descriptor)} {best other : Nat × Descriptor}

theorem mem (h : FirstNearest candidates best) : best ∈ candidates := by
  obtain ⟨before, after, rfl, -, -⟩ := h
  exact List.mem_append_right _ List.mem_cons_self

theorem le (h : FirstNearest candidates best) (member : other ∈ candidates) : best.1 ≤ other.1 := by
  obtain ⟨before, after, rfl, nearer, near⟩ := h
  rcases List.mem_append.mp member with member | member
  · exact (nearer other member).le
  · rcases List.mem_cons.mp member with rfl | member
    · exact Nat.le_refl _
    · exact near other member

/-- One candidate more is taken only if it is nearer. -/
theorem concat (h : FirstNearest candidates best) (last : Nat × Descriptor) :
    ∃ next, nearer (some best) last = some next ∧ FirstNearest (candidates ++ [last]) next := by
  by_cases isNearer : last.1 < best.1
  · refine ⟨last, if_pos isNearer, candidates, [], rfl, fun other member => ?_, List.forall_mem_nil _⟩
    exact isNearer.trans_le (h.le member)
  · obtain ⟨before, after, rfl, before_gt, after_ge⟩ := h
    refine ⟨best, if_neg isNearer, before, after ++ [last], by simp, before_gt, ?_⟩
    exact List.forall_mem_append.mpr
      ⟨after_ge, List.forall_mem_singleton.mpr (not_lt.mp isNearer)⟩

end FirstNearest

theorem foldl_nearer (first : Nat × Descriptor) (others : List (Nat × Descriptor)) :
    ∃ best, (first :: others).foldl nearer none = some best ∧ FirstNearest (first :: others) best := by
  induction others using List.reverseRecOn with
  | nil => exact ⟨first, rfl, [], [], rfl, List.forall_mem_nil _, List.forall_mem_nil _⟩
  | append_singleton others last ih =>
    obtain ⟨best, isBest, nearest⟩ := ih
    obtain ⟨next, isNext, nearest⟩ := nearest.concat last
    refine ⟨next, ?_, nearest⟩
    rw [← List.cons_append, List.foldl_append, isBest]
    exact isNext

/-- The setting to suggest for a name: at most three edits turn the name into that of the setting, no
fewer turn it into that of another, and more into those that come before it. -/
structure Suggested (catalog : Catalog) (name : String) (setting : Descriptor) : Prop where
  nonempty : normalizeName name ≠ ""
  known : setting ∈ catalog.settings.values
  nearest : ∃ n ≤ 3, Edits n (normalizeName name).toList setting.name.toList ∧
    ∀ other ∈ catalog.settings.values, ∀ m,
      Edits m (normalizeName name).toList other.name.toList →
        n ≤ m ∧ (other.name < setting.name → n < m)

-- Irreducible: unfolding it when two distances are compared would compute rows of them.
/-- The distance of a setting from a name. -/
@[irreducible]
def distance (name : String) (setting : Descriptor) : Nat :=
  editDistance (normalizeName name).toList setting.name.toList

theorem edits_distance (name : String) (setting : Descriptor) :
    Edits (distance name setting) (normalizeName name).toList setting.name.toList := by
  rw [distance]
  exact (EditDistance.isLeast_editDistance _ _).1

theorem distance_le {name : String} {setting : Descriptor} {n : Nat}
    (edits : Edits n (normalizeName name).toList setting.name.toList) : distance name setting ≤ n := by
  rw [distance]
  exact (EditDistance.isLeast_editDistance _ _).2 edits

/-- The settings that are near enough to a name, with their distances. -/
def candidates (catalog : Catalog) (name : String) : List (Nat × Descriptor) :=
  (catalog.settings.values.map fun setting => (distance name setting, setting)).filter
    fun candidate => candidate.1 ≤ suggestionLimit

section Candidates

variable {catalog : Catalog} {name : String}

theorem mem_candidates {n : Nat} {setting : Descriptor} :
    (n, setting) ∈ candidates catalog name ↔
      setting ∈ catalog.settings.values ∧ distance name setting = n ∧ n ≤ 3 := by
  rw [candidates, List.mem_filter, List.mem_map, decide_eq_true_iff, suggestionLimit]
  constructor
  · rintro ⟨⟨found, known, same⟩, near⟩
    cases same
    exact ⟨known, rfl, near⟩
  · rintro ⟨known, rfl, near⟩
    exact ⟨⟨setting, known, rfl⟩, near⟩

theorem candidates_eq_nil_iff : candidates catalog name = [] ↔
    ∀ setting ∈ catalog.settings.values, ∀ n,
      Edits n (normalizeName name).toList setting.name.toList → 3 < n := by
  rw [List.eq_nil_iff_forall_not_mem]
  constructor
  · intro absent setting known n edits
    by_contra near
    have isNear : distance name setting ≤ 3 := (distance_le edits).trans (not_lt.mp near)
    exact absent (distance name setting, setting) (mem_candidates.mpr ⟨known, rfl, isNear⟩)
  · rintro far ⟨n, setting⟩ member
    obtain ⟨known, rfl, near⟩ := mem_candidates.mp member
    exact absurd near (not_le.mpr (far setting known _ (edits_distance name setting)))

theorem suggest_eq (nonempty : normalizeName name ≠ "") : catalog.suggest name =
    ((candidates catalog name).foldl nearer none).map fun best => best.2.displayName := by
  simp [suggest, candidates, distance, nonempty]

theorem suggest_eq_none_iff : catalog.suggest name = none ↔
    normalizeName name = "" ∨ candidates catalog name = [] := by
  by_cases empty : normalizeName name = ""
  · simp [suggest, empty]
  · rw [suggest_eq empty, Option.map_eq_none_iff, or_iff_right empty]
    cases candidates catalog name with
    | nil => simp
    | cons first others =>
      obtain ⟨best, isBest, -⟩ := foldl_nearer first others
      simp [isBest]

end Candidates

section Loaded

variable {source : Source} {catalog : Catalog} {name : String}

theorem key_eq_name (stores : Stores source catalog) {entry : String × Descriptor}
    (member : entry ∈ catalog.settings) : entry.1 = entry.2.name := by
  obtain ⟨_, -, -, same⟩ := stores.settings.built entry member
  exact same

theorem find?_name (stores : Stores source catalog) {setting : Descriptor}
    (known : setting ∈ catalog.settings.values) :
    catalog.settings.find? setting.name = some setting := by
  obtain ⟨entry, member, rfl⟩ := List.mem_map.mp known
  exact stores.settings.sorted.find?_of_mem (key_eq_name stores member ▸ member)

/-- Settings are listed by name. -/
theorem pairwise_candidates (stores : Stores source catalog) (name : String) :
    (candidates catalog name).Pairwise fun a b => a.2.name < b.2.name := by
  apply List.Pairwise.filter
  rw [List.pairwise_map, Table.values, List.pairwise_map]
  refine stores.settings.sorted.imp_of_mem fun {a b} isA isB less => ?_
  rwa [key_eq_name stores isA, key_eq_name stores isB] at less

theorem Suggested.unique (stores : Stores source catalog) {a b : Descriptor}
    (h : Suggested catalog name a) (h' : Suggested catalog name b) : a = b := by
  obtain ⟨n, -, isNear, least⟩ := h.nearest
  obtain ⟨m, -, isNear', least'⟩ := h'.nearest
  have same : a.name = b.name := by
    rcases lt_trichotomy a.name b.name with less | same | less
    · exact absurd (least b h'.known m isNear').1 (not_le.mpr ((least' a h.known n isNear).2 less))
    · exact same
    · exact absurd (least' a h.known n isNear).1 (not_le.mpr ((least b h'.known m isNear').2 less))
  have found := find?_name stores h.known
  rw [same, find?_name stores h'.known] at found
  exact (Option.some.inj found).symm

theorem FirstNearest.suggested (stores : Stores source catalog) (nonempty : normalizeName name ≠ "")
    {n : Nat} {setting : Descriptor} (h : FirstNearest (candidates catalog name) (n, setting)) :
    Suggested catalog name setting := by
  obtain ⟨known, rfl, near⟩ := mem_candidates.mp h.mem
  refine ⟨nonempty, known, _, near, edits_distance name setting, fun other isOther m edits => ?_⟩
  have atLeast := distance_le edits
  by_cases isNear : distance name other ≤ 3
  · have member : (distance name other, other) ∈ candidates catalog name :=
      mem_candidates.mpr ⟨isOther, rfl, isNear⟩
    refine ⟨(h.le member).trans atLeast, fun less => ?_⟩
    -- What comes first by name stands before the best candidate, so it is farther.
    have sorted := pairwise_candidates stores name
    obtain ⟨before, after, split, farther, -⟩ := h
    rw [split] at member sorted
    rcases List.mem_append.mp member with member | member
    · exact (farther _ member).trans_le atLeast
    · rcases List.mem_cons.mp member with same | member
      · rw [(Prod.mk.inj same).2] at less
        exact absurd less (lt_irrefl _)
      · have later := (List.pairwise_cons.mp (List.pairwise_append.mp sorted).2.1).1 _ member
        exact absurd less later.asymm
  · exact ⟨by omega, fun _ => by omega⟩

theorem suggest_eq_some_iff (stores : Stores source catalog) {text : String} :
    catalog.suggest name = some text ↔
      ∃ setting, Suggested catalog name setting ∧ setting.displayName = text := by
  have toSuggested {text : String} (h : catalog.suggest name = some text) :
      ∃ setting, Suggested catalog name setting ∧ setting.displayName = text := by
    have nonempty : normalizeName name ≠ "" := fun empty => by
      rw [suggest_eq_none_iff.mpr (.inl empty)] at h
      cases h
    rw [suggest_eq nonempty] at h
    obtain ⟨best, isBest, isText⟩ := Option.map_eq_some_iff.mp h
    cases isCandidates : candidates catalog name with
    | nil =>
      rw [isCandidates] at isBest
      cases isBest
    | cons first others =>
      obtain ⟨found, isFound, nearest⟩ := foldl_nearer first others
      rw [isCandidates, isFound] at isBest
      cases isBest
      exact ⟨best.2, FirstNearest.suggested stores nonempty (isCandidates ▸ nearest), isText⟩
  refine ⟨toSuggested, ?_⟩
  rintro ⟨setting, suggested, rfl⟩
  cases isResult : catalog.suggest name with
  | none =>
    rcases suggest_eq_none_iff.mp isResult with empty | absent
    · exact absurd empty suggested.nonempty
    · obtain ⟨n, near, edits, -⟩ := suggested.nearest
      exact absurd near (not_le.mpr (candidates_eq_nil_iff.mp absent setting suggested.known n edits))
  | some text =>
    obtain ⟨other, isOther, rfl⟩ := toSuggested isResult
    rw [suggested.unique stores isOther]

theorem Suggested.of_lookup (stores : Stores source catalog) {setting : Descriptor}
    (isFound : catalog.lookup name = some setting) : Suggested catalog name setting := by
  have member := Table.mem_of_find? isFound
  obtain ⟨_, -, built, isKey⟩ := stores.settings.built _ member
  have isName : normalizeName name = setting.name := isKey
  refine ⟨isName ▸ built.nonempty, List.mem_map_of_mem member, 0, Nat.zero_le _, ?_,
    fun other _ m edits => ⟨Nat.zero_le _, fun less => ?_⟩⟩
  · rw [isName]
    exact .nil _
  · -- No edits are needed for the same name only.
    refine Nat.pos_of_ne_zero fun isZero => ?_
    rw [isZero, edits_zero_iff, String.toList_inj, isName] at edits
    exact absurd less (edits ▸ lt_irrefl _)

end Loaded

/-- A catalog suggests nothing for a name without letters, or when more than three edits lead from the name
to that of every setting; else the setting that the fewest edits lead to, the first by name of these. A name
that is known is suggested its own setting. -/
theorem suggest_nearest {source : Source} {catalog : Catalog} (h : ofSource source = .ok catalog)
    (name : String) :
    (catalog.suggest name = none ↔ normalizeName name = "" ∨
      ∀ setting ∈ catalog.settings.values, ∀ n,
        Edits n (normalizeName name).toList setting.name.toList → 3 < n) ∧
    (∀ text, catalog.suggest name = some text ↔
      ∃ setting, Suggested catalog name setting ∧ setting.displayName = text) ∧
    ∀ setting, catalog.lookup name = some setting → catalog.suggest name = some setting.displayName := by
  have stores := (ofSource_eq_ok h).1
  refine ⟨?_, fun text => suggest_eq_some_iff stores, fun setting isFound => ?_⟩
  · rw [suggest_eq_none_iff, candidates_eq_nil_iff]
  · exact (suggest_eq_some_iff stores).mpr ⟨setting, .of_lookup stores isFound, rfl⟩

/-- Two settings at the same distance from a third name. -/
def rhymes : Source where
  settings := [{ displayName := "Cat-1" }, { displayName := "B.at" }, { displayName := "title" }]

theorem suggest_nearest_rhymes :
    ∃ catalog, ofSource rhymes = .ok catalog ∧
      (∃ setting, Suggested catalog "hat" setting ∧ setting.displayName = "B.at") ∧
      (normalizeName "un-known" = "" ∨ ∀ setting ∈ catalog.settings.values, ∀ n,
        Edits n (normalizeName "un-known").toList setting.name.toList → 3 < n) ∧
      ∃ setting, catalog.lookup "CAT" = some setting ∧
        catalog.suggest "CAT" = some setting.displayName := by
  have evaluated : ((ofSource rhymes).toOption.map fun catalog => decide (
      catalog.suggest "hat" = some "B.at" ∧ catalog.suggest "un-known" = none ∧
        (catalog.lookup "CAT").isSome = true)) = some true := by
    decide +kernel
  obtain ⟨catalog, isCatalog, evaluated⟩ := Option.map_eq_some_iff.mp evaluated
  obtain ⟨suggested, absent, isKnown⟩ := of_decide_eq_true evaluated
  obtain ⟨setting, isFound⟩ := Option.isSome_iff_exists.mp isKnown
  have loads := eq_ok_of_toOption isCatalog
  exact ⟨catalog, loads, ((suggest_nearest loads "hat").2.1 "B.at").mp suggested,
    (suggest_nearest loads "un-known").1.mp absent, setting, isFound,
    (suggest_nearest loads "CAT").2.2 setting isFound⟩

end ChartLint.Catalog
