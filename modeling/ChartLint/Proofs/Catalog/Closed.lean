import ChartLint.Catalog
import ChartLint.Proofs.Table
import ChartLint.Proofs.Text.Case

/-!
Catalogs that load. Every section that a source names is known and is kept in lower case, settings are
found under every spelling of their names, and the words that a setting allows are in lower case and
sorted in every scope.
-/
namespace ChartLint

section Except

variable {ε α β : Type}

theorem bind_eq_ok {x : Except ε α} {f : α → Except ε β} {result : β} :
    (x >>= f) = .ok result ↔ ∃ a, x = .ok a ∧ f a = .ok result := by
  cases x with
  | error e => simp [bind, Except.bind]
  | ok a => simp [bind, Except.bind]

theorem eq_ok_of_toOption {result : Except ε α} {value : α}
    (h : result.toOption = some value) : result = .ok value := by
  cases result with
  | error problem => cases h
  | ok found => rw [← Option.some.inj h]

/-- What reading a list gives when reading each of its elements gives a function of the element, and
says something of it. -/
theorem mapM_eq_ok {f : α → Except ε β} {g : α → β} {P : α → Prop}
    (each : ∀ a b, f a = .ok b → b = g a ∧ P a) {list : List α} {result : List β}
    (h : list.mapM f = .ok result) : result = list.map g ∧ ∀ a ∈ list, P a := by
  induction list generalizing result with
  | nil =>
    cases h
    exact ⟨rfl, List.forall_mem_nil _⟩
  | cons a rest ih =>
    rw [List.mapM_cons] at h
    obtain ⟨b, isFirst, h⟩ := bind_eq_ok.mp h
    obtain ⟨others, isRest, h⟩ := bind_eq_ok.mp h
    cases h
    obtain ⟨rfl, isKnown⟩ := each a b isFirst
    obtain ⟨rfl, areKnown⟩ := ih isRest
    exact ⟨rfl, List.forall_mem_cons.mpr ⟨isKnown, areKnown⟩⟩

end Except

/-- Words as a descriptor lists them: in lower case and in strictly increasing order. -/
structure NormalWords (words : List String) : Prop where
  lower : ∀ word ∈ words, Text.lower word = word
  sorted : words.Pairwise (· < ·)

theorem normalWords_normalizeEnum (values : List String) : NormalWords (normalizeEnum values) where
  lower := by
    intro word member
    rw [normalizeEnum, mem_sortNames] at member
    obtain ⟨written, -, rfl⟩ := List.mem_map.mp member
    exact Text.lower_lower written
  sorted := pairwise_sortNames _

namespace Descriptor

theorem normalWords_patched {descriptor : Descriptor} (h : NormalWords descriptor.enumValues)
    (patch : Patch) : NormalWords (descriptor.patched patch).enumValues := by
  cases isPatch : patch.enumValues with
  | none => simpa [patched, isPatch] using h
  | some values => simpa [patched, isPatch] using normalWords_normalizeEnum values

theorem normalWords_resolve {descriptor : Descriptor} (h : NormalWords descriptor.enumValues)
    (scope : Scope) : NormalWords (descriptor.resolve scope).enumValues := by
  unfold resolve
  generalize descriptor.overrides.filter (fun override => override.guard.eval scope) = overrides
  induction overrides generalizing descriptor with
  | nil => exact h
  | cons override overrides ih => exact ih (normalWords_patched h override.patch)

end Descriptor

namespace Catalog

/-- The sections that a source names, by the place where they are named. -/
def Source.named (source : Source) : Reference → List String
  | .settings => source.settings.flatMap SettingSource.sections
  | .inheritableSections => source.inheritableSections
  | .parentSections => source.parentSections.flatMap fun entry => entry.1 :: entry.2
  | .requiredSectionSettings =>
    source.requiredSectionSettings.flatMap fun entry => entry.1 :: entry.2.sections.flatten
  | .widgetRequirementsByType =>
    source.widgetRequirementsByType.flatMap fun entry => entry.2.flatten
  | .sectionAliases => source.sectionAliases.map Prod.snd
  | .freeFormSections => source.freeFormSections

/-- The sections that a catalog names, by the place where they are named. -/
def named (catalog : Catalog) : Reference → List String
  | .settings => catalog.settings.values.flatMap Descriptor.sections
  | .inheritableSections => catalog.inheritable
  | .parentSections => catalog.parents.flatMap fun entry => entry.1 :: entry.2
  | .requiredSectionSettings =>
    catalog.required.flatMap fun entry => entry.1 :: entry.2.sections.flatten
  | .widgetRequirementsByType => catalog.widgetRequirements.flatMap fun entry => entry.2.flatten
  | .sectionAliases => catalog.aliases.values
  | .freeFormSections => catalog.freeForm

theorem knownSection_eq_ok {depths : Table Nat} {reference : Reference} (name found : String)
    (h : knownSection depths reference name = .ok found) :
    found = Text.lower name ∧ Text.lower name ∈ depths.keys := by
  simp only [knownSection] at h
  split at h
  case isTrue isKnown => exact ⟨(Except.ok.inj h).symm, Table.contains_iff.mp isKnown⟩
  case isFalse => cases h

section Names

variable {depths : Table Nat} {reference : Reference}

theorem mapM_knownSection (written stored : List String)
    (h : written.mapM (knownSection depths reference) = .ok stored) :
    stored = written.map Text.lower ∧ ∀ name ∈ written, Text.lower name ∈ depths.keys :=
  mapM_eq_ok knownSection_eq_ok h

theorem mapM_mapM_knownSection {written stored : List (List String)}
    (h : written.mapM (·.mapM (knownSection depths reference)) = .ok stored) :
    stored = written.map (·.map Text.lower) ∧
      ∀ name ∈ written.flatten, Text.lower name ∈ depths.keys := by
  obtain ⟨isLower, known⟩ := mapM_eq_ok mapM_knownSection h
  refine ⟨isLower, fun name member => ?_⟩
  obtain ⟨names, isListed, isName⟩ := List.mem_flatten.mp member
  exact known names isListed name isName

theorem parentEntry_eq_ok (entry : String × List String) (result : String × List String)
    (h : (do
      return (← knownSection depths reference entry.1,
        ← entry.2.mapM (knownSection depths reference)) : Except Error _) = .ok result) :
    result = (Text.lower entry.1, entry.2.map Text.lower) ∧
      ∀ name ∈ entry.1 :: entry.2, Text.lower name ∈ depths.keys := by
  obtain ⟨child, isChild, h⟩ := bind_eq_ok.mp h
  obtain ⟨parents, areParents, h⟩ := bind_eq_ok.mp h
  cases h
  obtain ⟨rfl, isKnown⟩ := knownSection_eq_ok _ _ isChild
  obtain ⟨rfl, areKnown⟩ := mapM_knownSection _ _ areParents
  exact ⟨rfl, List.forall_mem_cons.mpr ⟨isKnown, areKnown⟩⟩

theorem requiredEntry_eq_ok (entry : String × Requirements) (result : String × Requirements)
    (h : (do
      let name ← knownSection depths reference entry.1
      let sections ← entry.2.sections.mapM (·.mapM (knownSection depths reference))
      return (name, ⟨sections, entry.2.settings.map (·.map Text.lower)⟩) :
        Except Error (String × Requirements)) = .ok result) :
    result = (Text.lower entry.1, ⟨entry.2.sections.map (·.map Text.lower),
        entry.2.settings.map (·.map Text.lower)⟩) ∧
      ∀ name ∈ entry.1 :: entry.2.sections.flatten, Text.lower name ∈ depths.keys := by
  obtain ⟨owner, isOwner, h⟩ := bind_eq_ok.mp h
  obtain ⟨sections, areSections, h⟩ := bind_eq_ok.mp h
  cases h
  obtain ⟨rfl, isKnown⟩ := knownSection_eq_ok _ _ isOwner
  obtain ⟨rfl, areKnown⟩ := mapM_mapM_knownSection areSections
  exact ⟨rfl, List.forall_mem_cons.mpr ⟨isKnown, areKnown⟩⟩

theorem widgetEntry_eq_ok (entry : String × List (List String))
    (result : String × List (List String))
    (h : (do
      return (Text.lower entry.1, ← entry.2.mapM (·.mapM (knownSection depths reference))) :
        Except Error _) = .ok result) :
    result = (Text.lower entry.1, entry.2.map (·.map Text.lower)) ∧
      ∀ name ∈ entry.2.flatten, Text.lower name ∈ depths.keys := by
  obtain ⟨alternatives, areAlternatives, h⟩ := bind_eq_ok.mp h
  cases h
  obtain ⟨rfl, areKnown⟩ := mapM_mapM_knownSection areAlternatives
  exact ⟨rfl, areKnown⟩

theorem aliasEntry_eq_ok (entry : String × String) (result : String × String)
    (h : (do return (Text.lower entry.1, ← knownSection depths reference entry.2) :
      Except Error _) = .ok result) :
    result = (Text.lower entry.1, Text.lower entry.2) ∧ Text.lower entry.2 ∈ depths.keys := by
  obtain ⟨canonical, isCanonical, h⟩ := bind_eq_ok.mp h
  cases h
  obtain ⟨rfl, isKnown⟩ := knownSection_eq_ok _ _ isCanonical
  exact ⟨rfl, isKnown⟩

end Names

theorem buildTable_eq_ok {α β : Type} {entry : String → α → Except Error (String × β)}
    {g : String × α → String × β} {P : String × α → Prop}
    (each : ∀ pair result, entry pair.1 pair.2 = .ok result → result = g pair ∧ P pair)
    {source : Table α} {table : Table β} (h : buildTable entry source = .ok table) :
    table = Table.ofList (source.map g) ∧ ∀ pair ∈ source, P pair := by
  obtain ⟨entries, isRead, h⟩ := bind_eq_ok.mp h
  obtain ⟨rfl, all⟩ := mapM_eq_ok each isRead
  cases h
  exact ⟨rfl, all⟩

/-- A descriptor that was built from its source. -/
structure BuiltFrom (depths : Table Nat) (source : SettingSource) (descriptor : Descriptor) :
    Prop where
  displayName : descriptor.displayName = source.displayName
  name : descriptor.name = normalizeName source.displayName
  nonempty : descriptor.name ≠ ""
  enumValues : descriptor.enumValues = normalizeEnum source.enumValues
  sections : descriptor.sections = source.sections.map Text.lower
  known : ∀ name ∈ source.sections, Text.lower name ∈ depths.keys

theorem buildSetting_eq_ok {depths : Table Nat} {source : SettingSource} {descriptor : Descriptor}
    (h : buildSetting depths source = .ok descriptor) : BuiltFrom depths source descriptor := by
  unfold buildSetting at h
  dsimp only at h
  split at h
  · cases h
  case isFalse nonempty =>
    split at h
    · cases h
    · obtain ⟨pattern, -, h⟩ := bind_eq_ok.mp h
      obtain ⟨sections, areSections, h⟩ := bind_eq_ok.mp h
      obtain ⟨overrides, -, h⟩ := bind_eq_ok.mp h
      cases h
      obtain ⟨isLower, known⟩ := mapM_eq_ok knownSection_eq_ok areSections
      exact ⟨rfl, rfl, by simpa using nonempty, rfl, isLower, known⟩

/-- The settings of a catalog, after some sources were read. -/
structure Gathered (depths : Table Nat) (sources : List SettingSource) (settings : Table Descriptor) :
    Prop where
  sorted : settings.Sorted
  built : ∀ entry ∈ settings, ∃ source ∈ sources,
    BuiltFrom depths source entry.2 ∧ entry.1 = entry.2.name
  found : ∀ source ∈ sources, ∃ descriptor,
    BuiltFrom depths source descriptor ∧ settings.find? descriptor.name = some descriptor

theorem Gathered.addSetting {depths : Table Nat} {sources : List SettingSource}
    {settings after : Table Descriptor} {source : SettingSource} (h : Gathered depths sources settings)
    (isAdded : addSetting depths settings source = .ok after) :
    Gathered depths (sources ++ [source]) after := by
  obtain ⟨descriptor, isBuilt, isAdded⟩ := bind_eq_ok.mp isAdded
  have built := buildSetting_eq_ok isBuilt
  split at isAdded
  · cases isAdded
  case isFalse isNew =>
    cases isAdded
    refine ⟨h.sorted.insert _ _, fun entry member => ?_, fun other member => ?_⟩
    · rcases Table.mem_insert member with rfl | member
      · exact ⟨source, List.mem_append_right _ (List.mem_singleton_self _), built, rfl⟩
      · obtain ⟨other, isSource, isEntry⟩ := h.built entry member
        exact ⟨other, List.mem_append_left _ isSource, isEntry⟩
    · rcases List.mem_append.mp member with member | member
      · obtain ⟨earlier, isEarlier, isFound⟩ := h.found other member
        refine ⟨earlier, isEarlier, ?_⟩
        -- The new name is none of those before, so what was found stays.
        rw [Table.find?_insert, if_neg, isFound]
        intro same
        apply isNew
        rw [same, Table.contains, isFound]
        rfl
      · obtain rfl := List.mem_singleton.mp member
        exact ⟨descriptor, built, by rw [Table.find?_insert, if_pos rfl]⟩

theorem gathered_foldlM {depths : Table Nat} {sources : List SettingSource}
    {settings : Table Descriptor} (h : sources.foldlM (addSetting depths) [] = .ok settings) :
    Gathered depths sources settings := by
  induction sources using List.reverseRecOn generalizing settings with
  | nil =>
    cases h
    exact ⟨.nil, List.forall_mem_nil _, List.forall_mem_nil _⟩
  | append_singleton sources source ih =>
    rw [List.foldlM_append] at h
    obtain ⟨before, isBefore, h⟩ := bind_eq_ok.mp h
    rw [List.foldlM_cons] at h
    obtain ⟨after, isAfter, h⟩ := bind_eq_ok.mp h
    cases h
    exact (ih isBefore).addSetting isAfter

/-- What a catalog keeps of a source: all of it, with the names of sections in lower case. -/
structure Stores (source : Source) (catalog : Catalog) : Prop where
  sectionDepth : catalog.sectionDepth =
    .ofList (source.sectionDepth.map fun entry => (Text.lower entry.1, entry.2))
  settings : Gathered catalog.sectionDepth source.settings catalog.settings
  inheritable : catalog.inheritable = sortNames (source.inheritableSections.map Text.lower)
  parents : catalog.parents = .ofList (source.parentSections.map fun entry =>
    (Text.lower entry.1, entry.2.map Text.lower))
  required : catalog.required = .ofList (source.requiredSectionSettings.map fun entry =>
    (Text.lower entry.1, ⟨entry.2.sections.map (·.map Text.lower),
      entry.2.settings.map (·.map Text.lower)⟩))
  widgetRequirements : catalog.widgetRequirements =
    .ofList (source.widgetRequirementsByType.map fun entry =>
      (Text.lower entry.1, entry.2.map (·.map Text.lower)))
  aliases : catalog.aliases = .ofList (source.sectionAliases.map fun entry =>
    (Text.lower entry.1, Text.lower entry.2))
  freeForm : catalog.freeForm = sortNames (source.freeFormSections.map Text.lower)

theorem ofSource_eq_ok {source : Source} {catalog : Catalog} (h : ofSource source = .ok catalog) :
    Stores source catalog ∧ ∀ reference, ∀ name ∈ source.named reference,
      Text.lower name ∈ catalog.sectionDepth.keys := by
  unfold ofSource at h
  dsimp only at h
  generalize isDepths : Table.ofList (source.sectionDepth.map _) = depths at h
  obtain ⟨settings, areSettings, h⟩ := bind_eq_ok.mp h
  obtain ⟨inheritable, areInheritable, h⟩ := bind_eq_ok.mp h
  obtain ⟨parents, areParents, h⟩ := bind_eq_ok.mp h
  obtain ⟨required, areRequired, h⟩ := bind_eq_ok.mp h
  obtain ⟨widgetRequirements, areWidgets, h⟩ := bind_eq_ok.mp h
  obtain ⟨aliases, areAliases, h⟩ := bind_eq_ok.mp h
  obtain ⟨freeForm, areFree, h⟩ := bind_eq_ok.mp h
  cases h
  have gathered := gathered_foldlM areSettings
  obtain ⟨isInheritable, knownInheritable⟩ := mapM_knownSection _ _ areInheritable
  obtain ⟨isParents, knownParents⟩ := buildTable_eq_ok parentEntry_eq_ok areParents
  obtain ⟨isRequired, knownRequired⟩ := buildTable_eq_ok requiredEntry_eq_ok areRequired
  obtain ⟨isWidgets, knownWidgets⟩ := buildTable_eq_ok widgetEntry_eq_ok areWidgets
  obtain ⟨isAliases, knownAliases⟩ := buildTable_eq_ok aliasEntry_eq_ok areAliases
  obtain ⟨isFree, knownFree⟩ := mapM_knownSection _ _ areFree
  refine ⟨⟨isDepths.symm, gathered, by rw [isInheritable], isParents, isRequired, isWidgets,
    isAliases, by rw [isFree]⟩, fun reference name member => ?_⟩
  cases reference with
  | settings =>
    obtain ⟨setting, isSetting, isName⟩ := List.mem_flatMap.mp member
    obtain ⟨_, built, -⟩ := gathered.found setting isSetting
    exact built.known name isName
  | inheritableSections => exact knownInheritable name member
  | parentSections =>
    obtain ⟨entry, isEntry, isName⟩ := List.mem_flatMap.mp member
    exact knownParents entry isEntry name isName
  | requiredSectionSettings =>
    obtain ⟨entry, isEntry, isName⟩ := List.mem_flatMap.mp member
    exact knownRequired entry isEntry name isName
  | widgetRequirementsByType =>
    obtain ⟨entry, isEntry, isName⟩ := List.mem_flatMap.mp member
    exact knownWidgets entry isEntry name isName
  | sectionAliases =>
    obtain ⟨entry, isEntry, rfl⟩ := List.mem_map.mp member
    exact knownAliases entry isEntry
  | freeFormSections => exact knownFree name member

theorem exists_written {α : Type} {entries : List (String × α)} {lowered : String × α → String × α}
    {names : String × α → List String}
    (isLower : ∀ entry, names (lowered entry) = (names entry).map Text.lower) {name : String}
    (member : name ∈ (Table.ofList (entries.map lowered)).flatMap names) :
    ∃ written ∈ entries.flatMap names, name = Text.lower written := by
  obtain ⟨entry, isEntry, isName⟩ := List.mem_flatMap.mp member
  obtain ⟨source, isSource, rfl⟩ := List.mem_map.mp (Table.mem_ofList isEntry)
  rw [isLower] at isName
  obtain ⟨written, isWritten, rfl⟩ := List.mem_map.mp isName
  exact ⟨written, List.mem_flatMap.mpr ⟨source, isSource, isWritten⟩, rfl⟩

/-- A catalog names nothing that its source does not. -/
theorem Stores.named {source : Source} {catalog : Catalog} (h : Stores source catalog)
    {reference : Reference} {name : String} (member : name ∈ catalog.named reference) :
    ∃ written ∈ source.named reference, name = Text.lower written := by
  cases reference with
  | settings =>
    obtain ⟨descriptor, isValue, isName⟩ := List.mem_flatMap.mp member
    obtain ⟨entry, isEntry, rfl⟩ := List.mem_map.mp isValue
    obtain ⟨setting, isSetting, built, -⟩ := h.settings.built entry isEntry
    rw [built.sections] at isName
    obtain ⟨written, isWritten, rfl⟩ := List.mem_map.mp isName
    exact ⟨written, List.mem_flatMap.mpr ⟨setting, isSetting, isWritten⟩, rfl⟩
  | inheritableSections =>
    rw [Catalog.named, h.inheritable, mem_sortNames] at member
    obtain ⟨written, isWritten, rfl⟩ := List.mem_map.mp member
    exact ⟨written, isWritten, rfl⟩
  | parentSections =>
    rw [Catalog.named, h.parents] at member
    exact exists_written (fun _ => rfl) member
  | requiredSectionSettings =>
    rw [Catalog.named, h.required] at member
    exact exists_written (fun entry => by simp [List.map_flatten]) member
  | widgetRequirementsByType =>
    rw [Catalog.named, h.widgetRequirements] at member
    exact exists_written (fun entry => by simp [List.map_flatten]) member
  | sectionAliases =>
    rw [Catalog.named, h.aliases] at member
    obtain ⟨entry, isEntry, rfl⟩ := List.mem_map.mp member
    obtain ⟨source, isSource, rfl⟩ := List.mem_map.mp (Table.mem_ofList isEntry)
    exact ⟨source.2, List.mem_map_of_mem isSource, rfl⟩
  | freeFormSections =>
    rw [Catalog.named, h.freeForm, mem_sortNames] at member
    obtain ⟨written, isWritten, rfl⟩ := List.mem_map.mp member
    exact ⟨written, isWritten, rfl⟩

/-- A catalog whose names are in the form in which they are looked up. -/
structure Closed (catalog : Catalog) : Prop where
  lower : ∀ reference, ∀ name ∈ catalog.named reference, Text.lower name = name
  known : ∀ reference, ∀ name ∈ catalog.named reference, name ∈ catalog.sectionDepth.keys
  /-- A setting has its normalized name as its key. -/
  key : ∀ key descriptor, (key, descriptor) ∈ catalog.settings →
    key = normalizeName descriptor.displayName ∧ key ≠ ""
  lookup : ∀ key descriptor, (key, descriptor) ∈ catalog.settings →
    ∀ spelling, normalizeName spelling = normalizeName descriptor.displayName →
      catalog.lookup spelling = some descriptor
  words : ∀ key descriptor, (key, descriptor) ∈ catalog.settings →
    ∀ scope, NormalWords (descriptor.resolve scope).enumValues

theorem Stores.closed {source : Source} {catalog : Catalog} (h : Stores source catalog)
    (known : ∀ reference, ∀ name ∈ source.named reference,
      Text.lower name ∈ catalog.sectionDepth.keys) : Closed catalog where
  lower := by
    intro reference name member
    obtain ⟨written, -, rfl⟩ := h.named member
    exact Text.lower_lower written
  known := by
    intro reference name member
    obtain ⟨written, isNamed, rfl⟩ := h.named member
    exact known reference written isNamed
  key := by
    intro key descriptor member
    obtain ⟨source, -, built, isKey⟩ := h.settings.built (key, descriptor) member
    dsimp only at isKey built
    rw [isKey, built.name, built.displayName]
    exact ⟨rfl, built.name ▸ built.nonempty⟩
  lookup := by
    intro key descriptor member spelling same
    obtain ⟨source, -, built, isKey⟩ := h.settings.built (key, descriptor) member
    rw [Catalog.lookup, same, built.displayName, ← built.name, ← isKey]
    exact h.settings.sorted.find?_of_mem member
  words := by
    intro key descriptor member scope
    obtain ⟨source, -, built, -⟩ := h.settings.built (key, descriptor) member
    apply Descriptor.normalWords_resolve
    rw [built.enumValues]
    exact normalWords_normalizeEnum source.enumValues

/-- A source that loads gives a closed catalog, in which all that the source says is stored. Every section
that the source names is known, and every setting is found under its name with all its sections. -/
theorem closed_ofSource {source : Source} {catalog : Catalog} (h : ofSource source = .ok catalog) :
    Closed catalog ∧ Stores source catalog ∧
      (∀ reference, ∀ name ∈ source.named reference,
        Text.lower name ∈ catalog.sectionDepth.keys) ∧
      ∀ setting ∈ source.settings, ∃ descriptor, catalog.lookup setting.displayName = some descriptor ∧
        descriptor.displayName = setting.displayName ∧
        descriptor.sections = setting.sections.map Text.lower := by
  obtain ⟨stores, known⟩ := ofSource_eq_ok h
  refine ⟨stores.closed known, stores, known, fun setting member => ?_⟩
  obtain ⟨descriptor, built, isFound⟩ := stores.settings.found setting member
  refine ⟨descriptor, ?_, built.displayName, built.sections⟩
  rw [lookup, ← built.name]
  exact isFound

/-- A source that writes its names in different cases. -/
def mixedCase : Source where
  settings := [
    { displayName := "Sort-Order", kind := .enum, enumValues := ["Value", "name", "value"],
      sections := ["Widget"],
      overrides := [
        { guard := "type == 'chart'", patch := { enumValues := some ["Time", "Name", "NAME"] } }] }]
  sectionDepth := [("Configuration", 0), ("Widget", 1), ("TAGS", 2)]
  inheritableSections := ["tags"]
  parentSections := [("Tags", ["WIDGET"])]
  requiredSectionSettings := [("Configuration", ⟨[["widget"]], [["Sort-Order"]]⟩)]
  widgetRequirementsByType := [("Chart", [["Tags"]])]
  sectionAliases := [("Tag", "TAGS")]
  freeFormSections := ["Tags"]

theorem closed_ofSource_mixedCase :
    ∃ catalog, ofSource mixedCase = .ok catalog ∧ Closed catalog ∧
      (catalog.lookup "SORT order").map (fun descriptor =>
        (descriptor.sections, (descriptor.resolve {}).enumValues,
          (descriptor.resolve { type := some "chart" }).enumValues)) =
        some (["widget"], ["name", "value"], ["name", "time"]) := by
  have isRead : ((ofSource mixedCase).toOption.bind (·.lookup "SORT order")).map (fun descriptor =>
      (descriptor.sections, (descriptor.resolve {}).enumValues,
        (descriptor.resolve { type := some "chart" }).enumValues)) =
      some (["widget"], ["name", "value"], ["name", "time"]) := by
    decide +kernel
  cases loads : ofSource mixedCase with
  | error problem =>
    rw [loads] at isRead
    cases isRead
  | ok catalog =>
    rw [loads] at isRead
    exact ⟨catalog, rfl, (closed_ofSource loads).1, isRead⟩

end Catalog

end ChartLint
