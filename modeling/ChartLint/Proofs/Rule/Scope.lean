import ChartLint.Proofs.Section.Tree
import ChartLint.Proofs.Text.Case

/-!
What a section sees of its scope. A section keeps the scope that its settings declared when it was added,
and this scope never differs from its settings. So the type and the mode that a section sees are the values of
the nearest declarations around it, whether they are read from the scopes or from the settings.
-/
namespace ChartLint

theorem Setting.get_scopeOf (settings : List Setting) (key : Scope.Key) :
    (scopeOf settings).get key =
      (named? settings key.settingName).map fun setting => Text.lower setting.value := by
  cases key <;> simp [scopeOf, Scope.ofValues, Scope.get, Option.map_map, Function.comp_def]

theorem Scope.Key.normalizeName_settingName (key : Key) :
    normalizeName key.settingName = key.settingName := by
  cases key <;> decide

namespace Section

namespace Tree

/-- Every section keeps the scope that its settings declare. -/
def ScopesKept (tree : Tree) : Prop :=
  ∀ (id : Nat) (node : Node), tree.nodes[id]? = some node → node.scope = Setting.scopeOf node.settings

theorem scopesKept_empty : ScopesKept {} := by
  simp [ScopesKept]

theorem ScopesKept.attach {tree : Tree} (kept : tree.ScopesKept) {node : Node} (depth : Nat)
    (own : node.scope = Setting.scopeOf node.settings) : (tree.attach depth node).ScopesKept := by
  intro id other isOther
  rw [getElem?_nodes_attach, Option.map_eq_some_iff] at isOther
  obtain ⟨before, isBefore, rfl⟩ := isOther
  have same : before.scope = Setting.scopeOf before.settings := by
    split at isBefore
    · exact Option.some.inj isBefore ▸ own
    · exact kept id before isBefore
  -- A section that lists another one keeps its settings and its scope.
  split
  · exact same
  · exact same

theorem ScopesKept.add {tree : Tree} (kept : tree.ScopesKept) (catalog : Catalog) (name : String) (range : Range)
    (settings : List Setting) : (tree.add catalog name range settings).ScopesKept := by
  unfold Tree.add
  cases isAdded : tree.add? catalog name range settings with
  | none => exact kept
  | some after =>
    obtain ⟨depth, parent, -, -, rfl⟩ := add?_eq_some isAdded
    exact kept.attach depth rfl

theorem scopesKept_ofEntries (catalog : Catalog) (entries : List Entry) : (ofEntries catalog entries).ScopesKept :=
  List.foldlRecOn entries _ scopesKept_empty fun _ kept entry _ =>
    kept.add catalog entry.name entry.range entry.settings

/-- Reading the scopes along a path gives the same as reading the settings. -/
theorem ScopesKept.scopeValue?_eq {tree : Tree} (kept : tree.ScopesKept) (id : Nat) (key : Scope.Key) :
    tree.scopeValue? id key =
      (tree.setting? id key.settingName).map fun setting => Text.lower setting.value := by
  have sameValue (node : Node) (member : node ∈ tree.path id) : node.scope.get key =
      (node.setting? key.settingName).map fun setting => Text.lower setting.value := by
    obtain ⟨other, isNode⟩ := exists_of_mem_path member
    rw [kept other node isNode, Setting.get_scopeOf, Node.setting?, key.normalizeName_settingName]
  rw [scopeValue?, setting?, List.map_findSome?]
  generalize tree.path id = path at sameValue
  induction path with
  | nil => rfl
  | cons node path ih =>
    rw [List.forall_mem_cons] at sameValue
    rw [List.findSome?_cons, List.findSome?_cons, sameValue.1, ih sameValue.2]
    rfl

/-- A section's own setting of a name. -/
def own? (tree : Tree) (id : Nat) (name : String) : Option Setting :=
  tree.nodes[id]?.bind fun node => node.setting? name

/-- The nearest declaration of a setting: a section declares it that encloses a section or is the section
itself, and none declares it that lies between the two. -/
structure Nearest (tree : Tree) (id : Nat) (name : String) (setting : Setting) (outer : Nat) : Prop where
  encloses : tree.Encloses outer id
  declares : tree.own? outer name = some setting
  between : ∀ inner, tree.Encloses outer inner → tree.Encloses inner id → inner ≠ outer →
    tree.own? inner name = none

/-- What encloses a section is the section or encloses the section around it. -/
theorem Encloses.eq_or_parent {tree : Tree} {outer parent id : Nat} (h : tree.Encloses outer id)
    (isParent : tree.parent? id = some parent) : outer = id ∨ tree.Encloses outer parent := by
  cases h with
  | refl => exact .inl rfl
  | step isOther encloses =>
    obtain rfl := Option.some.inj (isParent.symm.trans isOther)
    exact .inr encloses

namespace Rooted

variable {tree : Tree} (rooted : tree.Rooted)

include rooted

/-- A section sees its own declaration, and else what the section around it sees. -/
theorem setting?_eq (id : Nat) (name : String) :
    tree.setting? id name = (tree.own? id name).or
      ((tree.parent? id).bind fun parent => tree.setting? parent name) := by
  simp only [setting?, own?, parent?]
  cases isNode : tree.nodes[id]? with
  | none =>
    rw [path, isNode]
    rfl
  | some node =>
    rw [Option.bind_some, Option.bind_some]
    cases isParent : node.parent with
    | none =>
      rw [path_root isNode isParent, List.findSome?_singleton, Option.bind_none, Option.or_none]
    | some parent =>
      rw [rooted.path_child isNode isParent, List.findSome?_cons, Option.bind_some]
      cases node.setting? name <;> rfl

theorem setting?_eq_some_iff {id : Nat} {name : String} {setting : Setting} :
    tree.setting? id name = some setting ↔ ∃ outer, tree.Nearest id name setting outer := by
  constructor
  · intro isVisible
    induction id using Nat.strong_induction_on with
    | _ id ih =>
      rw [rooted.setting?_eq, Option.or_eq_some_iff] at isVisible
      rcases isVisible with isOwn | ⟨isNone, isAround⟩
      · refine ⟨id, .refl id, isOwn, fun inner inside around isOther => ?_⟩
        exact absurd (Nat.le_antisymm (rooted.encloses_le around) (rooted.encloses_le inside)) isOther
      · obtain ⟨parent, isParent, isVisible⟩ := Option.bind_eq_some_iff.mp isAround
        obtain ⟨outer, nearest⟩ := ih parent (rooted.parent_lt isParent) isVisible
        refine ⟨outer, .step isParent nearest.encloses, nearest.declares, fun inner inside around isOther => ?_⟩
        rcases around.eq_or_parent isParent with rfl | around
        · exact isNone
        · exact nearest.between inner inside around isOther
  · rintro ⟨outer, encloses, declares, between⟩
    induction encloses with
    | refl => rw [rooted.setting?_eq, declares, Option.some_or]
    | @step parent id isParent encloses ih =>
      have before : outer < id := Nat.lt_of_le_of_lt (rooted.encloses_le encloses) (rooted.parent_lt isParent)
      have isNone := between id (.step isParent encloses) (.refl id) (Nat.ne_of_gt before)
      rw [rooted.setting?_eq, isNone, Option.none_or, isParent, Option.bind_some]
      exact ih fun inner inside around => between inner inside (.step isParent around)

end Rooted

end Tree

end Section

namespace Rule.View

open Section (Entry Tree)

/-- What the settings around a section say of a key: the value of the nearest declaration, in lower case. -/
def declared? (view : View) (key : Scope.Key) : Option String :=
  (view.visible? key.settingName).map fun setting => Text.lower setting.value

/-- The scope that the settings around a section declare. -/
def declaredScope (view : View) : Scope := ⟨view.declared? .type, view.declared? .mode⟩

theorem effectiveScope_eq_declaredScope (view : View) (kept : view.tree.ScopesKept) :
    view.tree.effectiveScope view.id = view.declaredScope := by
  have sameValue (key : Scope.Key) : view.tree.scopeValue? view.id key = view.declared? key :=
    kept.scopeValue?_eq view.id key
  have isLower (key : Scope.Key) : (view.declared? key).map Text.lower = view.declared? key := by
    rw [declared?, Option.map_map]
    simp only [Function.comp_def, Text.lower_lower]
  rw [Tree.effectiveScope, sameValue, sameValue, Scope.ofValues, isLower, isLower, declaredScope]

/-- In a tree that sections are added to, the scopes and the settings say the same of a key: a section sees the
value of the nearest declaration, in lower case, and nothing if there is none. The scope in effect, the value in
effect under any spelling of the key and all defaults rest on this value. -/
theorem scope_follows_settings {catalog other : Catalog} {entries : List Entry} {id : Nat} {view : View}
    (isView : View.of? other (Tree.ofEntries catalog entries) id = some view) (key : Scope.Key) :
    view.scopeValue? key = view.declared? key ∧
      (view.scopeValue? key = none ↔ view.visible? key.settingName = none) ∧
      (∀ setting, view.visible? key.settingName = some setting ↔
        ∃ outer, (Tree.ofEntries catalog entries).Nearest id key.settingName setting outer) ∧
      (Tree.ofEntries catalog entries).effectiveScope id = view.declaredScope ∧
      (∀ name, Scope.Key.ofName? (normalizeName name) = some key →
        view.effective? name = (view.declared? key).or (view.default? name)) ∧
      ∀ name, view.default? name =
        (other.lookup name).bind fun descriptor => (descriptor.resolve view.declaredScope).default? := by
  obtain ⟨node, -, rfl⟩ := Option.map_eq_some_iff.mp isView
  have kept := Tree.scopesKept_ofEntries catalog entries
  have rooted := Tree.rooted_ofEntries catalog entries
  have sameValue := kept.scopeValue?_eq id key
  have sameScope := effectiveScope_eq_declaredScope ⟨other, Tree.ofEntries catalog entries, id, node⟩ kept
  refine ⟨sameValue, ?_, fun setting => rooted.setting?_eq_some_iff, sameScope, ?_, ?_⟩
  · rw [scopeValue?, sameValue, Option.map_eq_none_iff]
    rfl
  · intro name isKey
    simp only [effective?, isKey, scopeValue?, sameValue]
    rfl
  · intro name
    rw [default?, sameScope]
    rfl

/-- A setting of free text. -/
def wordSetting (name : String) (default? : Option String) (overrides : List Override) : Descriptor where
  displayName := name
  name := normalizeName name
  kind := .string
  enumValues := []
  minimum := none
  maximum := none
  example? := none
  default?
  pattern := none
  excludes := []
  multiLine := false
  sections := []
  widgets := []
  description := none
  overrides

/-- Types and modes of widgets; charts have a default mode of their own. -/
def chartModes : Catalog where
  settings := [
    ("mode", wordSetting "mode" (some "default")
      [⟨"type == 'chart'", .equal .type "chart", { default? := some "column" }⟩]),
    ("type", wordSetting "type" none [])]
  sectionDepth := [("configuration", 0), ("group", 1), ("widget", 2)]

def typeSetting (value : String) (line : Nat) : Setting :=
  .declare (wordSetting "type" none []) {} value (.span line 0 4)

/-- A widget in a group that declares its type twice, below another type. -/
def nestedTypes : List Entry := [
  ⟨"configuration", .span 0 0 14, [typeSetting "Table" 1]⟩,
  ⟨"group", .span 2 0 6, [typeSetting "Chart" 3, typeSetting "Gauge" 4]⟩,
  ⟨"widget", .span 5 0 7, []⟩]

theorem scope_follows_settings_nestedTypes :
    ∃ view setting outer, View.of? chartModes (Tree.ofEntries chartModes nestedTypes) 2 = some view ∧
      view.visible? "type" = some setting ∧ setting.value = "Chart" ∧
      (Tree.ofEntries chartModes nestedTypes).Nearest 2 "type" setting outer ∧
      view.scopeValue? .type = some "chart" ∧ view.effective? "widget-type" = some "chart" ∧
      view.default? "mode" = some "column" := by
  have evaluated : ((View.of? chartModes (Tree.ofEntries chartModes nestedTypes) 2).map fun view =>
      (view.visible? "type").map Setting.value) = some (some "Chart") := by
    decide +kernel
  obtain ⟨view, isView, evaluated⟩ := Option.map_eq_some_iff.mp evaluated
  obtain ⟨setting, isVisible, isChart⟩ := Option.map_eq_some_iff.mp evaluated
  obtain ⟨sameValue, -, nearest, -, effective, defaults⟩ := scope_follows_settings isView .type
  obtain ⟨outer, isNearest⟩ := (nearest setting).mp isVisible
  have isDeclared : view.declared? .type = some "chart" := by
    rw [declared?, Scope.Key.settingName, isVisible, Option.map_some, isChart]
    rfl
  refine ⟨view, setting, outer, isView, isVisible, isChart, isNearest, sameValue.trans isDeclared, ?_, ?_⟩
  · rw [effective "widget-type" (by decide), isDeclared, Option.some_or]
  · rw [defaults "mode", declaredScope, isDeclared]
    rfl

end Rule.View

end ChartLint
