import ChartLint.Proofs.Catalog.Closed
import ChartLint.Proofs.Validation.Remark

/-!
The settings of sections. The lines of a section that are accepted are grouped by name: of a setting of
many lines all values are kept, of any other the last line counts. To record the lines one by one gives
these settings, and checks the value of each.
-/
namespace ChartLint.Validation

/-- A setting line that is recorded in its section. -/
structure Accepted where
  line : Line.SettingLine
  /-- The descriptor, resolved in the scope of the line. -/
  spec : Descriptor

namespace Accepted

def name (accepted : Accepted) : String := normalizeName accepted.line.name

/-- The setting of a line by itself. -/
def setting (accepted : Accepted) : Setting :=
  ⟨accepted.spec, accepted.line.value, [accepted.line.value], accepted.line.nameRange⟩

/-- The setting of lines of one name. Values of many lines add up to those of the first; of others the
last line counts. -/
def merged (first : Accepted) (later : List Accepted) : Setting :=
  if first.spec.multiLine then
    { first.setting with values := (first :: later).map fun accepted => accepted.line.value }
  else (later.getLast?.getD first).setting

theorem merged_nil (accepted : Accepted) : merged accepted [] = accepted.setting := by
  unfold merged
  split <;> rfl

/-- The lines of a name. -/
def ofName (declared : List Accepted) (name : String) : List Accepted :=
  declared.filter fun accepted => accepted.name == name

def ofGroup? : List Accepted → Option Setting
  | [] => none
  | first :: later => some (merged first later)

/-- The settings of lines, in the order in which their names are first declared. -/
def grouped (declared : List Accepted) : List Setting :=
  (declared.map name).eraseDups.filterMap fun name => ofGroup? (ofName declared name)

/-- Lines of one name have descriptors of this name that agree on whether values add up. -/
structure Consistent (declared : List Accepted) : Prop where
  spec : ∀ accepted ∈ declared, accepted.spec.name = accepted.name
  multiLine : ∀ accepted ∈ declared, ∀ other ∈ declared, accepted.name = other.name →
    accepted.spec.multiLine = other.spec.multiLine

end Accepted

section Lists

variable {α : Type} [BEq α] [LawfulBEq α]

/-- Names that come again are left out. -/
theorem eraseDups_concat (l : List α) (a : α) :
    (l ++ [a]).eraseDups = if l.contains a then l.eraseDups else l.eraseDups ++ [a] := by
  rw [List.eraseDups_append]
  split
  case isTrue isIn =>
    have none : [a].removeAll l = [] := List.filter_cons_of_neg (by simpa using isIn)
    rw [none, List.eraseDups_nil, List.append_nil]
  case isFalse isNew =>
    have one : [a].removeAll l = [a] := List.filter_cons_of_pos (by simpa using isNew)
    rw [one, List.eraseDups_cons, List.filter_nil, List.eraseDups_nil]

theorem nodup_eraseDups (l : List α) : l.eraseDups.Nodup := by
  induction l using List.reverseRecOn with
  | nil => exact List.nodup_nil
  | append_singleton l a ih =>
    rw [eraseDups_concat]
    split
    case isTrue => exact ih
    case isFalse isNew =>
      rw [List.nodup_append_comm, List.singleton_append, List.nodup_cons, List.mem_eraseDups]
      exact ⟨by simpa using isNew, ih⟩

end Lists

namespace Scan

/-- The settings of a section after one more. -/
def recordIn (settings : List Setting) (setting : Setting) : List Setting :=
  match Setting.named? settings setting.name with
  | some earlier => replace settings (merge earlier setting).1
  | none => settings ++ [setting]

/-- What a setting reports beside its effect: its value, that it is repeated, or that others exclude it. -/
def recordFindings (settings : List Setting) (setting : Setting) : List Finding :=
  match Setting.named? settings setting.name with
  | some earlier => (merge earlier setting).2
  | none => setting.check.toList ++ checkExclusions settings setting

end Scan

namespace Accepted

variable {declared : List Accepted} {accepted : Accepted} {setting : Setting} {name : String}

theorem Consistent.of_append {others : List Accepted} (h : Consistent (declared ++ others)) :
    Consistent declared where
  spec accepted member := h.spec accepted (List.mem_append_left _ member)
  multiLine accepted member other isOther :=
    h.multiLine accepted (List.mem_append_left _ member) other (List.mem_append_left _ isOther)

theorem mem_ofName : accepted ∈ ofName declared name ↔ accepted ∈ declared ∧ accepted.name = name := by
  simp [ofName]

theorem ofName_concat (declared : List Accepted) (accepted : Accepted) (name : String) :
    ofName (declared ++ [accepted]) name =
      if accepted.name = name then ofName declared name ++ [accepted] else ofName declared name := by
  by_cases same : accepted.name = name <;> simp [ofName, List.filter_append, same]

/-- The descriptor of a group is that of one of its lines: the first of a setting of many lines. -/
theorem merged_cases (first : Accepted) (later : List Accepted) :
    first.spec.multiLine = true ∧ merged first later =
        { first.setting with values := (first :: later).map fun accepted => accepted.line.value } ∨
      first.spec.multiLine = false ∧ ∃ last ∈ first :: later, merged first later = last.setting := by
  unfold merged
  split
  case isTrue multiLine => exact .inl ⟨multiLine, rfl⟩
  case isFalse single =>
    refine .inr ⟨by simpa using single, _, ?_, rfl⟩
    cases isLast : later.getLast? with
    | none => exact List.mem_cons_self
    | some last => exact List.mem_cons_of_mem _ (List.mem_of_getLast? isLast)

section Group

variable {first : Accepted} {later : List Accepted} (h : Consistent declared)
  (isGroup : ofName declared name = first :: later)
include h isGroup

theorem Consistent.spec_merged : (merged first later).name = name ∧
    (merged first later).spec.multiLine = first.spec.multiLine := by
  have member {accepted : Accepted} (isIn : accepted ∈ first :: later) :
      accepted ∈ declared ∧ accepted.name = name := mem_ofName.mp (isGroup ▸ isIn)
  obtain ⟨isFirst, isName⟩ := member List.mem_cons_self
  rcases merged_cases first later with ⟨-, isMerged⟩ | ⟨-, last, isLast, isMerged⟩
  · rw [isMerged]
    exact ⟨(h.spec first isFirst).trans isName, rfl⟩
  · obtain ⟨isLast, isLastName⟩ := member isLast
    rw [isMerged]
    exact ⟨(h.spec last isLast).trans isLastName,
      h.multiLine last isLast first isFirst (isLastName.trans isName.symm)⟩

end Group

theorem exists_ofName (member : name ∈ declared.map Accepted.name) :
    ∃ first later, ofName declared name = first :: later := by
  obtain ⟨accepted, isIn, isName⟩ := List.mem_map.mp member
  exact List.exists_cons_of_ne_nil (List.ne_nil_of_mem (mem_ofName.mpr ⟨isIn, isName⟩))

theorem mem_grouped (h : Consistent declared) : setting ∈ grouped declared ↔
    ∃ first later, ofName declared setting.name = first :: later ∧ setting = merged first later := by
  simp only [grouped, List.mem_filterMap, List.mem_eraseDups]
  constructor
  · rintro ⟨name, member, isSetting⟩
    obtain ⟨first, later, isGroup⟩ := exists_ofName member
    rw [isGroup] at isSetting
    obtain rfl := Option.some.inj isSetting
    rw [(h.spec_merged isGroup).1]
    exact ⟨first, later, isGroup, rfl⟩
  · rintro ⟨first, later, isGroup, isMerged⟩
    obtain ⟨isIn, isName⟩ := mem_ofName.mp (isGroup ▸ List.mem_cons_self : first ∈ ofName declared _)
    refine ⟨setting.name, List.mem_map.mpr ⟨first, isIn, isName⟩, ?_⟩
    rw [isGroup, isMerged]
    rfl

theorem map_name_grouped (h : Consistent declared) :
    (grouped declared).map Setting.name = (declared.map Accepted.name).eraseDups := by
  have isName : ∀ name ∈ (declared.map Accepted.name).eraseDups,
      (ofGroup? (ofName declared name)).map Setting.name = some name := by
    intro name member
    obtain ⟨first, later, isGroup⟩ := exists_ofName (List.mem_eraseDups.mp member)
    rw [isGroup]
    exact congrArg some (h.spec_merged isGroup).1
  rw [grouped, List.map_filterMap, List.filterMap_congr isName, List.filterMap_some]

theorem named?_grouped (h : Consistent declared) (name : String) :
    Setting.named? (grouped declared) name = ofGroup? (ofName declared name) := by
  cases isNamed : Setting.named? (grouped declared) name with
  | some setting =>
    obtain rfl : setting.name = name := by simpa using List.find?_some isNamed
    obtain ⟨first, later, isGroup, rfl⟩ := (mem_grouped h).mp (List.mem_of_find?_eq_some isNamed)
    rw [isGroup]
    rfl
  | none =>
    cases isGroup : ofName declared name with
    | nil => rfl
    | cons first later =>
      have isName := (h.spec_merged isGroup).1
      have member : merged first later ∈ grouped declared :=
        (mem_grouped h).mpr ⟨first, later, by rw [isName, isGroup], rfl⟩
      have isOther := List.find?_eq_none.mp isNamed _ member
      exact absurd (beq_iff_eq.mpr isName) isOther

theorem merged_concat {first : Accepted} {later : List Accepted} (h : Consistent declared)
    (isGroup : ofName declared name = first :: later) (accepted : Accepted) :
    merged first (later ++ [accepted]) = (Scan.merge (merged first later) accepted.setting).1 := by
  have sameLines := (h.spec_merged isGroup).2
  cases multiLine : first.spec.multiLine with
  | true =>
    rw [Scan.merge, sameLines, multiLine]
    simp [merged, multiLine, setting]
  | false =>
    rw [Scan.merge, sameLines, multiLine]
    simp [merged, multiLine]

theorem contains_name (declared : List Accepted) (name : String) :
    (declared.map Accepted.name).contains name = !(ofName declared name).isEmpty := by
  rw [Bool.eq_iff_iff]
  simp [ofName]

theorem grouped_concat_new (isNew : ofName declared accepted.name = []) :
    grouped (declared ++ [accepted]) = grouped declared ++ [accepted.setting] := by
  have unseen : (declared.map Accepted.name).contains accepted.name = false := by
    rw [contains_name, isNew]
    rfl
  have others : ∀ name ∈ (declared.map Accepted.name).eraseDups,
      ofGroup? (ofName (declared ++ [accepted]) name) = ofGroup? (ofName declared name) := by
    intro name member
    have isOther : accepted.name ≠ name := by
      rintro rfl
      rw [List.mem_eraseDups, ← List.contains_iff_mem, unseen] at member
      cases member
    rw [ofName_concat, if_neg isOther]
  have here : ofGroup? (ofName (declared ++ [accepted]) accepted.name) = some accepted.setting := by
    rw [ofName_concat, if_pos rfl, isNew]
    exact congrArg some (merged_nil accepted)
  rw [grouped, List.map_append, List.map_singleton, eraseDups_concat, unseen, if_neg (by simp),
    List.filterMap_append, List.filterMap_congr others, ← grouped]
  simp only [List.filterMap_cons, here, List.filterMap_nil]

theorem grouped_concat_repeated {first : Accepted} {later : List Accepted} (h : Consistent declared)
    (isGroup : ofName declared accepted.name = first :: later)
    (isSpec : accepted.setting.name = accepted.name) :
    grouped (declared ++ [accepted]) =
      Scan.replace (grouped declared) (Scan.merge (merged first later) accepted.setting).1 := by
  have seen : (declared.map Accepted.name).contains accepted.name = true := by
    rw [contains_name, isGroup]
    rfl
  have isMerged : (Scan.merge (merged first later) accepted.setting).1.name = accepted.name :=
    (Scan.name_merge ((h.spec_merged isGroup).1.trans isSpec.symm)).1.trans isSpec
  rw [grouped, List.map_append, List.map_singleton, eraseDups_concat, seen, if_pos rfl, Scan.replace,
    grouped, List.map_filterMap]
  apply List.filterMap_congr
  intro name member
  obtain ⟨head, tail, isNamed⟩ := exists_ofName (List.mem_eraseDups.mp member)
  have isName := (h.spec_merged isNamed).1
  by_cases isHere : accepted.name = name
  · subst isHere
    obtain ⟨rfl, rfl⟩ := List.cons.inj (isGroup.symm.trans isNamed)
    rw [ofName_concat, if_pos rfl, isGroup, List.cons_append]
    simp [ofGroup?, isName, isMerged, merged_concat h isGroup]
  · rw [ofName_concat, if_neg isHere, isNamed]
    simp [ofGroup?, isName, isMerged, Ne.symm isHere]

/-- One more line is recorded among the settings of the lines before it. -/
theorem grouped_concat (h : Consistent (declared ++ [accepted])) :
    grouped (declared ++ [accepted]) = Scan.recordIn (grouped declared) accepted.setting := by
  have isSpec : accepted.setting.name = accepted.name := h.spec accepted (by simp)
  have before := h.of_append
  rw [Scan.recordIn, isSpec, named?_grouped before]
  cases isGroup : ofName declared accepted.name with
  | nil => exact grouped_concat_new isGroup
  | cons first later => exact grouped_concat_repeated before isGroup isSpec

end Accepted

namespace Scan

theorem codesIn_checkExclusions (settings : List Setting) (setting : Setting) :
    CodesIn [.exclusiveSettings] (checkExclusions settings setting) := by
  intro finding member
  obtain ⟨other, -, rfl⟩ := List.mem_map.mp member
  simp [Issue.code]

theorem codesIn_checkWidget (scope : Scope) (setting : Setting) :
    CodesIn [.ineffectiveSetting] (checkWidget scope setting).toList := by
  refine .toList fun finding isFinding => ?_
  simp only [checkWidget, Option.bind_eq_some_iff, Option.ite_none_left_eq_some,
    Option.some.injEq] at isFinding
  obtain ⟨_, -, -, rfl⟩ := isFinding
  simp [Issue.code]

end Scan

namespace Accepted

variable {declared : List Accepted} {accepted : Accepted}

/-- What the check of a value against a descriptor reports. -/
def checked (spec : Descriptor) (line : Line.SettingLine) : List Finding :=
  ((Value.check spec line.value).map fun issue => ⟨issue, line.nameRange⟩).toList

/-- The descriptor that a value is checked against: of a setting of many lines that of the first, of any
other its own. -/
def reference (declared : List Accepted) (accepted : Accepted) : Descriptor :=
  if accepted.spec.multiLine then ((ofName declared accepted.name).head?.getD accepted).spec
  else accepted.spec

theorem codesIn_checked (spec : Descriptor) (line : Line.SettingLine) :
    CodesIn Value.codes (checked spec line) := by
  refine .toList fun finding isFinding => ?_
  obtain ⟨issue, isIssue, rfl⟩ := Option.map_eq_some_iff.mp isFinding
  exact Value.code_check isIssue

/-- Later lines do not change what a value is checked against. -/
theorem reference_append (declared : List Accepted) (accepted : Accepted) (later : List Accepted) :
    reference (declared ++ [accepted] ++ later) accepted = reference declared accepted := by
  have isFirst : (ofName (declared ++ [accepted] ++ later) accepted.name).head?.getD accepted =
      (ofName declared accepted.name).head?.getD accepted := by
    simp only [ofName, List.filter_append, List.head?_append]
    cases (declared.filter fun other => other.name == accepted.name).head? <;> simp
  rw [reference, isFirst, reference]

/-- A line that is recorded has its value checked once, and looks for exclusions if its name is new. -/
theorem recordFindings_grouped (h : Consistent (declared ++ [accepted])) :
    ∃ repeated, CodesIn [.duplicateSetting] repeated ∧
      Scan.recordFindings (grouped declared) accepted.setting =
        repeated ++ checked (reference declared accepted) accepted.line ++
          if (ofName declared accepted.name).isEmpty then
            Scan.checkExclusions (grouped declared) accepted.setting
          else [] := by
  have isSpec : accepted.setting.name = accepted.name := h.spec accepted (by simp)
  rw [Scan.recordFindings, isSpec, named?_grouped h.of_append, reference]
  cases isGroup : ofName declared accepted.name with
  | nil =>
    rw [List.head?_nil, Option.getD_none, ite_self]
    exact ⟨[], .nil, rfl⟩
  | cons first later =>
    obtain ⟨isFirst, isName⟩ := mem_ofName.mp (isGroup ▸ List.mem_cons_self : first ∈ ofName declared _)
    have sameLines := h.multiLine accepted (by simp) first (by simp [isFirst]) isName.symm
    have mergedLines := (h.of_append.spec_merged isGroup).2
    dsimp only [ofGroup?]
    rw [Scan.merge, mergedLines, sameLines, List.head?_cons, Option.getD_some]
    cases multiLine : first.spec.multiLine with
    | true =>
      have isMerged : (merged first later).spec = first.spec := by
        simp [merged, multiLine, Accepted.setting]
      rw [isMerged]
      exact ⟨[], .nil, (List.append_nil _).symm⟩
    | false => exact ⟨[_], .singleton (by simp [Issue.code]), (List.append_nil _).symm⟩

end Accepted

end ChartLint.Validation
