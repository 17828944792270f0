import ChartLint.Catalog
import ChartLint.Comment.Strip
import ChartLint.Text.Quoted

/-!
Catalog sources read from JSON with comments. A source is read in the order of its text, and the first
problem met is reported, whether the text is at fault there or does not fit the form of catalogs.
-/
namespace ChartLint.Catalog

open Json (Draft Entry Fault)

/-- A way to read a value of some kind. -/
abbrev Reader (α : Type) := Draft → Except Problem α

namespace Reader

variable {α β : Type}

def ofFault? (fault : Option Fault) : Except Problem Unit :=
  match fault with
  | some fault => .error (.malformed fault)
  | none => .ok ()

/-- A value as messages describe it. -/
def describe : Draft → String
  | .null _ => "null"
  | .bool _ value => if value then "boolean `true`" else "boolean `false`"
  | .number _ (.natural n) => s!"integer `{n}`"
  | .number _ (.negative n) => s!"integer `-{n}`"
  | .number _ (.real x) => s!"floating point `{x.scientific}`"
  | .text _ value => s!"string {Text.quoted value}"
  | .list .. => "sequence"
  | .record .. => "map"
  | .broken _ => ""

/-- Offset of a value's first byte. -/
def start : Draft → Nat
  | .null span | .bool span _ | .number span _ | .text span _ | .list span .. | .record span .. =>
    span.start
  | .broken fault => fault.offset - 1

/-- Offset of the byte after a value. -/
def stop : Draft → Nat
  | .null span | .bool span _ | .number span _ | .text span _ | .list span .. | .record span .. =>
    span.stop
  | .broken fault => fault.offset

/-- Refuses a value of the wrong type. Lists and records are refused at their opening bracket. -/
def refuse (expected : String) : Reader α
  | .broken fault => .error (.malformed fault)
  | draft =>
    let offset :=
      match draft with
      | .list .. | .record .. => start draft
      | _ => stop draft
    .error (.unfit (.invalidType (describe draft) expected) offset)

def text : Reader String
  | .text _ value => .ok value
  | draft => refuse "a string" draft

def boolean : Reader Bool
  | .bool _ value => .ok value
  | draft => refuse "a boolean" draft

def natural : Reader Nat
  | .number _ (.natural n) => .ok n
  | .number span (.negative n) =>
    .error (.unfit (.invalidValue (describe (.number span (.negative n))) "usize") span.stop)
  | draft => refuse "usize" draft

def optional (reader : Reader α) : Reader (Option α)
  | .null _ => .ok none
  | draft => (reader draft).map some

def listOf (reader : Reader α) : Reader (List α)
  | .list _ items close => do
    let values ← items.mapM reader
    ofFault? close
    return values
  | draft => refuse "a sequence" draft

/-- A table from a record; of entries with one key the last wins. -/
def tableOf (reader : Reader α) : Reader (Table α)
  | .record _ entries close => do
    let values ← entries.mapM fun entry => return (entry.key.name, ← reader entry.value)
    ofFault? close
    return Table.ofList values
  | draft => refuse "a map" draft

/-- A named part of a structure that is built up field by field. -/
structure Field (σ : Type) where
  name : String
  required : Bool := false
  /-- Reads the value; the offset is the one reached when the structure is left after it. -/
  read : Draft → (after : Nat) → Except Problem (σ → σ)

def field {σ : Type} (name : String) (reader : Reader α) (put : α → σ → σ) : Field σ where
  name
  read draft _ := (reader draft).map put

def requiredField {σ : Type} (name : String) (reader : Reader α) (put : α → σ → σ) : Field σ :=
  { field name reader put with required := true }

variable {σ : Type}

/-- Reads entries into a structure. The keys read so far may not come again. An unknown key is refused
when the form is strict; else its value only has to be free of faults. -/
def readEntries (fields : List (Field σ)) (strict : Bool) :
    (seen : List String) → σ → List (Entry Draft) → Except Problem (List String × σ)
  | seen, state, [] => .ok (seen, state)
  | seen, state, ⟨key, draft, after⟩ :: rest => do
    match fields.find? fun field => field.name == key.name with
    | some field =>
      if seen.contains key.name then .error (.unfit (.duplicateField key.name) key.after)
      let update ← field.read draft after
      readEntries fields strict (key.name :: seen) (update state) rest
    | none =>
      if strict then
        .error (.unfit (.unknownField key.name (fields.map Field.name)) key.after)
      ofFault? draft.fault?
      readEntries fields strict seen state rest

/-- Refuses a structure that lacks a required field. -/
def checkRequired (fields : List (Field σ)) (seen : List String) (offset : Nat) :
    Except Problem Unit :=
  match fields.find? fun field => field.required && !seen.contains field.name with
  | some field => .error (.unfit (.missingField field.name) offset)
  | none => .ok ()

/-- Reads the items of a list as the fields in order; fields at the end may be absent unless they are
required. -/
def readItems (expected : String) (offset : Nat) (close : Option Fault) :
    (count : Nat) → σ → List (Field σ) → List Draft → Except Problem σ
  | _, state, [], [] =>
    match close with
    | some ⟨.expectedCommaOrListEnd, offset⟩ => .error (.malformed ⟨.trailingCharacters, offset⟩)
    | fault => do
      ofFault? fault
      return state
  | _, _, [], extra :: _ => .error (.malformed ⟨.trailingCharacters, start extra + 1⟩)
  | count, state, fields, [] => do
    ofFault? close
    match fields.findIdx? (·.required) with
    | some index => .error (.unfit (.invalidLength (count + index) expected) offset)
    | none => return state
  | count, state, field :: fields, draft :: rest => do
    let update ← field.read draft (stop draft)
    readItems expected offset close (count + 1) (update state) fields rest

/-- Reads a structure from a record, or from a list of its fields in order. -/
def structureOf (name : String) (fields : List (Field σ)) (strict : Bool) (initial : σ) : Reader σ
  | .record span entries close => do
    let (seen, state) ← readEntries fields strict [] initial entries
    ofFault? close
    checkRequired fields seen span.stop
    return state
  | .list span items close =>
    readItems s!"struct {name} with {fields.length} elements" span.stop close 0 initial fields items
  | draft => refuse s!"struct {name}" draft

/-- The kind that a name stands for. -/
def kindNamed (name : String) (offset : Nat) : Except Problem ValueKind :=
  match ValueKind.ofName? name with
  | some kind => .ok kind
  | none => .error (.unfit (.unknownVariant name (ValueKind.all.map ValueKind.name)) offset)

def unit : Reader Unit
  | .null _ => .ok ()
  | draft => refuse "unit" draft

/-- A kind of values: its name, or a record with its name as the key of a null. -/
def kind : Reader ValueKind
  | .text span name => kindNamed name span.stop
  | .record span entries close => do
    match entries, close with
    | [], some ⟨.endInRecord, offset⟩ => .error (.malformed ⟨.endInValue, offset⟩)
    | [], _ =>
      ofFault? close
      .error (.malformed ⟨.expectedValue, span.stop⟩)
    | entry :: more, _ =>
      let kind ← kindNamed entry.key.name entry.key.stop
      unit entry.value
      match more, close with
      | [], none => return kind
      | [], some ⟨.endInRecord, offset⟩ => .error (.malformed ⟨.endInRecord, offset⟩)
      | _, _ => .error (.malformed ⟨.expectedValue, entry.after⟩)
  | .broken fault => .error (.malformed fault)
  | draft => .error (.malformed ⟨.expectedValue, start draft + 1⟩)

/-- A kind of values in an override, where an empty record may stand for the null. -/
def patchKind : Reader ValueKind
  | .text span name => kindNamed name span.stop
  | .record span [⟨key, draft, _⟩] _ => do
    let kind ← kindNamed key.name span.stop
    match draft with
    | .record _ [] _ => return kind
    | draft =>
      unit draft
      return kind
  | .record span .. =>
    .error (.unfit (.invalidValue "map" "map with a single key") span.stop)
  | draft => refuse "string or map" draft

/-- A number in a bound. -/
def limit? : Draft → Option Number.Binary64
  | .number _ value => some value.toBinary64
  | _ => none

/-- A bound from a record with a limit and, possibly, whether it is excluded. -/
def boundOfEntries? (entries : List (Entry Draft)) : Option Bound := do
  let named (name : String) := (entries.filter fun entry => entry.key.name == name).map Entry.value
  let value ← match named "value" with
    | [draft] => limit? draft
    | _ => none
  match named "excluded" with
  | [] => return { value }
  | [.bool _ excluded] => return { value, excluded }
  | _ => none

/-- A bound: a number, or a record with more detail. A value that is neither is refused when the
structure around it is left. -/
def bound (after : Nat) : Reader Bound := fun draft => do
  ofFault? draft.fault?
  let found :=
    match draft with
    | .number _ value => some { value := value.toBinary64 }
    | .record _ entries _ => boundOfEntries? entries
    | _ => none
  match found with
  | some bound => return bound
  | none => .error (.unfit (.noVariant "RawBound") after)

def boundField {σ : Type} (name : String) (put : Option Bound → σ → σ) : Field σ where
  name
  read draft after := (optional (bound after) draft).map put

def patchFields : List (Field Patch) := [
  field "type" (optional patchKind) fun value patch => { patch with kind := value },
  field "enum" (optional (listOf text)) fun value patch => { patch with enumValues := value },
  boundField "minValue" fun value patch => { patch with minimum := value },
  boundField "maxValue" fun value patch => { patch with maximum := value },
  field "example" (optional text) fun value patch => { patch with example? := value },
  field "defaultValue" (optional text) fun value patch => { patch with default? := value }]

/-- Reads the guard of an override in its place; all else only has to be free of faults. -/
def readGuard : (guard : Option String) → List (Entry Draft) → Except Problem (Option String)
  | guard, [] => .ok guard
  | guard, ⟨key, draft, _⟩ :: rest => do
    if key.name == "when" then
      if guard.isSome then .error (.unfit (.duplicateField key.name) key.after)
      readGuard (some (← text draft)) rest
    else
      ofFault? draft.fault?
      readGuard guard rest

/-- Places a mismatch that shows only when all has been read. -/
def placedAt (offset : Nat) : Problem → Problem
  | .unfit mismatch _ => .unfit mismatch offset
  | problem => problem

/-- An override: its guard, then the patch that the other entries make. -/
def override : Reader OverrideSource
  | .record span entries close => do
    let guard ← readGuard none entries
    ofFault? close
    match guard with
    | none => .error (.unfit (.missingField "when") span.stop)
    | some guard =>
      let others := entries.filter fun entry => entry.key.name != "when"
      let (_, patch) ← (readEntries patchFields false [] {} others).mapError (placedAt span.stop)
      return ⟨guard, patch⟩
  | draft => refuse "struct RawOverride" draft

def settingFields : List (Field SettingSource) := [
  requiredField "displayName" text fun value s => { s with displayName := value },
  requiredField "type" kind fun value s => { s with kind := value },
  field "enum" (listOf text) fun value s => { s with enumValues := value },
  boundField "minValue" fun value s => { s with minimum := value },
  boundField "maxValue" fun value s => { s with maximum := value },
  field "example" (optional text) fun value s => { s with example? := value },
  field "defaultValue" (optional text) fun value s => { s with default? := value },
  field "pattern" (optional text) fun value s => { s with pattern := value },
  field "patternHint" (optional text) fun value s => { s with patternHint := value },
  field "excludes" (listOf text) fun value s => { s with excludes := value },
  field "multiLine" boolean fun value s => { s with multiLine := value },
  field "section" (listOf text) fun value s => { s with sections := value },
  field "widget" (listOf text) fun value s => { s with widgets := value },
  field "description" (optional text) fun value s => { s with description := value },
  field "override" (listOf override) fun value s => { s with overrides := value }]

def setting : Reader SettingSource := structureOf "RawSetting" settingFields true {}

def requirementFields : List (Field Requirements) := [
  field "sections" (listOf (listOf text)) fun value r => { r with sections := value },
  field "settings" (listOf (listOf text)) fun value r => { r with settings := value }]

def requirements : Reader Requirements :=
  structureOf "SectionRequirements" requirementFields false {}

def sourceFields : List (Field Source) := [
  requiredField "settings" (listOf setting) fun value s => { s with settings := value },
  requiredField "sectionDepth" (tableOf natural) fun value s => { s with sectionDepth := value },
  field "inheritableSections" (listOf text) fun value s => { s with inheritableSections := value },
  field "parentSections" (tableOf (listOf text)) fun value s => { s with parentSections := value },
  field "requiredSectionSettings" (tableOf requirements)
    fun value s => { s with requiredSectionSettings := value },
  field "widgetRequirementsByType" (tableOf (listOf (listOf text)))
    fun value s => { s with widgetRequirementsByType := value },
  field "sectionAliases" (tableOf text) fun value s => { s with sectionAliases := value },
  field "freeFormSections" (listOf text) fun value s => { s with freeFormSections := value }]

def source : Reader Source := structureOf "CatalogFile" sourceFields true {}

end Reader

/-- The source that a text without comments spells. -/
def readSource (text : List Char) : Except Problem Source := do
  let document := Json.read text
  let source ← Reader.source document.root
  Reader.ofFault? document.trailing
  return source

/-- The catalog that a JSON text with comments spells. -/
def read (text : String) : Except Error Catalog :=
  let stripped := Comment.strip text.toList
  match readSource stripped with
  | .error problem => .error (.invalidJson problem stripped)
  | .ok source => ofSource source

end ChartLint.Catalog
