import ChartLint.Proofs.Table
import ChartLint.Proofs.Validation.Code

/-!
Diagnostics and the table of codes. Every diagnostic of a document has a listed identifier, the severity
that is declared for it, and details under the keys that are declared for it.
-/
namespace ChartLint

theorem Table.mem_keys_ofList {α : Type} {entries : List (String × α)} {key : String} :
    key ∈ (Table.ofList entries).keys ↔ key ∈ entries.map Prod.fst := by
  induction entries using List.reverseRecOn with
  | nil => rfl
  | append_singleton entries last ih =>
    rw [← Table.contains_iff] at ih ⊢
    rw [Table.contains, Table.ofList, List.foldl_concat, Table.find?_insert, List.map_append,
      List.mem_append]
    split
    case isTrue same => simp [same]
    case isFalse other =>
      rw [← ih]
      simp [Ne.symm other, Table.contains, Table.ofList]

namespace Code

/-- The declared keys that a diagnostic may lack: not every unknown name is like a known one, and a
value can be out of place in any section. -/
def optionalKeys : Code → List String
  | unknownSetting => ["suggestion"]
  | settingNotAllowed => ["section"]
  | _ => []

end Code

theorem Issue.mem_contextKeys (issue : Issue) :
    ∀ key ∈ issue.details.map Prod.fst, key ∈ issue.code.contextKeys := by
  cases issue with
  | unknownSetting name suggestion => cases suggestion <;> simp [details, code, Code.contextKeys]
  | _ => simp [details, code, Code.contextKeys]

theorem Issue.mem_details (issue : Issue) :
    ∀ key ∈ issue.code.contextKeys,
      key ∈ issue.details.map Prod.fst ∨ key ∈ issue.code.optionalKeys := by
  cases issue with
  | unknownSetting name suggestion =>
    cases suggestion <;> simp [details, code, Code.contextKeys, Code.optionalKeys]
  | _ => simp [details, code, Code.contextKeys, Code.optionalKeys]

/-- What the table of codes says about a diagnostic. -/
structure Diagnostic.Fits (diagnostic : Diagnostic) (code : Code) : Prop where
  listed : Code.ofId? diagnostic.id = some code
  severity : diagnostic.severity = code.severity
  context : ∃ context, diagnostic.context = some context ∧
    (∀ key ∈ context.keys, key ∈ code.contextKeys) ∧
    ∀ key ∈ code.contextKeys, key ∈ context.keys ∨ key ∈ code.optionalKeys

theorem Finding.fits (finding : Finding) : finding.diagnostic.Fits finding.issue.code where
  listed := Code.ofId?_id finding.issue.code
  severity := rfl
  context := by
    refine ⟨Table.ofList finding.issue.details, rfl, fun key member => ?_, fun key declared => ?_⟩
    · exact finding.issue.mem_contextKeys key (Table.mem_keys_ofList.mp member)
    · exact (finding.issue.mem_details key declared).imp_left Table.mem_keys_ofList.mpr

theorem Diagnostic.Fits.eq_code {diagnostic : Diagnostic} {code other : Code}
    (h : diagnostic.Fits code) (listed : Code.ofId? diagnostic.id = some other) : code = other :=
  Option.some.inj (h.listed.symm.trans listed)

namespace Validation

theorem ok_eq_false_iff {validation : Validation} :
    validation.ok = false ↔ ∃ diagnostic ∈ validation.diagnostics, ∃ code,
      Code.ofId? diagnostic.id = some code ∧ code.severity = .error := by
  rw [ok, Bool.not_eq_false', List.any_eq_true]
  constructor
  · rintro ⟨finding, member, isError⟩
    refine ⟨finding.diagnostic, List.mem_map_of_mem member, finding.issue.code, ?_, ?_⟩
    · exact finding.fits.listed
    · simpa [Finding.isError] using isError
  · rintro ⟨_, reported, code, listed, isError⟩
    obtain ⟨finding, member, rfl⟩ := List.mem_map.mp reported
    obtain rfl := finding.fits.eq_code listed
    exact ⟨finding, member, by simpa [Finding.isError] using isError⟩

/-- Every diagnostic of a document fits the table of codes, and the document is at fault if and only if
one of them has an identifier whose severity is that of an error. -/
theorem validate_fits (catalog : Catalog) (text : String) :
    (∀ diagnostic ∈ (validate catalog text).diagnostics, ∃ code, diagnostic.Fits code) ∧
    ((validate catalog text).ok = false ↔
      ∃ diagnostic ∈ (validate catalog text).diagnostics, ∃ code,
        Code.ofId? diagnostic.id = some code ∧ code.severity = .error) := by
  refine ⟨fun diagnostic member => ?_, ok_eq_false_iff⟩
  obtain ⟨finding, -, rfl⟩ := List.mem_map.mp member
  exact ⟨finding.issue.code, finding.fits⟩

end Validation

end ChartLint
