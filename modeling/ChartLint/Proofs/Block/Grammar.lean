import ChartLint.Proofs.Block.Nesting

/-!
Balanced documents of blocks. The tracker is quiet about the nesting of lines if and only if their
roles derive from the grammar.
-/
namespace ChartLint.Block

/-- Balanced documents. Each constructor adds an item to the front: a plain line, a loop, a branch with
its arms, or a body, which holds any lines but those that close it. -/
inductive Document : List Role → Prop
  | nil : Document []
  | plain {rest : List Role} : Document rest → Document (.plain :: rest)
  | loop {inner rest : List Role} : Document inner → Document rest →
      Document (.opens .loop :: (inner ++ .closes .forEach :: rest))
  | branch {first rest : List Role} (arms : List (List Role)) :
      Document first → (∀ arm ∈ arms, Document arm) → Document rest →
      Document (.opens .branch ::
        (first ++ (arms.flatMap (.divides :: ·) ++ .closes .ifThen :: rest)))
  | body {opener : Keyword} {inner rest : List Role} :
      .closes opener ∉ inner → Document rest →
      Document (.body opener :: (inner ++ .closes opener :: rest))

theorem Document.append {roles others : List Role} (document : Document roles)
    (other : Document others) : Document (roles ++ others) := by
  induction document with
  | nil => exact other
  | plain _ ih => exact .plain ih
  | loop inner _ _ ih =>
    rw [List.cons_append, List.append_assoc]
    exact .loop inner ih
  | branch arms first areDocuments _ _ _ ih =>
    rw [List.cons_append, List.append_assoc, List.append_assoc]
    exact .branch arms first areDocuments ih
  | body others _ ih =>
    rw [List.cons_append, List.append_assoc]
    exact .body others ih

namespace Blocks

/-- Lines that close the open blocks: what is left of each, with its closing line, and then a balanced
document. -/
inductive Completes : Blocks → List Role → Prop
  | document {roles : List Role} : Document roles → Completes ⟨none, []⟩ roles
  | loop {inner rest : List Role} {outer : List Nest} :
      Document inner → Completes ⟨none, outer⟩ rest →
      Completes ⟨none, .loop :: outer⟩ (inner ++ .closes .forEach :: rest)
  | branch {first rest : List Role} {outer : List Nest} (arms : List (List Role)) :
      Document first → (∀ arm ∈ arms, Document arm) → Completes ⟨none, outer⟩ rest →
      Completes ⟨none, .branch :: outer⟩
        (first ++ (arms.flatMap (.divides :: ·) ++ .closes .ifThen :: rest))
  | body {opener : Keyword} {inner rest : List Role} {nests : List Nest} :
      .closes opener ∉ inner → Completes ⟨none, nests⟩ rest →
      Completes ⟨some opener, nests⟩ (inner ++ .closes opener :: rest)

namespace Completes

variable {roles rest : List Role} {nest : Nest} {nests : List Nest} {opener : Keyword}

theorem prepend (document : Document roles) (h : Completes ⟨none, nests⟩ rest) :
    Completes ⟨none, nests⟩ (roles ++ rest) := by
  cases h with
  | document other => exact .document (document.append other)
  | loop inner outer =>
    rw [← List.append_assoc]
    exact .loop (document.append inner) outer
  | branch arms first areDocuments outer =>
    rw [← List.append_assoc]
    exact .branch arms (document.append first) areDocuments outer

theorem opens (h : Completes ⟨none, nest :: nests⟩ rest) :
    Completes ⟨none, nests⟩ (.opens nest :: rest) := by
  cases h with
  | @loop inner rest _ document outer =>
    have item := outer.prepend (.loop document .nil)
    rwa [List.cons_append, List.append_assoc] at item
  | @branch first rest _ arms document areDocuments outer =>
    have item := outer.prepend (.branch arms document areDocuments .nil)
    rwa [List.cons_append, List.append_assoc, List.append_assoc] at item

/-- What stands before the first divider becomes an arm. -/
theorem divides (h : Completes ⟨none, .branch :: nests⟩ rest) :
    Completes ⟨none, .branch :: nests⟩ (.divides :: rest) := by
  cases h with
  | @branch first rest _ arms document areDocuments outer =>
    have more : ∀ arm ∈ first :: arms, Document arm := by
      intro arm member
      rcases List.mem_cons.mp member with rfl | member
      · exact document
      · exact areDocuments arm member
    have item := branch (first :: arms) .nil more outer
    rwa [List.flatMap_cons, List.cons_append, List.cons_append, List.append_assoc] at item

theorem closes (h : Completes ⟨none, nests⟩ rest) :
    Completes ⟨none, nest :: nests⟩ (.closes nest.keyword :: rest) := by
  cases nest with
  | loop => exact .loop .nil h
  | branch => exact .branch [] .nil (fun _ member => nomatch member) h

theorem opensBody (h : Completes ⟨some opener, nests⟩ rest) :
    Completes ⟨none, nests⟩ (.body opener :: rest) := by
  cases h with
  | @body _ inner rest _ others outer =>
    have item := outer.prepend (.body others .nil)
    rwa [List.cons_append, List.append_assoc] at item

theorem inside {role : Role} (isOther : role ≠ .closes opener)
    (h : Completes ⟨some opener, nests⟩ rest) :
    Completes ⟨some opener, nests⟩ (role :: rest) := by
  cases h with
  | @body _ inner rest _ others outer =>
    have more : .closes opener ∉ role :: inner := by
      rw [List.mem_cons, not_or]
      exact ⟨isOther.symm, others⟩
    exact .body more outer

end Completes

theorem completes_of_next? {blocks after : Blocks} {role : Role} {rest : List Role}
    (isNext : blocks.next? role = some after) (h : after.Completes rest) :
    blocks.Completes (role :: rest) := by
  obtain ⟨body, nests⟩ := blocks
  cases body with
  | some opener =>
    simp only [next?] at isNext
    obtain rfl := Option.some.inj isNext
    split at h
    case isTrue isClosing =>
      rw [isClosing]
      exact .body List.not_mem_nil h
    case isFalse isOther => exact h.inside isOther
  | none =>
    cases role with
    | plain =>
      obtain rfl := Option.some.inj isNext
      exact h.prepend (.plain .nil)
    | opens nest =>
      obtain rfl := Option.some.inj isNext
      exact h.opens
    | body opener =>
      obtain rfl := Option.some.inj isNext
      exact h.opensBody
    | source => simp [next?] at isNext
    | divides =>
      cases nests with
      | nil => cases isNext
      | cons nest outer =>
        cases nest with
        | loop => cases isNext
        | branch =>
          obtain rfl := Option.some.inj isNext
          exact h.divides
    | closes opener =>
      cases nests with
      | nil => cases isNext
      | cons nest outer =>
        simp only [next?] at isNext
        split at isNext
        case isTrue isOpener =>
          obtain rfl := Option.some.inj isNext
          exact isOpener ▸ h.closes
        case isFalse => cases isNext

theorem completes_of_fits {blocks : Blocks} {roles : List Role} (h : blocks.fits roles = true) :
    blocks.Completes roles := by
  induction roles generalizing blocks with
  | nil =>
    obtain ⟨body, nests⟩ := blocks
    simp only [fits, Bool.and_eq_true, Option.isNone_iff_eq_none, List.isEmpty_iff] at h
    obtain ⟨rfl, rfl⟩ := h
    exact .document .nil
  | cons role rest ih =>
    rw [fits] at h
    cases isNext : blocks.next? role with
    | none => simp [isNext] at h
    | some after =>
      rw [isNext] at h
      exact completes_of_next? isNext (ih h)

theorem fits_inside {opener : Keyword} {inner : List Role} (others : .closes opener ∉ inner)
    (nests : List Nest) (rest : List Role) :
    fits ⟨some opener, nests⟩ (inner ++ .closes opener :: rest) = fits ⟨none, nests⟩ rest := by
  induction inner with
  | nil => simp [fits, next?]
  | cons role inner ih =>
    obtain ⟨isOther, others⟩ := not_or.mp (mt List.mem_cons.mpr others)
    rw [← ih others]
    simp [fits, next?, Ne.symm isOther]

theorem fits_arms {arms : List (List Role)}
    (areDocuments : ∀ arm ∈ arms, ∀ nests rest,
      fits ⟨none, nests⟩ (arm ++ rest) = fits ⟨none, nests⟩ rest)
    (nests : List Nest) (rest : List Role) :
    fits ⟨none, .branch :: nests⟩ (arms.flatMap (.divides :: ·) ++ rest) =
      fits ⟨none, .branch :: nests⟩ rest := by
  induction arms with
  | nil => rfl
  | cons arm arms ih =>
    rw [List.flatMap_cons, List.cons_append, List.cons_append, List.append_assoc]
    simp only [fits, next?]
    rw [areDocuments arm List.mem_cons_self]
    exact ih fun other member => areDocuments other (List.mem_cons_of_mem arm member)

/-- A balanced document leaves the open blocks as they are. -/
theorem fits_document {roles : List Role} (document : Document roles) (nests : List Nest)
    (rest : List Role) : fits ⟨none, nests⟩ (roles ++ rest) = fits ⟨none, nests⟩ rest := by
  induction document generalizing nests rest with
  | nil => rfl
  | plain _ ih => exact ih nests rest
  | loop _ _ ihInner ihRest =>
    rw [List.cons_append, List.append_assoc]
    simp only [fits, next?]
    rw [ihInner]
    simp [fits, next?, Nest.keyword, ihRest]
  | branch arms _ _ _ ihFirst ihArms ihRest =>
    rw [List.cons_append, List.append_assoc, List.append_assoc]
    simp only [fits, next?]
    rw [ihFirst, fits_arms ihArms]
    simp [fits, next?, Nest.keyword, ihRest]
  | body others _ ih =>
    rw [List.cons_append, List.append_assoc]
    simp only [fits, next?]
    rw [List.cons_append, fits_inside others, ih]

theorem fits_iff {roles : List Role} : fits {} roles = true ↔ Document roles := by
  constructor
  · intro h
    cases completes_of_fits h with
    | document document => exact document
  · intro document
    rw [← List.append_nil roles, fits_document document]
    rfl

end Blocks

instance (roles : List Role) : Decidable (Document roles) := decidable_of_iff _ Blocks.fits_iff

example : ¬ Document ((["for x in (1, 2)", "else", "endfor"].map String.toList).map role) := by
  decide +kernel

/-- Unless a line outside of bodies declares rows that are elsewhere, no keyword of the lines is
unmatched or misplaced if and only if they are a balanced document. -/
theorem quiet_findings_iff_document {lines : List (List Char)}
    (isHere : ({} : Tracker).readsSource 0 lines = false) :
    Quiet (({} : Tracker).findings 0 lines) ↔ Document (lines.map role) :=
  (Tracker.quiet_findings_iff Tracker.holds_empty isHere).trans Blocks.fits_iff

/-- A loop, rows and a list of more lines in the arms of a branch; bodies hold keywords of others. -/
def nestedLines : List (List Char) :=
  ["if level > 1", "for x in (1, 2)", "csv rows = a, b", "endfor", "endcsv", "endfor", "elseif x",
    "script = f()", "else", "list names = a,", "endif", "endlist", "endif", "[group]"].map
      String.toList

theorem quiet_findings_iff_document_nestedLines :
    ({} : Tracker).readsSource 0 nestedLines = false ∧
      Quiet (({} : Tracker).findings 0 nestedLines) ∧ Document (nestedLines.map role) := by
  have isHere : ({} : Tracker).readsSource 0 nestedLines = false := by decide +kernel
  have document : Document (nestedLines.map role) := by decide +kernel
  exact ⟨isHere, (quiet_findings_iff_document isHere).mpr document, document⟩

end ChartLint.Block
