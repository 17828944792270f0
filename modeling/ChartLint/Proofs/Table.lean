import ChartLint.Table
import Mathlib.Data.List.Induction
import Mathlib.Data.String.Basic

/-!
Laws of tables and of sorted names.
-/
namespace ChartLint

namespace Table

variable {α : Type} {table : Table α} {key : String} {value : α}

theorem mem_of_find? (h : table.find? key = some value) : (key, value) ∈ table := by
  obtain ⟨⟨other, found⟩, isEntry, rfl⟩ := Option.map_eq_some_iff.mp h
  have same : other = key := by simpa using List.find?_some isEntry
  exact same ▸ List.mem_of_find?_eq_some isEntry

theorem find?_cons (entry : String × α) (rest : Table α) (other : String) :
    find? (entry :: rest) other = if entry.1 = other then some entry.2 else find? rest other := by
  by_cases same : entry.1 = other <;> simp [find?, same]

theorem contains_iff : table.contains key = true ↔ key ∈ table.keys := by
  induction table with
  | nil => simp [contains, find?, keys]
  | cons entry rest ih =>
    rw [contains, find?_cons]
    by_cases same : entry.1 = key
    · simp [same, keys]
    · simpa [contains, same, keys, Ne.symm same] using ih

/-- An entry is found under its key, and all others are as they were. -/
theorem find?_insert (key : String) (value : α) (table : Table α) (other : String) :
    find? (insert key value table) other = if key = other then some value else find? table other := by
  induction table with
  | nil => rw [insert, find?_cons]
  | cons entry rest ih =>
    simp only [insert]
    split
    · rw [find?_cons]
    · split
      case isTrue same =>
        rw [find?_cons, find?_cons, ← same]
        split <;> rfl
      case isFalse =>
        rw [find?_cons, find?_cons, ih]
        grind

theorem mem_insert {entry : String × α} (h : entry ∈ insert key value table) :
    entry = (key, value) ∨ entry ∈ table := by
  induction table with
  | nil => exact .inl (List.mem_singleton.mp h)
  | cons first rest ih =>
    simp only [insert] at h
    grind

def Sorted (table : Table α) : Prop := table.Pairwise fun a b => a.1 < b.1

theorem Sorted.insert (sorted : Sorted table) (key : String) (value : α) :
    Sorted (table.insert key value) := by
  induction table with
  | nil => exact List.pairwise_singleton _ _
  | cons first rest ih =>
    obtain ⟨least, tail⟩ := List.pairwise_cons.mp sorted
    simp only [Table.insert]
    split
    case isTrue less =>
      apply List.pairwise_cons.mpr
      refine ⟨fun entry member => ?_, sorted⟩
      rcases List.mem_cons.mp member with rfl | member
      · exact less
      · exact less.trans (least entry member)
    case isFalse notLess =>
      split
      case isTrue same =>
        apply List.pairwise_cons.mpr
        exact ⟨fun entry member => same ▸ least entry member, tail⟩
      case isFalse other =>
        apply List.pairwise_cons.mpr
        refine ⟨fun entry member => ?_, ih tail⟩
        rcases mem_insert member with rfl | member
        · exact lt_of_le_of_ne (not_lt.mp notLess) (Ne.symm other)
        · exact least entry member

theorem Sorted.find?_of_mem (sorted : Sorted table) (member : (key, value) ∈ table) :
    table.find? key = some value := by
  induction table with
  | nil => cases member
  | cons first rest ih =>
    obtain ⟨least, tail⟩ := List.pairwise_cons.mp sorted
    rw [find?_cons]
    rcases List.mem_cons.mp member with rfl | member
    · exact if_pos rfl
    · rw [if_neg (least _ member).ne]
      exact ih tail member

theorem mem_ofList {entries : List (String × α)} {entry : String × α} (h : entry ∈ ofList entries) :
    entry ∈ entries := by
  induction entries using List.reverseRecOn with
  | nil => cases h
  | append_singleton entries last ih =>
    rw [ofList, List.foldl_concat] at h
    rcases mem_insert h with rfl | member
    · exact List.mem_append_right _ (List.mem_singleton_self _)
    · exact List.mem_append_left _ (ih member)

end Table

theorem mem_insertName {name other : String} {names : List String} :
    other ∈ insertName name names ↔ other = name ∨ other ∈ names := by
  induction names with
  | nil => simp [insertName]
  | cons first rest ih =>
    simp only [insertName]
    split
    · simp
    · split
      case isTrue isFirst => simp [isFirst]
      case isFalse =>
        simp only [List.mem_cons, ih]
        tauto

theorem pairwise_insertName {names : List String} (sorted : names.Pairwise (· < ·)) (name : String) :
    (insertName name names).Pairwise (· < ·) := by
  induction names with
  | nil => exact List.pairwise_singleton _ _
  | cons first rest ih =>
    obtain ⟨least, tail⟩ := List.pairwise_cons.mp sorted
    simp only [insertName]
    split
    case isTrue less =>
      apply List.pairwise_cons.mpr
      refine ⟨fun other member => ?_, sorted⟩
      rcases List.mem_cons.mp member with rfl | member
      · exact less
      · exact less.trans (least other member)
    case isFalse notLess =>
      split
      case isTrue => exact sorted
      case isFalse distinct =>
        apply List.pairwise_cons.mpr
        refine ⟨fun other member => ?_, ih tail⟩
        rcases mem_insertName.mp member with rfl | member
        · exact lt_of_le_of_ne (not_lt.mp notLess) (Ne.symm distinct)
        · exact least other member

theorem mem_sortNames {name : String} {names : List String} : name ∈ sortNames names ↔ name ∈ names := by
  induction names using List.reverseRecOn with
  | nil => rfl
  | append_singleton names last ih =>
    rw [sortNames, List.foldl_concat, mem_insertName, List.mem_append, List.mem_singleton, or_comm]
    exact or_congr_left ih

theorem pairwise_sortNames (names : List String) : (sortNames names).Pairwise (· < ·) := by
  induction names using List.reverseRecOn with
  | nil => exact .nil
  | append_singleton names last ih =>
    rw [sortNames, List.foldl_concat]
    exact pairwise_insertName ih last

end ChartLint
