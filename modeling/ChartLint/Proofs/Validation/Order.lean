import ChartLint.Validation
import Mathlib.Data.List.Basic

/-!
The order of findings. Findings are sorted by where they start, and those of one place keep their order;
so a document's findings are known from those of each line.
-/
namespace ChartLint

/-- Filtering commutes with sorting, which keeps the order of equal elements. -/
theorem filter_mergeSort {α : Type} {le : α → α → Bool}
    (trans : ∀ a b c, le a b = true → le b c = true → le a c = true)
    (total : ∀ a b, (le a b || le b a) = true) (p : α → Bool) (l : List α) :
    (l.mergeSort le).filter p = (l.filter p).mergeSort le := by
  have sorted (l : List α) := List.pairwise_mergeSort trans total l
  -- The place of the first element is where those begin that are not less.
  have parts (a : α) (front back : List α) (less : ∀ b ∈ front, (!le a b) = true)
      (more : ∀ b ∈ back, le a b = true) : front = (front ++ back).filter (fun b => !le a b) ∧
        back = (front ++ back).filter (le a) := by
    have noMore : back.filter (fun b => !le a b) = [] := by simpa using more
    have noLess : front.filter (le a) = [] := by simpa using less
    rw [List.filter_append, List.filter_append, noMore, noLess, List.filter_eq_self.mpr less,
      List.filter_eq_self.mpr more]
    simp
  induction l with
  | nil => simp
  | cons a l ih =>
    obtain ⟨front, back, isSorted, isRest, less⟩ := List.mergeSort_cons trans total a l
    rw [isRest, List.filter_append] at ih
    by_cases kept : p a = true
    · obtain ⟨first, last, areSorted, areRest, alsoLess⟩ :=
        List.mergeSort_cons trans total a (l.filter p)
      have more := (List.pairwise_cons.mp (List.pairwise_append.mp (isSorted ▸ sorted (a :: l))).2.1).1
      have alsoMore := (List.pairwise_cons.mp
        (List.pairwise_append.mp (areSorted ▸ sorted (a :: l.filter p))).2.1).1
      have here := parts a (front.filter p) (back.filter p)
        (fun b member => less b (List.mem_of_mem_filter member))
        (fun b member => more b (List.mem_of_mem_filter member))
      have there := parts a first last alsoLess alsoMore
      rw [ih, areRest] at here
      rw [isSorted, List.filter_append, List.filter_cons_of_pos kept, List.filter_cons_of_pos kept,
        areSorted, here.1, here.2, ← there.1, ← there.2]
    · rw [isSorted, List.filter_append, List.filter_cons_of_neg kept, List.filter_cons_of_neg kept, ih]

/-- A sorted list is known from its elements of each key. -/
theorem eq_of_filter_key_eq {α κ : Type} [DecidableEq κ] (key : α → κ) {le : κ → κ → Prop}
    (refl : ∀ a, le a a) (antisymm : ∀ a b, le a b → le b a → a = b) {l m : List α}
    (sorted : l.Pairwise fun a b => le (key a) (key b))
    (alsoSorted : m.Pairwise fun a b => le (key a) (key b))
    (same : ∀ k, l.filter (fun a => key a = k) = m.filter fun a => key a = k) : l = m := by
  have mem {l m : List α} (same : ∀ k, l.filter (fun a => key a = k) = m.filter fun a => key a = k)
      {a : α} (member : a ∈ l) : a ∈ m := by
    have isKept : a ∈ l.filter fun b => key b = key a := by simp [member]
    rw [same] at isKept
    exact List.mem_of_mem_filter isKept
  have least {a b : α} {l : List α} (sorted : (a :: l).Pairwise fun a b => le (key a) (key b))
      (member : b ∈ a :: l) : le (key a) (key b) := by
    rcases List.mem_cons.mp member with rfl | member
    · exact refl _
    · exact (List.pairwise_cons.mp sorted).1 b member
  induction l generalizing m with
  | nil =>
    cases m with
    | nil => rfl
    | cons b m => cases mem (fun k => (same k).symm) List.mem_cons_self
  | cons a l ih =>
    cases m with
    | nil => cases mem same List.mem_cons_self
    | cons b m =>
      have sameKey : key a = key b := antisymm _ _
        (least sorted (mem (fun k => (same k).symm) List.mem_cons_self))
        (least alsoSorted (mem same List.mem_cons_self))
      obtain rfl : a = b := by
        have first := same (key a)
        rw [List.filter_cons_of_pos (by simp), List.filter_cons_of_pos (by simp [sameKey])] at first
        exact (List.cons.inj first).1
      refine congrArg (a :: ·) (ih sorted.of_cons alsoSorted.of_cons fun k => ?_)
      have both := same k
      simp only [List.filter_cons] at both
      split at both
      · exact (List.cons.inj both).2
      · exact both

theorem Position.le_refl (a : Position) : a ≤ a := by
  simp [le_def]

theorem Position.le_antisymm {a b : Position} (ab : a ≤ b) (ba : b ≤ a) : a = b := by
  obtain ⟨line, character⟩ := a
  obtain ⟨otherLine, otherCharacter⟩ := b
  simp only [le_def] at ab ba
  simp only [Position.mk.injEq]
  omega

/-- The findings of a line, in their order. -/
def onLine (line : Nat) (findings : List Finding) : List Finding :=
  findings.filter fun finding => finding.range.start.line = line

theorem start_trans (a b c : Finding) (first : decide (a.range.start ≤ b.range.start) = true)
    (second : decide (b.range.start ≤ c.range.start) = true) :
    decide (a.range.start ≤ c.range.start) = true :=
  decide_eq_true (Position.le_trans (of_decide_eq_true first) (of_decide_eq_true second))

theorem start_total (a b : Finding) :
    (decide (a.range.start ≤ b.range.start) || decide (b.range.start ≤ a.range.start)) = true := by
  simpa using Position.le_total a.range.start b.range.start

theorem pairwise_mergeSort_start (findings : List Finding) :
    (findings.mergeSort fun a b => a.range.start ≤ b.range.start).Pairwise
      fun a b => a.range.start ≤ b.range.start :=
  (List.pairwise_mergeSort start_trans start_total findings).imp of_decide_eq_true

/-- What starts at a place is on its line. -/
theorem filter_start_onLine (findings : List Finding) (place : Position) :
    (onLine place.line findings).filter (fun finding => finding.range.start = place) =
      findings.filter fun finding => finding.range.start = place := by
  rw [onLine, List.filter_filter]
  apply List.filter_congr
  intro finding _
  by_cases isPlace : finding.range.start = place <;> simp [isPlace]

/-- Sorted findings of some kind are known from those of each line. -/
theorem filter_ofScan_eq {scan other : Validation.Scan} {p : Finding → Bool}
    (h : ∀ line, onLine line (scan.findings.filter p) = onLine line (other.findings.filter p)) :
    (Validation.ofScan scan).findings.filter p = (Validation.ofScan other).findings.filter p := by
  simp only [Validation.ofScan, filter_mergeSort start_trans start_total]
  apply eq_of_filter_key_eq (fun finding => finding.range.start) Position.le_refl
    (fun _ _ => Position.le_antisymm) (pairwise_mergeSort_start _) (pairwise_mergeSort_start _)
  intro place
  rw [filter_mergeSort start_trans start_total, filter_mergeSort start_trans start_total,
    ← filter_start_onLine, h, filter_start_onLine]

end ChartLint
