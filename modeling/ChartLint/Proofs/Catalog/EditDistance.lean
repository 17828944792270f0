import ChartLint.Catalog.Suggestion
import Mathlib.Order.Bounds.Basic

/-!
Edit distances. They are computed row by row over the starts of two words, and are the least numbers of
edits that turn one word into the other: edits in any order come to no more than an alignment, in which
the words are read side by side once.
-/
namespace ChartLint

/-- One insertion, deletion or substitution of a character. -/
inductive Edit : List Char → List Char → Prop where
  | insert (front back : List Char) (c : Char) : Edit (front ++ back) (front ++ c :: back)
  | delete (front back : List Char) (c : Char) : Edit (front ++ c :: back) (front ++ back)
  | substitute (front back : List Char) (c d : Char) :
    Edit (front ++ c :: back) (front ++ d :: back)

/-- A number of edits, one after the other. -/
inductive Edits : Nat → List Char → List Char → Prop where
  | nil (a : List Char) : Edits 0 a a
  | cons {n : Nat} {a b c : List Char} : Edit a b → Edits n b c → Edits (n + 1) a c

theorem Edit.cons {a b : List Char} (h : Edit a b) (c : Char) : Edit (c :: a) (c :: b) := by
  cases h with
  | insert front back d => exact .insert (c :: front) back d
  | delete front back d => exact .delete (c :: front) back d
  | substitute front back d e => exact .substitute (c :: front) back d e

theorem Edit.reverse {a b : List Char} (h : Edit a b) : Edit a.reverse b.reverse := by
  cases h with
  | insert front back c => simpa using Edit.insert back.reverse front.reverse c
  | delete front back c => simpa using Edit.delete back.reverse front.reverse c
  | substitute front back c d => simpa using Edit.substitute back.reverse front.reverse c d

theorem Edits.cons_cons {n : Nat} {a b : List Char} (h : Edits n a b) (c : Char) :
    Edits n (c :: a) (c :: b) := by
  induction h with
  | nil a => exact .nil (c :: a)
  | cons edit _ ih => exact .cons (edit.cons c) ih

theorem Edits.reverse {n : Nat} {a b : List Char} (h : Edits n a b) : Edits n a.reverse b.reverse := by
  induction h with
  | nil a => exact .nil a.reverse
  | cons edit _ ih => exact .cons edit.reverse ih

theorem edits_zero_iff {a b : List Char} : Edits 0 a b ↔ a = b := by
  constructor
  · rintro ⟨⟩
    rfl
  · rintro rfl
    exact .nil a

namespace EditDistance

/-- Two words side by side, with the number of edits between them. -/
inductive Aligned : Nat → List Char → List Char → Prop where
  | nil : Aligned 0 [] []
  | keep {n : Nat} {a b : List Char} (c : Char) : Aligned n a b → Aligned n (c :: a) (c :: b)
  | substitute {n : Nat} {a b : List Char} (c d : Char) :
    Aligned n a b → Aligned (n + 1) (c :: a) (d :: b)
  | insert {n : Nat} {a b : List Char} (d : Char) : Aligned n a b → Aligned (n + 1) a (d :: b)
  | delete {n : Nat} {a b : List Char} (c : Char) : Aligned n a b → Aligned (n + 1) (c :: a) b

namespace Aligned

variable {n : Nat} {a b x : List Char} {c d : Char}

theorem edits (h : Aligned n a b) : Edits n a b := by
  induction h with
  | nil => exact .nil []
  | keep c _ ih => exact ih.cons_cons c
  | @substitute _ a _ c d _ ih => exact .cons (.substitute [] a c d) (ih.cons_cons d)
  | @insert _ a _ d _ ih => exact .cons (.insert [] a d) (ih.cons_cons d)
  | @delete _ a _ c _ ih => exact .cons (.delete [] a c) ih

theorem refl (a : List Char) : Aligned 0 a a := by
  induction a with
  | nil => exact .nil
  | cons c a ih => exact .keep c ih

theorem length_le (h : Aligned n a b) : b.length ≤ a.length + n := by
  induction h <;> simp only [List.length_cons, List.length_nil] <;> omega

/-- Without its first character, a word is aligned with at most one edit more. -/
theorem drop (h : Aligned n (c :: a) b) : ∃ m ≤ n + 1, Aligned m a b := by
  generalize isWord : c :: a = word at h
  induction h with
  | nil => cases isWord
  | @keep n _ _ c h =>
    cases isWord
    exact ⟨n + 1, Nat.le_refl _, .insert c h⟩
  | @substitute n _ _ _ d h =>
    cases isWord
    exact ⟨n + 1, Nat.le_succ _, .insert d h⟩
  | insert d _ ih =>
    obtain ⟨m, few, h⟩ := ih isWord
    exact ⟨m + 1, Nat.succ_le_succ few, .insert d h⟩
  | @delete n _ _ _ h =>
    cases isWord
    exact ⟨n, by omega, h⟩

/-- With another first character, a word is aligned with at most one edit more. -/
theorem change (h : Aligned n (c :: a) b) (d : Char) : ∃ m ≤ n + 1, Aligned m (d :: a) b := by
  generalize isWord : c :: a = word at h
  induction h with
  | nil => cases isWord
  | @keep n _ _ c h =>
    cases isWord
    exact ⟨n + 1, Nat.le_refl _, .substitute d c h⟩
  | @substitute n _ _ _ e h =>
    cases isWord
    exact ⟨n + 1, Nat.le_succ _, .substitute d e h⟩
  | insert e _ ih =>
    obtain ⟨m, few, h⟩ := ih isWord
    exact ⟨m + 1, Nat.succ_le_succ few, .insert e h⟩
  | @delete n _ _ _ h =>
    cases isWord
    exact ⟨n + 1, Nat.le_succ _, .delete d h⟩

/-- What takes at most one edit more also does so after a first character. -/
theorem after (more : ∀ n x, Aligned n b x → ∃ m ≤ n + 1, Aligned m a x) (h : Aligned n (c :: b) x) :
    ∃ m ≤ n + 1, Aligned m (c :: a) x := by
  generalize isWord : c :: b = word at h
  induction h with
  | nil => cases isWord
  | keep c h =>
    cases isWord
    obtain ⟨m, few, h⟩ := more _ _ h
    exact ⟨m, few, .keep c h⟩
  | substitute c d h =>
    cases isWord
    obtain ⟨m, few, h⟩ := more _ _ h
    exact ⟨m + 1, Nat.succ_le_succ few, .substitute c d h⟩
  | insert d _ ih =>
    obtain ⟨m, few, h⟩ := ih isWord
    exact ⟨m + 1, Nat.succ_le_succ few, .insert d h⟩
  | delete c h =>
    cases isWord
    obtain ⟨m, few, h⟩ := more _ _ h
    exact ⟨m + 1, Nat.succ_le_succ few, .delete c h⟩

end Aligned

theorem aligned_of_edit {a b : List Char} (edit : Edit a b) (n : Nat) (x : List Char)
    (h : Aligned n b x) : ∃ m ≤ n + 1, Aligned m a x := by
  -- The induction is on the characters before the edit.
  cases edit with
  | insert front back c =>
    induction front generalizing n x with
    | nil => exact h.drop
    | cons d front ih => exact Aligned.after ih h
  | delete front back c =>
    induction front generalizing n x with
    | nil => exact ⟨n + 1, Nat.le_refl _, .delete c h⟩
    | cons d front ih => exact Aligned.after ih h
  | substitute front back c d =>
    induction front generalizing n x with
    | nil => exact h.change c
    | cons e front ih => exact Aligned.after ih h

theorem aligned_of_edits {n : Nat} {a b : List Char} (h : Edits n a b) :
    ∃ m ≤ n, Aligned m a b := by
  induction h with
  | nil a => exact ⟨0, Nat.le_refl _, .refl a⟩
  | cons edit _ ih =>
    obtain ⟨m, few, h⟩ := ih
    obtain ⟨k, fewer, h⟩ := aligned_of_edit edit m _ h
    exact ⟨k, by omega, h⟩

/-- The fewest edits of an alignment of two words. -/
def Fewest (a b : List Char) (n : Nat) : Prop := IsLeast {n | Aligned n a b} n

namespace Fewest

variable {u w : List Char} {c d : Char}

theorem nil (w : List Char) : Fewest [] w w.length := by
  constructor
  · induction w with
    | nil => exact Aligned.nil
    | cons d w ih => exact Aligned.insert d ih
  · intro n h
    simpa using Aligned.length_le h

theorem cons_nil {n : Nat} (h : Fewest u [] n) (c : Char) : Fewest (c :: u) [] (n + 1) := by
  refine ⟨Aligned.delete c h.1, fun m other => ?_⟩
  cases other with
  | delete _ other => exact Nat.succ_le_succ (h.2 other)

/-- The fewest edits at two characters, from those without one of them or both. -/
theorem cons_cons {x y z : Nat} (left : Fewest (c :: u) w x) (up : Fewest u (d :: w) y)
    (diagonal : Fewest u w z) :
    Fewest (c :: u) (d :: w) (min (min x y + 1) (if c = d then z else z + 1)) := by
  constructor
  · have aligned : Aligned (if c = d then z else z + 1) (c :: u) (d :: w) := by
      split
      case isTrue same => exact same ▸ .keep c diagonal.1
      case isFalse => exact .substitute c d diagonal.1
    generalize (if c = d then z else z + 1) = both at aligned
    have isOne : min (min x y + 1) both = x + 1 ∨ min (min x y + 1) both = y + 1 ∨
        min (min x y + 1) both = both := by omega
    rcases isOne with isOne | isOne | isOne <;> rw [isOne]
    · exact Aligned.insert d left.1
    · exact Aligned.delete c up.1
    · exact aligned
  · intro n h
    cases h with
    | keep _ h =>
      have := diagonal.2 h
      simpa using .inr this
    | substitute _ _ h =>
      have := diagonal.2 h
      split <;> omega
    | insert _ h =>
      have := left.2 h
      omega
    | delete _ h =>
      have := up.2 h
      omega

end Fewest

/-- A row of distances from a word: to another, and to those that the characters of a third make of it,
one after the other put before it. -/
inductive Row (u : List Char) : (w word : List Char) → List Nat → Prop where
  | nil {w : List Char} {n : Nat} : Fewest u w n → Row u w [] [n]
  | cons {w word : List Char} {d : Char} {n : Nat} {row : List Nat} :
    Fewest u w n → Row u (d :: w) word row → Row u w (d :: word) (n :: row)

namespace Row

variable {u w word : List Char} {row : List Nat}

theorem extend {c : Char} {left : Nat} (above : Row u w word row) (isLeft : Fewest (c :: u) w left) :
    Row (c :: u) w word (left :: extendRow c left word row) := by
  induction above generalizing left with
  | nil => exact .nil isLeft
  | cons diagonal rest ih =>
    cases rest with
    | nil up => exact .cons isLeft (ih (isLeft.cons_cons up diagonal))
    | cons up _ => exact .cons isLeft (ih (isLeft.cons_cons up diagonal))

theorem next (above : Row u [] word row) (c : Char) : Row (c :: u) [] word (nextRow word row c) := by
  have isHead : Fewest u [] (row.headD 0) := by
    cases above with
    | nil first => exact first
    | cons first _ => exact first
  exact above.extend (isHead.cons_nil c)

theorem foldl (h : Row u [] word row) (a : List Char) :
    Row (a.reverse ++ u) [] word (a.foldl (nextRow word) row) := by
  induction a generalizing u row with
  | nil => exact h
  | cons c a ih =>
    rw [List.reverse_cons, List.append_assoc]
    exact ih (h.next c)

theorem start (w word : List Char) : Row [] w word (List.range' w.length (word.length + 1)) := by
  induction word generalizing w with
  | nil => exact .nil (.nil w)
  | cons d word ih => exact .cons (.nil w) (ih (d :: w))

theorem last (h : Row u w word row) : Fewest u (word.reverse ++ w) (row.getLastD 0) := by
  induction h with
  | nil first => exact first
  | @cons _ _ d _ _ first rest ih =>
    rw [List.reverse_cons, List.append_assoc, List.getLastD_cons]
    cases rest with
    | nil => exact ih
    | cons => exact ih

end Row

theorem fewest_editDistance (a b : List Char) : Fewest a.reverse b.reverse (editDistance a b) := by
  have rows := ((Row.start [] b).foldl a).last
  rwa [List.append_nil, List.append_nil, List.length_nil, ← List.range_eq_range'] at rows

/-- A distance is the least number of edits that turn one word into the other. -/
theorem isLeast_editDistance (a b : List Char) : IsLeast {n | Edits n a b} (editDistance a b) := by
  have fewest := fewest_editDistance a b
  constructor
  · simpa using fewest.1.edits.reverse
  · intro n edits
    obtain ⟨m, few, aligned⟩ := aligned_of_edits edits.reverse
    exact (fewest.2 aligned).trans few

end EditDistance

end ChartLint
