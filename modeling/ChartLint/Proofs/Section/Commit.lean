import ChartLint.Proofs.Section.Tree
import ChartLint.Section.Stack

/-!
Sections are committed one after the other: the stack accepts a section at a level, and the tree is
offered it with its settings. What holds of every state of that kind is shown by induction on the
commits.
-/
namespace ChartLint.Section

def Frame.entry (frame : Frame) : Entry := ⟨frame.name, frame.range, frame.settings⟩

namespace Stack

/-- What the open sections declare, the innermost first. -/
def entries (stack : Stack) : List Entry := stack.frames.map Frame.entry

@[simp] theorem length_entries (stack : Stack) : stack.entries.length = stack.size := by
  simp [entries, size]

theorem entries_openAt (catalog : Catalog) (stack : Stack) (name : String) (range : Range)
    (level : Nat) :
    (stack.openAt catalog name range level).1.entries =
      ⟨name, range, []⟩ :: stack.entries.drop (stack.size - level) := by
  simp only [openAt, entries, List.map_cons, List.map_map, ← List.map_drop]
  rfl

theorem entries_addSettings {stack : Stack} {entry : Entry} {outer : List Entry}
    (h : stack.entries = entry :: outer) (settings : List Setting) :
    (stack.addSettings settings).entries =
      { entry with settings := entry.settings ++ settings } :: outer := by
  obtain ⟨frames⟩ := stack
  cases frames with
  | nil => cases h
  | cons frame frames =>
    simp only [entries, List.map_cons, List.cons.injEq] at h
    obtain ⟨rfl, rfl⟩ := h
    rfl

theorem entries_modify (stack : Stack) (name : String) {f : Frame → Frame}
    (keeps : ∀ frame, (f frame).entry = frame.entry) :
    (stack.modify name f).entries = stack.entries := by
  simp only [modify]
  split
  · rfl
  · next frame outer isInner =>
    have whole : stack.frames.takeWhile (fun frame => frame.name != name) ++ frame :: outer =
        stack.frames := by
      rw [← isInner, List.takeWhile_append_dropWhile]
    simp only [entries, List.map_append, List.map_cons, keeps]
    rw [← List.map_cons, ← List.map_append, whole]

/-- A section is accepted at its depth, or, if that is too deep and it may be declared anywhere, in
place of the innermost section of its name or below the innermost section. -/
theorem accept_eq_ok {catalog : Catalog} {stack : Stack} {name : String} {level : Nat}
    (h : stack.accept catalog name = .ok level) :
    ∃ depth, catalog.depth? name = some depth ∧ level ≤ stack.size ∧ (level = 0 → stack.size = 0) ∧
      (level = depth ∨
        stack.size < depth ∧ 0 < stack.size ∧ catalog.isInheritable name ∧
          (level = stack.size ∨
            level + 1 = stack.size ∧ ∃ frame, stack.top? = some frame ∧ frame.name = name)) := by
  unfold accept at h
  split at h
  case h_1 => cases h
  case h_2 depth isDepth =>
    simp only at h
    split at h
    case isTrue => cases h
    case isFalse fits =>
      split at h
      case isTrue => cases h
      case isFalse first =>
        obtain rfl := Except.ok.inj h
        refine ⟨depth, isDepth, by omega, by omega, ?_⟩
        unfold depthFor
        split
        case isTrue tooDeep =>
          refine .inr ⟨tooDeep.1, tooDeep.2.1, tooDeep.2.2, ?_⟩
          split
          case isTrue same =>
            obtain ⟨frame, isTop, same⟩ := (Option.any_eq_true ..).mp same
            exact .inr ⟨by omega, frame, isTop, by simpa using same⟩
          case isFalse => exact .inl rfl
        case isFalse => exact .inl rfl

end Stack

/-- The open sections, the innermost first, and the tree after some sections were accepted one after
the other, each with its settings. -/
inductive Committed (catalog : Catalog) : List Entry → Tree → Prop
  | empty : Committed catalog [] {}
  | commit {stack : Stack} {tree : Tree} {level : Nat} (entry : Entry) :
      Committed catalog stack.entries tree → stack.accept catalog entry.name = .ok level →
      Committed catalog (entry :: stack.entries.drop (stack.size - level))
        (tree.add catalog entry.name entry.range entry.settings)

theorem Committed.rooted {catalog : Catalog} {entries : List Entry} {tree : Tree}
    (h : Committed catalog entries tree) : tree.Rooted := by
  induction h with
  | empty => exact Tree.rooted_empty
  | commit entry _ _ ih => exact ih.add catalog entry.name entry.range entry.settings

end ChartLint.Section
