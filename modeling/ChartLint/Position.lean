/-!
Places in a document. Lines and columns are counted from zero, and a column counts the bytes of its
line before it.
-/
namespace ChartLint

structure Position where
  line : Nat
  character : Nat
  deriving DecidableEq

namespace Position

/-- Document order. -/
protected def Le (a b : Position) : Prop :=
  a.line < b.line ∨ a.line = b.line ∧ a.character ≤ b.character

instance : LE Position := ⟨Position.Le⟩

instance (a b : Position) : Decidable (a ≤ b) :=
  inferInstanceAs (Decidable (a.line < b.line ∨ a.line = b.line ∧ a.character ≤ b.character))

theorem le_def {a b : Position} :
    a ≤ b ↔ a.line < b.line ∨ a.line = b.line ∧ a.character ≤ b.character := Iff.rfl

theorem le_total (a b : Position) : a ≤ b ∨ b ≤ a := by
  simp only [le_def]; omega

theorem le_trans {a b c : Position} (ab : a ≤ b) (bc : b ≤ c) : a ≤ c := by
  simp only [le_def] at *; omega

end Position

/-- A half-open range of a document. -/
structure Range where
  start : Position
  stop : Position
  ordered : start ≤ stop
  deriving DecidableEq

/-- A range whose end would lie before its start. -/
structure Range.Inverted where
  start : Position
  stop : Position

namespace Range

/-- The range between two places, which have to be in document order. -/
def between (start stop : Position) : Except Inverted Range :=
  if ordered : start ≤ stop then .ok ⟨start, stop, ordered⟩ else .error ⟨start, stop⟩

/-- The range on one line that starts at a column and covers a number of bytes. -/
def span (line column size : Nat) : Range :=
  ⟨⟨line, column⟩, ⟨line, column + size⟩, .inr ⟨rfl, Nat.le_add_right ..⟩⟩

/-- Document order of ranges: by start, then by end. -/
def precedes (a b : Range) : Bool :=
  if a.start = b.start then a.stop ≤ b.stop else a.start ≤ b.start

/-- Line and column of the start, counted from one. -/
def label (range : Range) : String := s!"{range.start.line + 1}:{range.start.character + 1}"

end Range

def Range.Inverted.message (inverted : Range.Inverted) : String :=
  let place (position : Position) : String :=
    s!"Position \x7b line: {position.line}, character: {position.character} \x7d"
  s!"Range end {place inverted.stop} < start {place inverted.start}"

end ChartLint
