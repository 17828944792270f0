import ChartLint.Block.Tracker

/-!
Places of blocks. The tracker keeps places and reports them, and does nothing else with them: if they
are all moved, so are those that it reports, and nothing else changes.
-/
namespace ChartLint

/-- A finding at another place. -/
def Finding.relocate (f : Range → Range) (finding : Finding) : Finding :=
  { finding with range := f finding.range }

namespace Block

def Frame.relocate (f : Range → Range) (frame : Frame) : Frame :=
  { frame with range := f frame.range }

namespace Tracker

def relocate (f : Range → Range) (tracker : Tracker) : Tracker :=
  { tracker with frames := tracker.frames.map (Frame.relocate f) }

/-- A tracker and what it reports, with all places moved. -/
def relocateBoth (f : Range → Range) : Tracker × List Finding → Tracker × List Finding :=
  Prod.map (relocate f) (List.map (Finding.relocate f))

variable (f : Range → Range) (tracker : Tracker)

theorem unclosed_relocate (frames : List Frame) :
    unclosed (frames.map (Frame.relocate f)) = (unclosed frames).map (Finding.relocate f) := by
  have isMoved (frame : Frame) :
      (frame.relocate f).unclosed? = frame.unclosed?.map (Finding.relocate f) := by
    unfold Frame.unclosed? Frame.relocate
    cases frame.tolerant <;> simp [Function.comp_def, Finding.relocate]
  rw [unclosed, unclosed, ← List.map_reverse, List.filterMap_map, List.map_filterMap]
  apply congrFun
  apply congrArg
  funext frame
  exact isMoved frame

theorem declares_relocate (name : String) :
    (tracker.relocate f).declares name = tracker.declares name := by
  simp [declares, relocate, Frame.relocate, Function.comp_def]

theorem openBody_relocate (keyword : Keyword) (range : Range) (kind : Body.Kind) :
    (tracker.relocate f).openBody keyword (f range) kind =
      (tracker.openBody keyword range kind).relocate f := by
  unfold openBody
  split <;> rfl

theorem declare_relocate (name : String) (range : Range) :
    (tracker.relocate f).declare name (f range) = relocateBoth f (tracker.declare name range) := by
  simp only [declare, relocateBoth, Prod.map]
  congr 1
  change (if tracker.names.contains name then _ else _) = _
  split <;> rfl

theorem close_relocate (closer opener : Keyword) (range : Range) :
    (tracker.relocate f).close closer opener (f range) =
      relocateBoth f (tracker.close closer opener range) := by
  have isRest : (tracker.relocate f).frames.dropWhile (fun frame => frame.keyword != opener) =
      (tracker.frames.dropWhile fun frame => frame.keyword != opener).map (Frame.relocate f) :=
    List.dropWhile_map ..
  have isDropped : (tracker.relocate f).frames.takeWhile (fun frame => frame.keyword != opener) =
      (tracker.frames.takeWhile fun frame => frame.keyword != opener).map (Frame.relocate f) :=
    List.takeWhile_map ..
  simp only [close, isRest, isDropped, unclosed_relocate]
  cases tracker.frames.dropWhile (fun frame => frame.keyword != opener) with
  | nil => rfl
  | cons target outer => rfl

theorem loop_relocate (header : Option (String × String)) (range : Range) :
    (tracker.relocate f).loop header (f range) = relocateBoth f (tracker.loop header range) := by
  cases header with
  | none => rfl
  | some header =>
    simp only [loop, declares_relocate]
    split <;> rfl

theorem perform_relocate (range : Range) (statement : Statement) :
    (tracker.relocate f).perform (f range) statement =
      relocateBoth f (tracker.perform range statement) := by
  cases statement with
  | body keyword => exact congrArg (·, []) (openBody_relocate f tracker keyword range .text)
  | loop header => exact loop_relocate f tracker header range
  | branch => rfl
  | divider keyword =>
    have isTop : ((tracker.relocate f).frames.head?.any fun frame => frame.keyword == .ifThen) =
        tracker.frames.head?.any fun frame => frame.keyword == .ifThen := by
      rw [relocate, List.head?_map, Option.any_map]
      rfl
    simp only [perform, isTop]
    split <;> rfl
  | declaration keyword name extent =>
    simp only [perform, declare_relocate]
    cases extent with
    | line => rfl
    | body kind => exact congrArg (·, _) (openBody_relocate f _ keyword range kind)
    | source => rfl
  | malformed keyword expected => rfl
  | closing closer opener => exact close_relocate f tracker closer opener range

theorem finish_relocate : (tracker.relocate f).finish = relocateBoth f tracker.finish := by
  rw [finish, finish, relocate, unclosed_relocate]
  rfl

end Tracker

end Block

end ChartLint
