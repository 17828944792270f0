import ChartLint.Catalog
import ChartLint.Setting

/-!
The stack of open sections, the innermost first. A section that is not deeper than the innermost closes
the sections from its own depth on, and the innermost of them that lacks required child sections is
reported.
-/
namespace ChartLint.Section

/-- Child sections that a section may have to hold. -/
structure Alternative where
  missing : List String
  /-- Number of those already met. -/
  resolved : Nat := 0
  deriving DecidableEq

namespace Alternative

/-- Meets a child section. -/
def resolve (name : String) (alternative : Alternative) : Alternative :=
  ⟨alternative.missing.filter (· != name), alternative.resolved + alternative.missing.count name⟩

/-- Adds child sections. -/
def require (names : List String) (alternative : Alternative) : Alternative :=
  { alternative with
    missing := names.foldl
      (fun missing name => if missing.contains name then missing else missing ++ [name])
      alternative.missing }

/-- Whether an alternative is at least as close to completion as another: more of it is met, or as
much of it and no more is missing. -/
def atLeast (a b : Alternative) : Bool :=
  b.resolved < a.resolved || b.resolved == a.resolved && a.missing.length ≤ b.missing.length

end Alternative

/-- An open section. -/
structure Frame where
  name : String
  range : Range
  settings : List Setting := []
  /-- Alternatives of child sections, one of which the section has to hold if there is any. -/
  alternatives : List Alternative := []

namespace Frame

def isSatisfied (frame : Frame) : Bool :=
  frame.alternatives.isEmpty || frame.alternatives.any fun alternative => alternative.missing.isEmpty

/-- The alternative that is closest to completion, and the last of those that are as close. -/
def best? (frame : Frame) : Option Alternative :=
  frame.alternatives.foldl
    (fun best alternative =>
      match best with
      | none => some alternative
      | some best => if alternative.atLeast best then some alternative else some best)
    none

/-- Meets a child section. -/
def resolve (name : String) (frame : Frame) : Frame :=
  { frame with alternatives := frame.alternatives.map (Alternative.resolve name) }

/-- Adds child sections to every alternative; a section without any gets one. -/
def require (names : List String) (frame : Frame) : Frame :=
  { frame with
    alternatives :=
      if frame.alternatives.isEmpty then [⟨names, 0⟩]
      else frame.alternatives.map (Alternative.require names) }

/-- The finding of a section that lacks child sections. -/
def unmet? (frame : Frame) : Option Finding :=
  frame.best?.map fun best => ⟨.requiredSectionMissing frame.name best.missing, frame.range⟩

end Frame

structure Stack where
  /-- Open sections, the innermost first. -/
  frames : List Frame := []

namespace Stack

def size (stack : Stack) : Nat := stack.frames.length

def top? (stack : Stack) : Option Frame := stack.frames.head?

/-- The depth that a section takes on the stack. A section that may be declared at any level and would
be too deep takes the place of a section of the same name, or that of a child. -/
def depthFor (catalog : Catalog) (stack : Stack) (name : String) (depth : Nat) : Nat :=
  if stack.size < depth ∧ 0 < stack.size ∧ catalog.isInheritable name then
    if stack.top?.any fun frame => frame.name == name then stack.size - 1 else stack.size
  else depth

/-- The depth at which a section is accepted. -/
def accept (catalog : Catalog) (stack : Stack) (name : String) : Except Issue Nat :=
  match catalog.depth? name with
  | none => .error (.unknownSection name)
  | some depth =>
    let depth := stack.depthFor catalog name depth
    if stack.size < depth then
      .error (.unexpectedSection name (catalog.sectionsAtDepth stack.size))
    else if depth = 0 ∧ 0 < stack.size then .error (.duplicateRoot name)
    else .ok depth

/-- The finding of the innermost of some sections that lacks child sections. -/
def unmet? (closed : List Frame) : Option Finding :=
  (closed.find? fun frame => !frame.isSatisfied).bind Frame.unmet?

/-- Opens a section at a depth: the sections from there on are closed, the others meet it. -/
def openAt (catalog : Catalog) (stack : Stack) (name : String) (range : Range) (depth : Nat) :
    Stack × Option Finding :=
  let count := stack.size - depth
  let frame : Frame := {
    name
    range
    alternatives := (catalog.requiredSections name).map fun names => ⟨names, 0⟩ }
  (⟨frame :: (stack.frames.drop count).map (Frame.resolve name)⟩,
    unmet? (stack.frames.take count))

/-- Opens a section, or says why it is rejected. -/
def insert (catalog : Catalog) (stack : Stack) (name : String) (range : Range) :
    Except Issue (Stack × Option Finding) :=
  (stack.accept catalog name).map (stack.openAt catalog name range)

/-- Closes all sections. -/
def finish (stack : Stack) : Stack × Option Finding := ({}, unmet? stack.frames)

/-- Applies a function to the innermost section of a name. -/
def modify (stack : Stack) (name : String) (f : Frame → Frame) : Stack :=
  let isOther (frame : Frame) : Bool := frame.name != name
  match stack.frames.dropWhile isOther with
  | [] => stack
  | frame :: outer => ⟨stack.frames.takeWhile isOther ++ f frame :: outer⟩

/-- Adds required child sections to the innermost section of a name. -/
def require (stack : Stack) (target : String) (names : List String) : Stack :=
  stack.modify target (Frame.require names)

/-- Replaces the required child sections of the innermost section of a name. -/
def replaceRequirements (stack : Stack) (target : String) (options : List (List String)) : Stack :=
  stack.modify target fun frame =>
    { frame with alternatives := options.map fun names => ⟨names, 0⟩ }

/-- Records settings of the innermost section. -/
def addSettings (stack : Stack) (settings : List Setting) : Stack :=
  match stack.frames with
  | [] => stack
  | frame :: outer => ⟨{ frame with settings := frame.settings ++ settings } :: outer⟩

/-- The nearest setting of a name, in the innermost section or in any open one. -/
def setting? (stack : Stack) (name : String) (recursive : Bool) : Option Setting :=
  (if recursive then stack.frames else stack.frames.take 1).findSome? fun frame =>
    Setting.named? frame.settings (normalizeName name)

/-- The settings of the innermost section of a name and, if wanted, of those around it. -/
def settingsOf (stack : Stack) (name : String) (recursive : Bool) : List Setting :=
  let frames := stack.frames.dropWhile fun frame => frame.name != name
  (if recursive then frames else frames.take 1).flatMap Frame.settings

/-- Place of the innermost section of a name. -/
def rangeOf? (stack : Stack) (name : String) : Option Range :=
  (stack.frames.find? fun frame => frame.name == name).map Frame.range

end Stack

end ChartLint.Section
