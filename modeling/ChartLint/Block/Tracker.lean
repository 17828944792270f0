import ChartLint.Block.Statement
import ChartLint.Issue
import ChartLint.Table

/-!
The tracker of blocks: it reads every line first, keeps the blocks that are open and the names that
are declared, and takes the lines of bodies for itself.
-/
namespace ChartLint.Block

/-- An open block. -/
structure Frame where
  keyword : Keyword
  /-- Place of the keyword. -/
  range : Range
  /-- Whether the block may stay open. -/
  tolerant : Bool := false
  loopVariable : Option String := none
  deriving DecidableEq

/-- The finding of a block that is never closed. -/
def Frame.unclosed? (frame : Frame) : Option Finding :=
  if frame.tolerant then none
  else frame.keyword.closer?.map fun closer =>
    ⟨.unmatchedKeyword frame.keyword closer, frame.range⟩

/-- An open body; its block is the innermost. -/
structure Body where
  kind : Body.Kind
  closer : Keyword
  deriving DecidableEq

structure Tracker where
  /-- Open blocks, the innermost first. -/
  frames : List Frame := []
  body : Option Body := none
  /-- Declared names in increasing order. -/
  names : List String := []
  deriving DecidableEq

namespace Tracker

/-- Whether a name is declared, or the variable of an open loop. -/
def declares (tracker : Tracker) (name : String) : Bool :=
  tracker.names.contains name ||
    tracker.frames.any fun frame => frame.loopVariable == some name

def push (tracker : Tracker) (frame : Frame) : Tracker :=
  { tracker with frames := frame :: tracker.frames }

/-- Opens a block with a body. -/
def openBody (tracker : Tracker) (keyword : Keyword) (range : Range) (kind : Body.Kind) : Tracker :=
  match keyword.closer? with
  | some closer => { tracker with body := some ⟨kind, closer⟩ }.push { keyword, range }
  | none => tracker

/-- Adds a name, which should be new. -/
def declare (tracker : Tracker) (name : String) (range : Range) : Tracker × List Finding :=
  ({ tracker with names := insertName name tracker.names },
    if tracker.names.contains name then [⟨.duplicateVariable name, range⟩] else [])

/-- What blocks say that are dropped without having been closed, in the order of opening. -/
def unclosed (dropped : List Frame) : List Finding := dropped.reverse.filterMap Frame.unclosed?

/-- Closes the innermost block of an opening keyword and drops the blocks inside it. -/
def close (tracker : Tracker) (closer opener : Keyword) (range : Range) :
    Tracker × List Finding :=
  let isOther (frame : Frame) : Bool := frame.keyword != opener
  match tracker.frames.dropWhile isOther with
  | [] => (tracker, [⟨.unmatchedKeyword closer opener, range⟩])
  | _ :: outer => ({ tracker with frames := outer }, unclosed (tracker.frames.takeWhile isOther))

/-- Opens a loop. A collection that is a bare name has to be declared. -/
def loop (tracker : Tracker) (header : Option (String × String)) (range : Range) :
    Tracker × List Finding :=
  match header with
  | none =>
    (tracker.push { keyword := .forEach, range },
      [⟨.malformedKeyword .forEach "for <item> in <collection>", range⟩])
  | some (item, collection) =>
    let unknown := collection.toList.all Text.isWord && !tracker.declares collection
    (tracker.push { keyword := .forEach, range, loopVariable := some item },
      if unknown then [⟨.unknownVariable collection, range⟩] else [])

/-- What a statement outside of bodies does. -/
def perform (tracker : Tracker) (range : Range) : Statement → Tracker × List Finding
  | .body keyword => (tracker.openBody keyword range .text, [])
  | .loop header => tracker.loop header range
  | .branch => (tracker.push { keyword := .ifThen, range }, [])
  | .divider keyword =>
    let placed := tracker.frames.head?.any fun frame => frame.keyword == .ifThen
    (tracker, if placed then [] else [⟨.misplacedKeyword keyword, range⟩])
  | .declaration keyword name extent =>
    let (declared, findings) := tracker.declare name range
    match extent with
    | .line => (declared, findings)
    | .body kind => (declared.openBody keyword range kind, findings)
    | .source => (declared.push { keyword, range, tolerant := true }, findings)
  | .malformed keyword expected => (tracker, [⟨.malformedKeyword keyword expected, range⟩])
  | .closing closer opener => tracker.close closer opener range

/-- Place of a row without the blanks around it. -/
def rowRange (line : List Char) (number : Nat) : Range :=
  .span number (Text.byteSize (line.takeWhile Text.isBlank)) (Text.byteSize (Text.trim line))

/-- What a line of a body says. The first row fixes the number of columns of the others. -/
def readRow (line : List Char) (number : Nat) (kind : Body.Kind) : Body.Kind × List Finding :=
  match kind with
  | .text => (.text, [])
  | .rows columns =>
    let row := Text.trim line
    if row.isEmpty then (.rows columns, [])
    else
      let found := columnCount false row
      match columns with
      | none => (.rows (some found), [])
      | some expected =>
        (.rows (some expected),
          if found = expected then [] else [⟨.csvColumnCount expected found, rowRange line number⟩])

/-- The place of the keyword of a line that closes a body. -/
def closing? (body : Body) (line : List Char) (number : Nat) : Option Range :=
  (Line.keyword? line number).bind fun token =>
    if token.keyword? = some body.closer then some token.range else none

/-- Reads a line of an open body. -/
def readBody (tracker : Tracker) (body : Body) (line : List Char) (number : Nat) :
    Tracker × List Finding :=
  match closing? body line number, body.closer.opener? with
  | some range, some opener => { tracker with body := none }.close body.closer opener range
  | _, _ =>
    let (kind, findings) := readRow line number body.kind
    ({ tracker with body := some { body with kind } }, findings)

/-- Reads a line; `none` leaves it to others. -/
def read? (tracker : Tracker) (line : List Char) (number : Nat) :
    Option (Tracker × List Finding) :=
  match tracker.body with
  | some body => some (tracker.readBody body line number)
  | none => (Statement.ofLine? line number).map fun (statement, range) =>
      tracker.perform range statement

/-- Ends the document: what is open is dropped. -/
def finish (tracker : Tracker) : Tracker × List Finding :=
  ({ tracker with frames := [], body := none }, unclosed tracker.frames)

end Tracker

end ChartLint.Block
