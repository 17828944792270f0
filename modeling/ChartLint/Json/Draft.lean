import ChartLint.Json.Token

/-!
Drafts: JSON values as far as their text goes. A draft stands for a text that may be at fault; all that
was read before the fault is in place, and the fault stands where the next value, entry or closing
bracket should. A reader of drafts who goes through them in order meets the fault where the text has it.
-/
namespace ChartLint.Json

/-- Offsets of the first byte of a value and of the byte after it. -/
structure Span where
  start : Nat
  stop : Nat

/-- The key of an entry. -/
structure Key where
  name : String
  /-- Offset of the byte after the key. -/
  stop : Nat
  /-- Offset that is reached when the record is left after the key. -/
  after : Nat

/-- An entry of a record. -/
structure Entry (α : Type) where
  key : Key
  value : α
  /-- Offset that is reached when the record is left after the value. -/
  after : Nat

inductive Draft where
  | null (span : Span)
  | bool (span : Span) (value : Bool)
  | number (span : Span) (value : Numeral)
  | text (span : Span) (value : String)
  /-- The fault is what stands in place of the closing bracket. -/
  | list (span : Span) (items : List Draft) (close : Option Fault)
  | record (span : Span) (entries : List (Entry Draft)) (close : Option Fault)
  | broken (fault : Fault)

namespace Draft

mutual

/-- The first fault of a draft. -/
def fault? : Draft → Option Fault
  | .broken fault => some fault
  | .list _ items close => (faultOfItems? items).or close
  | .record _ entries close => (faultOfEntries? entries).or close
  | .null _ | .bool .. | .number .. | .text .. => none

def faultOfItems? : List Draft → Option Fault
  | [] => none
  | item :: rest => item.fault?.or (faultOfItems? rest)

def faultOfEntries? : List (Entry Draft) → Option Fault
  | [] => none
  | ⟨_, value, _⟩ :: rest => value.fault?.or (faultOfEntries? rest)

end

/-- A list or record that is not closed yet, its latest parts first. -/
inductive Open where
  | list (start : Nat) (items : List Draft)
  /-- The key is that of the entry whose value is being read. -/
  | record (start : Nat) (entries : List (Entry Draft)) (key : Key)

/-- What the text may go on with. -/
inductive Mode where
  /-- A value. -/
  | value
  /-- The first item of a list, or its end. -/
  | firstItem
  /-- A further item. -/
  | item
  /-- The first key of a record, or its end. -/
  | firstKey
  /-- A further key. -/
  | key
  /-- The colon after a key. -/
  | colon
  /-- A comma, or the end of what is open. -/
  | next

/-- Brackets may be open up to this depth. -/
def depthLimit : Nat := 127

/-- Closes a list or record. -/
def Open.close (stop : Nat) (fault : Option Fault) : Open → Draft
  | .list start items => .list ⟨start, stop⟩ items.reverse fault
  | .record start entries _ => .record ⟨start, stop⟩ entries.reverse fault

/-- Adds a value to a list or record. -/
def Open.add (value : Draft) (after : Nat) : Open → Open
  | .list start items => .list start (value :: items)
  | .record start entries key => .record start (⟨key, value, after⟩ :: entries) key

/-- The whole draft of a text that ends in a fault: the value at fault is the last part of what is open,
all of which stays unclosed. -/
def abandon (fault : Fault) (value : Draft) : List Open → Draft
  | [] => value
  | container :: outer => abandon fault ((container.add value fault.offset).close fault.offset fault) outer

/-- The whole draft of a text whose fault stands in place of a bracket or key. -/
def abandonOpen (fault : Fault) : List Open → Draft
  | [] => .broken fault
  | container :: outer => abandon fault (container.close fault.offset fault) outer

/-- The fault of a text that ends too early. -/
def endFault (mode : Mode) (stack : List Open) (size : Nat) : Fault :=
  match mode, stack with
  | .firstItem, _ => ⟨.endInList, size⟩
  | .firstKey, _ | .colon, _ => ⟨.endInRecord, size⟩
  | .next, .list .. :: _ => ⟨.endInList, size⟩
  | .next, .record .. :: _ => ⟨.endInRecord, size⟩
  | _, _ => ⟨.endInValue, size⟩

/-- The offset that is reached when a record is left before some tokens: that of the first, or that
after the closing bracket. -/
def leavingOffset (size : Nat) : List Token → Nat
  | [] => size
  | token :: _ =>
    match token.lexeme with
    | .ok .recordClose => token.stop
    | _ => token.start

/-- A draft and the fault of what follows it, if anything does. -/
structure Document where
  root : Draft
  trailing : Option Fault

/-- The document of a text in which something is at fault. -/
def atFault (fault : Fault) (mode : Mode) (stack : List Open) : Document :=
  match mode with
  | .value | .colon => ⟨abandon fault (.broken fault) stack, none⟩
  | _ => ⟨abandonOpen fault stack, none⟩

mutual

/-- Reads a document from its tokens. The stack holds what is open, the innermost first; the size is
that of the whole text. -/
def build (size : Nat) (mode : Mode) (stack : List Open) : List Token → Document
  | [] => atFault (endFault mode stack size) mode stack
  | token :: rest =>
    let here (kind : Fault.Kind) : Fault := ⟨kind, token.start + 1⟩
    match mode with
    | .value => buildValue size stack token rest
    | .firstItem =>
      match token.lexeme, stack with
      | .ok .listClose, container :: outer =>
        finish size (container.close token.stop none) outer rest
      | _, _ => buildValue size stack token rest
    | .item =>
      match token.lexeme with
      | .ok .listClose => atFault (here .trailingComma) mode stack
      | _ => buildValue size stack token rest
    | .firstKey =>
      match token.lexeme, stack with
      | .ok .recordClose, container :: outer =>
        finish size (container.close token.stop none) outer rest
      | _, _ => buildKey size mode stack token rest
    | .key =>
      match token.lexeme with
      | .ok .recordClose => atFault (here .trailingComma) mode stack
      | _ => buildKey size mode stack token rest
    | .colon =>
      match token.lexeme with
      | .ok .colon => build size .value stack rest
      | _ => atFault (here .expectedColon) mode stack
    | .next =>
      match token.lexeme, stack with
      | .ok .comma, .list .. :: _ => build size .item stack rest
      | .ok .comma, .record .. :: _ => build size .key stack rest
      | .ok .listClose, .list start items :: outer =>
        finish size ((Open.list start items).close token.stop none) outer rest
      | .ok .recordClose, .record start entries key :: outer =>
        finish size ((Open.record start entries key).close token.stop none) outer rest
      | _, .list .. :: _ => atFault (here .expectedCommaOrListEnd) mode stack
      | _, .record .. :: _ => atFault (here .expectedCommaOrRecordEnd) mode stack
      | _, [] => atFault (here .trailingCharacters) mode stack
termination_by tokens => (tokens.length, 0)

/-- Reads a value that starts with a token. -/
def buildValue (size : Nat) (stack : List Open) (token : Token) (rest : List Token) : Document :=
  let span : Span := ⟨token.start, token.stop⟩
  let here (kind : Fault.Kind) : Fault := ⟨kind, token.start + 1⟩
  match token.lexeme with
  | .error fault => atFault fault .value stack
  | .ok .null => finish size (.null span) stack rest
  | .ok (.bool value) => finish size (.bool span value) stack rest
  | .ok (.number value) => finish size (.number span value) stack rest
  | .ok (.text value) => finish size (.text span value) stack rest
  | .ok .listOpen =>
    if depthLimit ≤ stack.length then atFault (here .nestedTooDeep) .value stack
    else build size .firstItem (.list token.start [] :: stack) rest
  | .ok .recordOpen =>
    if depthLimit ≤ stack.length then atFault (here .nestedTooDeep) .value stack
    else build size .firstKey (.record token.start [] ⟨"", token.stop, token.stop⟩ :: stack) rest
  | .ok _ => atFault (here .expectedValue) .value stack
termination_by (rest.length, 2)

/-- Reads a key that is a token. -/
def buildKey (size : Nat) (mode : Mode) (stack : List Open) (token : Token) (rest : List Token) :
    Document :=
  match token.lexeme, stack with
  | .ok (.text key), .record start entries _ :: outer =>
    let key : Key := ⟨key, token.stop, leavingOffset size rest⟩
    build size .colon (.record start entries key :: outer) rest
  | lexeme, _ =>
    match lexeme, token.lead with
    | .error fault, '"' => atFault fault mode stack
    | _, _ => atFault ⟨.keyMustBeText, token.start + 1⟩ mode stack
termination_by (rest.length, 2)

/-- Goes on after a value. -/
def finish (size : Nat) (value : Draft) (stack : List Open) (rest : List Token) : Document :=
  match stack with
  | [] => ⟨value, rest.head?.map fun token => ⟨.trailingCharacters, token.start + 1⟩⟩
  | container :: outer =>
    build size .next (container.add value (leavingOffset size rest) :: outer) rest
termination_by (rest.length, 1)

end

end Draft

/-- The document that a text spells. -/
def read (text : List Char) : Draft.Document :=
  Draft.build (Text.byteSize text) .value [] (tokens text)

/-- The first fault of a text that should spell one value. -/
def fault? (text : List Char) : Option Fault :=
  let document := read text
  document.root.fault?.or document.trailing

end ChartLint.Json
