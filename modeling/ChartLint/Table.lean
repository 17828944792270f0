/-!
Tables: lists of entries in strictly increasing order of their keys, and sorted lists of names.
-/
namespace ChartLint

abbrev Table (α : Type) := List (String × α)

namespace Table

variable {α : Type}

/-- Adds an entry in its place; an entry of the same key is replaced. -/
def insert (key : String) (value : α) : Table α → Table α
  | [] => [(key, value)]
  | entry :: rest =>
    if key < entry.1 then (key, value) :: entry :: rest
    else if key = entry.1 then (key, value) :: rest
    else entry :: insert key value rest

/-- The table of a list of entries; of entries with one key the last wins. -/
def ofList (entries : List (String × α)) : Table α :=
  entries.foldl (fun table entry => insert entry.1 entry.2 table) []

def find? (table : Table α) (key : String) : Option α :=
  (List.find? (fun entry => entry.1 == key) table).map Prod.snd

def contains (table : Table α) (key : String) : Bool := (find? table key).isSome

def keys (table : Table α) : List String := table.map Prod.fst

def values (table : Table α) : List α := table.map Prod.snd

end Table

/-- Adds a name to a sorted list of names, which stays as it is when it has the name. -/
def insertName (name : String) : List String → List String
  | [] => [name]
  | other :: rest =>
    if name < other then name :: other :: rest
    else if name = other then other :: rest
    else other :: insertName name rest

/-- The names of a list, each once, in increasing order. -/
def sortNames (names : List String) : List String :=
  names.foldl (fun sorted name => insertName name sorted) []

end ChartLint
