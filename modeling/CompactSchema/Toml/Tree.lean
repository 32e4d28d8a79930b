import CompactSchema.Entries

/-!
Contract: TOML documents as trees of tables, and the rules by which headers and
dotted keys build them.

A table can be named by a header once. A table that only exists because a longer
header runs through it can still be named; one made by dotted keys can be
extended by dotted keys only, or by headers that run through it. Arrays and
tables that are written as values are closed.

Owns: the tree, the insertion of a value under a dotted key, and the opening of
tables by headers.

Does not own: the text, see `Toml.Literal` and `Toml.Document`.
-/

set_option autoImplicit false

namespace CompactSchema.Toml

/-- What brought a table into being. -/
inductive Origin where
  /-- A header names it, or it is the root or an element of an array of tables. -/
  | header
  /-- A longer header runs through it. -/
  | implied
  /-- A dotted key runs through it. -/
  | dotted
deriving DecidableEq, Repr

/-- What stands under a key. Numbers with a fraction and moments are kept as
written. -/
inductive Node where
  | string (content : String)
  | integer (number : Int)
  | float (literal : String)
  | boolean (bit : Bool)
  | moment (literal : String)
  /-- An array that is written as a value. -/
  | array (items : List Node)
  /-- A table that is written as a value. -/
  | inline (entries : List (String × Node))
  | table (origin : Origin) (entries : List (String × Node))
  /-- An array of tables, the newest element first. -/
  | tables (newest : List (String × Node)) (older : List (List (String × Node)))

structure Table where
  origin : Origin
  entries : Entries String Node

namespace Table

/-- The root of a document, without entries. -/
def empty : Table := ⟨.header, []⟩

def put (table : Table) (key : String) (node : Node) : Table :=
  { table with entries := Entries.insert key node table.entries }

/-- Change the table at the end of a path. Tables missing on the way are made
with the given origin; dotted keys do not enter a table that a header names. -/
def update (made : Origin) (change : Table → Option Table) : List String → Table → Option Table
  | [], table => change table
  | key :: path, table =>
    match Entries.find? key table.entries with
    | none =>
      (update made change path ⟨made, []⟩).map fun inner =>
        table.put key (.table inner.origin inner.entries)
    | some (.table origin entries) =>
      if made = .dotted ∧ origin = .header then none
      else
        (update made change path ⟨origin, entries⟩).map fun inner =>
          table.put key (.table inner.origin inner.entries)
    | some (.tables newest older) =>
      (update made change path ⟨.header, newest⟩).map fun inner =>
        table.put key (.tables inner.entries older)
    | some _ => none

/-- Give a key a value. The table at the end of a dotted key has to come from
dotted keys alone. -/
def assign (path : List String) (key : String) (node : Node) : Table → Option Table :=
  update .dotted (fun table =>
    if (table.origin == .dotted) == path.isEmpty then none
    else if Entries.has key table.entries then none
    else some (table.put key node)) path

/-- Open a table named by a header. -/
def openTable (path : List String) (key : String) : Table → Option Table :=
  update .implied (fun table =>
    match Entries.find? key table.entries with
    | none => some (table.put key (.table .header []))
    | some (.table .implied entries) => some (table.put key (.table .header entries))
    | some _ => none) path

/-- Open a new element of an array of tables named by a header. -/
def openElement (path : List String) (key : String) : Table → Option Table :=
  update .implied (fun table =>
    match Entries.find? key table.entries with
    | none => some (table.put key (.tables [] []))
    | some (.tables newest older) => some (table.put key (.tables [] (newest :: older)))
    | some _ => none) path

end Table

end CompactSchema.Toml
