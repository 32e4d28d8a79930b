import CompactSchema.Toml.Literal

/-!
Contract: reading TOML documents.

A document is a sequence of lines, each of which assigns a value to a key in the
table that was opened last, or opens a table. Lines that are blank or hold only
a comment count for nothing.

Owns: values, lines and documents.

Does not own: what the keys mean.
-/

set_option autoImplicit false

namespace CompactSchema.Toml

/-! ## Values -/

/-- Assign every pair of an inline table in turn. -/
def assignAll : List (List String × String × Node) → Table → Option Table
  | [], table => some table
  | (path, key, node) :: rest, table => (table.assign path key node).bind (assignAll rest)

/-- How deep arrays and inline tables can be nested in one another. -/
def nestingLimit : Nat := 79

mutual

/-- A value and the text after it; arrays and inline tables can be nested
`levels` deep in it. -/
def scanValue : Nat → Nat → List Char → Option (Node × List Char)
  | 0, _, _ => none
  | steps + 1, levels, text =>
    match text, levels with
    | '[' :: _, 0 => none
    | '[' :: rest, levels + 1 =>
      (scanItems steps levels (skipLines rest)).map fun found => (.array found.1, found.2)
    | '{' :: _, 0 => none
    | '{' :: rest, levels + 1 =>
      match skipBlanks rest with
      | '}' :: rest => some (.inline [], rest)
      | rest =>
        match scanPairs steps levels rest with
        | some (pairs, rest) =>
          (assignAll pairs .empty).map fun table => (.inline table.entries, rest)
        | none => none
    | '"' :: _, _ => (scanString text).map fun found => (.string found.1, found.2)
    | '\'' :: _, _ => (scanString text).map fun found => (.string found.1, found.2)
    | _, _ =>
      let (literal, rest) := spanLiteral text
      (literalNode? literal).map (·, rest)

/-- The items of an array up to its closing bracket; a comma may follow the
last one. -/
def scanItems : Nat → Nat → List Char → Option (List Node × List Char)
  | 0, _, _ => none
  | steps + 1, levels, text =>
    match text with
    | ']' :: rest => some ([], rest)
    | _ =>
      match scanValue steps levels text with
      | none => none
      | some (item, rest) =>
        match skipLines rest with
        | ',' :: rest =>
          (scanItems steps levels (skipLines rest)).map fun found => (item :: found.1, found.2)
        | ']' :: rest => some ([item], rest)
        | _ => none

/-- The pairs of an inline table up to its closing brace; no comma may follow
the last one. -/
def scanPairs : Nat → Nat → List Char →
    Option (List (List String × String × Node) × List Char)
  | 0, _, _ => none
  | steps + 1, levels, text =>
    match scanKey text with
    | some (path, key, '=' :: rest) =>
      match scanValue steps levels (skipBlanks rest) with
      | none => none
      | some (node, rest) =>
        match skipBlanks rest with
        | ',' :: rest =>
          (scanPairs steps levels rest).map fun found => ((path, key, node) :: found.1, found.2)
        | '}' :: rest => some ([(path, key, node)], rest)
        | _ => none
    | _ => none

end

/-! ## Lines -/

/-- A document read so far: its root, and the path to the table opened last. -/
structure State where
  root : Table
  current : List String

/-- Assign a value in the table opened last. -/
def State.assign (state : State) (path : List String) (key : String) (node : Node) :
    Option State :=
  (state.root.update .implied (fun table => table.assign path key node) state.current).map
    fun root => { state with root }

/-- Open a table or, if `element` is set, a new element of an array of tables. -/
def State.enter (state : State) (element : Bool) (path : List String) (key : String) :
    Option State :=
  (if element then state.root.openElement path key else state.root.openTable path key).map
    fun root => ⟨root, path ++ [key]⟩

/-- A line with a header or an assignment, and the text after it. -/
def scanLine (state : State) (text : List Char) : Option (State × List Char) :=
  match text with
  | '[' :: '[' :: rest =>
    match scanKey rest with
    | some (path, key, ']' :: ']' :: rest) => (state.enter true path key).map (·, rest)
    | _ => none
  | '[' :: rest =>
    match scanKey rest with
    | some (path, key, ']' :: rest) => (state.enter false path key).map (·, rest)
    | _ => none
  | _ =>
    match scanKey text with
    | some (path, key, '=' :: rest) =>
      match scanValue (rest.length + 1) nestingLimit (skipBlanks rest) with
      | some (node, rest) => (state.assign path key node).map (·, rest)
      | none => none
    | _ => none

/-- Every line in turn; after each one there is a line break or the end of the
text. -/
def scanLines : Nat → State → List Char → Option State
  | 0, _, _ => none
  | steps + 1, state, text =>
    match skipLines text with
    | [] => some state
    | text =>
      match scanLine state text with
      | none => none
      | some (state, rest) =>
        match skipComment (skipBlanks rest) with
        | [] => some state
        | rest =>
          match skipBreak? rest with
          | some rest => scanLines steps state rest
          | none => none

/-- The text after a byte order mark, if there is one. -/
def skipMark : List Char → List Char
  | '\ufeff' :: rest => rest
  | text => text

/-- The root table of a document. -/
def parse? (text : String) : Option Table :=
  let body := skipMark text.toList
  (scanLines (body.length + 1) ⟨.empty, []⟩ body).map (·.root)

end CompactSchema.Toml
