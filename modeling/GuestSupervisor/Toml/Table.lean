import GuestSupervisor.Toml.Value

/-!
# Tables under construction

A document names a table several times: in a header, as a part of another header,
in dotted keys, as a row of a list. Which combinations are allowed depends on how
a table came to be, so while a document is read every table keeps its origin.

## Main Definitions

* `Node`, `Origin`: tables under construction.
* `update`: a change to the table at the end of a path.
* `assign`, `openTable`, `appendRow`: what a line of a document does.
* `Node.toValue`: the finished tree.
-/

namespace GuestSupervisor.Toml

/-- How a table came to be. -/
inductive Origin where
  /-- By a header of its own, or as a row. -/
  | header
  /-- As a part of another table's header. -/
  | implied
  /-- As a part of a dotted key. -/
  | dotted
  deriving DecidableEq, Repr, Inhabited

/-- A place in a document under construction. -/
inductive Node where
  /-- A finished value, to which nothing can be added. -/
  | leaf (value : Value)
  | table (origin : Origin) (entries : List (String × Node))
  /-- A list of tables, the latest first. -/
  | rows (rows : List Node)
  deriving Repr, Inhabited

/-- The entries of a table under construction. -/
abbrev Entries := List (String × Node)

namespace Node

/-- The entry with a key. -/
def find? (entries : Entries) (key : String) : Option Node :=
  (entries.find? (·.1 == key)).map (·.2)

/-- The entries with another node for a key that is there. -/
def replace (entries : Entries) (key : String) (node : Node) : Entries :=
  entries.map fun entry => if entry.1 == key then (key, node) else entry

/-- Makes a change to the table at the end of a path. Missing tables on the way come
to be as `made`; a dotted key does not lead into a table that had a header. -/
def update (made : Origin) (change : Origin → Entries → Option Entries) :
    List String → Origin → Entries → Option Entries
  | [], origin, entries => change origin entries
  | key :: path, _, entries =>
    match find? entries key with
    | none => do
      let inner ← update made change path made []
      some (entries ++ [(key, table made inner)])
    | some (leaf _) => none
    | some (rows []) => none
    | some (rows (latest :: earlier)) =>
      match latest with
      | table origin inner => do
        let inner ← update made change path origin inner
        some (replace entries key (rows (table origin inner :: earlier)))
      | _ => none
    | some (table origin inner) =>
      if made = .dotted ∧ origin = .header then none
      else do
        let inner ← update made change path origin inner
        some (replace entries key (table origin inner))

/-- Assigns a value to a dotted key. -/
def assign (entries : Entries) (path : List String) (value : Value) : Option Entries :=
  match path.getLast? with
  | none => none
  | some key =>
    let tables := path.dropLast
    update .dotted
      (fun origin inner =>
        if (origin = .dotted) = tables.isEmpty then none
        else if (find? inner key).isSome then none
        else some (inner ++ [(key, leaf value)]))
      tables .header entries

/-- Assigns one value after the other. -/
def assignAll (entries : Entries) : List (List String × Value) → Option Entries
  | [] => some entries
  | (path, value) :: rest => do
    let entries ← assign entries path value
    assignAll entries rest

/-- Opens the table of a header and fills it. A table that only other headers implied
may still be opened. -/
def openTable (root : Entries) (path : List String) (body : List (List String × Value)) :
    Option Entries :=
  match path.getLast? with
  | none => none
  | some key =>
    update .implied
      (fun _ entries =>
        match find? entries key with
        | none => (assignAll [] body).map fun inner => entries ++ [(key, table .header inner)]
        | some (table .implied inner) =>
          (assignAll inner body).map fun inner => replace entries key (table .header inner)
        | some _ => none)
      path.dropLast .header root

/-- Adds a row to a list of tables and fills it. -/
def appendRow (root : Entries) (path : List String) (body : List (List String × Value)) :
    Option Entries :=
  match path.getLast? with
  | none => none
  | some key =>
    update .implied
      (fun _ entries =>
        (assignAll [] body).bind fun inner =>
          let row := table .header inner
          match find? entries key with
          | none => some (entries ++ [(key, rows [row])])
          | some (rows earlier) => some (replace entries key (rows (row :: earlier)))
          | some _ => none)
      path.dropLast .header root

mutual

/-- The value of a finished node. -/
def toValue : Node → Value
  | leaf value => value
  | table _ entries => .table (toEntries entries)
  | rows latestFirst => .array (toItems latestFirst).reverse

/-- The entries of a finished table. -/
def toEntries : List (String × Node) → List (String × Value)
  | [] => []
  | (key, node) :: rest => (key, toValue node) :: toEntries rest

/-- The values of finished rows. -/
def toItems : List Node → List Value
  | [] => []
  | node :: rest => toValue node :: toItems rest

end

end Node

end GuestSupervisor.Toml
