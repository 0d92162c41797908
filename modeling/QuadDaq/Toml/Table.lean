import QuadDaq.Toml.Value

/-!
# Tables under construction

**Which keys and headers may follow each other in a TOML document.** A table comes
into being in one of three ways, and that decides what may be added to it:

* by its own header: it is complete as far as dotted keys are concerned, and cannot
  have a second header;
* by a header of a table inside it (*implicit*): it may still get a header;
* by a dotted key (*dotted*): only dotted keys of the same section and headers of
  tables inside it may add to it.

Inline tables and arrays are values, to which nothing is ever added. A header in
double brackets starts a new element of an array of tables, and later headers that
go through such an array go to its latest element.
-/

namespace QuadDaq.Toml

/-- An entry of a table under construction. -/
inductive Item
  | value (v : Toml)
  | table (implicit dotted : Bool) (entries : List (String × Item))
  /-- The elements of an array of tables. -/
  | tables (elements : List (List (String × Item)))

/-- A table under construction. -/
structure Node where
  implicit : Bool := false
  dotted : Bool := false
  entries : List (String × Item) := []

namespace Node

/-- The entry with this key. -/
def get? (n : Node) (key : String) : Option Item :=
  (n.entries.find? fun e => e.1 = key).map Prod.snd

/-- Replaces the entry with this key, or adds one. -/
def set (n : Node) (key : String) (item : Item) : Node :=
  if n.entries.any fun e => e.1 = key then
    { n with entries := n.entries.map fun e => if e.1 = key then (key, item) else e }
  else { n with entries := n.entries ++ [(key, item)] }

/-- The node as an entry. -/
def toItem (n : Node) : Item := .table n.implicit n.dotted n.entries

/-- Changes the table at the end of a path and creates missing tables on the way,
dotted ones if the path is that of a dotted key. Such a path must not go through a
table that has a header. -/
def modify (viaKey : Bool) (f : Node → Option Node) : List String → Node → Option Node
  | [], n => f n
  | key :: path, n =>
    match n.get? key with
    | none => do
      let child ← modify viaKey f path { implicit := true, dotted := viaKey }
      return n.set key child.toItem
    | some (.value _) => none
    | some (.tables elements) => do
      let last ← elements.getLast?
      let child ← modify viaKey f path { entries := last }
      return n.set key (.tables (elements.dropLast ++ [child.entries]))
    | some (.table implicit dotted entries) =>
      if viaKey && !implicit then none
      else do
        let child ← modify viaKey f path ⟨implicit, dotted, entries⟩
        return n.set key child.toItem

/-- Adds a value under a key that must be new. -/
def insertNew (key : String) (v : Toml) (n : Node) : Option Node :=
  match n.get? key with
  | none => some (n.set key (.value v))
  | some _ => none

/-- Adds a value under a dotted key. -/
def addKey (path : List String) (key : String) (v : Toml) (n : Node) : Option Node :=
  modify true (fun leaf => if leaf.dotted = path.isEmpty then none else leaf.insertNew key v)
    path n

/-- Adds a value under a dotted key to the table with this header. -/
def addKeyAt (header path : List String) (key : String) (v : Toml) (n : Node) : Option Node :=
  modify false (addKey path key v) header n

/-- Opens the table of a header. -/
def openTable (path : List String) (key : String) (n : Node) : Option Node :=
  modify false
    (fun parent =>
      match parent.get? key with
      | none => some (parent.set key (.table false false []))
      | some (.table true false entries) => some (parent.set key (.table false false entries))
      | some _ => none)
    path n

/-- Opens a new element of the array of tables of a header. -/
def openElement (path : List String) (key : String) (n : Node) : Option Node :=
  modify false
    (fun parent =>
      match parent.get? key with
      | none => some (parent.set key (.tables [[]]))
      | some (.tables elements) => some (parent.set key (.tables (elements ++ [[]])))
      | some _ => none)
    path n

end Node

mutual

/-- The finished value of an entry. -/
def Item.finish : Item → Toml
  | .value v => v
  | .table _ _ entries => .table (finishEntries entries)
  | .tables elements => .arr (finishElements elements)

/-- The finished entries of a table. -/
def finishEntries : List (String × Item) → List (String × Toml)
  | [] => []
  | (k, item) :: rest => (k, item.finish) :: finishEntries rest

/-- The finished elements of an array of tables. -/
def finishElements : List (List (String × Item)) → List Toml
  | [] => []
  | entries :: rest => .table (finishEntries entries) :: finishElements rest

end

/-- The finished value of a table. -/
def Node.finish (n : Node) : Toml := .table (finishEntries n.entries)

end QuadDaq.Toml
