namespace GLBindings.Toml

/-!
# Toml — values and tables

A table may be written in several places. Which places may add to it depends on how it came about,
so a table carries that with it.

* `Value` — texts, other scalars, arrays and tables.
* `Table` — keys with their values in the order in which they were set.
* `Table.insertAt` — sets a dotted key.
* `Table.openAt`, `Table.appendAt` — the effect of a header.
-/

/-- How a table came about. -/
inductive Origin where
  /-- By its own header, or as the whole document. -/
  | headed
  /-- By a header for something inside it. -/
  | implied
  /-- By a dotted key. -/
  | dotted
  /-- Between braces; nothing can be added to it. -/
  | inline
  deriving Repr, DecidableEq

/-- A value of a document. -/
inductive Value where
  | text (s : String)
  /-- A number, a truth value, or a date or time, as written. -/
  | scalar (written : String)
  | array (items : List Value)
  | table (origin : Origin) (entries : List (String × Value))
  /-- The tables under a header between double brackets; the last one can be added to. -/
  | tables (earlier : List (List (String × Value))) (last : List (String × Value))
  deriving Repr, Inhabited

/-- Keys with their values. -/
abbrev Table := List (String × Value)

/-- The items of an array, which may be tables under headers. -/
def Value.items? : Value → Option (List Value)
  | .array items => some items
  | .tables earlier last => some ((earlier ++ [last]).map (.table .headed))
  | _ => none

/-- The entries of a table. -/
def Value.entries? : Value → Option Table
  | .table _ entries => some entries
  | _ => none

namespace Table

/-! ### One key -/

/-- The value of a key. -/
def get? (t : Table) (key : String) : Option Value :=
  t.lookup key

/-- Sets a key that is there, or adds it. -/
def put (t : Table) (key : String) (value : Value) : Table :=
  if (t.get? key).isSome then t.map fun (k, v) => if k == key then (k, value) else (k, v)
  else t ++ [(key, value)]

/-- Adds a key that is not there. -/
def addNew (t : Table) (key : String) (value : Value) : Option Table :=
  if (t.get? key).isSome then none else some (t ++ [(key, value)])

/-! ### Dotted keys -/

/-- Sets `key` in the table that `path` leads to. Tables on the way are made. The last table on the
way must have come about by dotted keys, the others must not have a header of their own. -/
def insertAt (t : Table) (path : List String) (key : String) (value : Value) : Option Table :=
  match path with
  | [] => t.addNew key value
  | step :: path =>
    match t.get? step with
    | none => (insertAt [] path key value).map fun inner => t ++ [(step, .table .dotted inner)]
    | some (.table .dotted inner) =>
      (insertAt inner path key value).map fun inner => t.put step (.table .dotted inner)
    | some (.table .implied inner) =>
      if path = [] then none
      else (insertAt inner path key value).map fun inner => t.put step (.table .implied inner)
    | some (.tables earlier last) =>
      if path = [] then none
      else (insertAt last path key value).map fun last => t.put step (.tables earlier last)
    | some _ => none

/-! ### Headers -/

/-- Changes the table that `path` leads to. Tables on the way are made; of several tables under
one header the last is meant. -/
def changeAt (t : Table) (path : List String) (change : Table → Option Table) : Option Table :=
  match path with
  | [] => change t
  | step :: path =>
    match t.get? step with
    | none => (changeAt [] path change).map fun inner => t ++ [(step, .table .implied inner)]
    | some (.table .inline _) => none
    | some (.table origin inner) =>
      (changeAt inner path change).map fun inner => t.put step (.table origin inner)
    | some (.tables earlier last) =>
      (changeAt last path change).map fun last => t.put step (.tables earlier last)
    | some _ => none

/-- Fills a table under a header of its own, which only tables implied by headers can still
get. -/
def openAt (t : Table) (path : List String) (key : String) (fill : Table → Option Table) :
    Option Table :=
  t.changeAt path fun parent =>
    match parent.get? key with
    | none => (fill []).map fun inner => parent ++ [(key, .table .headed inner)]
    | some (.table .implied inner) =>
      (fill inner).map fun inner => parent.put key (.table .headed inner)
    | some _ => none

/-- Adds a table to those under a header between double brackets. -/
def appendAt (t : Table) (path : List String) (key : String) (fill : Table → Option Table) :
    Option Table :=
  t.changeAt path fun parent =>
    match parent.get? key with
    | none => (fill []).map fun inner => parent ++ [(key, .tables [] inner)]
    | some (.tables earlier last) =>
      (fill []).map fun inner => parent.put key (.tables (earlier ++ [last]) inner)
    | some _ => none

end Table

end GLBindings.Toml
