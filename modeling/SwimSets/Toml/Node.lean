import SwimSets.Toml.Value

/-!
# TOML documents in the making

While a document is read, its tables know how they came about (`Origin`), because that decides who
may add to them: a header may open a table only once, dotted keys may extend only tables that dotted
keys made, and a table in braces is closed. `descend` walks a path of keys under these rules, making
tables on the way.

What is left in the end are values (`Node.value`).
-/

namespace SwimSets.Toml

/-- How a table came about. -/
inductive Origin where
  /-- By a header of its own, or as the whole document. -/
  | explicit
  /-- On the way of a header to a table inside it. -/
  | implicit
  /-- On the way of a dotted key. -/
  | dotted
  /-- Written in braces. -/
  | inline
  deriving DecidableEq, Repr

/-- A value of a document that is being read. -/
inductive Node where
  /-- A value that holds no others. -/
  | leaf (v : Value)
  | array (items : List Node)
  | table (origin : Origin) (entries : List (Text × Node))
  /-- Tables with the same header in double brackets, in order. -/
  | tables (rows : List Node)

/-- The entries of a table that is being read, in order. -/
abbrev Nodes := List (Text × Node)

mutual

/-- The value that was read. -/
def Node.value : Node → Value
  | .leaf v => v
  | .array items => .array (Node.values items)
  | .table _ es => .table (Node.entries es)
  | .tables rows => .array (Node.values rows)

/-- The values that were read. -/
def Node.values : List Node → List Value
  | [] => []
  | n :: ns => n.value :: Node.values ns

/-- The entries that were read. -/
def Node.entries : Nodes → Entries
  | [] => []
  | (k, n) :: es => (k, n.value) :: Node.entries es

end

/-- The entries with that of a key changed or added; nothing if the change is refused. -/
def alter (key : Text) (change : Option Node → Option Node) : Nodes → Option Nodes
  | [] => (change none).map fun v => [(key, v)]
  | (k, v) :: es =>
    if k = key then (change (some v)).map fun w => (k, w) :: es
    else (alter key change es).map ((k, v) :: ·)

/-- The entries with a new one. A key that is there already is refused. -/
def addEntry (key : Text) (v : Node) (es : Nodes) : Option Nodes :=
  alter key (fun old => if old.isSome then none else some v) es

/-- A table at the end of a path, changed by `f`, with its new origin and entries. A path of
dotted keys does not enter a table that a header opened. No path enters a table in braces. -/
def descend (dotted : Bool) (f : Origin → Nodes → Option (Origin × Nodes)) :
    List Text → Origin → Nodes → Option (Origin × Nodes)
  | [], origin, es => f origin es
  | key :: path, origin, es =>
    (alter key (fun old =>
      match old with
      | none =>
        (descend dotted f path (if dotted then .dotted else .implicit) []).map fun (o, new) =>
          .table o new
      | some (.table o inner) =>
        if o = .inline || (dotted && o = .explicit) then none
        else (descend dotted f path o inner).map fun (o, new) => .table o new
      | some (.tables rows) =>
        match rows.getLast? with
        | some (.table o inner) =>
          (descend dotted f path o inner).map fun (o, new) =>
            .tables (rows.dropLast ++ [.table o new])
        | _ => none
      | some _ => none) es).map fun new => (origin, new)

/-- A key and its value put into a table, by way of the dotted keys before it. Those must have
made the table that they lead to. -/
def putPair (path : List Text) (key : Text) (v : Node) (origin : Origin) (es : Nodes) :
    Option (Origin × Nodes) :=
  descend true (fun o inner =>
    if (o = .dotted) = path.isEmpty then none
    else (addEntry key v inner).map fun new => (o, new)) path origin es

/-- The table of a header opened. One that headers further in have made may be opened once. -/
def openTable (path : List Text) (key : Text) (origin : Origin) (es : Nodes) :
    Option (Origin × Nodes) :=
  descend false (fun o inner =>
    (alter key (fun old =>
      match old with
      | none => some (.table .explicit [])
      | some (.table .implicit inside) => some (.table .explicit inside)
      | some _ => none) inner).map fun new => (o, new)) path origin es

/-- A further table put after those with the same header in double brackets. -/
def appendTable (path : List Text) (key : Text) (origin : Origin) (es : Nodes) :
    Option (Origin × Nodes) :=
  descend false (fun o inner =>
    (alter key (fun old =>
      match old with
      | none => some (.tables [.table .explicit []])
      | some (.tables rows) => some (.tables (rows ++ [.table .explicit []]))
      | some _ => none) inner).map fun new => (o, new)) path origin es

end SwimSets.Toml
