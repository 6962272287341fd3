import LiveLesson.Config.Tree

/-!
Tables of TOML while they are written. How a table came about decides who may go on with it: one
with a header takes no second header, one made by dotted keys takes no header but more dotted keys,
and one that only lies on the way to another may still get its header.
-/

namespace LiveLesson.Toml

open Config

inductive Origin where
  | header
  | dotted
  | implied
  deriving DecidableEq, Repr

inductive Node where
  | value (t : Tree)
  | table (origin : Origin) (entries : List (String × Node))
  /-- Tables under one header each; the last one is open. -/
  | tables (elements : List (List (String × Node)))
  deriving Inhabited

abbrev Entries := List (String × Node)

namespace Entries

def find? (name : String) (es : Entries) : Option Node := List.lookup name es

def upsert (name : String) (node : Node) : Entries → Entries
  | [] => [(name, node)]
  | (k, old) :: rest => if k = name then (k, node) :: rest else (k, old) :: upsert name node rest

/-- Changes the entries at the end of a path, with the tables on the way made where they are
missing. Dotted keys do not lead into a table that has a header. -/
def within (isDotted : Bool) (change : Origin → Entries → Option Entries) :
    List String → Origin → Entries → Option Entries
  | [], origin, es => change origin es
  | name :: path, _, es =>
    match es.find? name with
    | none => do
      let origin := if isDotted then .dotted else .implied
      let inner ← within isDotted change path origin []
      return es ++ [(name, .table origin inner)]
    | some (.value _) => none
    | some (.table origin inner) =>
      if isDotted && origin = .header then none
      else (within isDotted change path origin inner).map fun inner =>
        upsert name (.table origin inner) es
    | some (.tables elements) => do
      let last ← elements.getLast?
      let inner ← within isDotted change path .header last
      return upsert name (.tables (elements.dropLast ++ [inner])) es

/-- Adds a value under a key of one or more parts. No name is given twice, and only dotted keys go
on with the tables of dotted keys. -/
def insert (path : List String) (t : Tree) (es : Entries) : Option Entries :=
  match path.getLast? with
  | none => none
  | some name =>
    let way := path.dropLast
    within true (fun origin es =>
      if (origin = .dotted) = way.isEmpty || (es.find? name).isSome then none
      else some (es ++ [(name, .value t)])) way .header es

def openTable (path : List String) (es : Entries) : Option Entries := do
  let name ← path.getLast?
  within false (fun _ es =>
    match es.find? name with
    | none => some (es ++ [(name, .table .header [])])
    | some (.table .implied inner) => some (upsert name (.table .header inner) es)
    | some _ => none) path.dropLast .header es

def openElement (path : List String) (es : Entries) : Option Entries := do
  let name ← path.getLast?
  within false (fun _ es =>
    match es.find? name with
    | none => some (es ++ [(name, .tables [[]])])
    | some (.tables elements) => some (upsert name (.tables (elements ++ [[]])) es)
    | some _ => none) path.dropLast .header es

def insertBelow (header path : List String) (t : Tree) (es : Entries) : Option Entries :=
  within false (fun _ es => insert path t es) header .header es

end Entries

mutual

def Node.toTree : Node → Tree
  | .value t => t
  | .table _ es => .table (treesOf es)
  | .tables elements => .list (tablesOf elements)

def treesOf : List (String × Node) → List (String × Tree)
  | [] => []
  | (name, node) :: rest => (name, node.toTree) :: treesOf rest

def tablesOf : List (List (String × Node)) → List Tree
  | [] => []
  | es :: rest => .table (treesOf es) :: tablesOf rest

end

end LiveLesson.Toml
