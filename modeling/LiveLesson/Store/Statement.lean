import LiveLesson.Store.Row

/-!
The statements that a database is asked to execute: their text, with parameters in numbered places,
and what they mean on relations. A comparison with an empty cell does not hold. New rows get the
next identifier and the time where nothing else is given, and a row that repeats what has to be
unique is refused.
-/

namespace LiveLesson

inductive Term where
  | column (name : String)
  /-- The parameter with that number, from one on. -/
  | parameter (number : Nat)
  | now
  deriving DecidableEq, Repr

inductive Condition where
  | equals (a b : Term)
  | before (a b : Term)
  | isNull (a : Term)
  | both (a b : Condition)
  deriving DecidableEq, Repr

structure Source where
  relation : String
  name : String
  deriving DecidableEq, Repr

inductive Output where
  | column (source name : String)
  /-- How many rows of a group have something in a column and satisfy a condition, if one is
  given. -/
  | count (source : String) (filter : Option Condition) (name : String)
  deriving DecidableEq, Repr

inductive Statement where
  | insert (relation : String) (columns : List String) (values : List Term)
    (returning : List String)
  /-- Inserts a row for each row of a source that satisfies a condition. -/
  | insertFrom (relation : String) (columns : List String) (values : List Term) (source : Source)
    (condition : Condition)
  | select (columns : List String) (relation : String) (condition : Condition)
  /-- Counts in a source, each of its rows joined with the rows of another one that match it, or
  with none. -/
  | count (outputs : List Output) (left right : Source) (on condition : Condition) (key : String)
  | update (relation : String) (column : String) (value : Term) (more : List (String × Term))
    (condition : Condition)
  | delete (relation : String) (condition : Condition)
  | ping
  deriving DecidableEq, Repr

def Term.text : Term → String
  | .column name => name
  | .parameter number => "$" ++ toString number
  | .now => "NOW()"

def Condition.text : Condition → String
  | .equals a b => a.text ++ " = " ++ b.text
  | .before a b => a.text ++ " < " ++ b.text
  | .isNull a => a.text ++ " IS NULL"
  | .both a b => a.text ++ " AND " ++ b.text

def Source.text (s : Source) : String := s.relation ++ " " ++ s.name

def Output.text : Output → String
  | .column source name => source ++ " AS " ++ name
  | .count source none name => "COUNT(" ++ source ++ ") AS " ++ name
  | .count source (some c) name =>
    "COUNT(" ++ source ++ ") FILTER (WHERE " ++ c.text ++ ") AS " ++ name

def commaList (xs : List String) : String := ", ".intercalate xs

def Statement.text : Statement → String
  | .insert relation columns values returning =>
    "INSERT INTO " ++ relation ++ " (" ++ commaList columns ++ ") VALUES (" ++
      commaList (values.map Term.text) ++ ") RETURNING " ++ commaList returning
  | .insertFrom relation columns values source condition =>
    "INSERT INTO " ++ relation ++ " (" ++ commaList columns ++ ") SELECT " ++
      commaList (values.map Term.text) ++ " FROM " ++ source.text ++ " WHERE " ++ condition.text
  | .select columns relation condition =>
    "SELECT " ++ commaList columns ++ " FROM " ++ relation ++ " WHERE " ++ condition.text
  | .count outputs left right on condition key =>
    "SELECT " ++ commaList (outputs.map Output.text) ++ " FROM " ++ left.text ++ " LEFT JOIN " ++
      right.text ++
      " ON " ++ on.text ++ " WHERE " ++ condition.text ++ " GROUP BY " ++ key
  | .update relation column value more condition =>
    "UPDATE " ++ relation ++ " SET " ++
      commaList (((column, value) :: more).map fun (c, t) => c ++ " = " ++ t.text) ++ " WHERE " ++
        condition.text
  | .delete relation condition => "DELETE FROM " ++ relation ++ " WHERE " ++ condition.text
  | .ping => "SELECT 1"

structure Binding where
  parameters : List Cell
  now : Timestamp

def Term.value (b : Binding) (row : Row) : Term → Cell
  | .column name => row.cell name
  | .parameter number => b.parameters.getD (number - 1) .null
  | .now => .moment b.now

def Condition.holds (b : Binding) (row : Row) : Condition → Bool
  | .equals x y => x.value b row != .null && x.value b row == y.value b row
  | .before x y =>
    match x.value b row, y.value b row with
    | .moment s, .moment t => decide (s < t)
    | _, _ => false
  | .isNull x => x.value b row == .null
  | .both c d => c.holds b row && d.holds b row

structure Relation where
  columns : List String
  /-- The columns that take the time where nothing else is given. -/
  stamped : List String
  unique : List String
  lastId : Int
  rows : List Row
  deriving DecidableEq, Repr

namespace Relation

def complete (r : Relation) (now : Timestamp) (given : Row) : Row :=
  r.columns.map fun name =>
    (name, match List.lookup name given with
      | some c => c
      | none =>
        if name = "id" then .integer (r.lastId + 1)
        else if r.stamped.contains name then .moment now
        else .null)

/-- Whether a row repeats what has to be unique. -/
def clashes (r : Relation) (row : Row) : Bool :=
  r.unique.any fun name => r.rows.any fun old => old.cell name == row.cell name

/-- Adds a row, if it may be added. An identifier is used up in any case. -/
def add (r : Relation) (now : Timestamp) (given : Row) : Option Row × Relation :=
  let row := r.complete now given
  if r.clashes row then (none, { r with lastId := r.lastId + 1 })
  else (some row, { r with lastId := r.lastId + 1, rows := r.rows ++ [row] })

def addAll (r : Relation) (now : Timestamp) : List Row → Option Relation
  | [] => some r
  | given :: rest =>
    match r.add now given with
    | (some _, r) => addAll r now rest
    | (none, _) => none

end Relation

abbrev Database := List (String × Relation)

namespace Database

def relation? (d : Database) (name : String) : Option Relation := List.lookup name d

def put (d : Database) (name : String) (r : Relation) : Database :=
  d.map fun (n, old) => if n = name then (n, r) else (n, old)

end Database

inductive Reply where
  | done (rows : List Row) (affected : Nat)
  | refused (message : String)
  | lost
  deriving DecidableEq, Repr

namespace Row

def qualify (name : String) (row : Row) : Row :=
  row.map fun (column, c) => (name ++ "." ++ column, c)

def only (names : List String) (row : Row) : Row := names.map fun name => (name, row.cell name)

def empty (columns : List String) : Row := columns.map fun name => (name, .null)

def set (row : Row) (name : String) (c : Cell) : Row :=
  row.map fun (n, old) => if n = name then (n, c) else (n, old)

end Row

/-- The rows of two sources side by side. A row that nothing matches stands beside empty cells. -/
def joinLeft (b : Binding) (on : Condition) (rightColumns : List String) (left right : List Row) :
    List Row :=
  left.flatMap fun l =>
    match right.filter fun r => on.holds b (l ++ r) with
    | [] => [l ++ Row.empty rightColumns]
    | found => found.map (l ++ ·)

def Output.value (b : Binding) (group : List Row) : Output → String × Cell
  | .column source name => (name, (group.head?.map (·.cell source)).getD .null)
  | .count source filter name =>
    let counted := group.filter fun row =>
      row.cell source != .null && filter.all fun c => c.holds b row
    (name, .integer counted.length)

/-- The rows of each value of a column, in the order in which the values come. -/
def groupsOf (key : String) (rows : List Row) : List (List Row) :=
  ((rows.map (·.cell key)).eraseDups).map fun c => rows.filter fun row => row.cell key == c

def Statement.unknownRelation (name : String) : Reply :=
  .refused ("relation \"" ++ name ++ "\" does not exist")

def Statement.duplicate : Reply := .refused "duplicate key value violates unique constraint"

def Statement.execute (b : Binding) (s : Statement) (d : Database) : Reply × Database :=
  match s with
  | .insert name columns values returning =>
    match d.relation? name with
    | none => (unknownRelation name, d)
    | some r =>
      match r.add b.now (columns.zip (values.map (Term.value b []))) with
      | (some row, r) => (.done [row.only returning] 1, d.put name r)
      | (none, r) => (duplicate, d.put name r)
  | .insertFrom name columns values source condition =>
    match d.relation? name, d.relation? source.relation with
    | some r, some origin =>
      let found := (origin.rows.map (Row.qualify source.name)).filter (condition.holds b)
      match r.addAll b.now (found.map fun row => columns.zip (values.map (Term.value b row))) with
      | some r => (.done [] found.length, d.put name r)
      | none => (duplicate, d)
    | _, _ => (unknownRelation name, d)
  | .select columns name condition =>
    match d.relation? name with
    | none => (unknownRelation name, d)
    | some r =>
      let found := r.rows.filter (condition.holds b)
      (.done (found.map (Row.only columns)) found.length, d)
  | .count outputs left right on condition key =>
    match d.relation? left.relation, d.relation? right.relation with
    | some l, some r =>
      let joined := joinLeft b on (r.columns.map fun c => right.name ++ "." ++ c)
        (l.rows.map (Row.qualify left.name)) (r.rows.map (Row.qualify right.name))
      let groups := groupsOf key (joined.filter (condition.holds b))
      (.done (groups.map fun g => outputs.map (Output.value b g)) groups.length, d)
    | _, _ => (unknownRelation left.relation, d)
  | .update name column value more condition =>
    match d.relation? name with
    | none => (unknownRelation name, d)
    | some r =>
      let change := fun row : Row =>
        ((column, value) :: more).foldl (fun new (c, t) => new.set c (t.value b row)) row
      let rows := r.rows.map fun row => if condition.holds b row then change row else row
      (.done [] (r.rows.filter (condition.holds b)).length, d.put name { r with rows := rows })
  | .delete name condition =>
    match d.relation? name with
    | none => (unknownRelation name, d)
    | some r =>
      let kept := r.rows.filter fun row => !condition.holds b row
      (.done [] (r.rows.length - kept.length), d.put name { r with rows := kept })
  | .ping => (.done [] 1, d)

end LiveLesson
