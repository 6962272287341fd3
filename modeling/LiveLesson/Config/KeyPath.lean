import LiveLesson.Config.Tree
import LiveLesson.Text.Integer

/-!
Names that lead into a tree, such as `server.port` or `server.cors_allow_origins[0]`. Where the way
does not exist it is made; what is in the way is replaced. A name that is no path stands for itself.
-/

namespace LiveLesson.Config

inductive Step where
  | child (name : String)
  | item (index : Int)
  deriving DecidableEq, Repr

structure KeyPath where
  root : String
  steps : List Step
  deriving DecidableEq, Repr

namespace KeyPath

def isNameChar (c : Char) : Bool := c.isAlphanum || c = '_' || c = '-' || c = ' '

def isIndexChar (c : Char) : Bool := c.isDigit || c = '+' || c = '-'

def isSpace (c : Char) : Bool := c = ' ' || c = '\t' || c = '\n' || c = '\r'

def readSteps : Nat → List Char → Option (List Step)
  | _, [] => some []
  | 0, _ => none
  | fuel + 1, '.' :: cs =>
    match cs.takeWhile isNameChar with
    | [] => none
    | name => (readSteps fuel (cs.dropWhile isNameChar)).map (.child (String.ofList name) :: ·)
  | fuel + 1, '[' :: cs => do
    let cs := cs.dropWhile isSpace
    let digits := cs.takeWhile isIndexChar
    match Text.readIntegerChars (.signed 64) digits,
      (cs.dropWhile isIndexChar).dropWhile isSpace with
    | .ok index, ']' :: rest => (readSteps fuel rest).map (.item index :: ·)
    | _, _ => none
  | _, _ => none

def read? (name : String) : Option KeyPath :=
  let cs := name.toList
  match cs.takeWhile isNameChar with
  | [] => none
  | root =>
    (readSteps cs.length (cs.dropWhile isNameChar)).map fun steps => ⟨String.ofList root, steps⟩

/-- Changes an item of a list, filling the list up to it. A negative index counts from the end. -/
def alterItem (index : Int) (f : Tree → Tree) (t : Tree) : Tree :=
  let items := match t with
    | .list items => items
    | _ => []
  let i := (if index < 0 then items.length + index else index).toNat
  let filled := items ++ List.replicate (i + 1 - items.length) .nil
  .list (filled.modify i f)

def putAt (value : Tree) : List Step → Tree → Tree
  | [], _ => value
  | [.child name], t => t.put name value
  | .child name :: rest, t => t.set name (putAt value rest ((t.member? name).getD .nil))
  | .item index :: rest, t => alterItem index (putAt value rest) t

end KeyPath

def Tree.putNamed (t : Tree) (name : String) (value : Tree) : Tree :=
  match KeyPath.read? name with
  | some ⟨root, steps⟩ => KeyPath.putAt value (.child root :: steps) t
  | none => t.put name value

/-- Puts every entry where its name leads. -/
def Tree.merge (t : Tree) (source : List (String × Tree)) : Tree :=
  source.foldl (fun t (name, value) => t.putNamed name value) t

end LiveLesson.Config
