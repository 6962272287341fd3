import LiveLesson.Config.Environment
import LiveLesson.Text.Blank
import LiveLesson.Text.Printable

/-!
Files of variables. A line is a name, an equals sign and a value, in which quotes may stand and
other variables be named. Variables that are set already stay as they are, and reading ends at the
first line that is wrong.
-/

namespace LiveLesson.Config.Dotenv

open Text

inductive Quoting where
  | plain
  | blank
  | escaped
  | single
  | singleEscaped
  | double
  | doubleEscaped
  deriving DecidableEq, Repr

/-- What a character leads to; `none` where a comment begins. -/
def Quoting.next (q : Quoting) (c : Char) : Option Quoting :=
  let opening : Quoting :=
    if c = '\\' then .escaped else if c = '"' then .double else if c = '\'' then .single else .plain
  match q with
  | .blank => if c = '#' then none else some opening
  | .plain => if isBlank c && c != '\n' && c != '\r' then some .blank else some opening
  | .escaped => some .plain
  | .double => some (if c = '\\' then .doubleEscaped else if c = '"' then .plain else .double)
  | .doubleEscaped => some .double
  | .single => some (if c = '\\' then .singleEscaped else if c = '\'' then .plain else .single)
  | .singleEscaped => some .single

/-- Goes through a line, and returns what stands before a comment and where the line leads. -/
def scanLine : Quoting → List Char → List Char × Option Quoting
  | q, [] => ([], some q)
  | q, c :: cs =>
    match q.next c with
    | none => ([], none)
    | some q =>
      let (before, stop) := scanLine q cs
      (c :: before, stop)

def physicalLines : List Char → List (List Char)
  | [] => []
  | c :: cs =>
    if c = '\n' then [c] :: physicalLines cs
    else
      match physicalLines cs with
      | [] => [[c]]
      | line :: rest => (c :: line) :: rest

def dropLineEnd (cs : List Char) : List Char :=
  match cs.reverse with
  | '\n' :: '\r' :: rest => rest.reverse
  | '\n' :: rest => rest.reverse
  | _ => cs

/-- The lines with those put together that quotes join; `none` stands for a line that is never
completed. -/
def logicalLines : Quoting → List Char → List (List Char) → List (Option (List Char))
  | .plain, _, [] => []
  | _, _, [] => [none]
  | q, joined, line :: rest =>
    let whole := joined ++ line
    if (whole.dropWhile isBlank).head? = some '#' then some [] :: logicalLines .plain [] rest
    else
      match scanLine q line with
      | (before, none) => some (joined ++ before) :: logicalLines .plain [] rest
      | (_, some .plain) => some (dropLineEnd whole) :: logicalLines .plain [] rest
      | (_, some q) => logicalLines q whole rest

/-- The value of a variable that is named inside another one; one that is not set is empty. -/
def named (vars : Variables) (name : List Char) : List Char :=
  ((vars.lookup (String.ofList name)).getD "").toList

inductive Mode where
  | plain
  | escaped (isDouble : Bool)
  | single
  | double
  /-- The name of a variable behind a dollar sign, in reverse. -/
  | name (isDouble : Bool) (name : List Char)
  | braced (isDouble : Bool) (name : List Char)
  /-- Behind a blank: nothing but blanks and a comment may follow. -/
  | ended

def isNameChar (c : Char) : Bool :=
  let n := c.toNat
  c.isAlphanum || (0xC0 ≤ n && n != 0xD7 && n != 0xF7 && isShown c && !(0x2000 ≤ n && n ≤ 0x2BFF))

def Mode.base (isDouble : Bool) : Mode := if isDouble then .double else .plain

def readValue (vars : Variables) : Mode → List Char → List Char → Option (List Char)
  | .plain, acc, [] => some acc.reverse
  | .ended, acc, [] => some acc.reverse
  | .escaped false, acc, [] => some acc.reverse
  | .name false name, acc, [] => some (acc.reverse ++ named vars name.reverse)
  | _, _, [] => none
  | .ended, acc, c :: cs =>
    if c = ' ' || c = '\t' then readValue vars .ended acc cs
    else if c = '#' then some acc.reverse
    else none
  | .escaped isDouble, acc, c :: cs =>
    if c = 'n' then readValue vars (.base isDouble) ('\n' :: acc) cs
    else if "\\'\"$ ".toList.contains c then readValue vars (.base isDouble) (c :: acc) cs
    else none
  | .single, acc, c :: cs =>
    if c = '\'' then readValue vars .plain acc cs else readValue vars .single (c :: acc) cs
  | .name isDouble name, acc, c :: cs =>
    if isNameChar c then readValue vars (.name isDouble (c :: name)) acc cs
    else if c = '\x7b' && name.isEmpty then readValue vars (.braced isDouble []) acc cs
    else
      let acc := (named vars name.reverse).reverse ++ acc
      if c = '$' then readValue vars (.name isDouble []) acc cs
      else readValue vars (.base isDouble) (c :: acc) cs
  | .braced isDouble name, acc, c :: cs =>
    if c = '\x7d' then
      readValue vars (.base isDouble) ((named vars name.reverse).reverse ++ acc) cs
    else readValue vars (.braced isDouble (c :: name)) acc cs
  | .double, acc, c :: cs =>
    if c = '$' then readValue vars (.name true []) acc cs
    else if c = '"' then readValue vars .plain acc cs
    else if c = '\\' then readValue vars (.escaped true) acc cs
    else readValue vars .double (c :: acc) cs
  | .plain, acc, c :: cs =>
    if c = '$' then readValue vars (.name false []) acc cs
    else if c = '\'' then readValue vars .single acc cs
    else if c = '"' then readValue vars .double acc cs
    else if c = '\\' then readValue vars (.escaped false) acc cs
    else if c = ' ' || c = '\t' then readValue vars .ended acc cs
    else readValue vars .plain (c :: acc) cs

def isKeyChar (c : Char) : Bool := c.isAlphanum || c = '_' || c = '.'

def cutName (cs : List Char) : Option (String × List Char) :=
  match cs with
  | c :: _ =>
    if c.isAlpha || c = '_' then
      some (String.ofList (cs.takeWhile isKeyChar), (cs.dropWhile isKeyChar).dropWhile isBlank)
    else none
  | [] => none

/-- A name and what follows its equals sign. The word `export` before it may be left out, or be the
name. -/
def cutAssignment (cs : List Char) : Option (String × List Char) := do
  let (name, rest) ← cutName cs
  match rest with
  | '=' :: rest => return (name, rest)
  | _ =>
    if name = "export" then
      match ← cutName rest with
      | (name, '=' :: rest) => return (name, rest)
      | _ => none
    else none

def readLine (vars : Variables) (line : List Char) : Option (Option (String × String)) := do
  let cs := trimChars line
  if cs.isEmpty || cs.head? = some '#' then return none
  else
    let (name, rest) ← cutAssignment cs
    let rest := rest.dropWhile isBlank
    if rest.isEmpty || rest.head? = some '#' then return some (name, "")
    else
      let text ← readValue vars .plain [] rest
      return some (name, String.ofList text)

def define (vars : Variables) (name text : String) : Variables :=
  if (vars.lookup name).isSome then vars else vars ++ [(name, text)]

/-- Goes through the lines. What a line assigns can be named below it even where another value stays
in force; a variable that is in force is named before it. -/
def loadLines : Variables → Variables → List (Option (List Char)) → Variables
  | vars, _, [] => vars
  | vars, _, none :: _ => vars
  | vars, assigned, some line :: rest =>
    match readLine (vars ++ assigned) line with
    | none => vars
    | some none => loadLines vars assigned rest
    | some (some (name, text)) => loadLines (define vars name text) ((name, text) :: assigned) rest

def load (vars : Variables) (file : String) : Variables :=
  loadLines vars [] (logicalLines .plain [] (physicalLines file.toList))

end LiveLesson.Config.Dotenv
