import LiveLesson.Json.Value
import LiveLesson.Text.Quoted

/-!
What can go wrong when JSON is read: the text ends too early, it breaks the grammar, or it is a
value of another shape than the reader asks for. A failure in a text also knows the place where it
was noticed and the way through fields and elements that led there.
-/

namespace LiveLesson.Json

inductive Found where
  | null
  | bool (b : Bool)
  | integer (n : Int)
  | float (x : Binary64)
  | string (s : String)
  | sequence
  | map
  deriving DecidableEq, Repr

def Found.text : Found → String
  | .null => "null"
  | .bool b => "boolean `" ++ (if b then "true" else "false") ++ "`"
  | .integer n => "integer `" ++ toString n ++ "`"
  | .float x => "floating point `" ++ x.mixedText ++ "`"
  | .string s => "string " ++ Text.quote s
  | .sequence => "sequence"
  | .map => "map"

def Found.ofJson : Json → Found
  | .null => .null
  | .bool b => .bool b
  | .integer n => .integer n
  | .float x => .float x
  | .string s => .string s
  | .array _ => .sequence
  | .object _ => .map

inductive Problem where
  | endOfValue
  | endOfList
  | endOfObject
  | endOfString
  | expectedValue
  | expectedWord
  | expectedColon
  | expectedCommaOrBracket
  | expectedCommaOrBrace
  | keyMustBeString
  | trailingComma
  | trailingCharacters
  | invalidNumber
  | numberOutOfRange
  | invalidEscape
  | endOfHexEscape
  | loneSurrogate
  | invalidCodePoint
  | controlCharacter
  | nestedTooDeep
  | invalidType (found : Found) (expected : String)
  | invalidValue (found : Found) (expected : String)
  | invalidLength (count : Nat) (expected : String)
  | missingField (name : String)
  | duplicateField (name : String)
  | unknownVariant (name : String) (known : List String)
  | refused (message : String)
  deriving DecidableEq, Repr

inductive ProblemKind where
  | endOfText
  | malformed
  | unfit
  deriving DecidableEq, Repr

def Problem.kind : Problem → ProblemKind
  | .endOfValue | .endOfList | .endOfObject | .endOfString => .endOfText
  | .invalidType .. | .invalidValue .. | .invalidLength .. | .missingField _ | .duplicateField _
  | .unknownVariant .. | .refused _ => .unfit
  | _ => .malformed

def namesText : List String → String
  | [] => "there are no variants"
  | [a] => "expected `" ++ a ++ "`"
  | [a, b] => "expected `" ++ a ++ "` or `" ++ b ++ "`"
  | names => "expected one of " ++ String.intercalate ", " (names.map fun n => "`" ++ n ++ "`")

def Problem.message : Problem → String
  | .endOfValue => "EOF while parsing a value"
  | .endOfList => "EOF while parsing a list"
  | .endOfObject => "EOF while parsing an object"
  | .endOfString => "EOF while parsing a string"
  | .expectedValue => "expected value"
  | .expectedWord => "expected ident"
  | .expectedColon => "expected `:`"
  | .expectedCommaOrBracket => "expected `,` or `]`"
  | .expectedCommaOrBrace => "expected `,` or `\x7d`"
  | .keyMustBeString => "key must be a string"
  | .trailingComma => "trailing comma"
  | .trailingCharacters => "trailing characters"
  | .invalidNumber => "invalid number"
  | .numberOutOfRange => "number out of range"
  | .invalidEscape => "invalid escape"
  | .endOfHexEscape => "unexpected end of hex escape"
  | .loneSurrogate => "lone leading surrogate in hex escape"
  | .invalidCodePoint => "invalid unicode code point"
  | .controlCharacter => "control character (\\u0000-\\u001F) found while parsing a string"
  | .nestedTooDeep => "recursion limit exceeded"
  | .invalidType found expected => "invalid type: " ++ found.text ++ ", expected " ++ expected
  | .invalidValue found expected => "invalid value: " ++ found.text ++ ", expected " ++ expected
  | .invalidLength count expected =>
    "invalid length " ++ toString count ++ ", expected " ++ expected
  | .missingField name => "missing field `" ++ name ++ "`"
  | .duplicateField name => "duplicate field `" ++ name ++ "`"
  | .unknownVariant name known => "unknown variant `" ++ name ++ "`, " ++ namesText known
  | .refused message => message

inductive Step where
  | field (name : String)
  | element (index : Nat)
  deriving DecidableEq, Repr

/-- Fields are joined by a dot, elements stand in brackets. -/
def pathText : List Step → String
  | [] => ""
  | s :: rest =>
    let head := match s with
      | .field name => name
      | .element i => "[" ++ toString i ++ "]"
    let dot := match rest with
      | .field _ :: _ => "."
      | _ => ""
    head ++ dot ++ pathText rest

/-- A problem noticed when `rest` was still to be read. -/
structure Failure where
  problem : Problem
  rest : List UInt8
  path : List Step
  deriving DecidableEq, Repr

def Failure.within (s : Step) (f : Failure) : Failure := { f with path := s :: f.path }

/-- A line from 1 on, and the bytes read of that line. -/
structure Place where
  line : Nat
  column : Nat
  deriving DecidableEq, Repr

def placeAfter : Nat → Place → List UInt8 → Place
  | 0, p, _ => p
  | _ + 1, p, [] => p
  | n + 1, p, b :: bs => placeAfter n (if b = 10 then ⟨p.line + 1, 0⟩
    else ⟨p.line, p.column + 1⟩) bs

def Failure.place (f : Failure) (whole : List UInt8) : Place :=
  placeAfter (whole.length - f.rest.length) ⟨1, 0⟩ whole

def Failure.message (f : Failure) (whole : List UInt8) : String :=
  let p := f.place whole
  f.problem.message ++ " at line " ++ toString p.line ++ " column " ++ toString p.column

def Failure.messageWithPath (f : Failure) (whole : List UInt8) : String :=
  (if f.path.isEmpty then "" else pathText f.path ++ ": ") ++ f.message whole

end LiveLesson.Json
