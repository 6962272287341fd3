import LiveLesson.Text.Hex
import LiveLesson.Text.Printable

/-!
Quoted texts as they stand in error messages: between double quotes, with a backslash before a quote
or a backslash, short escapes for tab, line feed, carriage return and NUL, and the code point in
hexadecimal between braces for any other character that is not shown as itself.
-/

namespace LiveLesson.Text

def quoteChar (c : Char) : List Char :=
  if c = '"' || c = '\\' then ['\\', c]
  else if c = '\n' then ['\\', 'n']
  else if c = '\r' then ['\\', 'r']
  else if c = '\t' then ['\\', 't']
  else if c = '\x00' then ['\\', '0']
  else if isShown c then [c]
  else '\\' :: 'u' :: '\x7b' :: (Hex.ofNat 1 c.toNat).toList ++ ['\x7d']

def quote (s : String) : String := String.ofList ('"' :: s.toList.flatMap quoteChar ++ ['"'])

end LiveLesson.Text
