import LiveLesson.Text.Hex
import LiveLesson.Text.Split

/-!
IPv4 addresses as hosts. A name whose last label is a number has to be an address: up to four
numbers, decimal, octal behind a zero or hexadecimal behind `0x`, of which the last fills all the
bytes that are left.
-/

namespace LiveLesson.Url.Ipv4

open Text

def ofDigits? (base : Nat) (cs : List Char) : Option Nat :=
  cs.foldlM (fun acc c => do
    let d ← if c.toNat < 0x80 then Hex.value? c.toNat.toUInt8 else none
    if d < base then some (acc * base + d) else none) 0

/-- A number of an address. No digit behind `0x` counts as zero. -/
def number? : List Char → Option Nat
  | [] => none
  | '0' :: 'x' :: cs => ofDigits? 16 cs
  | '0' :: 'X' :: cs => ofDigits? 16 cs
  | '0' :: c :: cs => ofDigits? 8 (c :: cs)
  | cs => ofDigits? 10 cs

def parts (name : List Char) : List (List Char) :=
  let labels := split '.' name
  if labels.getLast? = some [] then labels.dropLast else labels

def endsInNumber (name : List Char) : Bool :=
  match (parts name).getLast? with
  | some last => (!last.isEmpty && last.all Char.isDigit) || (number? last).isSome
  | none => false

/-- The address that numbers give: all but the last are bytes. -/
def ofNumbers? : List Nat → Option Nat
  | [] => none
  | ns =>
    let bytes := ns.dropLast
    let last := ns.getLastD 0
    let room := 4 - bytes.length
    if 4 < ns.length || bytes.any (255 < ·) || Nat.pow 256 room ≤ last then none
    else some (bytes.foldl (fun acc b => acc * 256 + b) 0 * Nat.pow 256 room + last)

def parse? (name : List Char) : Option Nat := ((parts name).mapM number?).bind ofNumbers?

def toText (address : Nat) : String :=
  ".".intercalate ([16777216, 65536, 256, 1].map fun unit => toString (address / unit % 256))

end LiveLesson.Url.Ipv4
