import LiveLesson.Text.Hex
import LiveLesson.Text.Split

/-!
IPv6 addresses: eight groups of sixteen bits. In text one run of zero groups may be left out, and
the last two groups may be written as an IPv4 address. Printing leaves out the first of the longest
runs of at least two.
-/

namespace LiveLesson.Url.Ipv6

open Text

def group? (cs : List Char) : Option Nat :=
  if cs.isEmpty || 4 < cs.length then none
  else
    cs.foldlM (fun acc c => do
      let d ← if c.toNat < 0x80 then Hex.value? c.toNat.toUInt8 else none
      return acc * 16 + d) 0

def byte? (cs : List Char) : Option Nat :=
  if cs.isEmpty || 3 < cs.length || !cs.all Char.isDigit || (cs.length ≠ 1 && cs.head? =
    some '0') then none
  else
    let n := cs.foldl (fun acc c => acc * 10 + (c.toNat - '0'.toNat)) 0
    if n ≤ 255 then some n else none

def bytesAsGroups? (cs : List Char) : Option (List Nat) :=
  match (split '.' cs).map byte? with
  | [some a, some b, some c, some d] => some [a * 256 + b, c * 256 + d]
  | _ => none

def groupsOf? (pieces : List (List Char)) : Option (List Nat) :=
  match pieces with
  | [] => some []
  | [last] => ((group? last).map ([·])).or (bytesAsGroups? last)
  | piece :: rest => do
    let g ← group? piece
    return g :: (← groupsOf? rest)

def cutGap : List Char → List Char × Option (List Char)
  | ':' :: ':' :: rest => ([], some rest)
  | c :: rest =>
    let (before, after) := cutGap rest
    (c :: before, after)
  | [] => ([], none)

def side? (cs : List Char) : Option (List Nat) :=
  if cs.isEmpty then some [] else groupsOf? (split ':' cs)

/-- Plain groups only, which is what may stand before a gap. -/
def plainSide? (cs : List Char) : Option (List Nat) :=
  if cs.isEmpty then some [] else (split ':' cs).mapM group?

def parse? (cs : List Char) : Option (List Nat) := do
  match cutGap cs with
  | (whole, none) =>
    let groups ← groupsOf? (split ':' whole)
    if groups.length = 8 then some groups else none
  | (before, some after) =>
    let left ← plainSide? before
    let right ← side? after
    if left.length + right.length ≤ 7 then
      some (left ++ List.replicate (8 - left.length - right.length) 0 ++ right)
    else none

def zeros (groups : List Nat) : Nat := (groups.takeWhile (· == 0)).length

/-- Where the first of the longest runs of zeros begins, and its length. -/
def longestRun : Nat → List Nat → Nat × Nat
  | _, [] => (0, 0)
  | start, g :: rest =>
    let here := zeros (g :: rest)
    let later := longestRun (start + 1) rest
    if later.2 ≤ here then (start, here) else later

def groupText (g : Nat) : String := String.ofList (Nat.toDigits 16 g)

def toText (groups : List Nat) : String :=
  let (start, size) := longestRun 0 groups
  let join := fun gs : List Nat => ":".intercalate (gs.map groupText)
  if size < 2 then join groups
  else join (groups.take start) ++ "::" ++ join (groups.drop (start + size))

end LiveLesson.Url.Ipv6
