/-!
Punycode (RFC 3492): a label of any characters as ASCII. The ASCII characters come first; behind
them stand numbers in a mixed radix, each of which says how far on the next insertion of another
character lies.
-/

namespace LiveLesson.Url.Punycode

/-- The least and the greatest threshold bound the digit that ends a number. -/
def threshold (position bias : Nat) : Nat := min 26 (max 1 (position - bias))

/-- Scales a distance down until the next bias can be read off it. -/
def settle (delta steps : Nat) : Nat :=
  if 455 < delta then settle (delta / 35) (steps + 36) else steps + 36 * delta / (delta + 38)
termination_by delta

/-- The bias after an insertion at the distance `delta` into a label that then has `size`
characters. -/
def adapt (delta size : Nat) (isFirst : Bool) : Nat :=
  let halved := if isFirst then delta / 700 else delta / 2
  settle (halved + halved / size) 0

def digitChar (n : Nat) : Char := Char.ofNat (if n < 26 then 'a'.toNat + n else '0'.toNat + n - 26)

def digitValue? (c : Char) : Option Nat :=
  if c.isDigit then some (c.toNat - '0'.toNat + 26)
  else if c.isLower then some (c.toNat - 'a'.toNat)
  else if c.isUpper then some (c.toNat - 'A'.toNat)
  else none

def digits (bias position n : Nat) : List Char :=
  let t := threshold position bias
  if t ≤ n then
    digitChar (t + (n - t) % (36 - t)) :: digits bias (position + 36) ((n - t) / (36 - t))
  else [digitChar n]
termination_by n
decreasing_by
  have ht : 1 ≤ threshold position bias := by unfold threshold; omega
  exact Nat.lt_of_le_of_lt (Nat.div_le_self _ _) (by omega)

structure Writing where
  next : Nat
  delta : Nat
  bias : Nat
  placed : Nat
  isFirst : Bool
  out : List Char

/-- Passes one character while the occurrences of the code point `m` are inserted. -/
def Writing.pass (m : Nat) (w : Writing) (c : Char) : Writing :=
  if c.toNat < m then { w with delta := w.delta + 1 }
  else if c.toNat = m then
    { w with
      delta := 0, bias := adapt w.delta (w.placed + 1) w.isFirst, placed := w.placed + 1
      isFirst := false, out := w.out ++ digits w.bias 36 w.delta }
  else w

def Writing.round (label : List Char) (w : Writing) (m : Nat) : Writing :=
  let start := { w with delta := w.delta + (m - w.next) * (w.placed + 1) }
  let w := label.foldl (Writing.pass m) start
  { w with delta := w.delta + 1, next := m + 1 }

def foreign (label : List Char) : List Nat :=
  (((label.map Char.toNat).filter (0x80 ≤ ·)).mergeSort (· ≤ ·)).eraseDups

def encode (label : List Char) : List Char :=
  let basic := label.filter fun c => c.toNat < 0x80
  let head := if basic.isEmpty then [] else basic ++ ['-']
  let start : Writing := ⟨0x80, 0, 72, basic.length, true, []⟩
  head ++ ((foreign label).foldl (Writing.round label) start).out

structure Reading where
  next : Nat
  index : Nat
  /-- The index before the number that is being read. -/
  since : Nat
  weight : Nat
  position : Nat
  bias : Nat
  isFirst : Bool
  out : List Char

def char? (n : Nat) : Option Char := if n.isValidChar then some (Char.ofNat n) else none

/-- Takes one digit; the one below the threshold ends its number and places a character. -/
def Reading.step (r : Reading) (c : Char) : Option Reading := do
  let d ← digitValue? c
  let t := threshold r.position r.bias
  let index := r.index + d * r.weight
  if t ≤ d then
    return { r with index, weight := r.weight * (36 - t), position := r.position + 36 }
  let size := r.out.length + 1
  let next := r.next + index / size
  let placed ← char? next
  return {
    next, index := index % size + 1, since := index % size + 1, weight := 1, position := 36
    bias := adapt (index - r.since) size r.isFirst, isFirst := false
    out := r.out.insertIdx (index % size) placed }

/-- The label that ASCII characters stand for; `none` if a number is broken off or no character. -/
def decode? (cs : List Char) : Option (List Char) := do
  let digitsOf := (cs.reverse.takeWhile (· != '-')).reverse
  let basic := cs.take (cs.length - digitsOf.length - 1)
  let start : Reading := ⟨0x80, 0, 0, 1, 36, 72, true, basic⟩
  let r ← digitsOf.foldlM Reading.step start
  if r.position = 36 ∧ r.weight = 1 then some r.out else none

end LiveLesson.Url.Punycode
