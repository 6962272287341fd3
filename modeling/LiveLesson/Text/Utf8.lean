/-!
UTF-8 between characters and bytes. `decode?` accepts exactly well-formed text; `decodeLossy` reads
any bytes and puts U+FFFD for each longest piece that begins a character but does not complete one.
-/

namespace LiveLesson.Text.Utf8

def encodeChar (c : Char) : List UInt8 :=
  let n := c.toNat
  if n < 0x80 then [n.toUInt8]
  else if n < 0x800 then [(0xC0 + n / 64).toUInt8, (0x80 + n % 64).toUInt8]
  else if n < 0x10000 then
    [(0xE0 + n / 4096).toUInt8, (0x80 + n / 64 % 64).toUInt8, (0x80 + n % 64).toUInt8]
  else
    [(0xF0 + n / 262144).toUInt8, (0x80 + n / 4096 % 64).toUInt8, (0x80 + n / 64 % 64).toUInt8,
      (0x80 + n % 64).toUInt8]

def encode (s : String) : List UInt8 := s.toUTF8.toList

/-- What a leading byte asks for: the bounds of the byte after it and the number of bytes after
that. -/
structure Lead where
  bits : Nat
  low : UInt8
  high : UInt8
  more : Nat

/-- The well-formed ranges; `none` for a byte that begins no character of several bytes. -/
def lead? (b : UInt8) : Option Lead :=
  let n := b.toNat
  if 0xC2 ≤ n && n ≤ 0xDF then some ⟨n - 0xC0, 0x80, 0xBF, 0⟩
  else if n == 0xE0 then some ⟨0, 0xA0, 0xBF, 1⟩
  else if n == 0xED then some ⟨0xD, 0x80, 0x9F, 1⟩
  else if 0xE1 ≤ n && n ≤ 0xEF then some ⟨n - 0xE0, 0x80, 0xBF, 1⟩
  else if n == 0xF0 then some ⟨0, 0x90, 0xBF, 2⟩
  else if 0xF1 ≤ n && n ≤ 0xF3 then some ⟨n - 0xF0, 0x80, 0xBF, 2⟩
  else if n == 0xF4 then some ⟨4, 0x80, 0x8F, 2⟩
  else none

def isContinuation (b : UInt8) : Bool := 0x80 ≤ b && b ≤ 0xBF

inductive Front where
  | char (c : Char) (size : Nat)
  /-- A piece of that many bytes which no byte after it completes. -/
  | broken (size : Nat)

/-- Reads on after a leading byte and `taken` bytes in all. -/
def continueFront (acc taken : Nat) : Nat → List UInt8 → Front
  | 0, _ => .char (Char.ofNat acc) taken
  | more + 1, b :: rest =>
    if isContinuation b then continueFront (acc * 64 + (b.toNat - 0x80)) (taken + 1) more rest
    else .broken taken
  | _ + 1, [] => .broken taken

def front (b : UInt8) (rest : List UInt8) : Front :=
  if b < 0x80 then .char (Char.ofNat b.toNat) 1
  else
    match lead? b, rest with
    | none, _ => .broken 1
    | some _, [] => .broken 1
    | some l, c :: cs =>
      if l.low ≤ c && c ≤ l.high then continueFront (l.bits * 64 + (c.toNat - 0x80)) 2 l.more cs
      else .broken 1

/-- Goes through the bytes, skipping those that belong to the character already read. -/
def decodeAux (lossy : Bool) : Nat → List Char → List UInt8 → Option (List Char)
  | _, acc, [] => some acc.reverse
  | skip + 1, acc, _ :: rest => decodeAux lossy skip acc rest
  | 0, acc, b :: rest =>
    match front b rest with
    | .char c size => decodeAux lossy (size - 1) (c :: acc) rest
    | .broken size =>
      if lossy then decodeAux lossy (size - 1) ('\uFFFD' :: acc) rest else none

def decode? (bytes : List UInt8) : Option String := (decodeAux false 0 [] bytes).map String.ofList

def decodeLossy (bytes : List UInt8) : String :=
  String.ofList ((decodeAux true 0 [] bytes).getD [])

/-- Where bytes stop being UTF-8: the bytes before that, and the size of the broken piece unless the
bytes end in the middle of it. -/
structure Fault where
  index : Nat
  size : Option Nat
  deriving DecidableEq, Repr

def Fault.message (f : Fault) : String :=
  match f.size with
  | some size => "invalid utf-8 sequence of " ++ toString size ++ " bytes from index " ++
    toString f.index
  | none => "incomplete utf-8 byte sequence from index " ++ toString f.index

/-- The first fault, if there is one; `skip` bytes belong to the character already read. -/
def fault? : Nat → Nat → List UInt8 → Option Fault
  | _, _, [] => none
  | skip + 1, index, _ :: rest => fault? skip (index + 1) rest
  | 0, index, b :: rest =>
    match front b rest with
    | .char _ size => fault? (size - 1) (index + 1) rest
    | .broken size =>
      some ⟨index, if (lead? b).isSome && rest.length < size then none else some size⟩

end LiveLesson.Text.Utf8
