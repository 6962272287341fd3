import LiveLesson.Text.Split

/-!
Addresses as HTTP takes them, by rules stricter than those they are put together by. Behind the
scheme an authority has to stand, up to the first slash, question mark or hash; without a scheme the
whole text is one. Brackets, colons and percent signs have their places there, and the path and the
query hold no blanks and no angle brackets. An address is at most 65534 bytes long.
-/

namespace LiveLesson.Media.Uri

def maxSize : Nat := 65534

def maxScheme : Nat := 64

def isSchemeChar (c : Char) : Bool := c.isAlphanum || "+-.~".toList.contains c

def isAuthorityChar (c : Char) : Bool := c.isAlphanum || "!$&'()*+,-.;=_~".toList.contains c

def endsAuthority (c : Char) : Bool := c = '/' || c = '?' || c = '#'

def isPathChar (c : Char) : Bool := 0x20 < c.toNat && !"<>`".toList.contains c

def isQueryChar (c : Char) : Bool := 0x20 < c.toNat && !"\"<>".toList.contains c

/-- What is known of an authority from its front. An at sign and a closing bracket take back the
colons and percent signs before them. -/
structure Authority where
  colons : Nat
  percent : Bool
  opened : Bool
  closed : Bool
  endsInAt : Bool

namespace Authority

def start : Authority := ⟨0, false, false, false, false⟩

def step (a : Authority) (c : Char) : Option Authority :=
  let a := { a with endsInAt := c = '@' }
  if c = ':' then if a.colons < 8 then some { a with colons := a.colons + 1 } else none
  else if c = '[' then if a.percent || a.opened then none else some { a with opened := true }
  else if c = ']' then
    if a.opened && !a.closed then some { a with closed := true, colons := 0, percent := false }
    else none
  else if c = '@' then some { a with colons := 0, percent := false }
  else if c = '%' then some { a with percent := true }
  else if isAuthorityChar c then some a
  else none

def isComplete (a : Authority) : Bool :=
  a.opened == a.closed && a.colons ≤ 1 && !a.percent && !a.endsInAt

end Authority

def isAuthority (cs : List Char) : Bool :=
  !cs.isEmpty && (cs.foldlM Authority.step .start).any Authority.isComplete

/-- A path and a query; whatever is behind a hash is not looked at. -/
def isTail (cs : List Char) : Bool :=
  let (path, query) := Text.cutFirst '?' (cs.takeWhile (· != '#'))
  path.all isPathChar && (query.getD []).all isQueryChar

def isHierarchy (cs : List Char) : Bool :=
  isAuthority (cs.takeWhile fun c => !endsAuthority c) &&
    isTail (cs.dropWhile fun c => !endsAuthority c)

def isValid (s : String) : Bool :=
  let cs := s.toList
  s.utf8ByteSize ≤ maxSize &&
    match cs.dropWhile isSchemeChar with
    | ':' :: '/' :: '/' :: rest =>
      (cs.takeWhile isSchemeChar).length ≤ maxScheme && isHierarchy rest
    | _ => cs.all (fun c => !endsAuthority c) && isAuthority cs

end LiveLesson.Media.Uri
