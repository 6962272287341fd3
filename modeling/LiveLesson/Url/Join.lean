import LiveLesson.Url.Parser

/-!
Addresses relative to a base. A text without a scheme takes from the base what it does not name
itself; where the base's path is not divided, only its fragment can change.
-/

namespace LiveLesson.Url

open Text

def leadingSlashes (kind : SchemeKind) (cs : List Char) : Nat := (cs.takeWhile kind.isSlash).length

def resolve (base : Url) (parts : List String) (cs : List Char) : Except UrlError Url := do
  let kind := SchemeKind.of base.scheme
  let (hier, query, fragment) := cutTail cs
  let fragment := fragment.map (encoded keptInFragment)
  let asked := query.map (encoded (keptInQuery kind))
  match hier with
  | [] => return { base with query := asked.or base.query, fragment }
  | c :: rest =>
    if 2 ≤ leadingSlashes kind hier then ofScheme base.scheme cs
    else if kind.isSlash c then
      return { base with path := .segments (Path.follow kind [] rest), query := asked, fragment }
    else
      let path := Path.follow kind (Path.shorten kind parts) hier
      return { base with path := .segments path, query := asked, fragment }

def join (base : Url) (s : String) : Except UrlError Url :=
  let cs := clean s
  let kind := SchemeKind.of base.scheme
  match scheme? cs, base.path with
  | some (scheme, rest), .segments parts =>
    if scheme = base.scheme && !kind.isOther && leadingSlashes kind rest < 2 then
      resolve base parts rest
    else ofScheme scheme rest
  | some (scheme, rest), .whole _ => ofScheme scheme rest
  | none, .segments parts => resolve base parts cs
  | none, .whole _ =>
    match cs with
    | '#' :: fragment => .ok { base with fragment := some (encoded keptInFragment fragment) }
    | _ => .error .relativeWithOpaqueBase

end LiveLesson.Url
