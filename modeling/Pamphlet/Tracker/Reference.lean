import Pamphlet.Tracker.Url

/-!
# References

An address that leaves out what it shares with the address of the page that it stands on.
`Url.join` fills it in; `Url.redirected` is where a reply that names another place sends its reader.
-/

namespace Pamphlet.Tracker.Url

/-- The directory part of a path, in segments. -/
def baseSegments (path : String) : List String :=
  let segments := path.splitOn "/"
  if segments.getLast? = some "" then segments else segments.dropLast

/-- Drops the empty segments that are neither first nor last. -/
def dropInnerEmpty : List String → List String
  | [] => []
  | first :: rest => first :: (rest.dropLast.filter (· ≠ "") ++ rest.getLast?.toList)

/-- Drops single dots, and double dots with the segment before them if there is one. -/
def climb (done : List String) : List String → List String
  | [] => done.reverse
  | "." :: rest => climb done rest
  | ".." :: rest => climb (done.drop 1) rest
  | segment :: rest => climb (segment :: done) rest

/-- The path that a relative path names, seen from a page. A host is followed by a path from its
root (`rooted`). -/
def joinPath (rooted : Bool) (base path : String) : String :=
  let segments :=
    if path.toList.head? = some '/' then path.splitOn "/"
    else dropInnerEmpty (baseSegments base ++ path.splitOn "/")
  let climbed := climb [] segments
  let closed :=
    match segments.getLast? with
    | some "." => climbed ++ [""]
    | some ".." => climbed ++ [""]
    | _ => climbed
  let joined := "/".intercalate closed
  if joined = "" ∨ (rooted ∧ joined.toList.head? ≠ some '/') then "/" ++ joined else joined

/-- A part that is there and empty counts as missing. -/
def filled (part : Option String) : Option String :=
  part.filter (· ≠ "")

/-- A reference as seen from an address. -/
def join (base u : Url) : Except UrlProblem Url :=
  let scheme := if u.scheme = "" then base.scheme else u.scheme
  let u' : Url :=
    if scheme ≠ base.scheme ∨ u.text = "" then (if u.text = "" then base else u)
    else if u.authority ≠ "" then
      { u with scheme, query := filled u.query, fragment := filled u.fragment }
    else if u.path = "" then
      { base with query := (filled u.query <|> filled base.query), fragment := filled u.fragment }
    else
      { base with
        path := joinPath (base.authority ≠ "") base.path u.path
        query := filled u.query
        fragment := filled u.fragment }
  parse u'.text

/-- An address under another host. -/
def withHost (u : Url) (host : String) : Except UrlProblem Url :=
  let chars (part : Option String) : Option (List Char) := part.map String.toList
  ofWritten
    ⟨u.scheme.toList, some u.authority.toList, u.path.toList, chars u.query, chars u.fragment⟩
    (some (if host.toList.contains ':' then "[" ++ host ++ "]" else host))

/-- The address to ask for: one that names no host is a path at the root. -/
def request (u : Url) : Url :=
  if u.isRelative then
    { path := "/" ++ String.ofList (u.path.toList.dropWhile (· = '/')), query := u.query }
  else u

/-- What went wrong with a place that a reply names. -/
inductive RedirectProblem
  | badLocation (problem : UrlProblem)
  | bad (problem : UrlProblem)

/-- Where a reply to `asked` that names `location` sends its reader. -/
def redirected (asked : Url) (location : String) : Except RedirectProblem Url := do
  let u ← (parse location).mapError .badLocation
  let u ← if u.scheme ≠ "" && u.host = "" then (u.withHost asked.host).mapError .bad else pure u
  let u ← if u.isRelative then (asked.join u).mapError .bad else pure u
  match filled asked.fragment with
  | some fragment => return if (filled u.fragment).isSome then u else { u with fragment }
  | none => return u

end Pamphlet.Tracker.Url
