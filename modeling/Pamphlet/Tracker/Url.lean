import Pamphlet.Number.Text
import Pamphlet.Text.Utf8

/-!
# Addresses

An address as it is sent, in its parts. Reading one brings it into a normal form: scheme and host
are in lower case, the number that a scheme implies is not written after the host, dot segments are
resolved, and every character that its part does not allow is written as the escapes of its bytes;
escapes that are there already stay.
-/

namespace Pamphlet.Tracker

open Pamphlet.Text

/-- Why a text is no address. -/
inductive UrlProblem
  | tooLong
  | control (c : Char) (position : Nat)
  | badNumber (number : String)
  | badHostNumber (host : String)
  | badHostName (host : String)
  | relativePath
  | twoSlashes
  | colon
  deriving DecidableEq, Repr

def UrlProblem.text : UrlProblem → String
  | .tooLong => "URL too long"
  | .control c position =>
    s!"Invalid non-printable ASCII character in URL, {quoted c.toString} at position {position}."
  | .badNumber number => "Invalid port: " ++ quoted number
  | .badHostNumber host => "Invalid IPv4 address: " ++ quoted host
  | .badHostName host => "Invalid IDNA hostname: " ++ quoted host
  | .relativePath => "For absolute URLs, path must be empty or begin with '/'"
  | .twoSlashes => "Relative URLs cannot have a path starting with '//'"
  | .colon => "Relative URLs cannot have a path starting with ':'"

/-- The parts of an address; `number` is that of the service on the host. A query or a fragment may
be there and empty. -/
structure Url where
  scheme : String := ""
  user : String := ""
  host : String := ""
  number : Option Int := none
  path : String := ""
  query : Option String := none
  fragment : Option String := none
  deriving DecidableEq, Repr

namespace Url

/-! ## Escapes -/

def isHex (c : Char) : Bool :=
  c.isDigit || ('a' ≤ c && c ≤ 'f') || ('A' ≤ c && c ≤ 'F')

def escapeByte (b : UInt8) : List Char :=
  '%' :: (hexDigits 2 b.toNat).map Char.toUpper

/-- Writes the characters outside the class as escapes. -/
def escapeChars (allowed : Char → Bool) : List Char → List Char
  | '%' :: c :: d :: cs =>
    if isHex c && isHex d then '%' :: c :: d :: escapeChars allowed cs
    else
      (if allowed '%' then ['%'] else (Utf8.encodeChar '%').flatMap escapeByte) ++
        escapeChars allowed (c :: d :: cs)
  | c :: cs =>
    (if allowed c then [c] else (Utf8.encodeChar c).flatMap escapeByte) ++ escapeChars allowed cs
  | [] => []

def escape (allowed : Char → Bool) (s : String) : String :=
  String.ofList (escapeChars allowed s.toList)

/-- Visible characters of ASCII that are not in a text. -/
def visibleBut (refused : String) (c : Char) : Bool :=
  0x20 < c.toNat && c.toNat < 0x7F && !refused.toList.contains c

def inPath : Char → Bool :=
  visibleBut "\"#<>?`\x7b\x7d"

def inQuery : Char → Bool :=
  visibleBut "\"#<>"

def inFragment : Char → Bool :=
  visibleBut "\"<>`"

def inUser : Char → Bool :=
  visibleBut "\"#<>?`\x7b\x7d/;=@[\\]^|"

def inHost (c : Char) : Bool :=
  c.isAlphanum || "-._~!$&'()*+,;=\"`\x7b\x7d%|\\".toList.contains c

/-! ## Splitting -/

/-- An address as it is written. -/
structure Written where
  scheme : List Char
  authority : Option (List Char)
  path : List Char
  query : Option (List Char)
  fragment : Option (List Char)

/-- The text before the first character of a class, and the text from it on. -/
def splitAt (stop : Char → Bool) (cs : List Char) : List Char × List Char :=
  (cs.takeWhile (!stop ·), cs.dropWhile (!stop ·))

def inScheme (c : Char) : Bool :=
  c.isAlphanum || c == '+' || c == '.' || c == '-'

/-- A scheme before its colon; it may be empty. -/
def splitScheme (cs : List Char) : List Char × List Char :=
  match splitAt (!inScheme ·) cs with
  | (scheme, ':' :: rest) =>
    match scheme with
    | [] => ([], rest)
    | c :: _ => if c.isAlpha then (scheme, rest) else ([], cs)
  | _ => ([], cs)

/-- What follows a mark up to a stop, if the mark is there. -/
def splitMarked (mark : Char) (stop : Char → Bool) (cs : List Char) :
    Option (List Char) × List Char :=
  match cs with
  | c :: rest =>
    if c = mark then
      let (part, rest) := splitAt stop rest
      (some part, rest)
    else (none, cs)
  | [] => (none, [])

def Written.split (s : String) : Written :=
  let (scheme, rest) := splitScheme s.toList
  let ends (c : Char) : Bool := c == '/' || c == '?' || c == '#'
  let (authority, rest) :=
    match rest with
    | '/' :: '/' :: rest =>
      let (authority, rest) := splitAt ends rest
      (some authority, rest)
    | rest => (none, rest)
  let (path, rest) := splitAt (fun c => c == '?' || c == '#') rest
  let (query, rest) := splitMarked '?' (· == '#') rest
  let (fragment, _) := splitMarked '#' (fun _ => false) rest
  { scheme, authority, path, query, fragment }

/-- The text before the last `@`, and the text after it. -/
def splitUser (cs : List Char) : List Char × List Char :=
  let back := cs.reverse
  match back.dropWhile (· ≠ '@') with
  | [] => ([], cs)
  | _ :: user => (user.reverse, (back.takeWhile (· ≠ '@')).reverse)

/-- A host and the number after it; a host in brackets may hold colons. -/
def splitHost (cs : List Char) : List Char × List Char :=
  let (host, rest) :=
    if cs.head? = some '[' && cs.contains ']' then
      let length := cs.length - (cs.reverse.takeWhile (· ≠ ']')).length
      (cs.take length, cs.drop length)
    else splitAt (· == ':') cs
  (host, if rest.head? = some ':' then rest.drop 1 else rest)

/-! ## Normal form -/

/-- The states of a reader of four numbers with one character between neighbours: an even state
waits for the first digit of a number, an odd one has read some. -/
def nextStates (c : Char) (states : List Nat) : List Nat :=
  (states.flatMap fun s =>
    if s % 2 = 0 then (if c.isDigit then [s + 1] else [])
    else (if c.isDigit then [s] else []) ++ (if s < 7 then [s + 1] else [])).eraseDups

/-- Whether a host is meant as four numbers. -/
def looksNumbered (cs : List Char) : Bool :=
  (cs.foldl (fun states c => nextStates c states) [0]).contains 7

def isHostNumber (part : String) : Bool :=
  let cs := part.toList
  0 < cs.length && cs.length ≤ 3 && cs.all Char.isDigit && Number.digitsValue cs ≤ 255 &&
    (cs.length == 1 || cs.head? != some '0')

def normalHost (cs : List Char) : Except UrlProblem String :=
  let host := String.ofList cs
  if cs.isEmpty then .ok ""
  else if looksNumbered cs then
    let parts := host.splitOn "."
    if parts.length = 4 && parts.all isHostNumber then .ok host else .error (.badHostNumber host)
  else if cs.head? = some '[' && cs.getLast? = some ']' then
    .ok (String.ofList ((cs.drop 1).dropLast))
  else if cs.all fun c => c.toNat < 128 then
    .ok (String.ofList (escapeChars inHost (cs.map Char.toLower)))
  else .error (.badHostName host)

/-- The number that a scheme implies. -/
def usualNumber (scheme : String) : Option Int :=
  [("ftp", 21), ("http", 80), ("https", 443), ("ws", 80), ("wss", 443)].lookup scheme

def normalNumber (scheme number : String) : Except UrlProblem (Option Int) :=
  if number = "" then .ok none
  else
    match Number.whole? number with
    | none => .error (.badNumber number)
    | some n => .ok (if usualNumber scheme = some n then none else some n)

/-- Drops single dots, and double dots with the segment before them. -/
def resolveSegments (done : List String) : List String → List String
  | [] => done.reverse
  | "." :: rest => resolveSegments done rest
  | ".." :: rest => resolveSegments (if done = [""] then done else done.drop 1) rest
  | segment :: rest => resolveSegments (segment :: done) rest

def normalPath (path : String) : String :=
  "/".intercalate (resolveSegments [] (path.splitOn "/"))

/-- The normal form of an address that is written in parts; `host` takes the place of the host that
is written. -/
def ofWritten (w : Written) (host : Option String) : Except UrlProblem Url := do
  let scheme := String.ofList w.scheme
  let (user, rest) := splitUser (w.authority.getD [])
  let (writtenHost, number) := splitHost rest
  let user := String.ofList (escapeChars inUser user)
  let host ← normalHost (host.elim writtenHost String.toList)
  let number ← normalNumber scheme (String.ofList number)
  let hasAuthority := user ≠ "" || host ≠ "" || number.isSome
  let path := String.ofList w.path
  let hasScheme := scheme ≠ ""
  if hasAuthority && path ≠ "" && w.path.head? ≠ some '/' then throw .relativePath
  if !hasScheme && !hasAuthority then
    if ['/', '/'].isPrefixOf w.path then throw .twoSlashes
    if w.path.head? = some ':' then throw .colon
  let path := if hasScheme || hasAuthority then normalPath path else path
  return {
    scheme := String.ofList (w.scheme.map Char.toLower), user, host, number
    path := escape inPath path
    query := w.query.map fun q => String.ofList (escapeChars inQuery q)
    fragment := w.fragment.map fun f => String.ofList (escapeChars inFragment f) }

def maxLength : Nat := 65536

def isControl (c : Char) : Bool :=
  c.toNat < 32 || c.toNat == 127

def parse (s : String) : Except UrlProblem Url := do
  if maxLength < s.length then throw .tooLong
  let cs := s.toList
  match cs.dropWhile (!isControl ·) with
  | c :: _ => throw (.control c (cs.takeWhile (!isControl ·)).length)
  | [] => ofWritten (Written.split s) none

/-! ## Writing -/

def authority (u : Url) : String :=
  (if u.user = "" then "" else u.user ++ "@") ++
    (if u.host.toList.contains ':' then "[" ++ u.host ++ "]" else u.host) ++
    (u.number.elim "" fun n => ":" ++ toString n)

def text (u : Url) : String :=
  (if u.scheme = "" then "" else u.scheme ++ ":") ++
    (if u.authority = "" then "" else "//" ++ u.authority) ++
    u.path ++ (u.query.elim "" ("?" ++ ·)) ++ (u.fragment.elim "" ("#" ++ ·))

/-- An address that does not say where to go. -/
def isRelative (u : Url) : Bool :=
  u.scheme = "" || u.host = ""

end Url

end Pamphlet.Tracker
