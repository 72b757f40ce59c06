import Pamphlet.Tracker.Reference
import Pamphlet.Text.Blank

/-!
# Replies

What an issue tracker answers to a request, and how a page is fetched from it. A tracker may answer
an address in one way now and in another way later; a `steady` one does not. `Tracker.fetch` asks
for an address, follows redirects if it is told to, and gives the body of the last reply if its
status is a success, together with all addresses asked for in order.
-/

namespace Pamphlet.Tracker

structure Reply where
  status : Nat := 200
  headers : List (String × String) := []
  body : List UInt8 := []

/-- A request ends in a reply, in a failure of the transport, or in another failure. Failures have a
kind and a text. -/
inductive Answer
  | reply (r : Reply)
  | lost (kind text : String)
  | broken (kind text : String)

/-- A request. Downloads are told apart by the places of their issues in a list, and the requests of
one download by the number of those before it, so no two requests of a job are the same. -/
structure Request where
  place : Nat
  turn : Nat
  address : String

end Tracker

/-- What every request is answered. -/
structure Tracker where
  answer : Tracker.Request → Tracker.Answer

namespace Tracker

/-- A tracker that answers each address in a fixed way. -/
def steady (answers : String → Answer) : Tracker :=
  ⟨fun r => answers r.address⟩

instance : Coe (String → Answer) Tracker := ⟨steady⟩

/-- Why no page was fetched. -/
inductive FetchProblem
  | badAddress (problem : UrlProblem)
  | badLocation (problem : UrlProblem)
  | badStatus (status : Nat) (address : String) (location : Option String)
  | tooManyRedirects
  | lost (kind text : String)
  deriving DecidableEq, Repr

/-- The usual phrases for statuses. -/
def reasonPhrases : List (Nat × String) := [
  (100, "Continue"), (101, "Switching Protocols"), (102, "Processing"), (103, "Early Hints"),
  (200, "OK"), (201, "Created"), (202, "Accepted"), (203, "Non-Authoritative Information"),
  (204, "No Content"), (205, "Reset Content"), (206, "Partial Content"), (207, "Multi-Status"),
  (208, "Already Reported"), (226, "IM Used"), (300, "Multiple Choices"),
  (301, "Moved Permanently"), (302, "Found"), (303, "See Other"), (304, "Not Modified"),
  (305, "Use Proxy"), (307, "Temporary Redirect"), (308, "Permanent Redirect"),
  (400, "Bad Request"), (401, "Unauthorized"), (402, "Payment Required"), (403, "Forbidden"),
  (404, "Not Found"), (405, "Method Not Allowed"), (406, "Not Acceptable"),
  (407, "Proxy Authentication Required"), (408, "Request Timeout"), (409, "Conflict"),
  (410, "Gone"), (411, "Length Required"), (412, "Precondition Failed"),
  (413, "Request Entity Too Large"), (414, "Request-URI Too Long"),
  (415, "Unsupported Media Type"), (416, "Requested Range Not Satisfiable"),
  (417, "Expectation Failed"), (418, "I'm a teapot"), (421, "Misdirected Request"),
  (422, "Unprocessable Entity"), (423, "Locked"), (424, "Failed Dependency"), (425, "Too Early"),
  (426, "Upgrade Required"), (428, "Precondition Required"), (429, "Too Many Requests"),
  (431, "Request Header Fields Too Large"), (451, "Unavailable For Legal Reasons"),
  (500, "Internal Server Error"), (501, "Not Implemented"), (502, "Bad Gateway"),
  (503, "Service Unavailable"), (504, "Gateway Timeout"), (505, "HTTP Version Not Supported"),
  (506, "Variant Also Negotiates"), (507, "Insufficient Storage"), (508, "Loop Detected"),
  (510, "Not Extended"), (511, "Network Authentication Required")]

def reasonPhrase (status : Nat) : String :=
  (reasonPhrases.lookup status).getD ""

def isSuccess (status : Nat) : Bool :=
  status / 100 == 2

/-- What a status that is no success stands for, by its hundreds. -/
def statusClass (status : Nat) : String :=
  match status / 100 with
  | 1 => "Informational response"
  | 3 => "Redirect response"
  | 4 => "Client error"
  | 5 => "Server error"
  | _ => "Invalid status code"

namespace FetchProblem

/-- The kind of failure that a problem is reported as. -/
def name : FetchProblem → String
  | .badAddress _ => "InvalidURL"
  | .badLocation _ => "RemoteProtocolError"
  | .badStatus .. => "HTTPStatusError"
  | .tooManyRedirects => "TooManyRedirects"
  | .lost kind _ => kind

def text : FetchProblem → String
  | .badAddress problem => problem.text
  | .badLocation problem => s!"Invalid URL in location header: {problem.text}."
  | .badStatus status address location =>
    s!"{statusClass status} '{status} {reasonPhrase status}' for url '{address}'\n" ++
      (location.elim "" fun l => s!"Redirect location: '{l}'\n") ++
      s!"For more information check: https://developer.mozilla.org/en-US/docs/Web/HTTP/Status/{status}"
  | .tooManyRedirects => "Exceeded maximum allowed redirects."
  | .lost _ text => text

end FetchProblem

/-! ## Fetching -/

def Reply.header? (r : Reply) (name : String) : Option String :=
  match (r.headers.filter fun h => Text.lower h.1 = name).map (·.2) with
  | [] => none
  | values => some (", ".intercalate values)

/-- Where a reply sends its reader. -/
def Reply.location? (r : Reply) : Option String :=
  if [301, 302, 303, 307, 308].contains r.status then r.header? "location" else none

/-- A page, a reason why there is none, or a failure that is none of the tracker's. -/
inductive Fetched
  | page (body : List UInt8)
  | problem (p : FetchProblem)
  | broken (kind text : String)

/-- The body of a reply that is not followed further. -/
def Reply.settle (r : Reply) (address : String) : Fetched :=
  if isSuccess r.status then .page r.body
  else .problem (.badStatus r.status address r.location?)

/-- What one request leads to. -/
inductive Lead
  | settled (f : Fetched)
  | elsewhere (u : Url)

/-- Asks for an address, which is answered in a given way. A place that the reply names must be an
address, also if nobody goes there. -/
def ask (answers : String → Answer) (followed : Bool) (u : Url) : Lead :=
  match answers u.text with
  | .lost kind text => .settled (.problem (.lost kind text))
  | .broken kind text => .settled (.broken kind text)
  | .reply r =>
    match r.location? with
    | none => .settled (r.settle u.text)
    | some location =>
      match u.redirected location with
      | .error (.badLocation problem) => .settled (.problem (.badLocation problem))
      | .error (.bad problem) => .settled (.problem (.badAddress problem))
      | .ok next => if followed then .elsewhere next else .settled (r.settle u.text)

/-- What a download is answered at each of its turns. -/
def answersTo (tracker : Tracker) (place turn : Nat) (address : String) : Answer :=
  tracker.answer ⟨place, turn, address⟩

/-- Asks for an address and for at most `redirects` places that replies name. The addresses asked
for come with the result. -/
def follow (answers : Nat → String → Answer) (followed : Bool) (turn : Nat) :
    Nat → Url → Fetched × List String
  | 0, u =>
    match ask (answers turn) followed u with
    | .settled f => (f, [u.text])
    | .elsewhere _ => (.problem .tooManyRedirects, [u.text])
  | redirects + 1, u =>
    match ask (answers turn) followed u with
    | .settled f => (f, [u.text])
    | .elsewhere next =>
      let (f, asked) := follow answers followed (turn + 1) redirects next
      (f, u.text :: asked)

/-- The most replies to other places that are followed. -/
def maxRedirects : Nat := 20

/-- Fetches the page at an address, for the download of a place. -/
def fetch (tracker : Tracker) (followed : Bool) (place : Nat) (address : String) :
    Fetched × List String :=
  match Url.parse address with
  | .error problem => (.problem (.badAddress problem), [])
  | .ok u => follow (tracker.answersTo place) followed 0 maxRedirects u.request

end Tracker

end Pamphlet
