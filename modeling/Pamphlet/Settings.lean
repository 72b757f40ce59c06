import Pamphlet.Number.Text
import Pamphlet.Release.BugList
import Pamphlet.Text.Quoted

/-!
# Settings

What a job is told by its surroundings: the product, how the tracker names and shows issues, and how
notes are fetched. Settings are read from named values, each of which has a usual one. A number must
be one (`Settings.read`); what a job cannot run with is listed all at once (`Settings.problems`).
-/

namespace Pamphlet

open Pamphlet.Text Pamphlet.Release Pamphlet.Number

structure Settings where
  product : String
  naming : Naming
  timeout : Binary
  concurrency : Int
  deriving DecidableEq, Repr

namespace Settings

abbrev Environment := List (String × String)

def productName : String := "RELNOTES_PRODUCT_NAME"

def leadName : String := "RELNOTES_ISSUE_PREFIX"

def browseName : String := "RELNOTES_JIRA_BROWSE_URL"

def attachmentName : String := "RELNOTES_ATTACHMENT_URL"

def timeoutName : String := "RELNOTES_FETCH_TIMEOUT"

def concurrencyName : String := "RELNOTES_FETCH_CONCURRENCY"

/-- All names and their usual values. -/
def usual : Environment := [
  (productName, "Derby"),
  (leadName, "DERBY-"),
  (browseName, "https://issues.apache.org/jira/browse/\x7bissue_id\x7d"),
  (attachmentName,
    "https://issues.apache.org/jira/secure/attachment/\x7battachment_id\x7d/releaseNote.html"),
  (timeoutName, "30.0"),
  (concurrencyName, "1")]

def value (environment : Environment) (name : String) : String :=
  (environment.lookup name <|> usual.lookup name).getD ""

/-- A quoted text of at most so many characters. -/
def quotedWithin (length : Nat) (s : String) : String :=
  String.ofList ((quoted s).toList.take length)

def readTimeout (s : String) : Except Fault Binary :=
  match binary? s with
  | some b => .ok b
  | none => .error (.foreign "ValueError" ("could not convert string to float: " ++ quoted s))

def readConcurrency (s : String) : Except Fault Int :=
  match whole? s with
  | some n => .ok n
  | none =>
    .error (.foreign "ValueError"
      ("invalid literal for int() with base 10: " ++ quotedWithin 200 s))

def read (environment : Environment) : Except Fault Settings := do
  let value := value environment
  let timeout ← readTimeout (value timeoutName)
  let concurrency ← readConcurrency (value concurrencyName)
  return {
    product := value productName
    naming := ⟨value leadName, value browseName, value attachmentName⟩
    timeout, concurrency }

/-- Whether a text holds another one. -/
def holds (part : List Char) : List Char → Bool
  | [] => part.isEmpty
  | c :: cs => part.isPrefixOf (c :: cs) || holds part cs

def issueField : String := "\x7bissue_id\x7d"

def attachmentField : String := "\x7battachment_id\x7d"

/-- What a job cannot run with. -/
def problems (s : Settings) : List String :=
  (if s.product = "" then [productName ++ " must not be empty"] else []) ++
  (if s.naming.lead = "" then [leadName ++ " must not be empty"] else []) ++
  (if holds issueField.toList s.naming.browseUrl.toList then []
    else [browseName ++ " must contain " ++ issueField]) ++
  (if holds attachmentField.toList s.naming.attachmentUrl.toList then []
    else [attachmentName ++ " must contain " ++ attachmentField]) ++
  (if s.timeout.isAtMostZero then [timeoutName ++ " must be positive"] else []) ++
  if s.concurrency < 1 then [concurrencyName ++ " must be at least 1"] else []

/-- What is written of settings that a job cannot run with. -/
def complaint (problems : List String) : String :=
  "\n  ERROR: Invalid configuration: " ++ "; ".intercalate problems ++
    "\n  Check your environment or backend/.env.\n\n"

/-- The settings that hold if no value is named. -/
def standard : Settings where
  product := "Derby"
  naming :=
    ⟨"DERBY-", "https://issues.apache.org/jira/browse/\x7bissue_id\x7d",
      "https://issues.apache.org/jira/secure/attachment/\x7battachment_id\x7d/releaseNote.html"⟩
  timeout := .ofDecimal false 30 0
  concurrency := 1

end Settings

end Pamphlet
