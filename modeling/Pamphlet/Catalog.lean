import Pamphlet.Record.Datum

/-!
# The catalog of errors

Every error that a user is meant to act on has a code, a message and a suggestion; some name details
that a program can read. An error is written as a record, without the parts that are empty.
-/

namespace Pamphlet

open Pamphlet.Record

structure CatalogError where
  code : String
  message : String
  suggestion : String := ""
  detail : Datum := .null

namespace CatalogError

def fields (e : CatalogError) : Fields :=
  [("error_code", .text e.code), ("message", .text e.message)] ++
    (if e.suggestion = "" then [] else [("suggestion", .text e.suggestion)]) ++
    if e.detail.isEmpty then [] else [("detail", e.detail)]

/-- The summary lacks what it must have. -/
def incomplete (problems : List String) : CatalogError where
  code := "VALIDATION_FAILED"
  message := "Release summary validation failed: " ++ "; ".intercalate problems
  suggestion :=
    "Fill in every required element of the release summary (releaseID, previousReleaseID, ...)."
  detail := .texts problems

def badSummary (path reason : String) : CatalogError where
  code := "SUMMARY_INVALID"
  message := s!"Cannot read release summary {path}: {reason}"
  suggestion := "The summary must be a well-formed XML document with a <summary> root."

def badBugList (path : String) (line : Int) (reason : String) : CatalogError where
  code := "ISSUE_LIST_INVALID"
  message := s!"{path}:{line}: {reason}"
  suggestion := "Regenerate the bug list just before running the generator."

/-- The summary and the bug list name different previous releases. -/
def mismatch (expected found : String) : CatalogError where
  code := "PREVIOUS_RELEASE_MISMATCH"
  message := "previous release version mismatch between release summary " ++
    s!"and bug list: {expected} != {found}"
  suggestion := "Regenerate the bug list against the previous release named in the summary."

def noFetch (address reason : String) : CatalogError where
  code := "RELEASE_NOTE_FETCH_FAILED"
  message := s!"Could not fetch release note {address}: {reason}"
  suggestion := "Check that the issue tracker is reachable and the attachment still exists."

def badNote (reason : String) : CatalogError where
  code := "RELEASE_NOTE_INVALID"
  message := s!"Malformed release note: {reason}"
  suggestion := "Release notes must be well-formed XHTML with a 'Summary of Change' section."

/-- The code of a failed run whose cause is not in the catalog. -/
def generationCode : String :=
  "GENERATION_FAILED"

def generation (message code : String) : CatalogError where
  code
  message := s!"Error running release notes generator: {message}"
  suggestion := "See the logged stack trace for the underlying cause."

/-- The page is not what the steps that built it should have made it. -/
def broken (message : String) : CatalogError where
  code := "ASSERT_FAILED"
  message
  suggestion :=
    "This is a bug in the release notes generator. Please report it with the thread dump."

end CatalogError

end Pamphlet
