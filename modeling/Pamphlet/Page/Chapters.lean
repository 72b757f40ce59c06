import Pamphlet.Page.Section
import Pamphlet.Release.Pool
import Pamphlet.Release.Summary

/-!
# The chapters of release notes

The six main sections of a page and how each is built from the summary, the issues and the fetched
notes. An issue that needs a note is either a section of the chapter on issues or missing
(`issues`).
-/

namespace Pamphlet.Page

open Pamphlet.Markup Pamphlet.Release

namespace Chapter

def overviewTitle : String := "Overview"

def newFeaturesTitle : String := "New Features"

def bugFixesTitle : String := "Bug Fixes"

def issuesTitle : String := "Issues"

def environmentTitle : String := "Build Environment"

def verificationTitle : String := "Verifying Releases"

/-- The titles of all chapters in their order. -/
def titles : List String :=
  [overviewTitle, newFeaturesTitle, bugFixesTitle, issuesTitle, environmentTitle,
    verificationTitle]

/-! ## Fragments -/

/-- A chapter that holds what the summary says on a topic. -/
def ofFragment (title : String) (s : Summary) (t : Topic) : Except Fault Section := do
  let fragment ← s.fragment t
  return { title, body := (Element.named "div").appendContent fragment }

def overview (s : Summary) : Except Fault Section :=
  ofFragment overviewTitle s .overview

def newFeatures (s : Summary) : Except Fault Section :=
  ofFragment newFeaturesTitle s .newFeatures

def verification (s : Summary) : Except Fault Section :=
  ofFragment verificationTitle s .releaseVerification

/-! ## Bug fixes -/

/-- What the chapters on issues speak of. -/
structure Subject where
  releaseId : String
  previousReleaseId : String
  lead : String
  product : String

def bugFixesText (x : Subject) : String :=
  s!"The following issues are addressed by {x.product} release {x.releaseId}. " ++
    s!"These issues are not addressed in the preceding {x.previousReleaseId} release."

/-- The row of an issue: its name, linked to the tracker, and its title. -/
def issueRow (lead : String) (i : Issue) : Element :=
  { Part.row with
    children := [Part.cell.append (Part.link i.address (i.name lead)), .ofText "td" i.title] }

def bugFixesTable (x : Subject) (is : List Issue) : Element :=
  let table := Part.table 2 ["Issue Id", "Description"]
  { table with children := table.children ++ is.map (issueRow x.lead) }

def bugFixes (x : Subject) (is : List Issue) : Section where
  title := bugFixesTitle
  body :=
    { Element.named "div" with
      children := [Part.paragraph (bugFixesText x), bugFixesTable x is] }

/-! ## Issues -/

def issuesText (x : Subject) : String :=
  s!"Compared with the previous release ({x.previousReleaseId}), {x.product} " ++
    s!"release {x.releaseId} introduces the following new features and " ++
    "incompatibilities. These merit your special attention."

/-- The title of the section of an issue's note. -/
def noteTitle (lead : String) (i : Issue) : String :=
  "Note for " ++ i.name lead

/-- The paragraph that a note begins with: its title and its summary. -/
def noteLead (lead : String) (i : Issue) (n : Note) : Element :=
  (Part.paragraph (noteTitle lead i ++ ": ")).appendContent n.summary

/-- The section of an issue's note. Its entry says what its first paragraph says. -/
def noteSection (lead : String) (i : Issue) (n : Note) : Section :=
  let body := ((Element.named "div").append (noteLead lead i n)).appendContent n.details
  { title := noteTitle lead i, body, label := body.children.head? }

/-- What is to be done about an issue. -/
inductive Treatment
  | nothing
  | shown (n : Note)
  | missing
  | failed (incident : Incident)

/-- What is said of a note that nobody tried to fetch. -/
def notFetched (lead : String) (i : Issue) : Incident :=
  ⟨unreadable lead i, "release note was not fetched"⟩

/-- The outcome of an issue, the last one if there are several. -/
def outcomeOf (outcomes : List Outcome) (i : Issue) : Option Outcome :=
  outcomes.reverse.find? (·.issue.key == i.key)

def treat (lead : String) (outcomes : List Outcome) (i : Issue) : Treatment :=
  match i.status with
  | .notNeeded => .nothing
  | .missing => .missing
  | .attached =>
    match outcomeOf outcomes i with
    | none => .failed (notFetched lead i)
    | some o =>
      match o.note with
      | some n => .shown n
      | none => .failed (o.incident.getD (notFetched lead i))

/-- A chapter on issues, with the incidents of its notes and the issues that still need one. -/
structure IssuesChapter where
  chapter : Section
  incidents : List Incident
  missing : List Issue

def issues (x : Subject) (is : List Issue) (outcomes : List Outcome) : IssuesChapter where
  chapter :=
    { title := issuesTitle
      body := (Element.named "div").append (Part.paragraph (issuesText x))
      subsections := is.filterMap fun i =>
        match treat x.lead outcomes i with
        | .shown n => some (noteSection x.lead i n)
        | _ => none
      hasContents := true
      ruled := true }
  incidents := is.filterMap fun i =>
    match treat x.lead outcomes i with
    | .failed incident => some incident
    | _ => none
  missing := is.filter fun i =>
    match treat x.lead outcomes i with
    | .missing => true
    | .failed _ => true
    | _ => false

/-! ## Build environment -/

/-- The headlines of the build environment and their topics. -/
def environmentTopics : List (String × Topic) :=
  [("Machine", .machine), ("Ant", .antVersion), ("JDK 1.4", .jdk14), ("Java 6", .java6),
    ("Compiler", .compilers), ("JSR 169", .jsr169)]

def environment (s : Summary) (product : String) : Section where
  title := environmentTitle
  body :=
    { Element.named "div" with
      children := [
        Part.paragraph
          s!"{product} release {s.releaseId} was built using the following environment:",
        { Part.list with
          children :=
            Part.headlinedItem "Branch" s!"Source code came from the {s.branch} branch." ::
              environmentTopics.map fun (headline, t) => Part.headlinedItem headline (s.get t) }] }

end Chapter

end Pamphlet.Page
