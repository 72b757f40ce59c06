import Pamphlet.Proofs.Fault
import Pamphlet.Proofs.Markup.Labels
import Pamphlet.Proofs.Release.Note
import Pamphlet.Release.Download

/-!
# How a download ends

The download of a note ends in the note, in a fault of the fetch or in a fault of the page, whatever
the tracker answers and whatever bytes a page has, but for pages that declare an encoding without a
table of characters (`download_endings`).
-/

namespace Pamphlet

open Pamphlet.Markup

/-! ## Pages -/

namespace Release.Note

/-- The page is a release note. -/
def Acceptable (page : List UInt8) : Prop :=
  ∃ root, Markup.parse (.bytes page) false = .ok root ∧
    ∃ body, IsBody root.plain body ∧ ∃ l : Layout body.children, l.HasDetails body.text

/-- The page is not well-formed, or there is a reason why it is no release note. -/
inductive Bad (page : List UInt8) : Prop
  | malformed {complaint : Complaint} (parsed : Markup.parse (.bytes page) false =
      .error (.complaint complaint))
  | refused {root : Element} {problem : NoteProblem}
      (parsed : Markup.parse (.bytes page) false = .ok root) (reason : Refuses root.plain problem)

variable {page : List UInt8}

theorem Acceptable.parse_ok (h : Acceptable page) : ∃ n, parse (.bytes page) = .ok n := by
  obtain ⟨root, hparse, body, hbody, l, hdetails⟩ := h
  rw [parse_of_document hparse, ofRoot_eq_ok_iff.2 ⟨body, hbody, l, hdetails, rfl⟩]
  exact ⟨_, rfl⟩

theorem Bad.failsWith (h : Bad page) :
    FailsWith (parse (.bytes page)) (some "RELEASE_NOTE_INVALID") := by
  cases h with
  | malformed parsed =>
    rw [parse, parsed]
    exact ⟨_, rfl, rfl⟩
  | refused parsed reason =>
    rw [parse_of_document parsed, ofRoot_eq_error_iff.2 reason]
    exact ⟨_, rfl, rfl⟩

theorem failsWith_of_unsupported {failure : Failure} (h : Unsupported page failure) :
    FailsWith (parse (.bytes page)) none := by
  have hparse : Markup.parse (.bytes page) false = .error failure :=
    (parse_eq_error_iff h.ne_complaint).2 h
  rw [parse, hparse]
  cases h with
  | unknown | notText | multiByte | broken => exact ⟨_, rfl, rfl⟩

theorem page_kinds (page : List UInt8) :
    Acceptable page ∨ Bad page ∨ ∃ failure, Unsupported page failure := by
  obtain ⟨root, hparse⟩ | ⟨c, hparse⟩ | hunsupported := parse_kinds page false
  · obtain ⟨body, hbody, l, hdetails, -⟩ | ⟨problem, hrefuses, -⟩ := ofRoot_verdict root.plain
    · exact .inl ⟨root, hparse, body, hbody, l, hdetails⟩
    · exact .inr (.inl (.refused hparse hrefuses))
  · exact .inr (.inl (.malformed hparse))
  · exact .inr (.inr hunsupported)

end Release.Note

/-! ## Fetching -/

namespace Tracker

/-- Every request of a download is answered, or lost on the way; nothing else goes wrong. -/
def Answers (tracker : Tracker) (place : Nat) : Prop :=
  ∀ turn address kind text, tracker.answersTo place turn address ≠ .broken kind text

variable {followed : Bool}

theorem ask_ne_broken {answers : String → Answer} {u : Url}
    (h : ∀ kind text, answers u.text ≠ .broken kind text)
    (kind text : String) : ask answers followed u ≠ .settled (.broken kind text) := by
  unfold ask
  split
  · exact fun he => nomatch he
  · rename_i hanswer
    exact absurd hanswer (h _ _)
  · unfold Reply.settle
    repeat' split
    all_goals exact fun he => nomatch he

/-- What holds of all that a request can settle, and of one redirect too many, holds of what a
download comes to, however often it is sent elsewhere. -/
theorem follow_settles {answers : Nat → String → Answer} {P : Fetched → Prop}
    (hsettled : ∀ turn u f, ask (answers turn) followed u = .settled f → P f)
    (hmany : P (.problem .tooManyRedirects)) (redirects turn : Nat) (u : Url) :
    P (follow answers followed turn redirects u).1 := by
  induction redirects generalizing turn u with
  | zero =>
    unfold follow
    cases hlead : ask (answers turn) followed u with
    | settled f => exact hsettled turn u f hlead
    | elsewhere next => exact hmany
  | succ redirects ih =>
    unfold follow
    cases hlead : ask (answers turn) followed u with
    | settled f => exact hsettled turn u f hlead
    | elsewhere next => exact ih (turn + 1) next

/-- However often a download is sent elsewhere, in the end there is a page or a reason why not. -/
theorem follow_ne_broken {answers : Nat → String → Answer}
    (h : ∀ turn address kind text, answers turn address ≠ .broken kind text)
    (redirects turn : Nat) (u : Url) (kind text : String) :
    (follow answers followed turn redirects u).1 ≠ .broken kind text := by
  refine follow_settles (P := (· ≠ .broken kind text)) (fun turn u f hask he => ?_)
    (fun he => nomatch he) redirects turn u
  exact ask_ne_broken (h turn u.text) kind text (hask.trans (congrArg Lead.settled he))

theorem Answers.fetch {tracker : Tracker} {place : Nat} (h : tracker.Answers place)
    (followed : Bool) (address : String) :
    (∃ page, (fetch tracker followed place address).1 = .page page) ∨
      ∃ p, (fetch tracker followed place address).1 = .problem p := by
  unfold Tracker.fetch
  cases Url.parse address with
  | error problem => exact .inr ⟨_, rfl⟩
  | ok u =>
    simp only
    cases hfetched : (follow (tracker.answersTo place) followed 0 maxRedirects u.request).1 with
    | page page => exact .inl ⟨page, rfl⟩
    | problem p => exact .inr ⟨p, rfl⟩
    | broken kind text =>
      exact absurd hfetched (follow_ne_broken h maxRedirects 0 u.request kind text)

/-- A page is the body of a reply whose status is a success. -/
def Replies (answers : Nat → String → Answer) (page : List UInt8) : Prop :=
  ∃ turn address r, answers turn address = .reply r ∧ isSuccess r.status = true ∧ r.body = page

theorem ask_page {answers : String → Answer} {u : Url} {page : List UInt8}
    (h : ask answers followed u = .settled (.page page)) :
    ∃ r, answers u.text = .reply r ∧ isSuccess r.status = true ∧ r.body = page := by
  have hsettle {r : Reply} (hr : Lead.settled (r.settle u.text) = .settled (.page page)) :
      isSuccess r.status = true ∧ r.body = page := by
    unfold Reply.settle at hr
    split at hr
    · rename_i hsuccess
      cases hr
      exact ⟨hsuccess, rfl⟩
    · cases hr
  unfold ask at h
  split at h
  · cases h
  · cases h
  · rename_i r hanswer
    refine ⟨r, hanswer, ?_⟩
    split at h
    · exact hsettle h
    · repeat' split at h
      all_goals first | exact hsettle h | cases h

theorem follow_page {answers : Nat → String → Answer} (redirects turn : Nat) (u : Url)
    {page : List UInt8} (h : (follow answers followed turn redirects u).1 = .page page) :
    Replies answers page := by
  refine follow_settles (P := fun f => f = .page page → Replies answers page)
    (fun turn u f hask he => ?_) (fun he => nomatch he) redirects turn u h
  exact ⟨turn, u.text, ask_page (hask.trans (congrArg Lead.settled he))⟩

end Tracker

/-! ## Downloads -/

namespace Release

open Tracker

/-- The tracker gives a page for an issue. -/
def Source.Gets (source : Source) (i : Issue) (place : Nat) (page : List UInt8) : Prop :=
  ∃ address, i.noteAddress = some address ∧ address ≠ "" ∧
    (fetch source.tracker source.followed place address).1 = .page page

/-- The issue has no address of a note, or there is a reason why no page is fetched from it. -/
inductive Source.Misses (source : Source) (i : Issue) (place : Nat) : Prop
  | noAddress (none : i.noteAddress.filter (· ≠ "") = none)
  | noPage {address : String} {problem : FetchProblem} (some : i.noteAddress = some address)
      (unempty : address ≠ "")
      (fetched : (fetch source.tracker source.followed place address).1 = .problem problem)

variable {source : Source} {i : Issue} {place : Nat}

theorem download_of_address {address : String} (h : i.noteAddress = some address)
    (hne : address ≠ "") : (source.download i place).note =
      readFetched address (fetch source.tracker source.followed place address).1 := by
  unfold Source.download
  rw [h, Option.filter_some, if_pos (decide_eq_true hne)]

theorem Source.Gets.note_eq {page : List UInt8} (h : source.Gets i place page) :
    (source.download i place).note = Note.parse (.bytes page) := by
  obtain ⟨address, haddress, hne, hfetched⟩ := h
  rw [download_of_address haddress hne, hfetched]
  rfl

/-- No other page is read than one that the tracker sent with success. -/
theorem Source.Gets.replies {page : List UInt8} (h : source.Gets i place page) :
    Replies (source.tracker.answersTo place) page := by
  obtain ⟨address, -, -, hfetched⟩ := h
  unfold fetch at hfetched
  split at hfetched
  · cases hfetched
  · exact follow_page _ _ _ hfetched

/-- A page that does not arrive is a failed download. -/
theorem Source.Misses.failsWith (h : source.Misses i place) :
    FailsWith (source.download i place).note (some "RELEASE_NOTE_FETCH_FAILED") := by
  cases h with
  | noAddress none =>
    unfold Source.download
    rw [none]
    exact ⟨_, rfl, rfl⟩
  | noPage some unempty fetched =>
    rw [download_of_address some unempty, fetched]
    exact ⟨_, rfl, rfl⟩

/-- If the tracker answers, a download gets a page or misses it. -/
theorem gets_or_misses (h : source.tracker.Answers place) (i : Issue) :
    (∃ page, source.Gets i place page) ∨ source.Misses i place := by
  cases haddress : i.noteAddress.filter (· ≠ "") with
  | none => exact .inr (.noAddress haddress)
  | some address =>
    obtain ⟨hsome, hne⟩ := Option.filter_eq_some_iff.1 haddress
    have hne : address ≠ "" := of_decide_eq_true hne
    obtain ⟨page, hpage⟩ | ⟨problem, hproblem⟩ := h.fetch source.followed address
    · exact .inl ⟨page, address, hsome, hne, hpage⟩
    · exact .inr (.noPage hsome hne hproblem)

/-- **How a download ends**, for every issue, whatever the tracker answers and whatever bytes a page
has. A page that is read is the body of a reply that the tracker has sent with success. -/
theorem download_endings (h : source.tracker.Answers place) (i : Issue) :
    ((∃ n, (source.download i place).note = .ok n) ↔
      ∃ page, source.Gets i place page ∧ Note.Acceptable page) ∧
    (FailsWith (source.download i place).note (some "RELEASE_NOTE_FETCH_FAILED") ↔
      source.Misses i place) ∧
    (FailsWith (source.download i place).note (some "RELEASE_NOTE_INVALID") ↔
      ∃ page, source.Gets i place page ∧ Note.Bad page) ∧
    (FailsWith (source.download i place).note none ↔
      ∃ page, source.Gets i place page ∧ ∃ failure, Unsupported page failure) ∧
    ∀ page, source.Gets i place page → Replies (source.tracker.answersTo place) page := by
  have hkinds : (∃ page, source.Gets i place page ∧ Note.Acceptable page) ∨
      source.Misses i place ∨ (∃ page, source.Gets i place page ∧ Note.Bad page) ∨
      ∃ page, source.Gets i place page ∧ ∃ failure, Unsupported page failure := by
    obtain ⟨page, hpage⟩ | hmisses := gets_or_misses h i
    · obtain hkind | hkind | hkind := Note.page_kinds page
      · exact .inl ⟨page, hpage, hkind⟩
      · exact .inr (.inr (.inl ⟨page, hpage, hkind⟩))
      · exact .inr (.inr (.inr ⟨page, hpage, hkind⟩))
    · exact .inr (.inl hmisses)
  have hacceptable : (∃ page, source.Gets i place page ∧ Note.Acceptable page) →
      ∃ n, (source.download i place).note = .ok n := by
    rintro ⟨page, hpage, hacceptable⟩
    rw [hpage.note_eq]
    exact hacceptable.parse_ok
  have hbad : (∃ page, source.Gets i place page ∧ Note.Bad page) →
      FailsWith (source.download i place).note (some "RELEASE_NOTE_INVALID") := by
    rintro ⟨page, hpage, hbad⟩
    rw [hpage.note_eq]
    exact hbad.failsWith
  have hunsupported : (∃ page, source.Gets i place page ∧ ∃ failure, Unsupported page failure) →
      FailsWith (source.download i place).note none := by
    rintro ⟨page, hpage, failure, hunsupported⟩
    rw [hpage.note_eq]
    exact Note.failsWith_of_unsupported hunsupported
  obtain ⟨hdone, hmissed, hrefused, hforeign⟩ := endings_iff (by decide) id hacceptable
    (fun hmisses => hmisses.failsWith) hbad hunsupported hkinds
  exact ⟨hdone, hmissed, hrefused, hforeign, fun page hpage => hpage.replies⟩

/-! ### A sample -/

def sampleLabelled : List UInt8 :=
  Text.Utf8.encode "<?xml version='1.0' encoding='nope'?><body/>"

def sampleSource : Source where
  tracker := Tracker.steady fun _ => .reply { body := sampleLabelled }
  followed := true
  lead := "DERBY-"

def sampleIssue : Issue where
  key := "1"
  address := "https://tracker/browse/DERBY-1"
  noteAddress := some "https://tracker/1"

/-- A page in an encoding that nobody knows ends a download without a code. -/
theorem download_endings_sample :
    sampleSource.tracker.Answers 0 ∧ FailsWith (sampleSource.download sampleIssue 0).note none := by
  have hanswers : sampleSource.tracker.Answers 0 := fun _ _ _ _ he => nomatch he
  have hgets : sampleSource.Gets sampleIssue 0 sampleLabelled :=
    ⟨"https://tracker/1", rfl, by decide, by rfl⟩
  have hunsupported : Unsupported sampleLabelled (.unknownLabel "nope") :=
    .unknown (by decide +kernel) (by decide +kernel)
  exact ⟨hanswers, (download_endings hanswers sampleIssue).2.2.2.1.2 ⟨_, hgets, _, hunsupported⟩⟩

end Release

end Pamphlet
