import Pamphlet.Release.Download

/-!
# Downloads at one time

A pool holds the downloads of a list of issues: those that wait, those in flight, and those that are
done. Waiting downloads start in their order whenever there is room; those in flight end in any
order, which a list of picks chooses. Outcomes are listed in the order of the issues, whatever the
order in which the downloads end.
-/

namespace Pamphlet.Release

/-- A download that has been started; `place` is that of its issue in the list. -/
structure Flight where
  place : Nat
  issue : Issue
  download : Download

structure Pool where
  capacity : Nat
  waiting : List (Nat × Issue)
  flying : List Flight := []
  /-- The downloads that are done, the first to end first. -/
  done : List Flight := []
  /-- The addresses asked for, in order. -/
  asked : List String := []

namespace Pool

/-- At least one download may be in flight. -/
def capacityFor (requested : Int) : Nat :=
  (max requested 1).toNat

theorem capacityFor_pos (requested : Int) : 0 < capacityFor requested := by
  unfold capacityFor; omega

def ofIssues (capacity : Nat) (issues : List Issue) : Pool where
  capacity
  waiting := (List.range issues.length).zip issues

def depart (source : Source) (w : Nat × Issue) : Flight :=
  ⟨w.1, w.2, source.download w.2 w.1⟩

/-- Starts as many downloads as there is room for. -/
def fill (source : Source) (p : Pool) : Pool :=
  let started := (p.waiting.take (p.capacity - p.flying.length)).map (depart source)
  { p with
    waiting := p.waiting.drop (p.capacity - p.flying.length)
    flying := p.flying ++ started
    asked := p.asked ++ started.flatMap (·.download.asked) }

/-- Ends a download in flight. -/
def land (pick : Nat) (p : Pool) : Pool :=
  let index := pick % p.flying.length
  { p with
    flying := p.flying.eraseIdx index
    done := p.done ++ p.flying[index]?.toList }

/-- Starts and ends downloads, at most `count` of them. -/
def run (source : Source) : Nat → List Nat → Pool → Pool
  | 0, _, p => p
  | count + 1, picks, p => run source count (picks.drop 1) ((p.fill source).land (picks.headD 0))

end Pool

def Flight.outcome (lead : String) (f : Flight) : Outcome :=
  match f.download.note with
  | .ok note => ⟨f.issue, some note, none⟩
  | .error fault => ⟨f.issue, none, some (.ofFault (unreadable lead f.issue) fault)⟩

/-- What the downloads that are done gave, in the order of the first `count` places. -/
def Pool.outcomes (lead : String) (count : Nat) (p : Pool) : List Outcome :=
  (List.range count).filterMap fun n => (p.done.find? (·.place == n)).map (·.outcome lead)

/-- What fetching several notes gave: the outcomes in the order of the issues, the addresses asked
for, and the incidents in the order in which they came about. -/
structure Fetching where
  outcomes : List Outcome := []
  asked : List String := []
  incidents : List Incident := []

/-- Fetches the notes of all issues that have one. -/
def Source.fetchAll (source : Source) (requested : Int) (picks : List Nat) (issues : List Issue) :
    Fetching :=
  let noted := issues.filter Issue.hasNote
  let p := (Pool.ofIssues (Pool.capacityFor requested) noted).run source noted.length picks
  { outcomes := p.outcomes source.lead noted.length
    asked := p.asked
    incidents := p.done.filterMap fun f => (f.outcome source.lead).incident }

end Pamphlet.Release
