/-!
# Topics

What a release summary tells. Each topic has a tag, by which a summary document names it, and a
field name; some topics are fragments of markup and the others are plain text.
-/

namespace Pamphlet.Release

inductive Topic
  | releaseId
  | previousReleaseId
  | branch
  | overview
  | newFeatures
  | releaseVerification
  | machine
  | antVersion
  | jdk14
  | java6
  | compilers
  | jsr169
  | osgi
  deriving DecidableEq, Repr

namespace Topic

/-- All topics, in the order in which problems with them are reported. -/
def all : List Topic :=
  [.releaseId, .previousReleaseId, .branch, .overview, .newFeatures, .releaseVerification, .machine,
    .antVersion, .jdk14, .java6, .compilers, .jsr169, .osgi]

theorem mem_all (t : Topic) : t ∈ all := by
  cases t <;> decide

def tag : Topic → String
  | .releaseId => "releaseID"
  | .previousReleaseId => "previousReleaseID"
  | .branch => "branch"
  | .overview => "overview"
  | .newFeatures => "newFeatures"
  | .releaseVerification => "releaseVerification"
  | .machine => "machine"
  | .antVersion => "antVersion"
  | .jdk14 => "jdk1.4"
  | .java6 => "java6"
  | .compilers => "compilers"
  | .jsr169 => "jsr169"
  | .osgi => "osgi"

def field : Topic → String
  | .releaseId => "release_id"
  | .previousReleaseId => "previous_release_id"
  | .branch => "branch"
  | .overview => "overview"
  | .newFeatures => "new_features"
  | .releaseVerification => "release_verification"
  | .machine => "machine"
  | .antVersion => "ant_version"
  | .jdk14 => "jdk14"
  | .java6 => "java6"
  | .compilers => "compilers"
  | .jsr169 => "jsr169"
  | .osgi => "osgi"

def isFragment (t : Topic) : Bool :=
  t = .overview || t = .newFeatures || t = .releaseVerification

/-- Topics without which there is no summary. -/
def isRequired (t : Topic) : Bool :=
  t = .releaseId || t = .previousReleaseId

theorem field_injective {s t : Topic} (h : s.field = t.field) : s = t := by
  cases s <;> cases t <;> first | rfl | (revert h; decide)

theorem tag_injective {s t : Topic} (h : s.tag = t.tag) : s = t := by
  cases s <;> cases t <;> first | rfl | (revert h; decide)

end Topic

end Pamphlet.Release
