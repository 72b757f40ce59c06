/-!
# Data

Values of unknown shape: what a record is read from and what it is written to. A record is a list of
named data in the order in which the names were first set.
-/

namespace Pamphlet.Record

inductive Datum
  | null
  | flag (value : Bool)
  | number (digits : Int) (places : Nat)
  | text (s : String)
  | list (items : List Datum)
  | record (fields : List (String × Datum))

instance : Inhabited Datum := ⟨.null⟩

abbrev Fields := List (String × Datum)

/-- Nothing, no, zero, and what has no parts. -/
def Datum.isEmpty : Datum → Bool
  | .null => true
  | .flag value => !value
  | .number digits _ => digits == 0
  | .text s => s == ""
  | .list items => items.isEmpty
  | .record fields => fields.isEmpty

def Datum.texts (ss : List String) : Datum :=
  .list (ss.map .text)

namespace Fields

def get? (fields : Fields) (name : String) : Option Datum :=
  fields.lookup name

/-- Gives a name a value, in its old place if it has one. -/
def set : Fields → String → Datum → Fields
  | [], name, value => [(name, value)]
  | (name', value') :: rest, name, value =>
    if name' = name then (name, value) :: rest else (name', value') :: set rest name value

theorem get?_set (fields : Fields) (name other : String) (value : Datum) :
    (fields.set name value).get? other =
      if other = name then some value else fields.get? other := by
  have differ {a b : String} (h : ¬a = b) : (a == b) = false := by simpa using h
  induction fields with
  | nil =>
    by_cases h : other = name
    · simp [set, get?, h]
    · simp [set, get?, List.lookup_cons, differ h, h]
  | cons field rest ih =>
    obtain ⟨name', value'⟩ := field
    simp only [get?] at ih ⊢
    by_cases h : name' = name
    · subst h
      by_cases ho : other = name'
      · simp [set, ho]
      · simp [set, List.lookup_cons, differ ho, ho]
    · simp only [set, if_neg h, List.lookup_cons]
      by_cases ho : other = name'
      · simp [ho, h]
      · rw [differ ho]
        exact ih

end Fields

end Pamphlet.Record
