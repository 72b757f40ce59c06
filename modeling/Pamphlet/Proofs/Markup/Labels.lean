import Pamphlet.Markup.Document
import Pamphlet.Proofs.Outcome

/-!
# Declared encodings

The bytes of a document are read in the encoding that its declaration names. If there is no table of
characters for the label then reading ends in a failure that is no complaint about the document, and
it does so for no other reason: `parse_eq_error_iff`.
-/

namespace Pamphlet.Markup

/-- A text without the mark at its front. -/
def unmarked (cs : List Char) : List Char :=
  if cs.head? = some byteOrderMark then cs.drop 1 else cs

/-- The label of the encoding that a document declares. -/
def declaredLabel? (bytes : List UInt8) : Option String :=
  match declaration? (unmarked ((sniff bytes).decode bytes)) with
  | none => none
  | some (body, _) =>
    match Declaration.read body with
    | .error _ => none
    | .ok declaration => declaration.encoding.map (·.1)

/-- A document declares an encoding that has no table of one character for each byte. -/
inductive Unsupported (bytes : List UInt8) : Failure → Prop
  | unknown {label : String} (declared : declaredLabel? bytes = some label)
      (meaning : Declared.ofLabel (sniff bytes) label = .unknown) :
        Unsupported bytes (.unknownLabel label)
  | notText {label : String} (declared : declaredLabel? bytes = some label)
      (meaning : Declared.ofLabel (sniff bytes) label = .notText) :
        Unsupported bytes (.notTextLabel label)
  | multiByte {label : String} (declared : declaredLabel? bytes = some label)
      (meaning : Declared.ofLabel (sniff bytes) label = .multiByte) :
        Unsupported bytes .multiByteLabel
  | broken {label : String} {coding : BrokenCoding} (declared : declaredLabel? bytes = some label)
      (meaning : Declared.ofLabel (sniff bytes) label = .broken coding) :
      Unsupported bytes (.brokenLabel coding label)

/-- Where no encoding is declared, none is missing. -/
theorem not_unsupported_of_none {bytes : List UInt8} (h : declaredLabel? bytes = none)
    (failure : Failure) : ¬Unsupported bytes failure := by
  rintro (⟨declared, -⟩ | ⟨declared, -⟩ | ⟨declared, -⟩ | ⟨declared, -⟩)
  all_goals
    rw [h] at declared
    cases declared

/-- Where a label is declared, its meaning decides. -/
theorem unsupported_iff {bytes : List UInt8} {label : String}
    (h : declaredLabel? bytes = some label) (failure : Failure) :
    Unsupported bytes failure ↔
      match Declared.ofLabel (sniff bytes) label with
      | .unknown => failure = .unknownLabel label
      | .notText => failure = .notTextLabel label
      | .multiByte => failure = .multiByteLabel
      | .broken coding => failure = .brokenLabel coding label
      | _ => False := by
  constructor
  · rintro (⟨declared, meaning⟩ | ⟨declared, meaning⟩ | ⟨declared, meaning⟩ | ⟨declared, meaning⟩)
    all_goals
      rw [h] at declared
      cases declared
      rw [meaning]
  · intro hmeaning
    split at hmeaning
    · exact hmeaning ▸ .unknown h ‹_›
    · exact hmeaning ▸ .notText h ‹_›
    · exact hmeaning ▸ .multiByte h ‹_›
    · exact hmeaning ▸ .broken h ‹_›
    · exact hmeaning.elim

theorem declaredLabel?_of_short {bytes : List UInt8} (h : tooShortToTell bytes = true) :
    declaredLabel? bytes = none := by
  have hmem : bytes ∈ ([[0x00], [0xEF], [0xFE], [0xFF], [0xEF, 0xBB]] : List (List UInt8)) :=
    List.contains_iff_mem.1 h
  have hnone : ∀ bytes ∈ ([[0x00], [0xEF], [0xFE], [0xFF], [0xEF, 0xBB]] : List (List UInt8)),
      declaredLabel? bytes = none := by
    decide +kernel
  exact hnone bytes hmem

variable {bytes : List UInt8} {failure : Failure}

/-- Opening a document fails for its label, or for what a complaint tells. -/
theorem opened_eq_error_iff (h : ∀ c, failure ≠ .complaint c) :
    (Source.bytes bytes).opened = .error failure ↔ Unsupported bytes failure := by
  have hcomplaint (c : Complaint) :
      (.error (.complaint c) : Except Failure Opened) ≠ .error failure :=
    fun he => h c (Except.error.inj he).symm
  unfold Source.opened
  generalize hbytes : (Source.bytes bytes).toBytes = bytes'
  obtain rfl : bytes = bytes' := hbytes
  cases hshort : tooShortToTell bytes with
  | true =>
    refine iff_of_false ?_ (not_unsupported_of_none (declaredLabel?_of_short hshort) failure)
    simp only [hshort, if_true]
    exact hcomplaint _
  | false =>
    simp only [hshort, Bool.false_eq_true, if_false, ← unmarked.eq_1]
    cases hdeclaration : declaration? (unmarked ((sniff bytes).decode bytes)) with
    | none =>
      refine iff_of_false ?_
        (not_unsupported_of_none (by rw [declaredLabel?, hdeclaration]) failure)
      exact fun he => nomatch he
    | some found =>
      obtain ⟨body, rest⟩ := found
      simp only
      cases hread : Declaration.read body with
      | error left =>
        refine iff_of_false (hcomplaint _) (not_unsupported_of_none ?_ failure)
        simp only [declaredLabel?, hdeclaration, hread]
      | ok declaration =>
        have hdeclared : declaredLabel? bytes = declaration.encoding.map (·.1) := by
          simp only [declaredLabel?, hdeclaration, hread]
        simp only
        cases hencoding : declaration.encoding with
        | none =>
          rw [hencoding] at hdeclared
          exact iff_of_false (fun he => nomatch he) (not_unsupported_of_none hdeclared failure)
        | some encoding =>
          obtain ⟨label, left⟩ := encoding
          rw [hencoding] at hdeclared
          rw [unsupported_iff hdeclared]
          simp only
          cases Declared.ofLabel (sniff bytes) label with
          | encoding e => exact iff_of_false (fun he => nomatch he) id
          | incorrect | incompatible => exact iff_of_false (hcomplaint _) id
          | unknown | notText | multiByte | broken =>
            exact ⟨fun he => (Except.error.inj he).symm, fun he => he ▸ rfl⟩

/-- **A document fails to be read for another reason than a complaint** exactly if it declares an
encoding that has no table of characters. -/
theorem parse_eq_error_iff {notes : Bool} (h : ∀ c, failure ≠ .complaint c) :
    parse (.bytes bytes) notes = .error failure ↔ Unsupported bytes failure := by
  rw [← opened_eq_error_iff h]
  unfold parse
  cases hopened : (Source.bytes bytes).opened with
  | error failure' =>
    exact ⟨fun he => by cases he; rfl, fun he => by cases he; rfl⟩
  | ok o =>
    refine iff_of_false ?_ fun he => nomatch he
    rw [ok_bind]
    split
    · exact fun he => nomatch he
    · exact fun he => h _ (Except.error.inj he).symm

/-- An encoding that cannot be read is not a complaint about the document. -/
theorem Unsupported.ne_complaint (h : Unsupported bytes failure) (c : Complaint) :
    failure ≠ .complaint c := by
  rintro rfl
  cases h

/-- Bytes are a document, or there is a complaint about them, or their encoding cannot be read. -/
theorem parse_kinds (bytes : List UInt8) (notes : Bool) :
    (∃ root, parse (.bytes bytes) notes = .ok root) ∨
    (∃ c, parse (.bytes bytes) notes = .error (.complaint c)) ∨
      ∃ failure, Unsupported bytes failure := by
  cases hparse : parse (.bytes bytes) notes with
  | ok root => exact .inl ⟨root, rfl⟩
  | error failure =>
    by_cases hcomplaint : ∃ c, failure = .complaint c
    · obtain ⟨c, rfl⟩ := hcomplaint
      exact .inr (.inl ⟨c, rfl⟩)
    · exact .inr (.inr ⟨failure, (parse_eq_error_iff fun c hc => hcomplaint ⟨c, hc⟩).1 hparse⟩)

end Pamphlet.Markup
