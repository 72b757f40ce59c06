import Pamphlet.Proofs.Markup.Document
import Pamphlet.Proofs.Markup.Place
import Pamphlet.Proofs.Markup.Plain

/-!
# What plain trees keep

A plain tree has the shape and the texts of the tree that it comes from, and its tags are the local
names of the tags there (`plain_stripped`). Attributes are renamed one by one in the list that is
being rewritten. In the end those without a namespace stand as they stood, and the others have been
set one after the other by their local names (`Attributes.plain_eq_setAll`). So an attribute of a
namespace takes the value of the one that is written without a prefix and has its local name, and of
several such attributes the last one is kept (`Attributes.get?_plain`).
-/

namespace Pamphlet.Markup

/-! ## Attributes -/

namespace Attributes

/-- Attributes set one after the other. -/
def setAll (attributes more : Attributes) : Attributes :=
  more.foldl (fun attributes a => attributes.set a.1 a.2) attributes

/-- The attributes without a namespace. -/
def bare (attributes : Attributes) : Attributes :=
  attributes.filter fun a => !isFullName a.1

/-- The attributes with a namespace, by their full names. -/
def full (attributes : Attributes) : Attributes :=
  attributes.filter fun a => isFullName a.1

/-- The attributes with a namespace, by their local names. -/
def cut (attributes : Attributes) : Attributes :=
  attributes.full.map fun a => (localPart a.1, a.2)

/-- The values of the attributes with a namespace and a local name, in their order. -/
def prefixed (attributes : Attributes) (name : String) : List String :=
  (attributes.cut.filter fun a => a.1 = name).map (·.2)

/-- Attributes of different names that have local names. -/
structure Separate (attributes : Attributes) : Prop where
  distinct : (attributes.map (·.1)).Nodup
  parts : ∀ a ∈ attributes, isFullName a.1 = true → isFullName (localPart a.1) = false

variable {attributes : Attributes} {name : String}

theorem get?_cons (a : String × String) (attributes : Attributes) (name : String) :
    get? (a :: attributes) name = if a.1 = name then some a.2 else get? attributes name := by
  unfold get?
  rw [List.lookup_cons]
  by_cases h : a.1 = name
  · simp [h]
  · have hne : (name == a.1) = false := by simpa using Ne.symm h
    rw [if_neg h, hne]

/-- An attribute that has been set has its new value, and the others have theirs. -/
theorem get?_set (attributes : Attributes) (name value other : String) :
    (attributes.set name value).get? other =
      if name = other then some value else attributes.get? other := by
  induction attributes with
  | nil => simp [set, get?_cons]
  | cons a rest ih =>
    rw [set]
    by_cases h : a.1 = name
    · rw [if_pos h, get?_cons, get?_cons, h]
      split <;> rfl
    · rw [if_neg h, get?_cons, get?_cons, ih]
      by_cases hother : a.1 = other
      · have hne : name ≠ other := fun he => h (hother.trans he.symm)
        simp [hother, hne]
      · simp [hother]

/-- Where names are different, each attribute is found under its own. -/
theorem get?_of_mem (h : (attributes.map (·.1)).Nodup) {a : String × String} (ha : a ∈ attributes) :
    attributes.get? a.1 = some a.2 := by
  induction attributes with
  | nil => cases ha
  | cons b rest ih =>
    obtain ⟨hb, hrest⟩ := List.nodup_cons.1 h
    rw [get?_cons]
    rcases List.mem_cons.1 ha with rfl | ha
    · rw [if_pos rfl]
    · have hne : b.1 ≠ a.1 := fun he => hb (List.mem_map.2 ⟨a, ha, he.symm⟩)
      rw [if_neg hne, ih hrest ha]

/-- Of the attributes set under one name the last one counts. -/
theorem get?_setAll (attributes more : Attributes) (name : String) :
    (attributes.setAll more).get? name =
      ((more.filter fun a => a.1 = name).map (·.2)).getLast?.or (attributes.get? name) := by
  induction more generalizing attributes with
  | nil => rfl
  | cons a rest ih =>
    have hstep : attributes.setAll (a :: rest) = (attributes.set a.1 a.2).setAll rest := rfl
    rw [hstep, ih, get?_set]
    by_cases h : a.1 = name
    · rw [if_pos h, List.filter_cons_of_pos (by simpa using h), List.map_cons, List.getLast?_cons]
      cases ((rest.filter fun a => a.1 = name).map (·.2)).getLast? <;> rfl
    · rw [if_neg h, List.filter_cons_of_neg (by simpa using h)]

/-! ### Setting an attribute without a namespace -/

/-- Setting a name without a namespace sets it among those. -/
theorem bare_set (h : isFullName name = false) (attributes : Attributes) (value : String) :
    (attributes.set name value).bare = attributes.bare.set name value := by
  unfold bare
  induction attributes with
  | nil => simp [set, h]
  | cons a rest ih =>
    rw [set]
    by_cases ha : a.1 = name
    · simp [ha, h, set]
    · rw [if_neg ha, List.filter_cons, List.filter_cons, ih]
      split
      · rw [set, if_neg ha]
      · rfl

/-- It leaves those with a namespace alone. -/
theorem full_set (h : isFullName name = false) (attributes : Attributes) (value : String) :
    (attributes.set name value).full = attributes.full := by
  unfold full
  induction attributes with
  | nil => simp [set, h]
  | cons a rest ih =>
    rw [set]
    by_cases ha : a.1 = name
    · simp [ha, h]
    · rw [if_neg ha, List.filter_cons, List.filter_cons, ih]

theorem bare_erase (h : isFullName name = true) (attributes : Attributes) :
    (attributes.erase name).bare = attributes.bare := by
  unfold bare erase
  rw [List.filter_filter]
  refine List.filter_congr fun a _ => ?_
  by_cases ha : a.1 = name
  · simp [ha, h]
  · simp [ha]

/-- The first attribute with a namespace is the one that is renamed first. -/
theorem full_erase {value : String} {rest : Attributes} (hdistinct : (attributes.map (·.1)).Nodup)
    (h : attributes.full = (name, value) :: rest) : (attributes.erase name).full = rest := by
  have hkeys : ((name, value) :: rest).map (·.1) = attributes.full.map (·.1) := by rw [h]
  have hnodup : (((name, value) :: rest).map (·.1)).Nodup :=
    hkeys ▸ (List.filter_sublist.map _).nodup hdistinct
  obtain ⟨hname, -⟩ := List.nodup_cons.1 hnodup
  have hswap : (attributes.erase name).full = attributes.full.erase name := by
    unfold full erase
    rw [List.filter_filter, List.filter_filter]
    exact List.filter_congr fun a _ => Bool.and_comm _ _
  rw [hswap, h, erase, List.filter_cons_of_neg (by simp)]
  refine List.filter_eq_self.2 fun a ha => ?_
  have hne : a.1 ≠ name := fun he => hname (List.mem_map.2 ⟨a, ha, he⟩)
  simpa using hne

/-! ### Plain attributes -/

/-- Cutting one name to its local part keeps names apart. -/
theorem Separate.makePlain (h : attributes.Separate) (hname : isFullName (localPart name) = false) :
    (attributes.makePlain name).Separate := by
  unfold Attributes.makePlain
  split
  · exact h
  · refine ⟨nodup_set ((List.filter_sublist.map _).nodup h.distinct) _ _, fun a ha hfull => ?_⟩
    rcases mem_set ha with rfl | ha
    · rw [hname] at hfull
      cases hfull
    · exact h.parts a (List.mem_of_mem_filter ha) hfull

/-- **Plain attributes** are those without a namespace, among which the others have been set by
their local names. -/
theorem plain_eq_setAll (h : attributes.Separate) :
    attributes.plain = attributes.bare.setAll attributes.cut := by
  unfold plain
  rw [List.filter_map]
  -- the induction is on the names that are still to be cut
  generalize hnames : attributes.filter (isFullName ∘ (·.1)) = names
  induction names generalizing attributes with
  | nil =>
    have hfull : attributes.full = [] := hnames
    have hbare : attributes.bare = attributes := by
      refine List.filter_eq_self.2 fun a ha => ?_
      simpa using List.filter_eq_nil_iff.1 hfull a ha
    rw [cut, hfull, hbare]
    rfl
  | cons a names ih =>
    obtain ⟨name, value⟩ := a
    have hfull : attributes.full = (name, value) :: names := hnames
    have hmem : (name, value) ∈ attributes.full := hfull ▸ List.mem_cons_self
    have ha : (name, value) ∈ attributes := (List.mem_filter.1 hmem).1
    have hname : isFullName name = true := (List.mem_filter.1 hmem).2
    have hpart : isFullName (localPart name) = false := h.parts (name, value) ha hname
    have hstep :
        attributes.makePlain name = (attributes.erase name).set (localPart name) value := by
      rw [Attributes.makePlain, get?_of_mem h.distinct ha]
    have hrest : (attributes.makePlain name).full = names := by
      rw [hstep, full_set hpart, full_erase h.distinct hfull]
    rw [List.map_cons, List.foldl_cons, ih (h.makePlain hpart) hrest, cut, hrest, hstep,
      bare_set hpart, bare_erase hname, cut, hfull]
    rfl

theorem get?_bare (h : isFullName name = false) :
    attributes.bare.get? name = attributes.get? name := by
  unfold bare
  induction attributes with
  | nil => rfl
  | cons a rest ih =>
    rw [List.filter_cons, get?_cons]
    split
    · rw [get?_cons, ih]
    · rename_i hfull
      have hne : a.1 ≠ name := by
        rintro rfl
        simp [h] at hfull
      rw [ih, if_neg hne]

/-- **Which value a plain attribute has**: that of the last attribute of a namespace with its local
name, or else its own. -/
theorem get?_plain (h : attributes.Separate) (hname : isFullName name = false) :
    attributes.plain.get? name = (attributes.prefixed name).getLast?.or (attributes.get? name) := by
  rw [plain_eq_setAll h, get?_setAll, get?_bare hname]
  rfl

/-- What is there after setting some attributes was set or was there before. -/
theorem mem_setAll {more : Attributes} {a : String × String} (h : a ∈ attributes.setAll more) :
    a ∈ more ∨ a ∈ attributes := by
  induction more generalizing attributes with
  | nil => exact .inr h
  | cons b rest ih =>
    rcases ih h with hrest | hset
    · exact .inl (List.mem_cons_of_mem b hrest)
    · rcases mem_set hset with rfl | ha
      · exact .inl List.mem_cons_self
      · exact .inr ha

/-- Plain attributes have no namespaces. -/
theorem not_isFullName_of_mem_plain (h : attributes.Separate) {a : String × String}
    (ha : a ∈ attributes.plain) : isFullName a.1 = false := by
  rw [plain_eq_setAll h] at ha
  rcases mem_setAll ha with ha | ha
  · obtain ⟨b, hb, rfl⟩ := List.mem_map.1 ha
    obtain ⟨hb, hfull⟩ := List.mem_filter.1 hb
    exact h.parts b hb hfull
  · simpa using (List.mem_filter.1 ha).2

/-- The values that a name has got from namespaces. -/
theorem mem_prefixed_iff {value : String} :
    value ∈ attributes.prefixed name ↔
      ∃ a ∈ attributes, isFullName a.1 = true ∧ localPart a.1 = name ∧ a.2 = value := by
  unfold prefixed cut full
  simp only [List.mem_map, List.mem_filter, decide_eq_true_eq]
  constructor
  · rintro ⟨_, ⟨⟨a, ⟨ha, hfull⟩, rfl⟩, hname⟩, rfl⟩
    exact ⟨a, ha, hfull, hname, rfl⟩
  · rintro ⟨a, ha, hfull, hname, rfl⟩
    exact ⟨_, ⟨⟨a, ⟨ha, hfull⟩, rfl⟩, hname⟩, rfl⟩

end Attributes

/-! ## Names -/

/-- A name and its local name, which is the name itself if there is no namespace. -/
inductive HasLocal : String → String → Prop
  | bare {name : String} (h : isFullName name = false) : HasLocal name name
  | full {uri part : String} (huri : '\x7d' ∉ uri.toList) (hpart : isFullName part = false) :
    HasLocal (fullName uri part) part

theorem HasLocal.eq_localPart {name part : String} (h : HasLocal name part)
    (hfull : isFullName name = true) : part = localPart name := by
  cases h with
  | bare hbare =>
    rw [hbare] at hfull
    cases hfull
  | full huri => exact (localPart_fullName huri).symm

theorem HasLocal.not_isFullName {name part : String} (h : HasLocal name part) :
    isFullName part = false := by
  cases h with
  | bare hbare => exact hbare
  | full _ hpart => exact hpart

/-- Every expanded name has a local part. -/
theorem IsExpanded.hasLocal {isPart : List Char → Prop} (hpart : ∀ cs, isPart cs → IsNamePart cs)
    {name : String} (h : IsExpanded isPart name) : ∃ part, HasLocal name part := by
  rcases h with h | ⟨uri, part, huri, h, rfl⟩
  · exact ⟨name, .bare (hpart _ h).not_isFullName⟩
  · exact ⟨part, .full huri (hpart _ h).not_isFullName⟩

/-! ## Trees -/

namespace Element

/-- An element of a document and what it is without namespaces. -/
structure Stripped (e p : Element) : Prop where
  text : p.text = e.text
  tail : p.tail = e.tail
  tag : ∃ name part, e.label = .tag name ∧ HasLocal name part ∧ p.label = .tag part
  names : ∀ a ∈ e.attributes, ∃ part, HasLocal a.1 part
  plainTag : ∀ name, p.label = .tag name → isFullName name = false
  plainNames : ∀ a ∈ p.attributes, isFullName a.1 = false
  /-- The last attribute of a namespace counts more than the one without a prefix. -/
  value : ∀ name, isFullName name = false →
    p.attributes.get? name = (e.attributes.prefixed name).getLast?.or (e.attributes.get? name)
  /-- An attribute without a prefix loses its value to an attribute of a namespace, and to nothing
  else. -/
  unprefixed : ∀ a ∈ e.attributes, isFullName a.1 = false →
    (p.attributes.get? a.1 = some a.2 ↔ ∀ value ∈ (e.attributes.prefixed a.1).getLast?, value = a.2)
  /-- An attribute keeps its value under its local name if no other one of the element has this
  local name. -/
  lone : ∀ a ∈ e.attributes, ∀ part, HasLocal a.1 part →
    (∀ b ∈ e.attributes, HasLocal b.1 part → b = a) → p.attributes.get? part = some a.2

section

variable {e : Element} (h : e.FormedHere (IsExpanded IsNameText) (IsExpanded IsNamePart))

include h

theorem FormedHere.hasLocal {a : String × String} (ha : a ∈ e.attributes) :
    ∃ part, HasLocal a.1 part :=
  (h.attributes a ha).1.hasLocal fun _ h => h

theorem FormedHere.separate : e.attributes.Separate where
  distinct := h.distinct
  parts := by
    intro a ha hfull
    obtain ⟨part, hlocal⟩ := h.hasLocal ha
    rw [← hlocal.eq_localPart hfull]
    exact hlocal.not_isFullName

/-- A plain attribute has the value of the last one with a namespace, or else its own. -/
theorem FormedHere.value_plain {name : String} (hname : isFullName name = false) :
    e.plain.attributes.get? name =
    (e.attributes.prefixed name).getLast?.or (e.attributes.get? name) := by
  rw [plain_eq]
  exact Attributes.get?_plain h.separate hname

/-- An attribute without a namespace keeps its value exactly if no other one is cut to its name, or
the last such has the same value. -/
theorem FormedHere.unprefixed_plain {a : String × String} (ha : a ∈ e.attributes)
    (hbare : isFullName a.1 = false) :
    e.plain.attributes.get? a.1 = some a.2 ↔ ∀ value ∈ (e.attributes.prefixed a.1).getLast?,
    value = a.2 := by
  rw [h.value_plain hbare, Attributes.get?_of_mem h.distinct ha]
  cases (e.attributes.prefixed a.1).getLast? with
  | none => simp
  | some value => simp

/-- The only attribute with some local name keeps its value. -/
theorem FormedHere.lone_plain {a : String × String} (ha : a ∈ e.attributes) {part : String}
    (hlocal : HasLocal a.1 part) (hlone : ∀ b ∈ e.attributes, HasLocal b.1 part → b = a) :
    e.plain.attributes.get? part = some a.2 := by
  -- an attribute of a namespace with this local name is the one that is alone with it
  have hprefixed : ∀ value ∈ e.attributes.prefixed part, value = a.2 ∧ isFullName a.1 = true := by
    intro value hvalue
    obtain ⟨b, hb, hfull, hpart, rfl⟩ := Attributes.mem_prefixed_iff.1 hvalue
    obtain ⟨part', hlocal'⟩ := h.hasLocal hb
    have hsame : part' = part := (hlocal'.eq_localPart hfull).trans hpart
    have hba : b = a := hlone b hb (hsame ▸ hlocal')
    exact ⟨congrArg Prod.snd hba, hba ▸ hfull⟩
  rw [h.value_plain hlocal.not_isFullName]
  cases hlast : (e.attributes.prefixed part).getLast? with
  | some value =>
    obtain ⟨rfl, -⟩ := hprefixed value (List.mem_of_getLast? hlast)
    rfl
  | none =>
    have hnone : e.attributes.prefixed part = [] := List.getLast?_eq_none_iff.1 hlast
    generalize hfull : a.1 = name at hlocal
    cases hlocal with
    | bare _ =>
      rw [← hfull]
      exact Attributes.get?_of_mem h.distinct ha
    | @full uri _ huri hpart =>
      have hmem : a.2 ∈ e.attributes.prefixed part := by
        refine Attributes.mem_prefixed_iff.2 ⟨a, ha, ?_, ?_, rfl⟩
        · rw [hfull, isFullName_fullName]
        · rw [hfull, localPart_fullName huri]
      rw [hnone] at hmem
      cases hmem

theorem FormedHere.stripped : Stripped e e.plain where
  text := by
    rw [plain_eq]
    rfl
  tail := by
    rw [plain_eq]
    rfl
  tag := by
    obtain ⟨name, hlabel, hname⟩ := h.tag
    obtain ⟨part, hlocal⟩ := hname.hasLocal fun _ h => h.part
    refine ⟨name, part, hlabel, hlocal, ?_⟩
    rw [plain_eq, plainHere]
    simp only [hlabel]
    split
    · rename_i hfull
      rw [hlocal.eq_localPart hfull]
    · rename_i hbare
      cases hlocal with
      | bare _ => rfl
      | full _ _ => exact absurd (isFullName_fullName _ _) hbare
  names _ ha := h.hasLocal ha
  plainTag := by
    intro name hname
    obtain ⟨name', hlabel, hplain⟩ := h.plain.tag
    rw [plain_eq, hlabel] at hname
    cases hname
    exact hplain.part.not_isFullName
  plainNames := by
    rw [plain_eq]
    exact fun a ha => Attributes.not_isFullName_of_mem_plain h.separate ha
  value _ hname := h.value_plain hname
  unprefixed _ ha hbare := h.unprefixed_plain ha hbare
  lone _ ha _ hlocal hlone := h.lone_plain ha hlocal hlone

end

/-- **What is left of a document without its namespaces**: every element at its place, with its
texts and the local name of its tag. Its attributes have their local names. One of a namespace has
its value there if no other attribute has that local name, and one without a prefix has its own
unless the last attribute of a namespace with that local name has another. -/
theorem plain_stripped {source : Source} {e : Element} (h : parse source false = .ok e) :
    (∀ path, e.plain.descendant? path = (e.descendant? path).map plain) ∧
    ∀ c ∈ e.descendants, Stripped c c.plain :=
  ⟨descendant?_mapAll plainHere (fun _ => rfl) e, fun c hc => ((parse_formed h).1 c hc).stripped⟩

/-! ### A sample -/

def aliasedDocument : String :=
  "<p xmlns:x=\"u\" x:a=\"1\" a=\"2\" x:b=\"3\"/>"

def aliasedRoot : Element :=
  { label := .tag "p", attributes := [("\x7bu\x7da", "1"), ("a", "2"), ("\x7bu\x7db", "3")] }

/-- Two attributes of one local name: the one with a namespace stays. -/
theorem plain_stripped_aliased :
    parse (.text aliasedDocument) false = .ok aliasedRoot ∧ Stripped aliasedRoot aliasedRoot.plain ∧
      aliasedRoot.plain.attributes.get? "a" = some "1" ∧
      aliasedRoot.plain.attributes.get? "b" = some "3" := by
  have hparse : parse (.text aliasedDocument) false = .ok aliasedRoot := by rfl
  have hstripped :=
    (plain_stripped hparse).2 aliasedRoot (by rw [descendants_eq]; exact List.mem_cons_self)
  refine ⟨hparse, hstripped, ?_, ?_⟩
  · rw [hstripped.value "a" (by decide)]
    decide
  · rw [hstripped.value "b" (by decide)]
    decide

end Element

end Pamphlet.Markup
