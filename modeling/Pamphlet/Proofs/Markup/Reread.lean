import Pamphlet.Proofs.Markup.Namespace
import Pamphlet.Proofs.Markup.Print

/-!
# Written trees are read back

A tree without namespaces is written by `Element.printWith` and read again: the same tags,
attributes and children come back, and texts come back with their line ends joined, since text is
written with the line ends that it has. Reading is followed from one state to a later one (`Reads`),
so that a tree is read child by child.
-/

namespace Pamphlet.Markup

/-! ## Reading on -/

/-- Where reading is: the open elements and the text that is left. -/
structure Reader where
  frame : Frame
  outer : List Frame
  left : List Char

/-- What is read from a place on, without a document type; `count` bounds the tokens. -/
def Reader.result (ending : List Char) (count : Nat) (r : Reader) :
    Except Breach (Element × List Char) :=
  nest false ending r.frame r.outer
    (eventsOf {} [] none (entityEvents {} 1 []) (tokensUpTo count r.left))

/-- Reading from one place comes to another. -/
def Reads (r r' : Reader) : Prop :=
  ∀ ending count, r.left.length ≤ count →
    ∃ count', r'.left.length ≤ count' ∧ r.result ending count = r'.result ending count'

theorem Reads.refl (r : Reader) : Reads r r :=
  fun _ count h => ⟨count, h, rfl⟩

theorem Reads.trans {r r' r'' : Reader} (h : Reads r r') (h' : Reads r' r'') : Reads r r'' := by
  intro ending count hcount
  obtain ⟨count', hcount', he⟩ := h ending count hcount
  obtain ⟨count'', hcount'', he'⟩ := h' ending count' hcount'
  exact ⟨count'', hcount'', he.trans he'⟩

theorem tokensUpTo_token {s rest : List Char} {t : Token} (ht : token s = .ok (t, rest))
    (hlength : rest.length < s.length) {count : Nat} (hcount : s.length ≤ count) :
    ∃ count', rest.length ≤ count' ∧
    tokensUpTo count s = .token t s rest :: tokensUpTo count' rest := by
  obtain ⟨c, cs, rfl⟩ : ∃ c cs, s = c :: cs := by
    cases s with
    | nil => simp at hlength
    | cons c cs => exact ⟨c, cs, rfl⟩
  cases count with
  | zero => simp at hcount
  | succ count =>
    refine ⟨count, ?_, ?_⟩
    · simp only [List.length_cons] at hlength hcount
      omega
    · rw [tokensUpTo, ht]
      exact fun h => List.cons_ne_nil c cs h

/-- A token is read, and nesting goes on with the events of the rest. -/
theorem reads_token {f f' : Frame} {outer outer' : List Frame} {s rest : List Char} {t : Token}
    (ht : token s = .ok (t, rest)) (hlength : rest.length < s.length)
    (hnest : ∀ ending lexemes, nest false ending f outer
        (eventsOf {} [] none (entityEvents {} 1 []) (.token t s rest :: lexemes)) =
      nest false ending f' outer' (eventsOf {} [] none (entityEvents {} 1 []) lexemes)) :
    Reads ⟨f, outer, s⟩ ⟨f', outer', rest⟩ := by
  intro ending count hcount
  obtain ⟨count', hcount', htokens⟩ := tokensUpTo_token ht hlength hcount
  refine ⟨count', hcount', ?_⟩
  unfold Reader.result
  simp only [htokens]
  exact hnest ending _

/-! ## Text -/

/-- The frame with more items. -/
def Frame.gather (f : Frame) (items : List Item) : Frame :=
  { f with items := items.reverse ++ f.items }

theorem Frame.gather_gather (f : Frame) (items more : List Item) :
    (f.gather items).gather more = f.gather (items ++ more) := by
  unfold Frame.gather
  rw [List.reverse_append, List.append_assoc]

theorem Frame.gather_cons (f : Frame) (item : Item) (items : List Item) :
    f.gather (item :: items) = (f.gather [item]).gather items :=
  (f.gather_gather [item] items).symm

/-- Items that do not begin with a run. -/
def BeginsNoRun (items : List Item) : Prop :=
  ∀ s, items.head? ≠ some (.run s)

/-- Runs that are put together to one text, if anything but a run follows. -/
def Spells (items : List Item) (text : Option String) : Prop :=
  ∀ more, BeginsNoRun more →
    Element.assemble (items ++ more) = (text, (Element.assemble more).2)

theorem assemble_of_beginsNoRun {items : List Item} (h : BeginsNoRun items) :
    (Element.assemble items).1 = none := by
  cases items with
  | nil => rfl
  | cons item items =>
    cases item with
    | run s => exact absurd rfl (h s)
    | node e => rfl

theorem spells_nil : Spells [] none := by
  intro more hmore
  rw [List.nil_append]
  exact Prod.ext (assemble_of_beginsNoRun hmore) rfl

theorem Spells.run {items : List Item} {text : Option String} (h : Spells items text) (s : String) :
    Spells (.run s :: items) (some (s ++ text.getD "")) := by
  intro more hmore
  rw [List.cons_append, Element.assemble, h more hmore]

theorem isPlain_of_textChar {c : Char} (hc : isXmlChar c = true) (h : textChar c = [c]) :
    IsPlain c := by
  refine ⟨hc, ?_, ?_, ?_⟩
  · rintro rfl
    exact absurd h (by decide)
  · rintro rfl
    exact absurd h (by decide)
  · rintro rfl
    exact absurd h (by decide)

section

variable {f : Frame} {outer : List Frame} {rest : List Char}

theorem reads_data {cs : List Char} (hne : cs ≠ []) (hcs : ∀ c ∈ cs, IsPlain c) {x : Char}
    (hx : x = '<' ∨ x = '&') :
    Reads ⟨f, outer, cs ++ x :: rest⟩
      ⟨f.gather [.run (String.ofList (normalizeLines cs))], outer, x :: rest⟩ := by
  have hempty : (normalizeLines cs).isEmpty = false :=
    List.isEmpty_eq_false_iff.2 (normalizeLines_ne_nil hne)
  have hlength : 0 < cs.length := List.length_pos_iff.2 hne
  refine reads_token (token_data hne hcs hx rest) ?_ ?_
  · simp only [List.length_append, List.length_cons]
    omega
  · intro ending lexemes
    simp only [eventsOf, Option.isSome_none, Bool.false_eq_true, if_false, nest, hempty]
    rfl

theorem reads_textChar {c : Char} (hc : textChar c ≠ [c]) :
    Reads ⟨f, outer, textChar c ++ rest⟩ ⟨f.gather [.run (String.ofList [c])], outer, rest⟩ := by
  obtain ⟨name, hname, htoken⟩ := token_textChar hc rest
  refine reads_token htoken ?_ ?_
  · obtain ⟨cs, hcs⟩ := textChar_escaped hc
    rw [hcs, List.cons_append, List.length_cons, List.length_append]
    omega
  · intro ending lexemes
    simp only [eventsOf, hname, nest, List.isEmpty_cons, Bool.false_eq_true, if_false]
    rfl

/-- The longest front of a text that is written as it stands, and the rest: nothing, or a text that
begins with an escaped character. -/
theorem split_plain {cs : List Char} (hcs : IsText cs) :
    ∃ front back, cs = front ++ back ∧ (∀ c ∈ front, IsPlain c) ∧ front.flatMap textChar = front ∧
      ∀ c ∈ back.head?, textChar c ≠ [c] := by
  induction cs with
  | nil => exact ⟨[], [], rfl, List.forall_mem_nil _, rfl, fun c hc => by cases hc⟩
  | cons c cs ih =>
    by_cases hc : textChar c = [c]
    · obtain ⟨front, back, hsplit, hplain, hwritten, hback⟩ :=
        ih fun x hx => hcs x (List.mem_cons_of_mem c hx)
      refine ⟨c :: front, back, by rw [hsplit, List.cons_append], ?_, ?_, hback⟩
      · intro x hx
        rcases List.mem_cons.1 hx with rfl | hx
        · exact isPlain_of_textChar (hcs x List.mem_cons_self) hc
        · exact hplain x hx
      · rw [List.flatMap_cons, hc, hwritten, List.singleton_append]
    · refine ⟨[], c :: cs, rfl, List.forall_mem_nil _, rfl, ?_⟩
      rintro x ⟨⟩
      exact hc

/-- **Escaped text is read back with its line ends joined.** -/
theorem reads_text (f : Frame) (outer : List Frame) (rest : List Char) {cs : List Char}
    (hcs : IsText cs) : ∃ items, Spells items (textOf (normalizeLines cs)) ∧
      Reads ⟨f, outer, cs.flatMap textChar ++ '<' :: rest⟩ ⟨f.gather items, outer,
        '<' :: rest⟩ := by
  -- a round takes one escaped character, or the front of the text up to the next of them
  induction hn : cs.length using Nat.strongRecOn generalizing cs f with
  | ind n ih =>
    subst hn
    obtain ⟨front, back, rfl, hplain, hwritten, hback⟩ := split_plain hcs
    have hbackText : IsText back := fun x hx => hcs x (List.mem_append_right front hx)
    by_cases hfront : front = []
    · subst hfront
      cases back with
      | nil => exact ⟨[], spells_nil, .refl _⟩
      | cons c back =>
        have hc := hback c rfl
        have hreturn : c ≠ '\r' := by
          rintro rfl
          exact hc (by decide)
        obtain ⟨items, hspells, hreads⟩ :=
          ih back.length (by simp) (f := f.gather [.run (String.ofList [c])])
          (fun x hx => hbackText x (List.mem_cons_of_mem c hx)) rfl
        refine ⟨.run (String.ofList [c]) :: items, ?_, ?_⟩
        · have htext : some (String.ofList [c] ++ (textOf (normalizeLines back)).getD "") =
              textOf (c :: normalizeLines back) := textOf_append (List.cons_ne_nil c []) _
          rw [List.nil_append, normalizeLines_cons hreturn, ← htext]
          exact hspells.run _
        · rw [List.nil_append, List.flatMap_cons, List.append_assoc, Frame.gather_cons]
          exact (reads_textChar hc).trans hreads
    · have hshorter : back.length < (front ++ back).length := by
        have hlength : 0 < front.length := List.length_pos_iff.2 hfront
        rw [List.length_append]
        omega
      have hnext : ∃ x more, (x = '<' ∨ x = '&') ∧ back.flatMap textChar ++ '<' :: rest =
          x :: more := by
        cases back with
        | nil => exact ⟨'<', rest, .inl rfl, rfl⟩
        | cons c back =>
          obtain ⟨cs, hc⟩ := textChar_escaped (hback c rfl)
          rw [List.flatMap_cons, hc]
          exact ⟨'&', _, .inr rfl, rfl⟩
      have hfeed : back.head? ≠ some '\n' := fun h => hback '\n' h (by decide)
      obtain ⟨x, more, hx, hmore⟩ := hnext
      obtain ⟨items, hspells, hreads⟩ := ih back.length hshorter
        (f := f.gather [.run (String.ofList (normalizeLines front))]) hbackText rfl
      refine ⟨.run (String.ofList (normalizeLines front)) :: items, ?_, ?_⟩
      · rw [normalizeLines_append hfeed, ← textOf_append (normalizeLines_ne_nil hfront)]
        exact hspells.run _
      · rw [List.flatMap_append, hwritten, List.append_assoc, Frame.gather_cons]
        rw [hmore] at hreads ⊢
        exact (reads_data hfront hplain hx).trans hreads

end

/-! ## Tags -/

theorem boundPrefix?_eq_none {name : String} (h : IsName name) (hne : name ≠ "xmlns") :
    boundPrefix? name = none := by
  obtain ⟨c, cs, hname, -, hcs⟩ := h
  unfold boundPrefix?
  rw [if_neg hne, hname]
  split
  · rename_i more heq
    have hcolon : ':' ∈ cs := by
      rw [(List.cons.inj heq).2]
      simp
    exact absurd rfl (not_colon_of_isNameChar (hcs ':' hcolon))
  · rfl

theorem addWritten_readsAs (name : String) (start : List Char) {attributes : Attributes}
    {raws : List RawAttribute} (hraws : List.Forall₂ ReadsAs attributes raws)
    (h : ∀ a ∈ attributes, IsAttribute a) (hdistinct : (attributes.map (·.1)).Nodup)
    (seen : List String) (hseen : ∀ a ∈ attributes, a.1 ∉ seen) (before : Attributes) :
    Tag.addWritten {} [] start seen ⟨name, before, []⟩ raws =
    .ok ⟨name, before ++ attributes, []⟩ := by
  induction hraws generalizing seen before with
  | nil =>
    rw [Tag.addWritten, List.append_nil]
    rfl
  | @cons a raw attributes raws hraw _ ih =>
    have ha := h a List.mem_cons_self
    obtain ⟨hfirst, hothers⟩ := List.nodup_cons.1 hdistinct
    have hnew : seen.contains raw.name = false := by
      rw [hraw.name]
      simpa using hseen a List.mem_cons_self
    have hvalue : Dtd.attributeValue {} [] (Dtd.keepsBlanks {} name raw.name) raw.value =
        .ok a.2 := by
      unfold Dtd.attributeValue
      rw [hraw.value]
      simp only [bind, Except.bind, pure, Except.pure]
      rw [show Dtd.keepsBlanks {} name raw.name = true from rfl, if_pos rfl, String.ofList_toList]
    have hadd : Tag.add ⟨name, before, []⟩ raw.name a.2 = .ok ⟨name, before ++ [a], []⟩ := by
      unfold Tag.add
      rw [hraw.name, boundPrefix?_eq_none ha.name ha.unbound]
      rfl
    have hrest :=
      ih (fun b hb => h b (List.mem_cons_of_mem a hb)) hothers (raw.name :: seen) ?_ (before ++ [a])
    · rw [Tag.addWritten, hnew]
      simp only [Bool.false_eq_true, if_false, hvalue, hadd, Except.mapError, bind, Except.bind]
      rw [hrest, List.append_assoc, List.singleton_append]
    · intro b hb hmem
      rcases List.mem_cons.1 hmem with he | hmem
      · refine hfirst (List.mem_map.2 ⟨b, hb, ?_⟩)
        rw [he, hraw.name]
      · exact hseen b (List.mem_cons_of_mem a hb) hmem

theorem complete_readsAs (name : String) (start : List Char) {attributes : Attributes}
    {raws : List RawAttribute} (hraws : List.Forall₂ ReadsAs attributes raws)
    (h : ∀ a ∈ attributes, IsAttribute a) (hdistinct : (attributes.map (·.1)).Nodup) :
    Tag.complete {} [] start name raws = .ok ⟨name, attributes, []⟩ := by
  unfold Tag.complete
  rw [addWritten_readsAs name start hraws h hdistinct [] (fun _ _ hmem => List.not_mem_nil hmem) []]
  rfl

theorem open_plain {name : String} (hname : IsName name) {attributes : Attributes}
    (h : ∀ a ∈ attributes, IsAttribute a) (left : List Char) :
    Frame.open .initial ⟨name, attributes, []⟩ left =
    .ok ⟨name, name, attributes, .initial, []⟩ := by
  have hexpand : Scope.expandName .initial name = .ok name := by
    unfold Scope.expandName
    rw [splitName_eq_none hname]
    rfl
  unfold Frame.open Scope.expand
  simp only [List.nil_append, Scope.expandAttributes_eq_self (fun a ha => (h a ha).name),
    hexpand, bind, Except.bind, Except.mapError, pure, Except.pure]

section

variable {f : Frame} {outer : List Frame} {name : String} {attributes : Attributes}

theorem reads_opening (hscope : f.scope = .initial) (hname : IsName name)
    (h : ∀ a ∈ attributes, IsAttribute a) (hdistinct : (attributes.map (·.1)).Nodup)
    (rest : List Char) :
    Reads ⟨f, outer, '<' :: (name.toList ++ (writtenAttributes attributes ++ '>' :: rest))⟩
      ⟨⟨name, name, attributes, .initial, []⟩, f :: outer, rest⟩ := by
  obtain ⟨raws, hraws, htoken⟩ := token_opening hname h endsName_angle
    (show tagRest .afterValue ('>' :: rest) = .ok (([], false), rest) from rfl)
  refine reads_token htoken ?_ ?_
  · simp only [List.length_cons, List.length_append]
    omega
  · intro ending lexemes
    simp only [eventsOf, complete_readsAs name _ hraws h hdistinct, Bool.false_eq_true,
      if_false, nest, hscope, open_plain hname h, bind, Except.bind]

theorem reads_bare (hscope : f.scope = .initial) (hname : IsName name)
    (h : ∀ a ∈ attributes, IsAttribute a) (hdistinct : (attributes.map (·.1)).Nodup)
    (rest : List Char) :
    Reads ⟨f, outer,
      '<' :: (name.toList ++ (writtenAttributes attributes ++ ' ' :: '/' :: '>' :: rest))⟩
      ⟨f.gather [.node { label := .tag name, attributes }], outer, rest⟩ := by
  obtain ⟨raws, hraws, htoken⟩ := token_opening hname h endsName_space
    (show tagRest .afterValue (' ' :: '/' :: '>' :: rest) = .ok (([], true), rest) from rfl)
  refine reads_token htoken ?_ ?_
  · simp only [List.length_cons, List.length_append]
    omega
  · intro ending lexemes
    simp only [eventsOf, complete_readsAs name _ hraws h hdistinct, if_true, nest, hscope,
      open_plain hname h, bind, Except.bind, ne_eq, not_true_eq_false, if_false]
    rfl

/-- A closing tag closes the open element and puts it into the one around it. -/
theorem reads_closing {parent : Frame} (hname : IsName f.name) (rest : List Char) :
    Reads ⟨f, parent :: outer, '<' :: '/' :: (f.name.toList ++ '>' :: rest)⟩
      ⟨parent.gather [.node f.close], outer, rest⟩ := by
  obtain ⟨left, htoken⟩ := token_closing hname rest
  refine reads_token htoken ?_ ?_
  · simp only [List.length_cons, List.length_append]
    omega
  · intro ending lexemes
    simp only [eventsOf, nest, ne_eq, not_true_eq_false, if_false]
    rfl

end

/-! ## Trees -/

/-- A text with its line ends joined. -/
def joinLines (s : String) : String :=
  String.ofList (normalizeLines s.toList)

/-- The tree with the line ends of all texts joined. -/
def Element.joined (e : Element) : Element :=
  e.mapAll fun e => { e with text := e.text.map joinLines, tail := e.tail.map joinLines }

theorem Element.joined_eq (e : Element) :
    e.joined =
    ⟨e.label, e.attributes, e.text.map joinLines, e.children.map joined, e.tail.map joinLines⟩ := by
  unfold joined
  rw [mapAll_eq]

/-- A tree without a carriage return in a text. -/
def Element.ReturnFree (e : Element) : Prop :=
  ∀ x ∈ e.descendants, '\r' ∉ (x.text.getD "").toList ∧ '\r' ∉ (x.tail.getD "").toList

theorem map_joinLines_eq_self {o : Option String} (h : '\r' ∉ (o.getD "").toList) :
    o.map joinLines = o := by
  cases o with
  | none => rfl
  | some s =>
    rw [Option.map_some, joinLines, normalizeLines_eq_self (show '\r' ∉ s.toList from h),
      String.ofList_toList]

/-- Without carriage returns, joining line ends changes nothing. -/
theorem Element.joined_eq_self {e : Element} (h : e.ReturnFree) : e.joined = e := by
  induction e using Element.childInduction with
  | node e ih =>
    unfold ReturnFree at h
    rw [descendants_eq, List.forall_mem_cons] at h
    obtain ⟨⟨htext, htail⟩, hchildren⟩ := h
    have hsame : e.children.map joined = e.children := by
      refine (List.map_congr_left fun child hchild => ih child hchild fun x hx => ?_).trans
        (List.map_id _)
      exact hchildren x (List.mem_flatMap.2 ⟨child, hchild, hx⟩)
    rw [joined_eq, map_joinLines_eq_self htext, map_joinLines_eq_self htail, hsame]
    cases e
    rfl

/-- A run is read with its line ends joined. -/
theorem textOf_joined {o : Option String} (h : IsRun o) :
    textOf (normalizeLines (o.getD "").toList) = o.map joinLines := by
  cases o with
  | none => rfl
  | some s =>
    have hne : s.toList ≠ [] := fun he => (h s rfl).1 (String.toList_eq_nil_iff.1 he)
    rw [Option.getD_some, textOf, if_neg (normalizeLines_ne_nil hne)]
    rfl

/-- Items that are put together to given elements, if anything but a run follows. -/
structure Holds (items : List Item) (es : List Element) : Prop where
  begins : BeginsNoRun items
  assembles : ∀ more, BeginsNoRun more →
    Element.assemble (items ++ more) = (none, es ++ (Element.assemble more).2)

theorem BeginsNoRun.append {items more : List Item} (h : BeginsNoRun items)
    (hmore : BeginsNoRun more) : BeginsNoRun (items ++ more) := by
  intro s
  cases items with
  | nil => exact hmore s
  | cons item items => exact h s

theorem holds_nil : Holds [] [] where
  begins := fun s h => by cases h
  assembles := fun more hmore => Prod.ext (assemble_of_beginsNoRun hmore) rfl

theorem Holds.append {items items' : List Item} {es es' : List Element} (h : Holds items es)
    (h' : Holds items' es') : Holds (items ++ items') (es ++ es') where
  begins := h.begins.append h'.begins
  assembles := by
    intro more hmore
    rw [List.append_assoc, h.assembles _ (h'.begins.append hmore), h'.assembles more hmore,
      List.append_assoc]

theorem Spells.holds {items : List Item} {tail : Option String} (h : Spells items tail)
    (e : Element) : Holds (.node e :: items) [{ e with tail := tail }] where
  begins := fun s h => by cases h
  assembles := by
    intro more hmore
    rw [List.cons_append, Element.assemble, h more hmore]
    rfl

/-- Reading goes past written elements and gathers them with their line ends joined. -/
def ReadsAll (written : List Char) (es : List Element) : Prop :=
  ∀ f : Frame, f.scope = .initial → ∀ outer rest, ∃ items, Holds items (es.map Element.joined) ∧
    Reads ⟨f, outer, written ++ '<' :: rest⟩ ⟨f.gather items, outer, '<' :: rest⟩

theorem readsAll_nil : ReadsAll [] [] :=
  fun _ _ _ _ => ⟨[], holds_nil, .refl _⟩

/-- What is read back in two parts is read back as a whole, if the second part begins with a tag. -/
theorem ReadsAll.append {front back : List Char} {es es' : List Element} (h : ReadsAll front es)
    (h' : ReadsAll back es') (hback : ∀ rest, ∃ more, back ++ '<' :: rest = '<' :: more) :
    ReadsAll (front ++ back) (es ++ es') := by
  intro f hscope outer rest
  obtain ⟨more, hmore⟩ := hback rest
  obtain ⟨items, hholds, hreads⟩ := h f hscope outer more
  obtain ⟨items', hholds', hreads'⟩ := h' (f.gather items) hscope outer rest
  refine ⟨items ++ items', ?_, ?_⟩
  · rw [List.map_append]
    exact hholds.append hholds'
  · rw [List.append_assoc, hmore, ← Frame.gather_gather]
    rw [hmore] at hreads'
    exact hreads.trans hreads'

theorem writtenAll_begins {es : List Element} (h : ∀ e ∈ es, e.Readable) (rest : List Char) :
    ∃ more, es.flatMap Element.written ++ '<' :: rest = '<' :: more := by
  cases es with
  | nil => exact ⟨rest, rfl⟩
  | cons e es =>
    obtain ⟨more, hmore⟩ := written_begins (h e List.mem_cons_self)
    rw [List.flatMap_cons, hmore]
    exact ⟨_, rfl⟩

/-- Children are read back one after the other. -/
theorem readsAll_children {es : List Element} (hreadable : ∀ e ∈ es, e.Readable)
    (h : ∀ e ∈ es, ReadsAll e.written [e]) : ReadsAll (es.flatMap Element.written) es := by
  induction es with
  | nil => exact readsAll_nil
  | cons e es ih =>
    have hrest : ∀ x ∈ es, x.Readable := fun x hx => hreadable x (List.mem_cons_of_mem e hx)
    rw [List.flatMap_cons]
    exact (h e List.mem_cons_self).append
      (ih hrest fun x hx => h x (List.mem_cons_of_mem e hx)) (writtenAll_begins hrest)

/-- Reading goes on from an opening tag past the content that is written after it. -/
theorem reads_content {f : Frame} (hscope : f.scope = .initial) (outer : List Frame)
    {text : Option String}
    (htext : IsRun text) {es : List Element} (hreadable : ∀ e ∈ es, e.Readable)
    (h : ∀ e ∈ es, ReadsAll e.written [e]) (rest : List Char) :
    ∃ items, Element.assemble items = (text.map joinLines, es.map Element.joined) ∧
      Reads ⟨f, outer, (text.getD "").toList.flatMap textChar ++
        (es.flatMap Element.written ++ '<' :: rest)⟩ ⟨f.gather items, outer, '<' :: rest⟩ := by
  obtain ⟨more, hmore⟩ := writtenAll_begins hreadable rest
  obtain ⟨runs, hruns, hreads⟩ := reads_text f outer more (isText_of_isRun htext)
  obtain ⟨items, hholds, hreads'⟩ := readsAll_children hreadable h (f.gather runs) hscope outer rest
  refine ⟨runs ++ items, ?_, ?_⟩
  · have hitems := hholds.assembles [] (fun s h => by cases h)
    rw [List.append_nil] at hitems
    rw [hruns items hholds.begins, textOf_joined htext, hitems]
    simp [Element.assemble]
  · rw [hmore] at hreads' ⊢
    rw [← Frame.gather_gather]
    exact hreads.trans hreads'

/-- **A written tree is read back**, with the line ends of its texts joined. -/
theorem readsAll_written {e : Element} (h : e.Readable) : ReadsAll e.written [e] := by
  induction e using Element.childInduction with
  | node e ih =>
    intro f hscope outer rest
    obtain ⟨name, hlabel, hname⟩ := h.here.tag
    have hchildren : ∀ child ∈ e.children, child.Readable := fun child hchild => h.child hchild
    obtain ⟨runs, hruns, htail⟩ :=
      reads_text (f.gather [.node { e.joined with tail := none }]) outer rest
      (isText_of_isRun h.here.tail)
    rw [textOf_joined h.here.tail] at hruns
    have hself :
        ({ ({ e.joined with tail := none } : Element) with
           tail := e.tail.map joinLines } : Element) = e.joined := by
      rw [Element.joined_eq]
    refine ⟨.node { e.joined with tail := none } :: runs, ?_, ?_⟩
    · have hholds := hruns.holds { e.joined with tail := none }
      rw [hself] at hholds
      exact hholds
    rw [Frame.gather_cons]
    refine Reads.trans ?_ htail
    by_cases hempty : e.text = none ∧ e.children = []
    · have hwhole : ({ e.joined with tail := none } : Element) =
          { label := .tag name, attributes := e.attributes } := by
        rw [Element.joined_eq, hlabel, hempty.1, hempty.2]
        rfl
      rw [hwhole, written_bare h.here hlabel hname hempty.1 hempty.2]
      simp only [List.cons_append, List.append_assoc]
      exact reads_bare hscope hname h.here.isAttribute h.here.distinct _
    · rw [written_full h.here hlabel hname hempty]
      simp only [List.cons_append, List.append_assoc]
      obtain ⟨items, hitems, hcontent⟩ :=
        reads_content (f := ⟨name, name, e.attributes, .initial, []⟩) rfl
        (f :: outer) h.here.text hchildren
          (fun child hchild => ih child hchild (hchildren child hchild))
        ('/' :: (name.toList ++ '>' :: ((e.tail.getD "").toList.flatMap textChar ++ '<' :: rest)))
      have hclose : (Frame.gather ⟨name, name, e.attributes, .initial, []⟩ items).close =
          { e.joined with tail := none } := by
        rw [Element.joined_eq, hlabel]
        unfold Frame.close Frame.gather Element.ofItems
        simp only [List.append_nil, List.reverse_reverse, hitems]
      refine (reads_opening hscope hname h.here.isAttribute h.here.distinct _).trans
        (hcontent.trans ?_)
      rw [← hclose]
      exact reads_closing (f := Frame.gather ⟨name, name, e.attributes, .initial, []⟩ items) hname _

end Pamphlet.Markup
