import Pamphlet.Markup.Document
import Pamphlet.Proofs.Markup.Reread
import Pamphlet.Proofs.Text.Characters
import Pamphlet.Proofs.Text.Utf8

/-!
# Written content as a document

The content of an element, written and put between the tags of a division, is a document whose root
has that content, with the line ends of its texts joined: `parse_division`.
-/

namespace Pamphlet.Markup

open Pamphlet.Text

/-! ## Characters -/

theorem not_truncated_of_isXmlChar {c : Char} (h : isXmlChar c = true) : c ≠ truncated := by
  rintro rfl
  exact absurd h (by decide)

theorem not_truncated_of_isNameChar {c : Char} (h : isNameChar c = true) : c ≠ truncated := by
  rintro rfl
  exact absurd h (by decide +kernel)

theorem not_truncated_of_isNameStart {c : Char} (h : isNameStart c = true) : c ≠ truncated := by
  rintro rfl
  exact absurd h (by decide +kernel)

/-- No character of a text is cut off. -/
def IsWhole (cs : List Char) : Prop :=
  ∀ c ∈ cs, c ≠ truncated

theorem isWhole_append {cs ds : List Char} (h : IsWhole cs) (h' : IsWhole ds) :
    IsWhole (cs ++ ds) :=
  List.forall_mem_append.2 ⟨h, h'⟩

theorem isWhole_cons {c : Char} {cs : List Char} (hc : c ≠ truncated) (h : IsWhole cs) :
    IsWhole (c :: cs) :=
  List.forall_mem_cons.2 ⟨hc, h⟩

theorem isWhole_flatMap {α : Type} {xs : List α} {f : α → List Char} (h : ∀ x ∈ xs, IsWhole (f x)) :
    IsWhole (xs.flatMap f) :=
  List.forall_mem_flatMap.2 h

theorem isWhole_name {name : String} (h : IsName name) : IsWhole name.toList := by
  obtain ⟨c, cs, hname, hc, hcs⟩ := h
  rw [hname]
  exact isWhole_cons (not_truncated_of_isNameStart hc) fun d hd =>
    not_truncated_of_isNameChar (hcs d hd)

theorem isWhole_textChar {c : Char} (h : isXmlChar c = true) : IsWhole (textChar c) := by
  unfold textChar
  split
  · exact forall_of_all (by decide)
  split
  · exact forall_of_all (by decide)
  split
  · exact forall_of_all (by decide)
  · exact isWhole_cons (not_truncated_of_isXmlChar h) (List.forall_mem_nil _)

theorem isWhole_valueChar {c : Char} (h : isXmlChar c = true) : IsWhole (valueChar c) := by
  unfold valueChar
  split
  · exact forall_of_all (by decide)
  split
  · exact forall_of_all (by decide)
  split
  · exact forall_of_all (by decide)
  split
  · exact forall_of_all (by decide)
  · exact isWhole_textChar h

theorem isWhole_attributes {attributes : Attributes} (h : ∀ a ∈ attributes, IsAttribute a) :
    IsWhole (writtenAttributes attributes) := by
  refine isWhole_flatMap fun a ha => ?_
  have hvalue : IsWhole (a.2.toList.flatMap valueChar) :=
    isWhole_flatMap fun c hc => isWhole_valueChar ((h a ha).value c hc)
  have hquote : IsWhole ['"'] := forall_of_all (by decide)
  refine isWhole_cons (by decide) (isWhole_append (isWhole_name (h a ha).name) ?_)
  exact isWhole_cons (by decide) (isWhole_cons (by decide) (isWhole_append hvalue hquote))

theorem isWhole_text {o : Option String} (h : IsRun o) :
    IsWhole ((o.getD "").toList.flatMap textChar) :=
  isWhole_flatMap fun c hc => isWhole_textChar (isText_of_isRun h c hc)

theorem isWhole_written {e : Element} (h : e.Readable) : IsWhole e.written := by
  induction e using Element.childInduction with
  | node e ih =>
    obtain ⟨name, hlabel, hname⟩ := h.here.tag
    have hhead := isWhole_append (isWhole_name hname) (isWhole_attributes h.here.isAttribute)
    have htail := isWhole_text h.here.tail
    by_cases hempty : e.text = none ∧ e.children = []
    · rw [written_bare h.here hlabel hname hempty.1 hempty.2, ← List.append_assoc,
        ← List.append_assoc]
      have hend : IsWhole [' ', '/', '>'] := forall_of_all (by decide)
      exact isWhole_cons (by decide) (isWhole_append (isWhole_append hhead hend) htail)
    · have hcontent : IsWhole (e.children.flatMap Element.written) :=
        isWhole_flatMap fun child hchild => ih child hchild (h.child hchild)
      rw [written_full h.here hlabel hname hempty, ← List.append_assoc]
      refine isWhole_cons (by decide) (isWhole_append hhead (isWhole_cons (by decide) ?_))
      refine isWhole_append (isWhole_text h.here.text) (isWhole_append hcontent ?_)
      refine isWhole_cons (by decide)
        (isWhole_cons (by decide) (isWhole_append (isWhole_name hname) ?_))
      exact isWhole_cons (by decide) htail

/-! ## Documents -/

/-- A text that begins with an angle and the name of a division is read as it stands. -/
theorem opened_text {s : String} {cs : List Char} (hs : s.toList = '<' :: 'd' :: cs)
    (hwhole : IsWhole s.toList) :
    (Source.text s).opened = .ok ⟨s.toList, s.toList, false, false⟩ := by
  have hbytes : ∃ bs, Utf8.encode s = 0x3C :: 0x64 :: bs := by
    unfold Utf8.encode
    rw [hs]
    exact ⟨_, rfl⟩
  obtain ⟨bs, hbs⟩ := hbytes
  have hdecode : Encoding.decode .utf8 (Utf8.encode s) = s.toList := by
    have hsound : s.toList.map Encoding.sound = s.toList := by
      refine (List.map_congr_left fun c hc => ?_).trans (List.map_id' _)
      exact if_neg (hwhole c hc)
    unfold Encoding.decode Encoding.decodeUtf8
    rw [Utf8.decode_encode]
    exact hsound
  have hlength : tooShortToTell (0x3C :: 0x64 :: bs) = false := rfl
  have hmark : s.toList.head? ≠ some byteOrderMark := by
    rw [hs, List.head?_cons]
    exact fun h => absurd (Option.some.inj h) (by decide)
  have hplain : declaration? s.toList = none := by
    rw [hs]
    rfl
  have hunits : Encoding.splitsUnit .utf8 (Utf8.encode s) = false := by
    unfold Encoding.splitsUnit
    simp [Encoding.unit, Nat.mod_one]
  have hshown : sniff (Utf8.encode s) = .utf8 := by
    rw [hbs]
    rfl
  have hlong : tooShortToTell (Utf8.encode s) = false := by
    rw [hbs]
    exact hlength
  unfold Source.opened
  simp only [Source.toBytes, hlong, hshown, hdecode, hunits, hmark, hplain, if_false,
    Bool.false_eq_true, pure, Except.pure]

theorem prolog_root {cs : List Char} :
    readProlog {} (.misc true) (marks ('<' :: 'd' :: cs)) = .ok ({}, '<' :: 'd' :: cs) :=
  rfl

/-- The tag that closes the root ends reading. -/
theorem result_closing {f : Frame} (hname : IsName f.name) (ending rest : List Char) {count : Nat}
    (hcount : ('<' :: '/' :: (f.name.toList ++ '>' :: rest)).length ≤ count) :
    Reader.result ending count ⟨f, [], '<' :: '/' :: (f.name.toList ++ '>' :: rest)⟩ =
    .ok (f.close, rest) := by
  obtain ⟨left, htoken⟩ := token_closing hname rest
  have hlength : rest.length < ('<' :: '/' :: (f.name.toList ++ '>' :: rest)).length := by
    simp only [List.length_cons, List.length_append]
    omega
  obtain ⟨count', -, htokens⟩ := tokensUpTo_token htoken hlength hcount
  unfold Reader.result
  simp only [htokens, eventsOf, nest, ne_eq, not_true_eq_false, if_false]
  rfl

/-- The tag that opens the root begins reading. -/
theorem build_opening {name : String} (hname : IsName name) (ending rest : List Char) :
    ∃ count, rest.length ≤ count ∧
      build false ending (contentEvents {} ('<' :: (name.toList ++ '>' :: rest))) =
        Reader.result ending count ⟨⟨name, name, [], .initial, []⟩, [], rest⟩ := by
  have hnone : ∀ a ∈ ([] : Attributes), IsAttribute a := List.forall_mem_nil _
  obtain ⟨raws, hraws, htoken⟩ := token_opening hname hnone endsName_angle
    (show tagRest .afterValue ('>' :: rest) = .ok (([], false), rest) from rfl)
  have hlength : rest.length < ('<' :: (name.toList ++ '>' :: rest)).length := by
    simp only [List.length_cons, List.length_append]
    omega
  obtain ⟨count, hcount, htokens⟩ := tokensUpTo_token htoken hlength (Nat.le_refl _)
  refine ⟨count, hcount, ?_⟩
  have hall : tokens ('<' :: (name.toList ++ '>' :: rest)) = _ := htokens
  unfold contentEvents
  rw [hall]
  simp only [eventsOf, complete_readsAs name _ hraws hnone List.nodup_nil,
    Bool.false_eq_true, if_false, build, open_plain hname hnone, bind, Except.bind]
  rfl

/-- **Written content between the tags of a division is read back.** -/
theorem parse_division {s : String} {text : Option String} (htext : IsRun text) {es : List Element}
    (hes : ∀ e ∈ es, e.Readable)
    (hs : s.toList = "<div>".toList ++ ((text.getD "").toList.flatMap textChar ++
      (es.flatMap Element.written ++ "</div>".toList))) :
    parse (.text s) false =
      .ok { label := .tag "div", text := text.map joinLines,
            children := es.map Element.joined } := by
  have hname : IsName "div" := ⟨'d', ['i', 'v'], rfl, by decide, forall_of_all (by decide)⟩
  have hwhole : IsWhole s.toList := by
    rw [hs]
    have hcontent : IsWhole (es.flatMap Element.written) :=
      isWhole_flatMap fun e he => isWhole_written (hes e he)
    refine isWhole_append (forall_of_all (by decide)) ?_
    exact isWhole_append (isWhole_text htext) (isWhole_append hcontent (forall_of_all (by decide)))
  let rest : List Char := (text.getD "").toList.flatMap textChar ++
    (es.flatMap Element.written ++ '<' :: ('/' :: ("div".toList ++ ['>'])))
  have hrest : s.toList = '<' :: ("div".toList ++ '>' :: rest) := hs
  have hopened : (Source.text s).opened = .ok ⟨s.toList, s.toList, false, false⟩ :=
    opened_text hrest hwhole
  have hroot : Opened.root false ⟨s.toList, s.toList, false, false⟩ =
      .ok { label := .tag "div", text := text.map joinLines,
            children := es.map Element.joined } := by
    obtain ⟨count, hcount, hbuild⟩ := build_opening hname (ending s.toList) rest
    obtain ⟨items, hitems, hreads⟩ :=
      reads_content (f := ⟨"div", "div", [], .initial, []⟩) rfl [] htext hes
      (fun e he => readsAll_written (hes e he)) ('/' :: ("div".toList ++ ['>']))
    obtain ⟨count', hcount', hresult⟩ := hreads (ending s.toList) count hcount
    have hclosing := result_closing (f := Frame.gather ⟨"div", "div", [], .initial, []⟩ items) hname
      (ending s.toList) [] hcount'
    have hclose : (Frame.gather ⟨"div", "div", [], .initial, []⟩ items).close =
        { label := .tag "div", text := text.map joinLines, children := es.map Element.joined } := by
      unfold Frame.close Frame.gather Element.ofItems
      simp only [List.append_nil, List.reverse_reverse, hitems]
    have hbuilt : build false (ending s.toList) (contentEvents {} s.toList) = .ok
        ({ label := .tag "div", text := text.map joinLines,
           children := es.map Element.joined }, []) := by
      have hread := hbuild.trans (hresult.trans hclosing)
      rw [hclose, ← hrest] at hread
      exact hread
    have hprolog : readProlog {} (.misc true) (marks s.toList) = .ok ({}, s.toList) := by
      rw [hrest]
      exact prolog_root
    unfold Opened.root
    simp only [bind, Except.bind, hprolog, hbuilt]
    rfl
  unfold parse
  simp only [bind, Except.bind, hopened, hroot]
  rfl

end Pamphlet.Markup
