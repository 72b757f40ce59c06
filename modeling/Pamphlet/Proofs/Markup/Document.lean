import Pamphlet.Markup.Document
import Pamphlet.Proofs.Markup.Content
import Pamphlet.Proofs.Markup.Prolog

/-!
# A document that can be read is a well-formed tree

Whatever the characters of a document are, if it is read at all then its root is a well-formed tree
with full names, and no text follows it: `parse_formed`.
-/

namespace Pamphlet.Markup

theorem Opened.root_formed {o : Opened} {e : Element} (h : o.root false = .ok e) :
    e.Expanded ∧ e.tail = none := by
  obtain ⟨⟨dtd, content⟩, hprolog, h⟩ := bind_ok h
  obtain ⟨⟨root, after⟩, hbuild, h⟩ := bind_ok h
  obtain ⟨_, -, h⟩ := bind_ok h
  have hdtd : dtd.Formed := by
    refine readProlog_formed ⟨?_, ?_⟩ (show State.Formed (.misc true) from trivial)
      (marksUpTo_formed _ _) hprolog
    · exact fun name text hmem => absurd hmem List.not_mem_nil
    · exact fun element rule hmem => absurd hmem List.not_mem_nil
  simp only at h
  split at h
  · cases h
  · cases h
    exact build_formed (contentEvents_formed hdtd content) hbuild

theorem parse_formed {source : Source} {e : Element} (h : parse source false = .ok e) :
    e.Expanded ∧ e.tail = none := by
  obtain ⟨o, -, h⟩ := bind_ok h
  split at h
  · rename_i hroot
    cases h
    exact Opened.root_formed hroot
  · cases h

end Pamphlet.Markup
