import Pamphlet.Markup.Place
import Pamphlet.Page.Section

/-!
# Rendering

Putting a section into a tree: its heading and its block become the last children of one element,
and its entry the last child of another one, the contents list.
-/

namespace Pamphlet.Markup.Draft

/-- Adds a heading and a block to one element and an entry to another one. -/
def addSection (d : Draft) (parent contents : Place) (heading entry block : Element) : Draft :=
  ((d.change parent (·.append heading)).change contents (·.append entry)).change parent
    (·.append block)

/-- Puts a section under an element and into a contents list. -/
def render (d : Draft) (parent contents : Place) (level : Int) (s : Page.Section) : Draft :=
  d.addSection parent contents (s.heading level) s.entry (s.block level)

end Pamphlet.Markup.Draft
