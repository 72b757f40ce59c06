import Pamphlet.Markup.Element

/-!
# Plain names

A tree without namespaces: every full name of an element or an attribute is cut to its local part.
An attribute takes the value of another one of the tag if they then have one name; it keeps that
one's place.
-/

namespace Pamphlet.Markup

/-- Whether a name is a full name, which begins with its namespace in braces. -/
def isFullName (name : String) : Bool :=
  name.toList.head? = some '\x7b'

/-- The part of a full name after its namespace. -/
def localPart (name : String) : String :=
  String.ofList ((name.toList.dropWhile (· ≠ '\x7d')).drop 1)

/-- Renames one attribute; it goes to the end unless its new name is taken. -/
def Attributes.makePlain (attributes : Attributes) (name : String) : Attributes :=
  match attributes.get? name with
  | none => attributes
  | some value => (attributes.erase name).set (localPart name) value

def Attributes.plain (attributes : Attributes) : Attributes :=
  ((attributes.map (·.1)).filter isFullName).foldl Attributes.makePlain attributes

/-- The element with plain names of its own. -/
def Element.plainHere (e : Element) : Element :=
  { e with
    label := match e.label with
      | .tag name => .tag (if isFullName name then localPart name else name)
      | label => label
    attributes := e.attributes.plain }

/-- The tree without namespaces. -/
def Element.plain (e : Element) : Element :=
  e.mapAll Element.plainHere

end Pamphlet.Markup
