import Pamphlet.Markup.Escape
import Pamphlet.Markup.Qualified
import Pamphlet.Text.Blank

/-!
# Writing markup

`Element.print` writes a tree as strict markup that can be read again, and the text after its root;
an element without content is one tag. `Element.printPage` writes it for browsers: there are
elements that never have a closing tag, all others have one, and scripts and styles are written as
they are.
-/

namespace Pamphlet.Markup

open Pamphlet.Text

namespace Element

/-- The attributes of a tag. -/
def printAttributes (known : Prefixes) (escape : String → String) (attributes : Attributes) :
    String :=
  String.join <| attributes.map fun (name, value) =>
    " " ++ known.written name ++ "=\"" ++ escape value ++ "\""

mutual

/-- An element and the text after it; `declarations` are those of its tag. -/
def printWith (known : Prefixes) (declarations : String) : Element → String
  | ⟨label, attributes, text, children, tail⟩ =>
    let inner := text.getD ""
    let whole :=
      match label with
      | .comment => "<!--" ++ inner ++ "-->"
      | .instruction => "<?" ++ inner ++ "?>"
      | .tag name =>
        let name := known.written name
        let head := "<" ++ name ++ declarations ++ printAttributes known escapeValue attributes
        if inner = "" ∧ children.isEmpty then head ++ " />"
        else
          head ++ ">" ++ escapeText inner ++ printAllWith known children ++ "</" ++ name ++ ">"
    whole ++ escapeText (tail.getD "")

def printAllWith (known : Prefixes) : List Element → String
  | [] => ""
  | e :: rest => printWith known "" e ++ printAllWith known rest

end

/-- Strict markup for an element and the text after it. -/
def print (e : Element) : String :=
  let known := Prefixes.ofTree e
  e.printWith known (known.declarations escapeValue)

/-! ## Pages -/

/-- Elements that have no content and no closing tag. -/
def emptyTags : List String :=
  ["area", "base", "basefont", "br", "col", "embed", "frame", "hr", "img", "input", "isindex",
    "link", "meta", "param", "source", "track", "wbr"]

/-- Elements whose text is no markup. -/
def rawTags : List String :=
  ["script", "style"]

mutual

def printPageWith (known : Prefixes) (declarations : String) : Element → String
  | ⟨label, attributes, text, children, tail⟩ =>
    let inner := text.getD ""
    let whole :=
      match label with
      | .comment => "<!--" ++ escapeText inner ++ "-->"
      | .instruction => "<?" ++ escapeText inner ++ "?>"
      | .tag name =>
        let name := known.written name
        "<" ++ name ++ declarations ++ printAttributes known escapePageValue attributes ++ ">" ++
          (if rawTags.contains (lower name) then inner else escapeText inner) ++
          printPageAllWith known children ++
          if emptyTags.contains (lower name) then "" else "</" ++ name ++ ">"
    whole ++ escapeText (tail.getD "")

def printPageAllWith (known : Prefixes) : List Element → String
  | [] => ""
  | e :: rest => printPageWith known "" e ++ printPageAllWith known rest

end

/-- A tree as browsers read it. -/
def printPage (e : Element) : String :=
  let known := Prefixes.ofTree e
  e.printPageWith known (known.declarations escapeValue)

end Element

end Pamphlet.Markup
