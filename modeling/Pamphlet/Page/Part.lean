import Pamphlet.Markup.Element

/-!
# Parts of pages

The elements that pages are made of: headers, paragraphs, links, lists and tables.
-/

namespace Pamphlet.Page

open Pamphlet.Markup

namespace Part

def header (level : Int) (text : String) : Element :=
  .ofText ("h" ++ toString level) text

def paragraph (text : String) : Element :=
  .ofText "p" text

def link (address label : String) : Element :=
  (Element.ofText "a" label).withAttribute "href" address

def list : Element :=
  .named "ul"

def item : Element :=
  .named "li"

def row : Element :=
  .named "tr"

def cell : Element :=
  .named "td"

def rule : Element :=
  .named "hr"

/-- An item that begins with a headline. -/
def headlinedItem (headline text : String) : Element :=
  (item.append (.ofText "b" headline)).appendText (" - " ++ text)

/-- A table with nothing but its row of headlines. -/
def table (border : Int) (headlines : List String) : Element :=
  ((Element.named "table").withAttribute "border" (toString border)).append
    { row with children := headlines.map (.ofText "th") }

/-- A document with a title and an empty body. -/
def document (title : String) : Element :=
  ((Element.named "html").append ((Element.named "head").append (.ofText "title" title))).append
    (.named "body")

end Part

end Pamphlet.Page
