import Pamphlet.Markup.Element
import Pamphlet.Markup.Namespace

/-!
# Prefixes for written names

A tree is written with prefixes in place of the namespaces in its names. Some namespaces have a
well-known prefix; the others are numbered in the order in which the tree first uses them. All
declarations stand in the outermost tag, sorted by prefix.
-/

namespace Pamphlet.Markup

/-- Prefixes by namespace, in order of first use. -/
abbrev Prefixes := List (String × String)

def wellKnownPrefixes : List (String × String) := [
  (xmlNamespace, "xml"),
  ("http://www.w3.org/1999/xhtml", "html"),
  ("http://www.w3.org/1999/02/22-rdf-syntax-ns#", "rdf"),
  ("http://schemas.xmlsoap.org/wsdl/", "wsdl"),
  ("http://www.w3.org/2001/XMLSchema", "xs"),
  ("http://www.w3.org/2001/XMLSchema-instance", "xsi"),
  ("http://purl.org/dc/elements/1.1/", "dc")]

/-- The namespace and the local part of a full name. -/
def splitFullName (name : String) : Option (String × String) :=
  match name.toList with
  | '\x7b' :: cs =>
    let back := cs.reverse.takeWhile (· ≠ '\x7d')
    if back.length < cs.length then
      some (String.ofList (cs.take (cs.length - back.length - 1)), String.ofList back.reverse)
    else none
  | _ => none

/-- The prefixes of the tree so far, with one for a name. The prefix of the namespace of all markup
needs no declaration. -/
def Prefixes.extend (known : Prefixes) (name : String) : Prefixes :=
  match splitFullName name with
  | none => known
  | some (uri, _) =>
    if (known.lookup uri).isSome then known
    else
      match wellKnownPrefixes.lookup uri with
      | some "xml" => known
      | some label => known ++ [(uri, label)]
      | none => known ++ [(uri, "ns" ++ toString known.length)]

/-- The names of an element itself. -/
def Element.names (e : Element) : List String :=
  e.tag?.toList ++ e.attributes.map (·.1)

def Prefixes.ofTree (e : Element) : Prefixes :=
  (e.descendants.flatMap (·.names)).foldl Prefixes.extend []

/-- A name as it is written. -/
def Prefixes.written (known : Prefixes) (name : String) : String :=
  match splitFullName name with
  | none => name
  | some (uri, part) =>
    match known.lookup uri <|> wellKnownPrefixes.lookup uri with
    | some label => label ++ ":" ++ part
    | none => part

/-- The declarations of the outermost tag; `escape` writes a value. -/
def Prefixes.declarations (known : Prefixes) (escape : String → String) : String :=
  String.join <| (known.mergeSort fun a b => a.2 ≤ b.2).map fun (uri, label) =>
    " xmlns:" ++ label ++ "=\"" ++ escape uri ++ "\""

end Pamphlet.Markup
