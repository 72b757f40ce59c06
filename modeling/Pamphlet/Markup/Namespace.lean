import Pamphlet.Markup.Element
import Pamphlet.Markup.Problem

/-!
# Namespaces

Attributes of a tag bind prefixes to namespace names, and a bound prefix in the name of an element
or of an attribute stands for its namespace: the full name is `\x7buri\x7dlocal`, and a name in no
namespace is left as it is. `Bindings.check` has the prefixes and the names that may not be bound,
and `Scope.expand` makes the full names of a tag.
-/

namespace Pamphlet.Markup

def xmlNamespace : String := "http://www.w3.org/XML/1998/namespace"

def xmlnsNamespace : String := "http://www.w3.org/2000/xmlns/"

/-- The prefixes bound where a tag stands, the innermost first. The empty prefix is the default of
element names. -/
abbrev Scope := List (String × String)

def Scope.initial : Scope := [("xml", xmlNamespace)]

/-- The prefix that an attribute binds. -/
def boundPrefix? (name : String) : Option String :=
  if name = "xmlns" then some ""
  else
    match name.toList with
    | 'x' :: 'm' :: 'l' :: 'n' :: 's' :: ':' :: cs => some (String.ofList cs)
    | _ => none

/-- Why a prefix may not be bound to a namespace name. The default may be unbound, which the empty
name does. A name with a closing brace would not be told apart from the local name. -/
def bindingProblem? (label uri : String) : Option Problem :=
  if uri = "" ∧ label ≠ "" then some .undeclaredPrefix
  else if label = "xmlns" then some .reservedXmlns
  else if uri.toList.contains '}' then some .badSyntax
  else if label = "xml" ∧ uri ≠ xmlNamespace then some .reservedXml
  else if label ≠ "xml" ∧ uri = xmlNamespace then some .reservedNamespace
  else if uri = xmlnsNamespace then some .reservedNamespace
  else none

/-- The prefix and the local part of a name. -/
def splitName (name : String) : Option (String × String) :=
  let cs := name.toList
  let front := cs.takeWhile (· ≠ ':')
  match cs.drop front.length with
  | [] => none
  | _ :: back => some (String.ofList front, String.ofList back)

def fullName (uri part : String) : String :=
  "\x7b" ++ uri ++ "\x7d" ++ part

namespace Scope

def namespace? (scope : Scope) (label : String) : Option String :=
  (scope.lookup label).bind fun uri => if uri = "" then none else some uri

/-- The full names of a tag's attributes, in order. Two names may be the same only after expansion,
and only if both are prefixed. -/
def expandAttributes (scope : Scope) (seen : List String) :
    Attributes → Except Problem Attributes
  | [] => return []
  | (name, value) :: rest =>
    match splitName name with
    | none => return (name, value) :: (← expandAttributes scope seen rest)
    | some (label, part) =>
      match scope.namespace? label with
      | none => throw .unboundPrefix
      | some uri =>
        let full := fullName uri part
        if seen.contains full then throw .duplicateAttribute
        else return (full, value) :: (← expandAttributes scope (full :: seen) rest)

/-- The full name of an element. -/
def expandName (scope : Scope) (name : String) : Except Problem String :=
  match splitName name with
  | some (label, part) =>
    match scope.namespace? label with
    | none => throw .unboundPrefix
    | some uri => return fullName uri part
  | none =>
    match scope.namespace? "" with
    | none => return name
    | some uri => return fullName uri name

/-- The full names of a tag. -/
def expand (scope : Scope) (name : String) (attributes : Attributes) :
    Except Problem (String × Attributes) := do
  let attributes ← scope.expandAttributes [] attributes
  return (← scope.expandName name, attributes)

end Scope

end Pamphlet.Markup
