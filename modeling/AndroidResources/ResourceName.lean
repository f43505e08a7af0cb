import AndroidResources.Error

/-!
# Resource names

A name is an entry, with its type before a slash and its package before a colon where they are needed.
One `@` or `?` in front of it does not count.
-/
namespace AndroidResources

/-- What a name says of a resource. -/
structure NameParts where
  package : Option String
  type : Option String
  entry : String
  deriving DecidableEq

/-- The full name of a resource. -/
@[ext]
structure ResourceName where
  package : String
  type : String
  entry : String
  deriving DecidableEq

namespace ResourceName

/-- A full name as it is written. -/
def text (name : ResourceName) : String :=
  name.package ++ ":" ++ name.type ++ "/" ++ name.entry

/-- Whether a character may stand in a part of a name. -/
def allows (c : Char) : Bool :=
  c.isAlphanum || c == '_' || c == '.' || c == '-' || c == '$'

/-- Whether a text may be a part of a name. -/
def isPart (cs : List Char) : Bool :=
  cs ≠ [] && cs.all allows

end ResourceName

/-- The texts before and after the first separator. -/
def splitOnce? (separator : Char) (cs : List Char) : Option (List Char × List Char) :=
  match cs.dropWhile (· ≠ separator) with
  | [] => none
  | _ :: rest => some (cs.takeWhile (· ≠ separator),rest)

namespace NameParts

/-- A text without one sign in front of it. -/
def withoutSign : List Char → List Char
  | '@' :: rest => rest
  | '?' :: rest => rest
  | cs => cs

/-- The part before a separator, if there is one, and the rest. -/
def qualifierBefore (separator : Char) (cs : List Char) : Option (List Char) × List Char :=
  match splitOnce? separator cs with
  | some (before,rest) => (some before,rest)
  | none => (none,cs)

/-- Reads a name. -/
def ofText (s : String) : Except TableError NameParts :=
  let (package,rest) := qualifierBefore ':' (withoutSign s.toList)
  let (type,entry) := qualifierBefore '/' rest
  if ResourceName.isPart entry && package.all ResourceName.isPart && type.all ResourceName.isPart then
    .ok ⟨package.map String.ofList,type.map String.ofList,String.ofList entry⟩
  else .error (.invalidName s)

end NameParts

end AndroidResources
