/-!
# JSON values

A value as it stands in a document: the members of an object keep their order and may repeat a name.
-/
namespace AndroidResources

/-- A JSON value. -/
inductive Json where
  | null
  | bool (b : Bool)
  /-- A number written without point and exponent, `-0` excepted. -/
  | integer (n : Int)
  /-- Any other number: `significand * 10 ^ exponent` with its sign. -/
  | decimal (negative : Bool) (significand : Nat) (exponent : Int)
  | string (s : String)
  | array (items : List Json)
  | object (members : List (String × Json))
  /-- Text with half of a surrogate pair, or a number beyond double precision. It may stand where a
      value is skipped, and denotes nothing. -/
  | malformed
  deriving Inhabited

namespace Json

mutual

/-- How deep arrays and objects are nested in a value. -/
def depth : Json → Nat
  | .array items => depthItems items + 1
  | .object members => depthMembers members + 1
  | _ => 0

/-- The greatest depth among the items of an array. -/
def depthItems : List Json → Nat
  | [] => 0
  | item :: rest => max (depth item) (depthItems rest)

/-- The greatest depth among the members of an object. -/
def depthMembers : List (String × Json) → Nat
  | [] => 0
  | (_,value) :: rest => max (depth value) (depthMembers rest)

end

mutual

/-- Whether every part of a value denotes something. -/
def isProper : Json → Bool
  | .array items => properItems items
  | .object members => properMembers members
  | .malformed => false
  | _ => true

/-- Whether every item of an array is proper. -/
def properItems : List Json → Bool
  | [] => true
  | item :: rest => isProper item && properItems rest

/-- Whether every member of an object is proper. -/
def properMembers : List (String × Json) → Bool
  | [] => true
  | (_,value) :: rest => isProper value && properMembers rest

end

/-- The members of an object with a given name, in order. -/
def membersNamed (name : String) (members : List (String × Json)) : List Json :=
  members.filterMap fun (n,value) => if n = name then some value else none

end Json

end AndroidResources
