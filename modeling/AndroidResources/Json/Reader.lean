import AndroidResources.Json.Basic
import AndroidResources.Json.Token

/-!
# Reading JSON

A document is one value with nothing behind it. Values nest in at most as many steps as there are
words, twice over: one step for a list and one for its first item.
-/
namespace AndroidResources.Json

mutual

/-- The value at the front of a list of words. -/
def value? : (fuel : Nat) → List Token → Option (Json × List Token)
  | 0, _ => none
  | _ + 1, [] => none
  | fuel + 1, token :: rest =>
    match token with
    | .null => some (.null,rest)
    | .bool b => some (.bool b,rest)
    | .integer n => some (.integer n,rest)
    | .decimal negative significand exponent => some (.decimal negative significand exponent,rest)
    | .text s => some (.string s,rest)
    | .brokenText => some (.malformed,rest)
    | .hugeNumber => some (.malformed,rest)
    | .openArray =>
      match rest with
      | .closeArray :: rest => some (.array [],rest)
      | rest => (items? fuel rest).map fun (items,rest) => (.array items,rest)
    | .openObject =>
      match rest with
      | .closeObject :: rest => some (.object [],rest)
      | rest => (members? fuel rest).map fun (members,rest) =>
        ((members.map Json.object).getD .malformed,rest)
    | _ => none

/-- The items of an array up to its end, of which there is at least one. -/
def items? : (fuel : Nat) → List Token → Option (List Json × List Token)
  | 0, _ => none
  | fuel + 1, tokens =>
    match value? fuel tokens with
    | some (item,.comma :: rest) => (items? fuel rest).map fun (items,rest) => (item :: items,rest)
    | some (item,.closeArray :: rest) => some ([item],rest)
    | _ => none

/-- The members of an object up to its end, of which there is at least one. A broken name spoils the
    whole object. -/
def members? : (fuel : Nat) → List Token → Option (Option (List (String × Json)) × List Token)
  | fuel + 1, .text name :: .colon :: tokens =>
    match value? fuel tokens with
    | some (value,.comma :: rest) =>
      (members? fuel rest).map fun (members,rest) => (members.map ((name,value) :: ·),rest)
    | some (value,.closeObject :: rest) => some (some [(name,value)],rest)
    | _ => none
  | fuel + 1, .brokenText :: .colon :: tokens =>
    match value? fuel tokens with
    | some (_,.comma :: rest) => (members? fuel rest).map fun (_,rest) => (none,rest)
    | some (_,.closeObject :: rest) => some (none,rest)
    | _ => none
  | _, _ => none

end

/-- The value that a list of words writes. -/
def ofTokens? (tokens : List Token) : Option Json :=
  match value? (2 * tokens.length) tokens with
  | some (value,[]) => some value
  | _ => none

/-- The value that a document writes. -/
def parse? (s : String) : Option Json :=
  (tokens? s).bind ofTokens?

end AndroidResources.Json
