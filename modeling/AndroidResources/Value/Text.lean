import AndroidResources.StringPool
import AndroidResources.Text.Digits
import AndroidResources.Value.Basic
import AndroidResources.Value.Complex

/-!
# The text of a value

Values are written the way they are read, as far as there is such a way.
-/
namespace AndroidResources

/-- The units of dimensions by number. -/
def dimensionUnits : List String := ["px","dip","sp","pt","in","mm"]

/-- The units of fractions by number: of a container, or of its parent. -/
def fractionUnits : List String := ["%","%p"]

namespace Value

/-- An id behind its sign; the platform's package is named. -/
def idText (sign : String) (id : UInt32) : String :=
  sign ++ (if id >>> 24 = 1 then "android:" else "") ++ Text.hexId id

/-- A number of complex data, a factor applied, with the unit of that number from a list. -/
def complexText (units : List String) (factor : Nat) (data : UInt32) : String :=
  (Complex.toBinary data factor).text .double ++ units.getD (Complex.unit data) ""

/-- The text of a value, with strings as their position in a pool. -/
def rawText (v : Value) : String :=
  match v.type with
  | .null => if v.data = 1 then "@empty" else "@undefined"
  | .reference => if v.data = 0 then "@null" else idText "@" v.data
  | .dynamicReference => idText "@" v.data
  | .themeAttribute | .dynamicAttribute => idText "?" v.data
  | .string => "<string #" ++ Nat.repr v.data.toNat ++ ">"
  | .float => (Number.Binary.ofBits v.data).text .single
  | .dimension => complexText dimensionUnits 1 v.data
  | .fraction => complexText fractionUnits 100 v.data
  | .decimal => Text.signedDecimal v.toInt
  | .hexadecimal => Text.hexId v.data
  | .boolean => if v.data = 0 then "false" else "true"
  | .argb8 | .rgb8 | .argb4 | .rgb4 => "#" ++ Text.hex 8 v.data.toNat
  | .unknown _ => "<0x" ++ Text.hexShort v.data.toNat ++ ", type " ++ v.type.name ++ ">"

/-- The text of a value whose strings are in a pool; a position beyond the pool has no text. -/
def text (v : Value) (pool : StringPool) : String :=
  if v.type = .string then (pool.get? v.data).getD "" else v.rawText

end Value

end AndroidResources
