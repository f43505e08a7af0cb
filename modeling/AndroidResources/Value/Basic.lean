/-!
# Values

A value is 32 bits of data and a type that says what they mean.
-/
namespace AndroidResources

/-- What the data of a value mean. -/
inductive ValueType where
  /-- Nothing: undefined, or empty on purpose. -/
  | null
  /-- The id of another resource. -/
  | reference
  /-- The id of a theme attribute. -/
  | themeAttribute
  /-- A position in the string pool of the value's source. -/
  | string
  /-- A single precision number. -/
  | float
  /-- A complex number with a unit of length. -/
  | dimension
  /-- A complex number, relative to a container. -/
  | fraction
  | dynamicReference
  | dynamicAttribute
  /-- An integer that was written in decimal. -/
  | decimal
  /-- An integer that was written in hexadecimal. -/
  | hexadecimal
  | boolean
  /-- A colour, written with two digits for alpha, red, green and blue. -/
  | argb8
  | rgb8
  | argb4
  | rgb4
  | unknown (code : UInt8)
  deriving DecidableEq, Inhabited

namespace ValueType

/-- The number of a type. -/
def code : ValueType → UInt8
  | null => 0x00
  | reference => 0x01
  | themeAttribute => 0x02
  | string => 0x03
  | float => 0x04
  | dimension => 0x05
  | fraction => 0x06
  | dynamicReference => 0x07
  | dynamicAttribute => 0x08
  | decimal => 0x10
  | hexadecimal => 0x11
  | boolean => 0x12
  | argb8 => 0x1c
  | rgb8 => 0x1d
  | argb4 => 0x1e
  | rgb4 => 0x1f
  | unknown code => code

/-- The types that have a meaning. -/
def known : List ValueType :=
  [null,reference,themeAttribute,string,float,dimension,fraction,dynamicReference,dynamicAttribute,decimal,
    hexadecimal,boolean,argb8,rgb8,argb4,rgb4]

/-- The type with a number. -/
def ofCode (code : UInt8) : ValueType :=
  (known.find? fun type => type.code = code).getD (unknown code)

/-- The name of a type. -/
def name : ValueType → String
  | null => "Null"
  | reference => "Reference"
  | themeAttribute => "Attribute"
  | string => "String"
  | float => "Float"
  | dimension => "Dimension"
  | fraction => "Fraction"
  | dynamicReference => "DynamicReference"
  | dynamicAttribute => "DynamicAttribute"
  | decimal => "Dec"
  | hexadecimal => "Hex"
  | boolean => "Boolean"
  | argb8 => "ColorArgb8"
  | rgb8 => "ColorRgb8"
  | argb4 => "ColorArgb4"
  | rgb4 => "ColorRgb4"
  | unknown code => "Unknown(" ++ Nat.repr code.toNat ++ ")"

/-- Whether values of a type can be read as integers. -/
def isInteger (type : ValueType) : Bool :=
  0x10 ≤ type.code && type.code ≤ 0x1f

/-- Whether values of a type are colours. -/
def isColor (type : ValueType) : Bool :=
  0x1c ≤ type.code && type.code ≤ 0x1f

theorem code_ofCode (n : UInt8) : (ofCode n).code = n := by
  unfold ofCode
  cases found : known.find? fun type => type.code = n with
  | none => simp [code]
  | some type => simpa using List.find?_some found

end ValueType

/-- A typed value. -/
structure Value where
  type : ValueType
  data : UInt32
  deriving DecidableEq, Inhabited

namespace Value

/-- No value at all. -/
def undefined : Value := ⟨.null,0⟩

/-- A value that is empty on purpose. -/
def empty : Value := ⟨.null,1⟩

def reference (id : UInt32) : Value := ⟨.reference,id⟩
def themeAttribute (id : UInt32) : Value := ⟨.themeAttribute,id⟩

/-- A truth value; true has every bit set. -/
def boolean (b : Bool) : Value := ⟨.boolean,if b then 0xffffffff else 0⟩

/-- Whether a value is null and not empty on purpose. -/
def isUndefined (v : Value) : Bool := v.type = .null && v.data ≠ 1

/-- Whether a value refers to no resource. -/
def isNullReference (v : Value) : Bool := v.type = .reference && v.data = 0

/-- The data of a value as a signed integer. -/
def toInt (v : Value) : Int := v.data.toInt32.toInt

end Value

end AndroidResources
