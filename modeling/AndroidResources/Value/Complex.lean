import AndroidResources.Number.Shortest

/-!
# Complex numbers

The data of dimensions and fractions: from the lowest bit, a unit in four bits, a radix in two bits that
says where the point stands, two clear bits and a signed mantissa in twenty-four bits.
-/
namespace AndroidResources.Complex

open Number (Binary Format)

/-- How many of the mantissa's bits stand behind the point, by radix. -/
def fractionBits : Nat → Nat
  | 0 => 0
  | 1 => 7
  | 2 => 15
  | _ => 23

/-- The radix of complex data. -/
def radix (data : UInt32) : Nat :=
  data.toNat / 16 % 4

/-- The unit of complex data. -/
def unit (data : UInt32) : Nat :=
  data.toNat % 16

/-- The mantissa of complex data, in two's complement. -/
def mantissa (data : UInt32) : Int :=
  Int.bmod (data.toNat / 256) 0x1000000

/-- Complex data as a quotient: the number is `(ratio data).1 / (ratio data).2`. -/
def ratio (data : UInt32) : Int × Nat :=
  (mantissa data,Nat.pow 2 (fractionBits (radix data)))

/-- A multiple of complex data in double precision, which holds it exactly. -/
def toBinary (data : UInt32) (factor : Nat) : Binary :=
  .ofRatio .double (mantissa data < 0) ((ratio data).1.natAbs * factor) (ratio data).2

/-! ## Encoding -/

/-- The radix for a magnitude in units of `2 ^ -23`, with the number of bits that the mantissa loses:
    none behind the point for whole numbers, else as many as leave room for those before it. -/
def placement (scaled : Nat) : Nat × Nat :=
  if scaled % 0x800000 = 0 then (0,23)
  else if scaled < 0x800000 then (3,0)
  else if scaled < 0x80000000 then (2,8)
  else if scaled < 0x8000000000 then (1,16)
  else (0,23)

/-- Complex data without unit for a magnitude in units of `2 ^ -23` and a sign. -/
def pack (negative : Bool) (scaled : Nat) : UInt32 :=
  let (radix,lost) := placement scaled
  let magnitude := scaled / Nat.pow 2 lost % 0x1000000
  let mantissa := if negative then (0x1000000 - magnitude) % 0x1000000 else magnitude
  .ofNat (mantissa * 256 + radix * 16)

/-- The magnitude of a number in units of `2 ^ -23`, the half rounded up, and at most 64 bits of it. -/
def scaled : Binary → Nat
  | .nan => 0
  | .infinite _ => 0xffffffffffffffff
  | .finite _ mantissa exponent =>
    let ratio := Number.scaledRatio mantissa 1 (-(exponent + 23))
    min ((2 * ratio.1 + ratio.2) / (2 * ratio.2)) 0xffffffffffffffff

/-- Whether a number is below zero. -/
def isNegative : Binary → Bool
  | .nan => false
  | .infinite negative => negative
  | .finite negative mantissa _ => negative && mantissa ≠ 0

/-- Complex data without unit for a number. -/
def encode (n : Binary) : UInt32 :=
  pack (isNegative n) (scaled n)

end AndroidResources.Complex
