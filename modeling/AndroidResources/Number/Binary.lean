/-!
# Binary floating point

A floating point number is its sign and `mantissa * 2 ^ exponent`. Rounding is done in exact
arithmetic on quotients of natural numbers, to the nearest number of a format and to the even
mantissa halfway between two.
-/
namespace AndroidResources.Number

/-- A binary interchange format. -/
structure Format where
  /-- Bits of a normal number's mantissa. -/
  precision : Nat
  /-- Exponent of the least positive number. -/
  minExponent : Int
  /-- Exponent of the greatest finite number's mantissa. -/
  maxExponent : Int

/-- Single precision. -/
def Format.single : Format := ⟨24,-149,104⟩

/-- Double precision. -/
def Format.double : Format := ⟨53,-1074,971⟩

/-- What the bits of a floating point number stand for. -/
inductive Binary where
  | nan
  | infinite (negative : Bool)
  | finite (negative : Bool) (mantissa : Nat) (exponent : Int)
  deriving DecidableEq

namespace Binary

/-- The number behind 32 bits of single precision. -/
def ofBits (bits : UInt32) : Binary :=
  let n := bits.toNat
  let negative := n / 0x80000000 == 1
  let biased : Nat := n / 0x800000 % 256
  let fraction : Nat := n % 0x800000
  if biased = 255 then
    if fraction = 0 then .infinite negative else .nan
  else if biased = 0 then .finite negative fraction (-149)
  else .finite negative (fraction + 0x800000) ((biased : Int) - 150)

/-- The bits of a number that belongs to a format. -/
def toBits (f : Format) : Binary → Nat
  | .nan => (Nat.pow 2 top - 1) * Nat.pow 2 (f.precision - 1) + Nat.pow 2 (f.precision - 2)
  | .infinite negative => sign negative + (Nat.pow 2 top - 1) * Nat.pow 2 (f.precision - 1)
  | .finite negative mantissa exponent =>
    sign negative + if mantissa < Nat.pow 2 (f.precision - 1) then mantissa
      else (exponent - f.minExponent).toNat * Nat.pow 2 (f.precision - 1) + mantissa
where
  top : Nat := (f.maxExponent - f.minExponent + 3).toNat.log2
  sign (negative : Bool) : Nat := if negative then Nat.pow 2 (top + f.precision - 1) else 0

end Binary

/-- `num * 2 ^ -exponent / den` as a quotient of natural numbers. -/
def scaledRatio (num den : Nat) (exponent : Int) : Nat × Nat :=
  if 0 ≤ exponent then (num,den * Nat.pow 2 exponent.toNat) else (num * Nat.pow 2 (-exponent).toNat,den)

/-- The natural number nearest to a quotient, the even one halfway between two. -/
def roundedRatio (num den : Nat) : Nat :=
  let floor := num / den
  let rest := 2 * (num % den)
  if rest < den then floor
  else if den < rest then floor + 1
  else floor + floor % 2

/-- The greatest `k` for which `2 ^ k` is at most a positive quotient. -/
def logRatio (num den : Nat) : Int :=
  let guess : Int := num.log2 - den.log2
  let scaled := scaledRatio num den guess
  if scaled.1 < scaled.2 then guess - 1 else guess

/-- The number of a format nearest to a quotient, infinite beyond the greatest one. -/
def Binary.ofRatio (f : Format) (negative : Bool) (num den : Nat) : Binary :=
  if num = 0 then .finite negative 0 f.minExponent
  else
    let exponent := max f.minExponent (logRatio num den - (f.precision - 1 : Nat))
    let scaled := scaledRatio num den exponent
    let mantissa := roundedRatio scaled.1 scaled.2
    let carried :=
      if mantissa = Nat.pow 2 f.precision then (Nat.pow 2 (f.precision - 1),exponent + 1) else (mantissa,exponent)
    if f.maxExponent < carried.2 then .infinite negative
    else .finite negative carried.1 carried.2

/-- The nearest number of a format to a given one divided by a natural number. -/
def Binary.dividedBy (f : Format) (divisor : Nat) : Binary → Binary
  | .finite negative mantissa exponent =>
    let scaled := scaledRatio mantissa divisor (-exponent)
    .ofRatio f negative scaled.1 scaled.2
  | other => other

end AndroidResources.Number
