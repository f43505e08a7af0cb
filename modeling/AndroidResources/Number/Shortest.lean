import AndroidResources.Number.Binary

/-!
# Shortest decimals

The text of a floating point number has the fewest digits that are nearer to it than to any other
number of its format, and of those the nearest ones. It is always written out in full: no exponent,
and no point after a whole number.
-/
namespace AndroidResources.Number

/-- The interval of decimals that read back as a number, all three over one denominator. -/
structure Interval where
  low : Nat
  value : Nat
  high : Nat
  den : Nat
  /-- Whether the ends read back as the number too. -/
  closed : Bool

/-- The decimals that read back as `mantissa * 2 ^ exponent`. Below a power of two the next number
    is half as far away. -/
def Interval.ofFinite (f : Format) (mantissa : Nat) (exponent : Int) : Interval :=
  let below := if mantissa = Nat.pow 2 (f.precision - 1) ∧ f.minExponent < exponent then 1 else 2
  let scaled (n : Nat) := scaledRatio n 1 (2 - exponent)
  { low := (scaled (4 * mantissa - below)).1
    value := (scaled (4 * mantissa)).1
    high := (scaled (4 * mantissa + 2)).1
    den := (scaled 1).2
    closed := mantissa % 2 = 0 }

/-- Whether `n / den` lies in the interval. -/
def Interval.holds (i : Interval) (n : Nat) : Bool :=
  if i.closed then i.low ≤ n && n ≤ i.high else i.low < n && n < i.high

/-- The multiple of `10 ^ place` in the interval that is nearest to the value, as a factor. -/
def Interval.nearest? (i : Interval) (place : Int) : Option Nat :=
  let unit := Nat.pow 10 (-place).toNat
  let step := i.den * Nat.pow 10 place.toNat
  let fine : Interval := { i with low := i.low * unit, value := i.value * unit, high := i.high * unit }
  let floor := fine.value / step
  let down := fine.holds (floor * step)
  let up := fine.holds ((floor + 1) * step)
  if up && (!down || step ≤ 2 * (fine.value % step)) then some (floor + 1)
  else if down then some floor
  else none

/-- Significant digits and the place of the last one: the coarsest place that has a hit. -/
def Interval.shortest (i : Interval) : Nat × Int :=
  let whole := (Nat.toDigits 10 (i.value / i.den)).length
  let places := (List.range (whole + i.den.log2 + 2)).map fun (k : Nat) => (whole : Int) - k
  (places.findSome? fun place => (i.nearest? place).map fun digits => (digits,place)).getD (0,0)

/-- `digits * 10 ^ place` in positional notation. -/
def positional (digits : Nat) (place : Int) : String :=
  match place with
  | .ofNat zeros => String.ofList (Nat.toDigits 10 digits ++ List.replicate zeros '0')
  | .negSucc p =>
    let shown := Nat.toDigits 10 digits
    let padded := List.replicate (p + 2 - shown.length) '0' ++ shown
    String.ofList (padded.take (padded.length - (p + 1)) ++ '.' :: padded.drop (padded.length - (p + 1)))

/-- The shortest text that reads back as the number in its format. -/
def Binary.text (f : Format) : Binary → String
  | .nan => "NaN"
  | .infinite negative => if negative then "-inf" else "inf"
  | .finite negative mantissa exponent =>
    let shown := if mantissa = 0 then "0"
      else
        let shortest := (Interval.ofFinite f mantissa exponent).shortest
        positional shortest.1 shortest.2
    if negative then "-" ++ shown else shown

end AndroidResources.Number
