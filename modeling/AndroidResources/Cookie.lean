/-!
# Cookies

A cookie names a source of a registry for as long as the registry keeps its list of sources. Outside the
library cookies count from one, and what is not positive names no source.
-/
namespace AndroidResources

/-- The name of an installed source. -/
structure Cookie where
  number : UInt32
  deriving DecidableEq, Inhabited

namespace Cookie

/-- No source. -/
def invalid : Cookie := ⟨0xffffffff⟩

/-- Whether a cookie may name a source. -/
def isValid (c : Cookie) : Bool := c ≠ invalid

instance : Ord Cookie where
  compare a b := compare a.number b.number

/-- The form of a cookie outside the library, -1 for those that have none. -/
def toExternal (c : Cookie) : Int :=
  if c.isValid && c.number.toNat < 0x7fffffff then c.number.toNat + 1 else -1

/-- The cookie behind its form outside the library. -/
def ofExternal (n : Int) : Cookie :=
  if 0 < n then ⟨.ofNat (n.toNat - 1)⟩ else invalid

end Cookie

end AndroidResources
