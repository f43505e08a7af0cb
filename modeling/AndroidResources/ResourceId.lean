/-!
# Resource ids

A resource id has a package, a type and an entry: one byte, one byte and two bytes. Packages and types
count from one, so an id that lacks either names nothing.
-/
namespace AndroidResources

/-- A resource id; zero stands for no resource. -/
abbrev ResourceId := UInt32

namespace ResourceId

/-- The id with the given parts. -/
def make (package type : UInt8) (entry : UInt16) : ResourceId :=
  entry.toUInt32 ||| (type.toUInt32 <<< 16) ||| (package.toUInt32 <<< 24)

def package (id : ResourceId) : UInt8 := (id >>> 24).toUInt8
def type (id : ResourceId) : UInt8 := (id >>> 16).toUInt8
def entry (id : ResourceId) : UInt16 := id.toUInt16

/-- Whether an id has a package and a type. -/
def isValid (id : ResourceId) : Bool :=
  id.package ≠ 0 && id.type ≠ 0

/-- The key of an array's first item; the others follow in order. -/
def arrayBase : UInt32 := 0x02000000

end ResourceId

end AndroidResources
