import AndroidResources.Configuration.Basic

/-!
# Dimensions of change

Two configurations differ in some dimensions, and a resource varies over some dimensions. Where the
two sets are disjoint, the one change does not concern the other resource.
-/
namespace AndroidResources

/-- A part of the configuration that changes on its own. -/
inductive Dimension where
  | mobileCountry
  | mobileNetwork
  | locale
  | touchscreen
  | keyboard
  | keyboardHidden
  | navigation
  | orientation
  | density
  | screenSize
  | version
  | screenLayout
  | uiMode
  | smallestScreenSize
  | direction
  | screenRound
  | colorMode
  | gender
  deriving DecidableEq

namespace Dimension

/-- All dimensions, in the order in which they are listed. -/
def all : List Dimension :=
  [.mobileCountry,.mobileNetwork,.locale,.touchscreen,.keyboard,.keyboardHidden,.navigation,.orientation,
    .density,.screenSize,.version,.screenLayout,.uiMode,.smallestScreenSize,.direction,.screenRound,
    .colorMode,.gender]

/-- The bit of a dimension in a mask. -/
def bit : Dimension → UInt32
  | mobileCountry => 0x1
  | mobileNetwork => 0x2
  | locale => 0x4
  | touchscreen => 0x8
  | keyboard => 0x10
  | keyboardHidden => 0x20
  | navigation => 0x40
  | orientation => 0x80
  | density => 0x100
  | screenSize => 0x200
  | version => 0x400
  | screenLayout => 0x800
  | uiMode => 0x1000
  | smallestScreenSize => 0x2000
  | direction => 0x4000
  | screenRound => 0x8000
  | colorMode => 0x10000
  | gender => 0x20000

/-- How a dimension is listed. -/
def name : Dimension → String
  | mobileCountry => "mcc"
  | mobileNetwork => "mnc"
  | locale => "locale"
  | touchscreen => "touchscreen"
  | keyboard => "keyboard"
  | keyboardHidden => "keyboard_hidden"
  | navigation => "navigation"
  | orientation => "orientation"
  | density => "density"
  | screenSize => "screen_size"
  | version => "version"
  | screenLayout => "screen_layout"
  | uiMode => "ui_mode"
  | smallestScreenSize => "smallest_screen_size"
  | direction => "layoutdir"
  | screenRound => "screen_round"
  | colorMode => "color_mode"
  | gender => "grammatical_gender"

/-- What a dimension sees of a configuration. -/
def view (c : Configuration) : Dimension → List Nat
  | mobileCountry => [c.mobileCountry.toNat]
  | mobileNetwork => [c.mobileNetwork.toNat]
  | locale => [c.language.toNat,c.region.toNat]
  | touchscreen => [c.touchscreen.toNat]
  | keyboard => [c.keyboard.toNat]
  | keyboardHidden => [c.keysHidden.toNat,c.navigationHidden.toNat]
  | navigation => [c.navigation.toNat]
  | orientation => [c.orientation.toNat]
  | density => [c.density.toNat]
  | screenSize => [c.pixelWidth.toNat,c.pixelHeight.toNat,c.width.toNat,c.height.toNat]
  | version => [c.sdk.toNat,c.minorVersion.toNat]
  | screenLayout => [(c.screenLayout &&& 0x3f).toNat]
  | uiMode => [c.uiMode.toNat]
  | smallestScreenSize => [c.smallestWidth.toNat]
  | direction => [c.direction.toNat]
  | screenRound => [c.roundness.toNat]
  | colorMode => [c.colorMode.toNat]
  | gender => [c.gender.toNat]

theorem mem_all (d : Dimension) : d ∈ all := by
  cases d <;> decide

end Dimension

/-- A set of dimensions. -/
@[ext]
structure Changes where
  includes : Dimension → Bool

namespace Changes

/-- No dimension. -/
def none : Changes := ⟨fun _ => false⟩

/-- One dimension. -/
def only (d : Dimension) : Changes := ⟨fun e => e = d⟩

/-- The dimensions of either set. -/
def union (a b : Changes) : Changes := ⟨fun d => a.includes d || b.includes d⟩

/-- The dimensions of a set in the order in which they are listed. -/
def toList (c : Changes) : List Dimension := Dimension.all.filter c.includes

/-- Whether two sets share a dimension. -/
def intersects (a b : Changes) : Bool := Dimension.all.any fun d => a.includes d && b.includes d

/-- Whether a set has no dimension. -/
def isEmpty (c : Changes) : Bool := !Dimension.all.any c.includes

/-- A set as a mask. -/
def bits (c : Changes) : UInt32 := c.toList.foldl (fun mask d => mask ||| d.bit) 0

theorem intersects_iff {a b : Changes} : a.intersects b ↔ ∃ d, a.includes d ∧ b.includes d := by
  simp [intersects,Dimension.mem_all]

theorem isEmpty_iff {c : Changes} : c.isEmpty ↔ c = none := by
  simp [isEmpty,none,Changes.ext_iff,funext_iff,Dimension.mem_all]

end Changes

/-- The dimensions in which two configurations differ. -/
def Configuration.diff (a b : Configuration) : Changes :=
  ⟨fun d => d.view a ≠ d.view b⟩

end AndroidResources
