import AndroidResources.Configuration.Changes

/-!
# Preference between definitions

Of two definitions that suit a device, the one is better that wins the first stage on which they
differ. A stage looks at one qualifier of both definitions and of the device.
-/
namespace AndroidResources

namespace Density

/-- What an unset density counts as. -/
def medium : Nat := 160

/-- The density of definitions that can be drawn at any size. -/
def any : Nat := 0xfffe

/-- The density of definitions that are not scaled. -/
def fixed : Nat := 0xffff

/-- A density, or the one that it counts as when it is unset. -/
def effective (density : Nat) : Nat :=
  if density = 0 then medium else density

/-- The density that definitions are measured against. -/
def target (requested : Nat) : Nat :=
  if requested = 0 ∨ requested = any ∨ requested = fixed then medium else requested

/-- The distance between two densities. -/
def distance (a b : Nat) : Nat :=
  (a - b) + (b - a)

/-- Compares two densities for a device, the greater one being preferred: `any` before all others and
    `fixed` behind them, then the nearer one, then the higher one. -/
def compare (mine other requested : Nat) : Ordering :=
  let mine := effective mine
  let other := effective other
  if mine = other then .eq
  else if mine = any then .gt
  else if other = any then .lt
  else if mine = fixed then .lt
  else if other = fixed then .gt
  else
    let target := target requested
    (Ord.compare (distance other target) (distance mine target)).then (Ord.compare mine other)

end Density

namespace Configuration

/-- A way to prefer one of two definitions: whether the first is better, if it tells them apart. -/
abbrev Stage := Configuration → Configuration → Option Bool

namespace Stage

/-- A set qualifier is better than an unset one, where the device sets it. -/
def present (read : Configuration → Nat) (device : Configuration) : Stage := fun a b =>
  if read a ≠ read b ∧ read device ≠ 0 then some (read a ≠ 0) else none

/-- A greater qualifier is better, where the device sets it. -/
def greater (read : Configuration → Nat) (device : Configuration) : Stage := fun a b =>
  if read a ≠ read b ∧ read device ≠ 0 then some (read b < read a) else none

/-- A region only counts where the device has a language. -/
def region (device : Configuration) : Stage := fun a b =>
  if device.hasLocale then present (·.region.toNat) device a b else none

/-- How far a definition's extents fall short of the device's, over the extents that the device sets. -/
def shortfall (read : Configuration → Nat × Nat) (device c : Configuration) : Int :=
  let part (want held : Nat) : Int := if want = 0 then 0 else want - held
  part (read device).1 (read c).1 + part (read device).2 (read c).2

/-- A smaller shortfall is better. -/
def closer (read : Configuration → Nat × Nat) (device : Configuration) : Stage := fun a b =>
  let mine := shortfall read device a
  let other := shortfall read device b
  if mine ≠ other then some (mine < other) else none

/-- A greater screen size is better. An unset one counts as normal on screens of at least that size, and
    is worse than a normal one that is set. -/
def screenSize (device : Configuration) : Stage := fun a b =>
  let implied (size : Nat) : Nat := if size = 0 ∧ 2 ≤ device.screenSize.toNat then 2 else size
  let mine := a.screenSize.toNat
  let other := b.screenSize.toNat
  if mine ≠ other ∧ device.screenSize ≠ 0 then
    if implied mine = implied other then some (mine ≠ 0) else some (implied other < implied mine)
  else none

/-- The nearer density is better. -/
def density (device : Configuration) : Stage := fun a b =>
  match Density.compare a.density.toNat b.density.toNat device.density.toNat with
  | .gt => some true
  | .lt => some false
  | .eq => none

/-- Of two different settings of hidden keys the one of the device is better. -/
def keysHidden (device : Configuration) : Stage := fun a b =>
  let mine := a.keysHidden
  let other := b.keysHidden
  if mine ≠ other ∧ device.keysHidden ≠ 0 then
    if mine = 0 then some false
    else if other = 0 then some true
    else if mine = device.keysHidden then some true
    else if other = device.keysHidden then some false
    else none
  else none

end Stage

/-- All stages for a device, the most important first. -/
def stages (device : Configuration) : List Stage :=
  [.present (·.mobileCountry.toNat) device,
    .present (·.mobileNetwork.toNat) device,
    .present (·.language.toNat) device,
    .region device,
    .present (·.gender.toNat) device,
    .greater (·.direction.toNat) device,
    .greater (·.smallestWidth.toNat) device,
    .closer (fun c => (c.width.toNat,c.height.toNat)) device,
    .screenSize device,
    .present (·.screenLength.toNat) device,
    .present (·.roundness.toNat) device,
    .present (·.dynamicRange.toNat) device,
    .present (·.gamut.toNat) device,
    .present (·.orientation.toNat) device,
    .present (·.uiType.toNat) device,
    .present (·.night.toNat) device,
    .density device,
    .present (·.touchscreen.toNat) device,
    .keysHidden device,
    .present (·.keyboard.toNat) device,
    .present (·.navigationHidden.toNat) device,
    .present (·.navigation.toNat) device,
    .closer (fun c => (c.pixelWidth.toNat,c.pixelHeight.toNat)) device,
    .greater (·.sdk.toNat) device,
    .present (·.minorVersion.toNat) device]

/-- Whether a definition for `a` is better than one for `b`; both are expected to suit the device. -/
def isBetter (a b device : Configuration) : Bool :=
  ((stages device).findSome? fun stage => stage a b).getD false

/-! ## Without a device -/

/-- Which groups of qualifiers are set, the most important first. -/
def setGroups (c : Configuration) : List Bool :=
  [c.mobileCountry ≠ 0,c.mobileNetwork ≠ 0,c.hasLocale,c.gender ≠ 0,c.direction ≠ 0,c.smallestWidth ≠ 0,
    c.width ≠ 0 ∨ c.height ≠ 0,c.screenSize ≠ 0,c.screenLength ≠ 0,c.roundness ≠ 0,c.colorMode ≠ 0,
    c.orientation ≠ 0,c.uiMode ≠ 0,c.density ≠ 0,c.touchscreen ≠ 0,c.input ≠ 0,c.keyboard ≠ 0,
    c.navigation ≠ 0,c.pixelWidth ≠ 0 ∨ c.pixelHeight ≠ 0,c.sdk ≠ 0]

/-- The groups that are set as a binary number. -/
def specificity (c : Configuration) : Nat :=
  c.setGroups.foldl (fun sum set => 2 * sum + set.toNat) 0

/-- Whether a configuration sets the more important groups. -/
def isMoreSpecific (a b : Configuration) : Bool :=
  !(a.diff b).isEmpty && b.specificity < a.specificity

end Configuration

end AndroidResources
