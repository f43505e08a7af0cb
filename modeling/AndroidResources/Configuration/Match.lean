import AndroidResources.Configuration.Basic

/-!
# Usable definitions

A definition is usable on a device when each of its qualifiers fits the device. Density never rules a
definition out: densities can be scaled.
-/
namespace AndroidResources.Configuration

/-- A qualifier that the device has to share when the definition sets it. -/
def demands (mine theirs : Nat) : Bool :=
  mine = 0 || mine = theirs

/-- A qualifier that must not contradict the device. -/
def agrees (mine theirs : Nat) : Bool :=
  mine = 0 || theirs = 0 || mine = theirs

/-- A size that must not be greater than that of the device. -/
def fits (mine theirs : Nat) : Bool :=
  mine = 0 || theirs = 0 || mine ≤ theirs

/-- Hidden keys agree also where the definition wants exposed keys and the device has soft ones. -/
def keysAgree (mine theirs : Nat) : Bool :=
  agrees mine theirs || (mine = 1 && theirs = 3)

/-- Whether a definition for `c` is usable on `device`. -/
def suits (c device : Configuration) : Bool :=
  demands c.mobileCountry.toNat device.mobileCountry.toNat &&
  demands c.mobileNetwork.toNat device.mobileNetwork.toNat &&
  demands c.language.toNat device.language.toNat &&
  demands c.region.toNat device.region.toNat &&
  demands c.gender.toNat device.gender.toNat &&
  agrees c.direction.toNat device.direction.toNat &&
  fits c.screenSize.toNat device.screenSize.toNat &&
  agrees c.screenLength.toNat device.screenLength.toNat &&
  agrees c.roundness.toNat device.roundness.toNat &&
  agrees c.dynamicRange.toNat device.dynamicRange.toNat &&
  agrees c.gamut.toNat device.gamut.toNat &&
  agrees c.uiType.toNat device.uiType.toNat &&
  agrees c.night.toNat device.night.toNat &&
  fits c.smallestWidth.toNat device.smallestWidth.toNat &&
  fits c.width.toNat device.width.toNat &&
  fits c.height.toNat device.height.toNat &&
  agrees c.orientation.toNat device.orientation.toNat &&
  agrees c.touchscreen.toNat device.touchscreen.toNat &&
  keysAgree c.keysHidden.toNat device.keysHidden.toNat &&
  agrees c.navigationHidden.toNat device.navigationHidden.toNat &&
  agrees c.keyboard.toNat device.keyboard.toNat &&
  agrees c.navigation.toNat device.navigation.toNat &&
  fits c.pixelWidth.toNat device.pixelWidth.toNat &&
  fits c.pixelHeight.toNat device.pixelHeight.toNat &&
  fits c.sdk.toNat device.sdk.toNat &&
  demands c.minorVersion.toNat device.minorVersion.toNat

end AndroidResources.Configuration
