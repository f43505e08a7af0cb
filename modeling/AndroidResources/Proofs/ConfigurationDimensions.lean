import AndroidResources.Configuration.Changes
import AndroidResources.Configuration.Match

/-!
# Configurations by dimensions

Whether a definition suits a device is decided dimension by dimension (`Configuration.suits_iff`), and in each
of them by what the dimension sees of both (`Dimension.admits_congr`).
-/
namespace AndroidResources

/-- A device has a locale where its language has a number. -/
theorem Configuration.hasLocale_iff {c : Configuration} : c.hasLocale ↔ c.language.toNat ≠ 0 := by
  rcases c with ⟨_,_,⟨first,second⟩⟩
  simp only [hasLocale,LocaleCode.toNat,LocaleCode.unset,decide_eq_true_eq,ne_eq,LocaleCode.mk.injEq,
    ← UInt8.toNat_inj,UInt8.toNat_zero]
  omega

namespace Dimension

/-! ## Readings -/

/-- Whether a part of the configuration is determined by what a dimension sees. -/
def Sees {α : Type} (d : Dimension) (read : Configuration → α) : Prop :=
  ∀ a b, d.view a = d.view b → read a = read b

theorem sees_of {α : Type} {d : Dimension} {read : Configuration → α} (ofView : List Nat → α)
    (same : ∀ c, read c = ofView (d.view c)) : d.Sees read := by
  intro a b views
  rw [same,same,views]

/-- The part of the configuration at a position of what a dimension sees. -/
theorem sees_at {d : Dimension} {read : Configuration → Nat} (position : Nat)
    (same : ∀ c, read c = (d.view c).getD position 0) : d.Sees read :=
  sees_of (fun view => view.getD position 0) same

/-- The bits of a field that is seen as a whole. -/
theorem sees_masked {d : Dimension} {read : Configuration → Nat} (mask : Nat)
    (same : ∀ c, read c = (d.view c).headD 0 &&& mask) : d.Sees read :=
  sees_of (fun view => view.headD 0 &&& mask) same

theorem sees_screenSize : screenLayout.Sees (·.screenSize.toNat) :=
  sees_masked 0x0f fun c => by simp [view,Configuration.screenSize,Nat.and_assoc]

theorem sees_screenLength : screenLayout.Sees (·.screenLength.toNat) :=
  sees_masked 0x30 fun c => by simp [view,Configuration.screenLength,Nat.and_assoc]

theorem sees_gamut : colorMode.Sees (·.gamut.toNat) :=
  sees_masked 0x03 fun c => by simp [view,Configuration.gamut]

theorem sees_dynamicRange : colorMode.Sees (·.dynamicRange.toNat) :=
  sees_masked 0x0c fun c => by simp [view,Configuration.dynamicRange]

theorem sees_uiType : uiMode.Sees (·.uiType.toNat) :=
  sees_masked 0x0f fun c => by simp [view,Configuration.uiType]

theorem sees_night : uiMode.Sees (·.night.toNat) :=
  sees_masked 0x30 fun c => by simp [view,Configuration.night]

theorem sees_language : locale.Sees (·.language.toNat) := sees_at 0 fun _ => rfl

theorem sees_region : locale.Sees (·.region.toNat) := sees_at 1 fun _ => rfl

theorem sees_hasLocale : locale.Sees Configuration.hasLocale := by
  intro a b views
  have same : a.language.toNat = b.language.toNat := sees_language a b views
  rw [Bool.eq_iff_iff,Configuration.hasLocale_iff,Configuration.hasLocale_iff,same]

/-! ## Suiting a device -/

section
open AndroidResources.Configuration (demands agrees fits keysAgree)

/-- Whether the qualifiers of a dimension fit the device. -/
def admits (c device : Configuration) : Dimension → Bool
  | mobileCountry => demands c.mobileCountry.toNat device.mobileCountry.toNat
  | mobileNetwork => demands c.mobileNetwork.toNat device.mobileNetwork.toNat
  | locale => demands c.language.toNat device.language.toNat && demands c.region.toNat device.region.toNat
  | touchscreen => agrees c.touchscreen.toNat device.touchscreen.toNat
  | keyboard => agrees c.keyboard.toNat device.keyboard.toNat
  | keyboardHidden =>
    keysAgree c.keysHidden.toNat device.keysHidden.toNat &&
      agrees c.navigationHidden.toNat device.navigationHidden.toNat
  | navigation => agrees c.navigation.toNat device.navigation.toNat
  | orientation => agrees c.orientation.toNat device.orientation.toNat
  | density => true
  | screenSize =>
    fits c.width.toNat device.width.toNat && fits c.height.toNat device.height.toNat &&
      fits c.pixelWidth.toNat device.pixelWidth.toNat && fits c.pixelHeight.toNat device.pixelHeight.toNat
  | version => fits c.sdk.toNat device.sdk.toNat && demands c.minorVersion.toNat device.minorVersion.toNat
  | screenLayout =>
    fits c.screenSize.toNat device.screenSize.toNat && agrees c.screenLength.toNat device.screenLength.toNat
  | uiMode => agrees c.uiType.toNat device.uiType.toNat && agrees c.night.toNat device.night.toNat
  | smallestScreenSize => fits c.smallestWidth.toNat device.smallestWidth.toNat
  | direction => agrees c.direction.toNat device.direction.toNat
  | screenRound => agrees c.roundness.toNat device.roundness.toNat
  | colorMode => agrees c.dynamicRange.toNat device.dynamicRange.toNat && agrees c.gamut.toNat device.gamut.toNat
  | gender => demands c.gender.toNat device.gender.toNat

end

/-- Only what a dimension sees of a definition and of the device counts for it. -/
theorem admits_congr {d : Dimension} {c c' device device' : Configuration} (definitions : d.view c = d.view c')
    (devices : d.view device = d.view device') : d.admits c device = d.admits c' device' := by
  have same {read : Configuration → Nat} (sees : d.Sees read) : read c = read c' ∧ read device = read device' :=
    ⟨sees c c' definitions,sees device device' devices⟩
  cases d with
  | screenLayout => simp only [admits,same sees_screenSize,same sees_screenLength]
  | uiMode => simp only [admits,same sees_uiType,same sees_night]
  | colorMode => simp only [admits,same sees_dynamicRange,same sees_gamut]
  | density => rfl
  | _ =>
    simp only [view,List.cons.injEq,and_true] at definitions devices
    simp only [admits,definitions,devices]

end Dimension

/-- A definition suits a device when each dimension admits it. -/
theorem Configuration.suits_iff {c device : Configuration} : c.suits device ↔ ∀ d, Dimension.admits c device d := by
  constructor
  · intro usable d
    simp only [suits,Bool.and_eq_true] at usable
    cases d <;> simp [Dimension.admits,usable]
  · intro admitted
    have all := fun d (_ : d ∈ Dimension.all) => admitted d
    simp only [Dimension.all,List.forall_mem_cons,Dimension.admits,Bool.and_eq_true] at all
    simp [Configuration.suits,all]

end AndroidResources
