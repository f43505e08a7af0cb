import AndroidResources.Proofs.ThemeComposition

/-!
# Themes and their stacks

To rebase a theme is to apply its styles to a new theme. While a manager keeps its sources, its devices and its
default locale, each theme that comes about with it is the one that it composes of the theme's stack
(`Theme.Lives.eq_composed`), so that a theme is not changed by being rebased (`Theme.rebase_replays`).
-/
namespace AndroidResources

/-- The managers that come from one by questions, with its sources, devices and default locale as they are. -/
inductive Manager.Steady (m : Manager) : Manager → Prop
  | refl : Steady m m
  | ask {m' : Manager} (question : Question) : Steady m m' → Steady m (m'.asked question)
  | setLogging {m' : Manager} (logging : Bool) : Steady m m' → Steady m (m'.setLogging logging)

theorem Manager.Steady.asked {m m' : Manager} (steady : m.Steady m') : m.Asked m' := by
  induction steady with
  | refl => exact .refl m
  | ask question _ ih => exact ih.trans (asked_question _ question)
  | setLogging logging _ ih => exact ih.trans ⟨rfl,rfl,rfl,fun _ _ => Iff.rfl,fun _ _ => .inl⟩

namespace Theme
variable {m m' : Manager} {t : Theme}

/-- The themes that come about with a manager while it is steady. A theme of any past becomes one when it is
    rebased. -/
inductive Lives (m : Manager) : Theme → Prop
  | new {m' : Manager} : m.Steady m' → Lives m (.new m')
  | apply {t t' : Theme} {m' m'' : Manager} {applied : AppliedStyle} {found : Bool} : Lives m t → m.Steady m' →
      t.apply m' applied = .ok (found,t',m'') → Lives m t'
  | clear {t : Theme} : Lives m t → Lives m t.clear
  | rebase {m' : Manager} (t : Theme) (stack : Option (List AppliedStyle)) : m.Steady m' →
      Lives m (t.rebase m' stack).1
  | setTo {t t' other : Theme} {m' m'' : Manager} : Lives m t → Lives m other →
      t.setTo m' other m'' = .ok t' → Lives m t'

/-- A rebased theme is composed of its stack, whatever it was before. -/
theorem rebase_eq (asked : m.Asked m') (stack : Option (List AppliedStyle)) :
    (t.rebase m' stack).1 = composed m (stack.getD t.stack) := by
  unfold rebase composed new
  rw [replay_eq asked,asked.tag]
  exact foldl_add_stack (t := { owner := m.tag }) (stack.getD t.stack)

theorem clear_composed (styles : List AppliedStyle) : (composed m styles).clear = composed m [] := by
  unfold clear
  rw [composed_owner]
  rfl

theorem apply_composed (asked : m.Asked m') {styles : List AppliedStyle} {applied : AppliedStyle} {found : Bool}
    {t' : Theme} {m'' : Manager} (applies : (composed m styles).apply m' applied = .ok (found,t',m'')) :
    t' = composed m (styles ++ [applied]) := by
  rw [composed_concat]
  exact (apply_ok asked applies).2.1

/-- A copy of a theme of the same manager is that theme. -/
theorem setTo_of_owner {other t' : Theme} {m'' : Manager} (same : t.owner = other.owner)
    (copies : t.setTo m' other m'' = .ok t') : t' = other := by
  obtain ⟨_,_,rfl⟩ := setTo_ok copies
  rw [if_pos same,same]

theorem Lives.eq_composed (lives : Lives m t) : t = composed m t.stack := by
  induction lives with
  | @new m' steady =>
    unfold Theme.new composed
    rw [steady.asked.tag]
    rfl
  | @apply t t' _ _ applied _ _ steady applies ih =>
    rw [ih] at applies
    have result := apply_composed steady.asked applies
    rw [result]
    rfl
  | @clear t _ ih =>
    rw [ih]
    exact clear_composed t.stack
  | rebase t stack steady =>
    rw [rebase_eq steady.asked]
    rfl
  | @setTo t t' other _ _ _ _ copies ih other_ih =>
    have owner : t.owner = other.owner := by rw [ih,other_ih,composed_owner,composed_owner]
    rw [setTo_of_owner owner copies]
    exact other_ih

/-- A theme of any past, rebased on a manager, is a new theme to which its stack was applied. A theme that comes
    about with a steady manager is that already, and is left by being rebased as it is. -/
theorem rebase_replays (m : Manager) :
    (∀ (t : Theme) (stack : Option (List AppliedStyle)), (t.rebase m stack).1.owner = m.tag ∧
      (t.rebase m stack).1.stack = stack.getD t.stack ∧
      ∀ m', m.Steady m' → ∃ m'', (new m').applyAll m' (t.rebase m stack).1.stack = .ok ((t.rebase m stack).1,m'')) ∧
    ∀ t, Lives m t → ∀ m', m.Steady m' → (t.rebase m' none).1 = t := by
  constructor
  · intro t stack
    rw [rebase_eq (.refl m)]
    refine ⟨composed_owner _,rfl,fun m' steady => ?_⟩
    obtain ⟨m'',applied,_⟩ := applyAll_eq steady.asked (stack.getD t.stack)
    exact ⟨m'',applied⟩
  · intro t lives m' steady
    rw [rebase_eq steady.asked]
    exact lives.eq_composed.symm

/-- A theme with styles by force and gently is left as it is by being rebased once its values were looked up. -/
theorem rebase_replays_styled :
    let styles : List AppliedStyle := [⟨0x7f020000,false⟩,⟨0x7f020001,true⟩,⟨0x7f020002,false⟩]
    let t := ((new styled).rebase styled (some styles)).1
    let asked := styled.asked (.bag 0x7f020002)
    Lives styled t ∧ styled.Steady asked ∧ (t.rebase asked none).1 = t ∧
      t.entries.keys = [0x7f010001,0x7f010002] := by
  intro styles t asked
  have lives : Lives styled t := .rebase (new styled) (some styles) .refl
  have steady : styled.Steady asked := .ask _ .refl
  exact ⟨lives,steady,(rebase_replays styled).2 t lives asked steady,by decide +kernel⟩

end Theme

end AndroidResources
