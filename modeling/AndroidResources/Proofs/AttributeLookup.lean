import AndroidResources.Proofs.AttributeValues

/-!
# Looking up attributes of a theme

An attribute has the value at the end of its chain of attributes if the chain ends within the limit, and varies over what
the whole chain varies over. A chain that comes to an attribute without a value, or back to one of its attributes, ends in
no value, however long it is (`Theme.lookup?_sound`). A value that is followed through the theme and then along references
varies over all that it comes by, and stays as it is where that leads nowhere.
-/
namespace AndroidResources

/-- The dimensions over which what a resource is selected as varies. -/
def Registry.changesAt (r : Registry) (id : ResourceId) : Changes :=
  ((r.selected? id none).map fun found => found.1.changes).getD .none

/-- A value at the end of a chain of references varies over what its start and all resources on the way vary over. -/
theorem Registry.Chain.includes_iff {r : Registry} {s u : Selected} {ids : List ResourceId} {d : Dimension}
    (chain : r.Chain s ids u) : u.changes.includes d ↔ s.changes.includes d ∨ ∃ id ∈ ids, (r.changesAt id).includes d := by
  induction chain with
  | start => simp
  | @hop ids t u _ last ih =>
    obtain ⟨_,next,isBag,found,rfl⟩ := last
    have here : r.changesAt t.value.data = next.changes := by simp [changesAt,found]
    simp only [Selected.behind_changes,Changes.union,Bool.or_eq_true,ih,or_assoc,List.mem_append,List.mem_singleton,
      or_and_right,exists_or,exists_eq_left,here]

theorem Selected.meant_changes (s : Selected) : s.meant.changes = s.changes := by
  unfold meant
  split <;> rfl

namespace Theme
variable {t : Theme} {attr a b : ResourceId} {passed round entries : List ThemeEntry} {d : Dimension}

theorem changesOf_includes_iff : (changesOf entries).includes d ↔ ∃ e ∈ entries, e.changes.includes d := by
  induction entries using List.reverseRecOn with
  | nil => simp [changesOf,Changes.none]
  | append_singleton entries e ih => simp [changesOf_concat,Changes.union,ih,or_and_right,exists_or]

/-! ## Chains without an end -/

theorem Chain.append (first : t.Chain attr passed a) (second : t.Chain a round b) : t.Chain attr (passed ++ round) b := by
  induction second with
  | start => simpa using first
  | hop _ present continues ih =>
    rw [← List.append_assoc]
    exact .hop ih present continues

/-- A chain goes through every shorter length. -/
theorem Chain.take (chain : t.Chain attr passed a) {n : Nat} (short : n ≤ passed.length) :
    ∃ a', t.Chain attr (passed.take n) a' := by
  induction chain with
  | start => exact ⟨attr,by simpa using .start⟩
  | @hop passed a e chain present continues ih =>
    rcases Nat.lt_or_eq_of_le short with shorter | whole
    · have within : n ≤ passed.length := by simpa [Nat.lt_succ_iff] using shorter
      obtain ⟨a',earlier⟩ := ih within
      exact ⟨a',by rwa [List.take_append_of_le_length within]⟩
    · exact ⟨_,by rw [whole,List.take_length]; exact .hop chain present continues⟩

/-- Whether an attribute comes back to itself. -/
def Recurs (t : Theme) (a : ResourceId) : Prop :=
  ∃ round, round ≠ [] ∧ t.Chain a round a

theorem Recurs.long (recurs : t.Recurs a) (n : Nat) : ∃ rounds, n ≤ rounds.length ∧ t.Chain a rounds a := by
  obtain ⟨round,hopped,cycle⟩ := recurs
  induction n with
  | zero => exact ⟨[],Nat.zero_le _,.start⟩
  | succ n ih =>
    obtain ⟨rounds,long,chain⟩ := ih
    have := List.length_pos_iff.2 hopped
    exact ⟨rounds ++ round,by rw [List.length_append]; omega,chain.append cycle⟩

/-- A chain that is too long has nothing at its end. -/
theorem Chain.lookup?_eq_none (chain : t.Chain attr passed a) (long : maxHops ≤ passed.length) : t.lookup? attr = none := by
  obtain ⟨a',cut⟩ := chain.take long
  have ends : t.Ends (passed.take maxHops) a' none := .limit (List.length_take_of_le long)
  exact ends.lookup?_eq cut

theorem Chain.lookup?_of_missing (chain : t.Chain attr passed a) (absent : t.entries.get? a = none) :
    t.lookup? attr = none := by
  rcases Nat.lt_or_ge passed.length maxHops with short | long
  · exact (Ends.missing absent short).lookup?_eq chain
  · exact chain.lookup?_eq_none long

theorem Chain.lookup?_of_recurs (chain : t.Chain attr passed a) (recurs : t.Recurs a) : t.lookup? attr = none := by
  obtain ⟨rounds,long,cycle⟩ := recurs.long maxHops
  exact (chain.append cycle).lookup?_eq_none (by rw [List.length_append]; omega)

/-! ## Values -/

/-- Whether the chain of an attribute ends with a value within the limit. -/
structure EndsAt (t : Theme) (attr : ResourceId) (passed : List ThemeEntry) (e : ThemeEntry) : Prop where
  chain : ∃ a, t.Chain attr passed a ∧ t.entries.get? a = some e
  final : e.value.type ≠ .themeAttribute
  short : passed.length < maxHops

theorem lookup?_eq_some_iff {found : Selected × ResourceId} : t.lookup? attr = some found ↔
    ∃ passed e, t.EndsAt attr passed e ∧ found = (⟨e.cookie,e.value,0,changesOf (passed ++ [e]),{}⟩,e.style) := by
  rw [lookup?_eq_iff]
  constructor
  · rintro ⟨passed,a,chain,ends⟩
    cases ends with
    | value present final short => exact ⟨passed,_,⟨⟨a,chain,present⟩,final,short⟩,rfl⟩
  · rintro ⟨passed,e,⟨⟨a,chain,present⟩,final,short⟩,rfl⟩
    exact ⟨passed,a,chain,.value present final short⟩

/-- What a value is before references are followed: itself, or what the attribute that it names has in the theme. -/
inductive Begins (t : Theme) (s : Selected) : List ThemeEntry → Selected → Prop
  | itself : s.value.type ≠ .themeAttribute → t.Begins s [] s
  | behind {passed : List ThemeEntry} {e : ThemeEntry} : s.value.type = .themeAttribute →
      t.EndsAt s.value.data passed e →
      t.Begins s (passed ++ [e]) (Selected.behind ⟨e.cookie,e.value,0,changesOf (passed ++ [e]),{}⟩ s)

theorem Begins.includes_iff {s start : Selected} (begins : t.Begins s entries start) :
    start.changes.includes d ↔ s.changes.includes d ∨ ∃ e ∈ entries, e.changes.includes d := by
  cases begins with
  | itself => simp
  | behind => rw [Selected.behind_changes,← changesOf_includes_iff,Changes.union,Bool.or_eq_true]

/-- A value leads through entries of the theme and then along references to another one, which varies over all that the
    first one, the entries and the resources on the way vary over. -/
structure LeadsAlong (t : Theme) (r : Registry) (s : Selected) (entries : List ThemeEntry) (ids : List ResourceId)
    (found : Selected) : Prop where
  way : ∃ start u, t.Begins s entries start ∧ r.Chain start ids u ∧ ids.Nodup ∧ r.Ends ids u (some found)
  varies : ∀ d, found.changes.includes d ↔
    s.changes.includes d ∨ (∃ e ∈ entries, e.changes.includes d) ∨ ∃ id ∈ ids, (r.changesAt id).includes d

theorem Begins.leadsAlong {r : Registry} {s start found : Selected} (begins : t.Begins s entries start)
    (stands : r.StandsFor start (some found)) : ∃ ids, t.LeadsAlong r s entries ids found := by
  obtain ⟨ids,u,chain,distinct,ends⟩ := stands
  refine ⟨ids,⟨start,u,begins,chain,distinct,ends⟩,fun d => ?_⟩
  rw [ends.found_eq.1,u.meant_changes,chain.includes_iff,begins.includes_iff,or_assoc]

theorem exists_leadsAlong {r : Registry} {s found : Selected} (isFound : (t.follow r s).result = some found) :
    ∃ entries ids, t.LeadsAlong r s entries ids found := by
  cases leadsTo_iff.2 isFound with
  | direct noAttribute stands => exact ⟨[],(Begins.itself noAttribute).leadsAlong stands⟩
  | behind isAttribute has stands =>
    obtain ⟨passed,e,ends,same⟩ := lookup?_eq_some_iff.1 (has_iff.1 has)
    obtain ⟨rfl,-⟩ := Prod.mk.inj same
    exact ⟨passed ++ [e],(Begins.behind isAttribute ends).leadsAlong stands⟩

/-- An attribute has what its chain ends with, if that is within the limit, and nothing if the chain comes to an attribute
    without a value or to one that comes back to itself. A value either leads to another one, which then varies over all
    that it comes by, or nowhere, and stays as it is. -/
theorem lookup?_sound (t : Theme) :
    (∀ attr found, t.lookup? attr = some found ↔ ∃ passed e, t.EndsAt attr passed e ∧
      found = (⟨e.cookie,e.value,0,changesOf (passed ++ [e]),{}⟩,e.style)) ∧
      (∀ attr passed a, t.Chain attr passed a → t.entries.get? a = none ∨ t.Recurs a → t.lookup? attr = none) ∧
      ∀ r s, (∃ found entries ids, (t.follow r s).result = some found ∧ t.resolved r s = found ∧
          t.LeadsAlong r s entries ids found) ∨
        (t.follow r s).result = none ∧ t.resolved r s = s := by
  refine ⟨fun attr found => lookup?_eq_some_iff,?_,fun r s => ?_⟩
  · rintro attr passed a chain (absent | recurs)
    · exact chain.lookup?_of_missing absent
    · exact chain.lookup?_of_recurs recurs
  · unfold resolved
    cases isFound : (t.follow r s).result with
    | none => exact .inr ⟨rfl,rfl⟩
    | some found =>
      obtain ⟨entries,ids,leads⟩ := exists_leadsAlong isFound
      exact .inl ⟨found,entries,ids,rfl,rfl,leads⟩

/-- An entry that names another attribute. -/
def naming (attr : ResourceId) : ThemeEntry :=
  ⟨.invalid,.none,.themeAttribute attr,0x7f020001⟩

/-- A theme in which an attribute names another one that has a colour, and two attributes name each other. -/
def turning : Theme where
  owner := 0
  entries := ⟨[(0x7f010001,naming 0x7f010002),(0x7f010002,⟨.invalid,.none,⟨.argb8,0xff00ff00⟩,0x7f020002⟩),
    (0x7f010003,naming 0x7f010004),(0x7f010004,naming 0x7f010003)],by decide⟩

/-- The first attribute has the colour and the style of the second one, and the last two have nothing. -/
theorem lookup?_sound_turning :
    (∃ found, turning.lookup? 0x7f010001 = some found ∧ found.1.value = ⟨.argb8,0xff00ff00⟩ ∧ found.2 = 0x7f020002) ∧
      turning.Recurs 0x7f010003 ∧ turning.lookup? 0x7f010003 = none ∧ turning.lookup? 0x7f010004 = none := by
  obtain ⟨ends,endless,-⟩ := lookup?_sound turning
  have first : turning.Chain 0x7f010001 [naming 0x7f010002] 0x7f010002 := .hop (e := naming _) .start rfl rfl
  have third : turning.Chain 0x7f010003 [naming 0x7f010004] 0x7f010004 := .hop (e := naming _) .start rfl rfl
  have fourth : turning.Chain 0x7f010004 [naming 0x7f010003] 0x7f010003 := .hop (e := naming _) .start rfl rfl
  have recurs : turning.Recurs 0x7f010003 := ⟨_,by simp,third.append fourth⟩
  have endsAt : turning.EndsAt 0x7f010001 [naming 0x7f010002] ⟨.invalid,.none,⟨.argb8,0xff00ff00⟩,0x7f020002⟩ :=
    ⟨⟨_,first,rfl⟩,by decide,by decide⟩
  exact ⟨⟨_,(ends _ _).mpr ⟨_,_,endsAt,rfl⟩,rfl,rfl⟩,recurs,endless _ _ _ .start (.inr recurs),
    endless _ _ _ fourth (.inr recurs)⟩

end Theme

end AndroidResources
