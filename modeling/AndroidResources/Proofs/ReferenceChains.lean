import Mathlib.Data.List.Nodup
import AndroidResources.Proofs.CacheTransparency

/-!
# Chains of references and of attributes

A reference is followed along its chain of references up to the end that the chain comes to (`Registry.Ends`): a
value, a bag, a resource that is missing or that was there before, or the limit. Attributes that stand for others
make chains in the same way (`Theme.Ends`). Both searches answer as the end of the chain tells, and in no other
way (`Manager.resolve?_ends`), so that a value which a chain comes to with its last hop is lost
(`Manager.resolve?_lost_at_limit`). What is found stands for itself (`Manager.resolve?_sound`).
-/
namespace AndroidResources

/-- Whether a value ends a chain of references without a look-up: it is no reference, or the one to no resource. -/
def Selected.isFinal (s : Selected) : Bool :=
  s.value.type ≠ .reference || s.value.data = 0

/-- What a value at the end of a chain stands for: the reference to no resource for an undefined value. -/
def Selected.meant (s : Selected) : Selected :=
  if s.value.isNullReference then s.cleared else s

theorem Selected.behind_changes (next s : Selected) : (next.behind s).changes = s.changes.union next.changes := rfl

theorem Changes.union_union_self (a b : Changes) : (a.union b).union b = a.union b := by
  simp [union]

namespace Registry
variable {r : Registry} {s t u : Selected} {ids visited : List ResourceId} {n : Nat}

/-! ## Chains of references -/

/-- Whether a hop leads from a reference to what the resource that it names is selected as, which then varies over
    what the reference varies over too. -/
def Hop (r : Registry) (s t : Selected) : Prop :=
  s.isFinal = false ∧ ∃ next isBag, r.selected? s.value.data none = some (next,isBag) ∧ t = next.behind s

/-- The hops from a value to another one, with the ids that are followed. -/
inductive Chain (r : Registry) (s : Selected) : List ResourceId → Selected → Prop
  | start : r.Chain s [] s
  | hop {ids : List ResourceId} {t u : Selected} : r.Chain s ids t → r.Hop t u → r.Chain s (ids ++ [t.value.data]) u

/-- Whether a value is the reference of a bag to itself. -/
structure IsBag (r : Registry) (s : Selected) : Prop where
  self : s.value = .reference s.id
  bag : ∃ found, r.selected? s.id none = some (found,true)

/-- How a chain ends, and with what. A value has to be reached before the last hop, for a bag the last one will do. -/
inductive Ends (r : Registry) : List ResourceId → Selected → Option Selected → Prop
  | value {ids : List ResourceId} {u : Selected} : u.isFinal → ids.length < maxHops → r.Ends ids u (some u.meant)
  | bag {ids : List ResourceId} {u : Selected} : r.IsBag u → ids ≠ [] → ids.length ≤ maxHops → r.Ends ids u (some u)
  | missing {ids : List ResourceId} {u : Selected} : u.isFinal = false → ids.length < maxHops →
      r.selected? u.value.data none = none → r.Ends ids u none
  | cycle {ids : List ResourceId} {u : Selected} : u.isFinal = false → ¬ r.IsBag u → ids.length < maxHops →
      u.value.data ∈ ids → r.Ends ids u none
  | limit {ids : List ResourceId} {u : Selected} : ¬ r.IsBag u → ids.length = maxHops → r.Ends ids u none

/-- The chain of a number of hops. -/
def chain? (r : Registry) (s : Selected) : (hops : Nat) → Option (List ResourceId × Selected)
  | 0 => some ([],s)
  | hops + 1 => (r.chain? s hops).bind fun (ids,t) =>
    if t.isFinal then none
    else (r.selected? t.value.data none).map fun found => (ids ++ [t.value.data],found.1.behind t)

theorem chain_of_chain? (found : r.chain? s n = some (ids,t)) : r.Chain s ids t := by
  induction n generalizing ids t with
  | zero =>
    obtain ⟨rfl,rfl⟩ := Prod.mk.inj (Option.some.inj found)
    exact .start
  | succ n ih =>
    obtain ⟨⟨before,u⟩,earlier,last⟩ := Option.bind_eq_some_iff.1 found
    cases continues : u.isFinal with
    | true => simp [continues] at last
    | false =>
      obtain ⟨⟨next,isBag⟩,selected,same⟩ : ∃ a, r.selected? u.value.data none = some a ∧
          (before ++ [u.value.data],a.1.behind u) = (ids,t) := by simpa [continues] using last
      obtain ⟨rfl,rfl⟩ := Prod.mk.inj same
      exact .hop (ih earlier) ⟨continues,next,isBag,selected,rfl⟩

/-! ### Bags on a chain -/

theorem selected?_eq_some {id : ResourceId} {density : Option UInt16} {isBag : Bool}
    (found : r.selected? id density = some (t,isBag)) :
    id ≠ 0 ∧ t.id = id ∧ (isBag → t.value = .reference id) := by
  obtain ⟨⟨c,device⟩,isFound,same⟩ := Option.map_eq_some_iff.1 found
  obtain ⟨rfl,rfl⟩ := Prod.mk.inj same
  refine ⟨?_,rfl,fun isBag => ?_⟩
  · rintro rfl
    cases isFound
  · cases content : c.definition.content with
    | value v => simp [content,Content.isBag] at isBag
    | bag parent entries => simp only [selectedOf,content]

theorem Hop.id_eq (hop : r.Hop s t) : t.id = s.value.data := by
  obtain ⟨_,next,isBag,found,rfl⟩ := hop
  exact (selected?_eq_some found).2.1

/-- What a hop leads to stands for a bag exactly if a bag was selected. -/
theorem isBag_behind_iff {next : Selected} {isBag : Bool} (found : r.selected? s.value.data none = some (next,isBag)) :
    r.IsBag (next.behind s) ↔ isBag := by
  obtain ⟨_,id,self⟩ := selected?_eq_some found
  have same : (next.behind s).id = s.value.data := id
  constructor
  · rintro ⟨_,again,bag⟩
    rw [same,found] at bag
    exact (Prod.mk.inj (Option.some.inj bag)).2
  · rintro rfl
    exact ⟨by rw [same]; exact self rfl,next,by rw [same,found]⟩

theorem IsBag.data_eq (bag : r.IsBag u) : u.value.data = u.id := by
  rw [bag.self]
  rfl

theorem IsBag.continues (bag : r.IsBag u) : u.isFinal = false := by
  obtain ⟨self,found,isFound⟩ := bag
  have nonzero := (selected?_eq_some isFound).1
  simp [Selected.isFinal,self,Value.reference,nonzero]

theorem IsBag.meant_eq (bag : r.IsBag u) : u.meant = u := by
  have continues := bag.continues
  unfold Selected.meant
  split
  next null =>
    obtain ⟨type,null⟩ : u.value.type = .reference ∧ u.value.data = 0 := by simpa [Value.isNullReference] using null
    simp [Selected.isFinal,type,null] at continues
  next => rfl

/-- A chain that comes to a bag ends with the id of the bag. -/
theorem Chain.bag_mem (chain : r.Chain s ids u) (bag : r.IsBag u) (hopped : ids ≠ []) : u.value.data ∈ ids := by
  cases chain with
  | start => exact absurd rfl hopped
  | hop _ last => simp [bag.data_eq,last.id_eq]

/-- A chain that has hopped on without coming back to an id had not come back before, nor to a bag. -/
theorem Chain.before_hop (chain : r.Chain s ids t) (distinct : (ids ++ [t.value.data]).Nodup) :
    ids.Nodup ∧ t.value.data ∉ ids ∧ (ids ≠ [] → ¬ r.IsBag t) := by
  rw [List.nodup_append_comm] at distinct
  obtain ⟨fresh,before⟩ := List.nodup_cons.1 distinct
  exact ⟨before,fresh,fun hopped bag => fresh (chain.bag_mem bag hopped)⟩

/-! ### One step of a walk -/

theorem walk_final (final : s.isFinal) : (r.walk (n + 1) visited s).result = some s.meant := by
  rw [walk,Selected.meant]
  by_cases type : s.value.type = .reference
  · have null : s.value.data = 0 := by simpa [Selected.isFinal,type] using final
    simp [type,null,Value.isNullReference]
  · simp [type,Value.isNullReference]

theorem walk_seen (continues : s.isFinal = false) (seen : s.value.data ∈ visited) :
    (r.walk (n + 1) visited s).result = none := by
  obtain ⟨type,nonzero⟩ : s.value.type = .reference ∧ s.value.data ≠ 0 := by simpa [Selected.isFinal] using continues
  simp [walk,type,nonzero,seen]

theorem walk_missing (continues : s.isFinal = false) (missing : r.selected? s.value.data none = none) :
    (r.walk (n + 1) visited s).result = none := by
  obtain ⟨type,nonzero⟩ : s.value.type = .reference ∧ s.value.data ≠ 0 := by simpa [Selected.isFinal] using continues
  by_cases seen : s.value.data ∈ visited <;> simp [walk,type,nonzero,seen,missing]

theorem walk_hop {next : Selected} {isBag : Bool} (continues : s.isFinal = false) (fresh : s.value.data ∉ visited)
    (found : r.selected? s.value.data none = some (next,isBag)) :
    (r.walk (n + 1) visited s).result =
      if isBag then some (next.behind s) else (r.walk n (s.value.data :: visited) (next.behind s)).result := by
  obtain ⟨type,nonzero⟩ : s.value.type = .reference ∧ s.value.data ≠ 0 := by simpa [Selected.isFinal] using continues
  cases isBag <;> simp [walk,type,nonzero,fresh,found]

/-! ### A whole walk -/

/-- A walk that has come some way along a chain goes on to an end of the chain. -/
theorem walk_ends (chain : r.Chain s ids t) (distinct : ids.Nodup) (onWay : ids ≠ [] → ¬ r.IsBag t)
    (limit : ids.length + n = maxHops) :
    ∃ ids' u, r.Chain s ids' u ∧ ids'.Nodup ∧ r.Ends ids' u (r.walk n ids.reverse t).result := by
  induction n generalizing ids t with
  | zero =>
    have hopped : ids ≠ [] := by
      rintro rfl
      cases limit
    exact ⟨ids,t,chain,distinct,.limit (onWay hopped) limit⟩
  | succ n ih =>
    have short : ids.length < maxHops := by omega
    by_cases final : t.isFinal
    · rw [walk_final final]
      exact ⟨ids,t,chain,distinct,.value final short⟩
    · have continues : t.isFinal = false := by simpa using final
      by_cases seen : t.value.data ∈ ids
      · rw [walk_seen continues (List.mem_reverse.2 seen)]
        exact ⟨ids,t,chain,distinct,.cycle continues (onWay (List.ne_nil_of_mem seen)) short seen⟩
      · cases found : r.selected? t.value.data none with
        | none =>
          rw [walk_missing continues found]
          exact ⟨ids,t,chain,distinct,.missing continues short found⟩
        | some result =>
          obtain ⟨next,isBag⟩ := result
          have longer : r.Chain s (ids ++ [t.value.data]) (next.behind t) :=
            .hop chain ⟨continues,next,isBag,found,rfl⟩
          have still_distinct : (ids ++ [t.value.data]).Nodup := by
            rw [List.nodup_append_comm]
            exact List.nodup_cons.2 ⟨seen,distinct⟩
          have length : (ids ++ [t.value.data]).length = ids.length + 1 := by simp
          rw [walk_hop continues (by simpa using seen) found]
          cases isBag with
          | true =>
            have bag : r.IsBag (next.behind t) := (isBag_behind_iff found).2 rfl
            exact ⟨_,_,longer,still_distinct,.bag bag (by simp) (by omega)⟩
          | false =>
            have noBag : ¬ r.IsBag (next.behind t) := by simp [isBag_behind_iff found]
            have rest := ih longer still_distinct (fun _ => noBag) (by omega)
            rwa [List.reverse_append] at rest

/-- A walk goes along each chain without repetitions that does not lead through a bag. -/
theorem walk_along (chain : r.Chain s ids u) (distinct : ids.Nodup) (onWay : ids ≠ [] → ¬ r.IsBag u) :
    (r.walk (ids.length + n) [] s).result = (r.walk n ids.reverse u).result := by
  induction chain generalizing n with
  | start => simp
  | @hop ids t u chain last ih =>
    obtain ⟨distinct,fresh,notYet⟩ := chain.before_hop distinct
    have length : (ids ++ [t.value.data]).length + n = ids.length + (n + 1) := by
      rw [List.length_append,List.length_singleton]
      omega
    obtain ⟨continues,next,isBag,found,rfl⟩ := last
    have noBag : isBag = false := by simpa [isBag_behind_iff found] using onWay
    rw [length,ih distinct notYet,walk_hop continues (by simpa using fresh) found]
    simp [noBag]

/-- The end that a chain without repetitions comes to decides. -/
theorem Ends.resolve?_eq {result : Option Selected} (ends : r.Ends ids u result) (chain : r.Chain s ids u)
    (distinct : ids.Nodup) : r.resolve? s = result := by
  have along (short : ids.length < maxHops) (onWay : ids ≠ [] → ¬ r.IsBag u) :
      r.resolve? s = (r.walk (maxHops - ids.length - 1 + 1) ids.reverse u).result := by
    have sum : ids.length + (maxHops - ids.length - 1 + 1) = maxHops := by omega
    rw [← walk_along chain distinct onWay,sum,resolve?,follow]
  cases ends with
  | value final short =>
    have onWay : ids ≠ [] → ¬ r.IsBag u := by
      intro _ bag
      simp [bag.continues] at final
    rw [along short onWay,walk_final final]
  | missing continues short missing =>
    have onWay : ids ≠ [] → ¬ r.IsBag u := by
      rintro _ ⟨self,found,isFound⟩
      rw [self] at missing
      cases missing.symm.trans isFound
    rw [along short onWay,walk_missing continues missing]
  | cycle continues noBag short seen =>
    rw [along short fun _ => noBag,walk_seen continues (List.mem_reverse.2 seen)]
  | limit noBag long =>
    have whole := walk_along (n := 0) chain distinct fun _ => noBag
    rw [Nat.add_zero,long] at whole
    exact whole
  | bag bag hopped short =>
    cases chain with
    | start => exact absurd rfl hopped
    | @hop ids t _ chain last =>
      obtain ⟨distinct,fresh,notYet⟩ := chain.before_hop distinct
      obtain ⟨continues,next,isBag,found,rfl⟩ := last
      have isBag : isBag := (isBag_behind_iff found).1 bag
      rw [List.length_append,List.length_singleton] at short
      have sum : ids.length + (maxHops - ids.length - 1 + 1) = maxHops := by omega
      have whole := walk_along (n := maxHops - ids.length - 1 + 1) chain distinct notYet
      rw [sum,walk_hop continues (by simpa using fresh) found,if_pos isBag] at whole
      exact whole

/-- A value stands for what its chain ends with. -/
theorem resolve?_eq_iff {result : Option Selected} :
    r.resolve? s = result ↔ ∃ ids u, r.Chain s ids u ∧ ids.Nodup ∧ r.Ends ids u result := by
  constructor
  · rintro rfl
    exact walk_ends (n := maxHops) .start .nil (fun hopped => absurd rfl hopped) (Nat.zero_add _)
  · rintro ⟨ids,u,chain,distinct,ends⟩
    exact ends.resolve?_eq chain distinct

/-! ### What is found -/

theorem Ends.found_eq (ends : r.Ends ids u (some t)) : t = u.meant ∧ ids.length ≤ maxHops ∧
    (r.IsBag u ∨ u.value.isNullReference ∨ u.value.type ≠ .reference) := by
  cases ends with
  | value final short =>
    refine ⟨rfl,Nat.le_of_lt short,.inr ?_⟩
    by_cases type : u.value.type = .reference
    · simpa [Selected.isFinal,type,Value.isNullReference] using final
    · exact .inr type
  | bag bag _ short => exact ⟨bag.meant_eq.symm,short,.inl bag⟩

/-- What is found stands for itself: a bag is one hop away from itself, everything else ends its chain. -/
theorem Ends.again (ends : r.Ends ids u (some t)) (chain : r.Chain s ids u) : r.resolve? t = some t := by
  cases ends with
  | value final short =>
    have noReference : u.meant.value.type ≠ .reference := by
      unfold Selected.meant
      split
      · simp [Selected.cleared,Value.undefined]
      next noNull =>
        intro type
        simp [Selected.isFinal,Value.isNullReference,type] at final noNull
        exact noNull final
    have final : u.meant.isFinal := by simp [Selected.isFinal,noReference]
    have same : u.meant.meant = u.meant := by simp [Selected.meant.eq_def u.meant,Value.isNullReference,noReference]
    have ends : r.Ends [] u.meant (some u.meant.meant) := .value final (by decide)
    rw [same] at ends
    exact resolve?_eq_iff.2 ⟨[],u.meant,.start,.nil,ends⟩
  | bag bag hopped short =>
    cases chain with
    | start => exact absurd rfl hopped
    | @hop ids t _ chain last =>
      have continues := bag.continues
      have isId := last.id_eq
      have data := bag.data_eq
      obtain ⟨_,next,isBag,found,rfl⟩ := last
      have found : r.selected? (next.behind t).value.data none = some (next,isBag) := by rw [data,isId,found]
      -- The flags of the bag are among those of the value already.
      have same : next.behind (next.behind t) = next.behind t := by
        rw [Selected.behind,Selected.behind_changes,Changes.union_union_self]
        rfl
      have hop : r.Hop (next.behind t) (next.behind t) := ⟨continues,next,isBag,found,same.symm⟩
      exact resolve?_eq_iff.2 ⟨_,_,.hop .start hop,by simp,.bag bag (by simp) (by simp [maxHops])⟩

end Registry

/-! ## Chains of attributes -/

namespace Theme
variable {t : Theme} {attr a : ResourceId} {passed : List ThemeEntry} {n : Nat}

/-- The hops from an attribute to another one through entries that stand for other attributes. -/
inductive Chain (t : Theme) (attr : ResourceId) : List ThemeEntry → ResourceId → Prop
  | start : t.Chain attr [] attr
  | hop {passed : List ThemeEntry} {a : ResourceId} {e : ThemeEntry} : t.Chain attr passed a →
      t.entries.get? a = some e → e.value.type = .themeAttribute → t.Chain attr (passed ++ [e]) e.value.data

/-- The dimensions over which entries vary together. -/
def changesOf (entries : List ThemeEntry) : Changes :=
  entries.foldl (fun changes e => changes.union e.changes) .none

/-- How a chain of attributes ends, and with what: a value that is reached before the last hop, an attribute without
    one, or the limit. -/
inductive Ends (t : Theme) : List ThemeEntry → ResourceId → Option (Selected × ResourceId) → Prop
  | value {passed : List ThemeEntry} {a : ResourceId} {e : ThemeEntry} : t.entries.get? a = some e →
      e.value.type ≠ .themeAttribute → passed.length < maxHops →
      t.Ends passed a (some ({ e.selected with changes := changesOf (passed ++ [e]) },e.style))
  | missing {passed : List ThemeEntry} {a : ResourceId} : t.entries.get? a = none → passed.length < maxHops →
      t.Ends passed a none
  | limit {passed : List ThemeEntry} {a : ResourceId} : passed.length = maxHops → t.Ends passed a none

theorem changesOf_nil : changesOf [] = .none := rfl

theorem changesOf_concat (e : ThemeEntry) : changesOf (passed ++ [e]) = (changesOf passed).union e.changes := by
  rw [changesOf,List.foldl_concat]
  rfl

theorem lookupWithin_hop {e : ThemeEntry} {changes : Changes} (present : t.entries.get? a = some e)
    (continues : e.value.type = .themeAttribute) : t.lookupWithin (n + 1) changes a =
      t.lookupWithin n (changes.union e.changes) e.value.data := by
  simp [lookupWithin,present,continues]

theorem lookupWithin_ends (chain : t.Chain attr passed a) (limit : passed.length + n = maxHops) :
    ∃ passed' a', t.Chain attr passed' a' ∧ t.Ends passed' a' (t.lookupWithin n (changesOf passed) a) := by
  induction n generalizing passed a with
  | zero => exact ⟨passed,a,chain,.limit limit⟩
  | succ n ih =>
    have short : passed.length < maxHops := by omega
    cases present : t.entries.get? a with
    | none =>
      have nothing : t.lookupWithin (n + 1) (changesOf passed) a = none := by simp [lookupWithin,present]
      rw [nothing]
      exact ⟨passed,a,chain,.missing present short⟩
    | some e =>
      by_cases continues : e.value.type = .themeAttribute
      · rw [lookupWithin_hop present continues,← changesOf_concat]
        exact ih (.hop chain present continues) (by simp; omega)
      · have found : t.lookupWithin (n + 1) (changesOf passed) a =
            some ({ e.selected with changes := changesOf (passed ++ [e]) },e.style) := by
          simp [lookupWithin,present,continues,changesOf_concat]
        rw [found]
        exact ⟨passed,a,chain,.value present continues short⟩

theorem lookupWithin_along (chain : t.Chain attr passed a) :
    t.lookupWithin (passed.length + n) .none attr = t.lookupWithin n (changesOf passed) a := by
  induction chain generalizing n with
  | start => simp [changesOf]
  | @hop passed a e _ present continues ih =>
    have length : (passed ++ [e]).length + n = passed.length + (n + 1) := by
      rw [List.length_append,List.length_singleton]
      omega
    rw [length,ih,lookupWithin_hop present continues,changesOf_concat]

theorem Ends.lookup?_eq {result : Option (Selected × ResourceId)} (ends : t.Ends passed a result)
    (chain : t.Chain attr passed a) : t.lookup? attr = result := by
  have along (short : passed.length < maxHops) :
      t.lookup? attr = t.lookupWithin (maxHops - passed.length - 1 + 1) (changesOf passed) a := by
    have sum : passed.length + (maxHops - passed.length - 1 + 1) = maxHops := by omega
    rw [← lookupWithin_along chain,sum,lookup?]
  cases ends with
  | value present final short =>
    rw [along short]
    simp [lookupWithin,present,final,changesOf_concat]
  | missing absent short =>
    rw [along short]
    simp [lookupWithin,absent]
  | limit long =>
    have whole := lookupWithin_along (n := 0) chain
    rwa [Nat.add_zero,long] at whole

/-- An attribute has what its chain ends with. -/
theorem lookup?_eq_iff {result : Option (Selected × ResourceId)} :
    t.lookup? attr = result ↔ ∃ passed a, t.Chain attr passed a ∧ t.Ends passed a result := by
  constructor
  · rintro rfl
    have ends := lookupWithin_ends (.start : t.Chain attr [] attr) (Nat.zero_add maxHops)
    rwa [changesOf_nil] at ends
  · rintro ⟨passed,a,chain,ends⟩
    exact ends.lookup?_eq chain

end Theme

/-! ## Managers -/

namespace Manager

/-- A reference stands for what its chain of different ids ends with, and an attribute for what its chain ends with.
    So nothing is found behind what is missing or comes back, nor behind the limit. -/
theorem resolve?_ends (m : Manager) (theme : Theme) :
    (∀ s result, (m.resolve? s).1 = result ↔
      ∃ ids u, m.registry.Chain s ids u ∧ ids.Nodup ∧ m.registry.Ends ids u result) ∧
    ∀ attr result, theme.value? attr = result ↔
      ∃ passed a found, theme.Chain attr passed a ∧ theme.Ends passed a found ∧ found.map Prod.fst = result := by
  refine ⟨fun s result => Registry.resolve?_eq_iff,fun attr result => ?_⟩
  rw [Theme.value?]
  constructor
  · intro same
    obtain ⟨passed,a,chain,ends⟩ := Theme.lookup?_eq_iff.1 (rfl : theme.lookup? attr = _)
    exact ⟨passed,a,_,chain,ends,same⟩
  · rintro ⟨passed,a,found,chain,ends,same⟩
    rw [ends.lookup?_eq chain,same]

/-- A manager with a number behind some references. -/
def chained (references : Nat) : Manager :=
  let id (i : Nat) : ResourceId := 0x7f010000 + .ofNat i
  let entry (v : Value) : Entry := ⟨⟨"app","integer","i"⟩,[⟨{},.value v⟩]⟩
  let entries := (List.range references).map (fun i => (id i,entry (.reference (id (i + 1))))) ++
    [(id references,entry ⟨.decimal,1⟩)]
  { registry := { sources := [{ path := "a", table := { packages := .ofList [(0x7f,"app")], entries := .ofList entries } }] } }

/-- A number that a chain of twenty hops comes to is lost, one hop less finds it. So does a theme lose the value of an
    attribute behind twenty others. -/
theorem resolve?_lost_at_limit :
    let first : Selected := .detached (.reference 0x7f010000)
    let value (i : Nat) : Value := if i < 20 then .themeAttribute (0x7f010001 + .ofNat i) else ⟨.decimal,1⟩
    let theme : Theme :=
      { owner := 0
        entries := .ofList ((List.range 21).map fun i => (0x7f010000 + .ofNat i,⟨.invalid,.none,value i,0⟩)) }
    (∃ ids u, (chained 19).registry.Chain first ids u ∧ ids.Nodup ∧ ids.length = maxHops ∧ u.value = ⟨.decimal,1⟩) ∧
      ((chained 19).resolve? first).1 = none ∧
      ((chained 18).resolve? first).1.map Selected.value = some ⟨.decimal,1⟩ ∧
      (∀ i < 21, (theme.entries.get? (0x7f010000 + .ofNat i)).map ThemeEntry.value = some (value i)) ∧
      theme.value? 0x7f010000 = none ∧ (theme.value? 0x7f010001).map Selected.value = some ⟨.decimal,1⟩ := by
  intro first value theme
  have walked : ((chained 19).registry.chain? first maxHops).map (fun found => (found.1.length,found.2.value)) =
      some (maxHops,⟨.decimal,1⟩) := by decide +kernel
  have different : ∀ found ∈ (chained 19).registry.chain? first maxHops, found.1.Nodup := by decide +kernel
  obtain ⟨⟨ids,u⟩,isChain,same⟩ := Option.map_eq_some_iff.1 walked
  obtain ⟨long,isNumber⟩ := Prod.mk.inj same
  have chain := Registry.chain_of_chain? isChain
  have distinct : ids.Nodup := different _ isChain
  have noBag : ¬ (chained 19).registry.IsBag u := by
    rintro ⟨self,_⟩
    cases isNumber.symm.trans self
  refine ⟨⟨ids,u,chain,distinct,long,isNumber⟩,?_,?_,?_,?_,?_⟩
  · exact Registry.resolve?_eq_iff.2 ⟨ids,u,chain,distinct,.limit noBag long⟩
  all_goals decide +kernel

/-- What a value is replaced by is what its chain leads to, and the value is kept where that is nothing. Following what
    was found leads to the same again. -/
theorem resolve?_sound (m : Manager) (s : Selected) :
    ((m.resolve? s).1 = none → m.registry.resolved s = s) ∧
    ∀ t, (m.resolve? s).1 = some t → m.registry.resolved s = t ∧
      (∃ ids u, m.registry.Chain s ids u ∧ ids.Nodup ∧ ids.length ≤ maxHops ∧ t = u.meant ∧
        (m.registry.IsBag u ∨ u.value.isNullReference ∨ u.value.type ≠ .reference)) ∧
      ((m.resolve? s).2.resolve? t).1 = some t := by
  have kept {result : Option Selected} (found : (m.resolve? s).1 = result) : m.registry.resolved s = result.getD s := by
    rw [← found]
    rfl
  refine ⟨kept,fun t found => ⟨kept found,?_⟩⟩
  obtain ⟨ids,u,chain,distinct,ends⟩ := Registry.resolve?_eq_iff.1 found
  obtain ⟨meant,short,final⟩ := ends.found_eq
  refine ⟨⟨ids,u,chain,distinct,short,meant,final⟩,?_⟩
  have same : (m.resolve? s).2.registry = m.registry := (Asked.resolve? m s).registry
  show (m.resolve? s).2.registry.resolve? t = some t
  rw [same]
  exact ends.again chain

/-- A reference to a reference to a style stands for the style, which is in another source. -/
theorem resolve?_sound_style :
    let table (entries : List (ResourceId × Content)) : Table :=
      { packages := .ofList [(0x7f,"app")]
        entries := .ofList (entries.map fun (id,content) => (id,⟨⟨"app","style","s"⟩,[⟨{},content⟩]⟩)) }
    let base := table [(0x7f010000,.value (.reference 0x7f010001)),(0x7f010001,.value (.reference 0x7f010000))]
    let overlay := table [(0x7f010001,.value (.reference 0x7f020000)),(0x7f020000,.bag 0 [])]
    let m : Manager := { registry := { sources := [{ path := "base", table := base },{ path := "overlay", table := overlay }] } }
    ∃ t, (m.resolve? (.detached (.reference 0x7f010000))).1 = some t ∧ t.value = .reference 0x7f020000 ∧ t.cookie = ⟨1⟩ ∧
      ((m.resolve? (.detached (.reference 0x7f010000))).2.resolve? t).1 = some t := by
  intro table base overlay m
  have answer : ((m.resolve? (.detached (.reference 0x7f010000))).1.map fun t => (t.value,t.cookie)) =
      some (.reference 0x7f020000,⟨1⟩) := by decide +kernel
  obtain ⟨t,found,same⟩ := Option.map_eq_some_iff.1 answer
  obtain ⟨value,cookie⟩ := Prod.mk.inj same
  obtain ⟨_,_,again⟩ := (resolve?_sound m (.detached (.reference 0x7f010000))).2 t found
  exact ⟨t,found,value,cookie,again⟩

end Manager

end AndroidResources
