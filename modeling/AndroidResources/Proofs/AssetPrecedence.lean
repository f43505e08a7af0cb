import AndroidResources.Proofs.LookupBest

/-!
# Which source an asset comes from

An asset is opened in the last source that has it (`Registry.open?_eq_some_iff`), while definitions are ranked: those of
sources of lower priority stand below all others. So the source that is opened is the one of the highest rank exactly if it
is not of lower priority, or all sources that have the asset are (`Manager.open?_foremost_iff`).
-/
namespace AndroidResources

/-- Of an ascending list the last element with a value is greater than all others that have one. -/
theorem greatest_of_findSome?_reverse {α β : Type} {less : α → α → Prop} {l : List α} {g : α → Option β} {v : β}
    (ascending : l.Pairwise less) (found : l.reverse.findSome? g = some v) :
    ∃ x ∈ l, g x = some v ∧ ∀ y ∈ l, (g y).isSome → y = x ∨ less y x := by
  obtain ⟨after,x,before,split,here,nothing⟩ := List.findSome?_eq_some_iff.1 found
  have descending := List.pairwise_reverse.2 ascending
  rw [split,List.pairwise_append,List.pairwise_cons] at descending
  obtain ⟨_,⟨below,_⟩,_⟩ := descending
  have mem_iff (y : α) : y ∈ l ↔ y ∈ after ∨ y = x ∨ y ∈ before := by
    rw [← List.mem_reverse,split,List.mem_append,List.mem_cons]
  refine ⟨x,(mem_iff x).2 (.inr (.inl rfl)),here,fun y mem valued => ?_⟩
  rcases (mem_iff y).1 mem with late | same | early
  · simp [nothing y late] at valued
  · exact .inl same
  · exact .inr (below y early)

namespace Registry
variable {r : Registry} {name : String} {p q : Placed} {data data' : List UInt8}

/-- Whether a source has an asset, with which data. -/
structure Stores (r : Registry) (name : String) (p : Placed) (data : List UInt8) : Prop where
  placed : p ∈ r.placed
  stored : p.source.assets.get? (withoutLeadingSlashes name) = some data

/-- Whether no later source has an asset. -/
def Latest (r : Registry) (name : String) (p : Placed) : Prop :=
  ∀ q data, r.Stores name q data → q.rank.position ≤ p.rank.position

/-- Whether no source of a higher rank has an asset. -/
def Foremost (r : Registry) (name : String) (p : Placed) : Prop :=
  ∀ q data, r.Stores name q data → compare q.rank p.rank ≠ .gt

theorem preferred_eq (mem : p ∈ r.placed) : p.rank.preferred = !p.source.flags.lowerPriority := by
  obtain ⟨_,_,_,rfl⟩ := mem_placed_iff.1 mem
  rfl

theorem open?_source_eq_some_iff {s : Source} {c : Cookie} {found : Cookie × Asset} :
    (s.open? name).map (c,·) = some found ↔ ∃ data, s.assets.get? (withoutLeadingSlashes name) = some data ∧
      found = (c,{ name := withoutLeadingSlashes name, data }) := by
  cases stored : s.assets.get? (withoutLeadingSlashes name) with
  | none => simp [Source.open?,stored]
  | some data => simp [Source.open?,stored,eq_comm]

/-- Nothing is opened exactly if no source has the asset. -/
theorem open?_eq_none_iff : r.open? name = none ↔ ∀ p data, ¬ r.Stores name p data := by
  rw [open?,List.findSome?_eq_none_iff]
  constructor
  · intro none p data stores
    have closed := none p (List.mem_reverse.2 stores.placed)
    simp [Source.open?,stores.stored] at closed
  · intro none p mem
    cases stored : p.source.assets.get? (withoutLeadingSlashes name) with
    | none => simp [Source.open?,stored]
    | some data => exact absurd ⟨List.mem_reverse.1 mem,stored⟩ (none p data)

/-- What is opened is the asset of the last source that has it. -/
theorem open?_eq_some_iff {c : Cookie} {a : Asset} : r.open? name = some (c,a) ↔
    ∃ p data, r.Stores name p data ∧ r.Latest name p ∧ c = p.cookie ∧
      a = { name := withoutLeadingSlashes name, data } := by
  have opened {found : Cookie × Asset} (isFound : r.open? name = some found) : ∃ p data, r.Stores name p data ∧
      r.Latest name p ∧ found = (p.cookie,{ name := withoutLeadingSlashes name, data }) := by
    obtain ⟨p,mem,here,greatest⟩ := greatest_of_findSome?_reverse placed_ascending isFound
    obtain ⟨data,stored,same⟩ := open?_source_eq_some_iff.1 here
    refine ⟨p,data,⟨mem,stored⟩,fun q data' stores => ?_,same⟩
    have valued : ((q.source.open? name).map (q.cookie,·)).isSome := by simp [Source.open?,stores.stored]
    rcases greatest q stores.placed valued with rfl | less
    · exact Nat.le_refl _
    · exact Nat.le_of_lt less
  constructor
  · intro found
    obtain ⟨p,data,stores,latest,same⟩ := opened found
    obtain ⟨rfl,rfl⟩ := Prod.mk.inj same
    exact ⟨p,data,stores,latest,rfl,rfl⟩
  · rintro ⟨p,data,stores,latest,rfl,rfl⟩
    cases found : r.open? name with
    | none => exact absurd stores (open?_eq_none_iff.1 found p data)
    | some other =>
      obtain ⟨q,data',stores',latest',rfl⟩ := opened found
      obtain rfl := eq_of_position stores.placed stores'.placed
        (Nat.le_antisymm (latest' p data stores) (latest q data' stores'))
      obtain rfl := Option.some.inj (stores.stored.symm.trans stores'.stored)
      rfl

/-- Of the sources that have an asset one has the highest rank. -/
theorem exists_foremost (stores : r.Stores name p data) : ∃ q data', r.Stores name q data' ∧ r.Foremost name q ∧
    ∀ q' data'', r.Stores name q' data'' → r.Foremost name q' → q' = q := by
  let asset (q : Placed) := (q.source.assets.get? (withoutLeadingSlashes name)).map (q,·)
  have valued {q : Placed} {data : List UInt8} (stores : r.Stores name q data) : asset q = some (q,data) := by
    simp only [asset,stores.stored,Option.map_some]
  cases found : r.byRank.reverse.findSome? asset with
  | none =>
    have nothing := List.findSome?_eq_none_iff.1 found p (List.mem_reverse.2 (mem_byRank.2 stores.placed))
    rw [valued stores] at nothing
    cases nothing
  | some v =>
    obtain ⟨q,mem,here,greatest⟩ := greatest_of_findSome?_reverse byRank_ascending found
    obtain ⟨data',stored,_⟩ := Option.map_eq_some_iff.1 here
    have foremost : r.Foremost name q := by
      intro q' data'' stores'
      rcases greatest q' (mem_byRank.2 stores'.placed) (by rw [valued stores']; rfl) with rfl | less
      · rw [Std.ReflOrd.compare_self]
        decide
      · rw [less]
        decide
    refine ⟨q,data',⟨mem_byRank.1 mem,stored⟩,foremost,fun q' data'' stores' foremost' => ?_⟩
    have le := Ordering.isLE_iff_ne_gt.2 (foremost q' data'' stores')
    have ge := Ordering.isLE_iff_ne_gt.2 (foremost' q data' ⟨mem_byRank.1 mem,stored⟩)
    have same : q'.rank = q.rank := Std.LawfulEqOrd.eq_of_compare (Std.OrientedCmp.isLE_antisymm le ge)
    exact eq_of_position stores'.placed (mem_byRank.1 mem) (congrArg Rank.position same)

/-- The last source that has an asset has the highest rank exactly if it is not of lower priority, or all of them are. -/
theorem foremost_of_latest_iff (stores : r.Stores name p data) (latest : r.Latest name p) : r.Foremost name p ↔
    (p.source.flags.lowerPriority → ∀ q data', r.Stores name q data' → q.source.flags.lowerPriority) := by
  have ranks (q : Placed) : compare q.rank p.rank =
      (compare q.rank.preferred p.rank.preferred).then (compare q.rank.position p.rank.position) := rfl
  constructor
  · intro foremost lower q data' stores'
    have le := foremost q data' stores'
    rw [ranks,preferred_eq stores.placed,preferred_eq stores'.placed,lower] at le
    cases mark : q.source.flags.lowerPriority with
    | true => rfl
    | false =>
      rw [mark] at le
      exact absurd rfl le
  · intro lower q data' stores'
    have before : compare q.rank.position p.rank.position ≠ .gt := by
      rw [ne_eq,Nat.compare_eq_gt]
      have := latest q data' stores'
      omega
    rw [ranks,preferred_eq stores.placed,preferred_eq stores'.placed]
    cases mark : p.source.flags.lowerPriority with
    | true =>
      rw [lower mark q data' stores',Std.ReflOrd.compare_self]
      exact before
    | false =>
      cases q.source.flags.lowerPriority with
      | true => simp [show compare false true = .lt from rfl]
      | false => exact before

end Registry

namespace Manager

/-- An asset is opened with the cookie and the data of the last source that has it, and not at all exactly if no source has
    it. One of the sources that have it has the highest rank, and that is the one that is opened exactly if the last one is
    not of lower priority, or all of them are. -/
theorem open?_foremost_iff (m : Manager) (name : String) :
    let r := m.registry
    (r.open? name = none ↔ ∀ p data, ¬ r.Stores name p data) ∧
    (∀ c a, r.open? name = some (c,a) ↔ ∃ p data, r.Stores name p data ∧ r.Latest name p ∧ c = p.cookie ∧
      a = { name := withoutLeadingSlashes name, data }) ∧
    (∀ p data, r.Stores name p data → ∃ q data', r.Stores name q data' ∧ r.Foremost name q ∧
      ∀ q' data'', r.Stores name q' data'' → r.Foremost name q' → q' = q) ∧
    ∀ p data, r.Stores name p data → r.Latest name p → (r.Foremost name p ↔
      (p.source.flags.lowerPriority → ∀ q data', r.Stores name q data' → q.source.flags.lowerPriority)) :=
  ⟨Registry.open?_eq_none_iff,fun _ _ => Registry.open?_eq_some_iff,fun _ _ => Registry.exists_foremost,
    fun _ _ => Registry.foremost_of_latest_iff⟩

/-- A source of lower priority hides an asset of one that is not, since it comes later. -/
theorem open?_lowerPriority_hides :
    let source (path : String) (flags : SourceFlags) (data : List UInt8) : Source :=
      ({ path, flags } : Source).withAsset "f" data
    let m := ({} : Manager).presetSources [source "base" {} [1],source "vendor" { lowerPriority := true } [2]]
    ∃ p data, m.registry.Stores "f" p data ∧ m.registry.Foremost "f" p ∧
      m.registry.open? "f" = some (⟨1⟩,{ name := "f", data := [2] }) ∧ p.cookie = ⟨0⟩ ∧ data = [1] := by
  intro source m
  let base := m.registry.placeAt (source "base" {} [1]) 0
  let vendor := m.registry.placeAt (source "vendor" { lowerPriority := true } [2]) 1
  have placed : m.registry.placed = [base,vendor] := rfl
  refine ⟨base,[1],⟨by simp [placed],by decide +kernel⟩,?_,by decide +kernel,rfl,rfl⟩
  rintro q data ⟨mem,_⟩
  simp only [placed,List.mem_cons,List.not_mem_nil,or_false] at mem
  rcases mem with rfl | rfl
  · decide
  · decide

end Manager

end AndroidResources
