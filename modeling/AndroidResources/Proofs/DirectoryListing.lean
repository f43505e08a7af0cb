import Mathlib.Data.List.Destutter
import Mathlib.Data.List.Sort
import Mathlib.Data.List.Sublists
import Mathlib.Data.List.TakeWhile
import Mathlib.Data.String.Basic
import AndroidResources.Source.Basic

/-!
# Directory listings

The files of a directory are listed by the names that their paths go on with, in the order of the paths, and of equal
neighbours one is left out. In that order the paths below one subdirectory are neighbours; but a file may have the
subdirectory's name, and then paths that go on with a character before the slash stand between the two. So everything in the
directory is listed and nothing else is, no name more than twice, and a name twice exactly if it is torn apart in this way
(`Source.list_names`).
-/
namespace AndroidResources.Source

/-! ## Equal neighbours -/

section
variable {names kept : List String} {name : String}

theorem withoutRepeats_eq (names : List String) : withoutRepeats names = names.destutter (· ≠ ·) := by
  fun_induction withoutRepeats names with
  | case1 name rest ih => rw [ih,List.destutter_cons_cons,if_neg (not_not.2 rfl),List.destutter_cons']
  | case2 first second rest differ ih => rw [ih,List.destutter_cons_cons,if_pos differ,List.destutter_cons']
  | case3 names short =>
    match names, short with
    | [],_ => rfl
    | [name],_ => rfl
    | first :: second :: rest,short => exact (short first second rest rfl).elim

theorem withoutRepeats_sublist (names : List String) : List.Sublist (withoutRepeats names) names :=
  withoutRepeats_eq names ▸ List.destutter_sublist _ names

theorem isChain_withoutRepeats (names : List String) : (withoutRepeats names).IsChain (· ≠ ·) :=
  withoutRepeats_eq names ▸ List.isChain_destutter _ names

/-- All that has no equal neighbours is kept. -/
theorem sublist_withoutRepeats (chain : kept.IsChain (· ≠ ·)) (sub : List.Sublist kept names) :
    List.Sublist kept (withoutRepeats names) := by
  fun_induction withoutRepeats names generalizing kept with
  | case1 name rest ih =>
    refine ih chain ?_
    cases sub with
    | cons _ skipped => exact skipped
    | cons_cons _ sub =>
      -- The first of the two is kept, and so the second is not.
      cases sub with
      | cons _ skipped => exact skipped.cons_cons _
      | cons_cons _ _ => exact absurd rfl (List.isChain_cons_cons.1 chain).1
  | case2 first second rest differ ih =>
    cases sub with
    | cons _ skipped => exact (ih chain skipped).cons _
    | cons_cons _ sub => exact (ih chain.tail sub).cons_cons _
  | case3 names short => exact sub

theorem mem_withoutRepeats : name ∈ withoutRepeats names ↔ name ∈ names := by
  rw [← List.singleton_sublist,← List.singleton_sublist]
  exact ⟨fun sub => sub.trans (withoutRepeats_sublist names),sublist_withoutRepeats (List.isChain_singleton name)⟩

/-- Where there are no equal neighbours, something else stands between two occurrences of a name. -/
theorem between_of_isChain (before after : List String) (chain : names.IsChain (· ≠ ·)) (sub : List.Sublist (before ++ name :: name :: after) names) :
    ∃ other, other ≠ name ∧ List.Sublist (before ++ name :: other :: name :: after) names := by
  obtain ⟨front,back,rfl,subFront,subBack⟩ := List.append_sublist_iff.1 sub
  suffices found : ∃ other, other ≠ name ∧ List.Sublist (name :: other :: name :: after) back by
    obtain ⟨other,differ,sub⟩ := found
    exact ⟨other,differ,subFront.append sub⟩
  replace chain := chain.right_of_append
  clear sub subFront
  induction back with
  | nil => cases subBack
  | cons first rest ih =>
    cases subBack with
    | cons _ skipped =>
      obtain ⟨other,differ,sub⟩ := ih skipped chain.tail
      exact ⟨other,differ,sub.cons _⟩
    | cons_cons _ sub =>
      match rest, chain, sub with
      | other :: rest,chain,sub =>
        have differ := (List.isChain_cons_cons.1 chain).1
        cases sub with
        | cons _ skipped => exact ⟨other,differ.symm,(skipped.cons_cons _).cons_cons _⟩
        | cons_cons _ _ => exact absurd rfl differ

/-- A name is kept twice exactly if something else stands between two occurrences of it. -/
theorem two_le_count_withoutRepeats_iff : 2 ≤ (withoutRepeats names).count name ↔
    ∃ other, other ≠ name ∧ List.Sublist [name,other,name] names := by
  rw [← List.replicate_sublist_iff]
  constructor
  · intro twice
    obtain ⟨other,differ,sub⟩ := between_of_isChain [] [] (isChain_withoutRepeats names) twice
    exact ⟨other,differ,sub.trans (withoutRepeats_sublist names)⟩
  · rintro ⟨other,differ,sub⟩
    have chain : [name,other,name].IsChain (· ≠ ·) := by simp [differ,differ.symm]
    exact (List.Sublist.cons_cons name (List.sublist_cons_self other [name])).trans (sublist_withoutRepeats chain sub)

theorem between_of_three_le_count (thrice : 3 ≤ (withoutRepeats names).count name) :
    ∃ other other', other ≠ name ∧ other' ≠ name ∧ List.Sublist [name,other,name,other',name] names := by
  obtain ⟨other',differ',sub⟩ := between_of_isChain [name] [] (isChain_withoutRepeats names)
    (List.replicate_sublist_iff.2 thrice)
  obtain ⟨other,differ,sub⟩ := between_of_isChain [] [other',name] (isChain_withoutRepeats names) sub
  exact ⟨other,other',differ,differ',sub.trans (withoutRepeats_sublist names)⟩

end

/-! ## Paths in a directory -/

/-- The path of a directory, around which slashes do not count. -/
structure IsDirectory (directory : String) (core : List Char) : Prop where
  slashes : ∃ front back, directory.toList = front ++ core ++ back ∧ ∀ c ∈ front ++ back, c = '/'
  first : core.head? ≠ some '/'
  last : core.getLast? ≠ some '/'

theorem head?_dropWhile_slash (cs : List Char) : (cs.dropWhile (· = '/')).head? ≠ some '/' := by
  intro slash
  have differ := List.head?_dropWhile_not (· = '/') cs
  simp [slash] at differ

theorem isDirectory_trimmed (directory : String) : IsDirectory directory (Text.trimmed (· = '/') directory.toList) := by
  let rest := directory.toList.dropWhile (· = '/')
  have behind : rest = Text.trimmed (· = '/') directory.toList ++ (rest.reverse.takeWhile (· = '/')).reverse := by
    rw [Text.trimmed,← List.reverse_append,List.takeWhile_append_dropWhile,List.reverse_reverse]
  refine ⟨⟨directory.toList.takeWhile (· = '/'),(rest.reverse.takeWhile (· = '/')).reverse,?_,fun c mem => ?_⟩,?_,?_⟩
  · rw [List.append_assoc,← behind,List.takeWhile_append_dropWhile]
  · rcases List.mem_append.1 mem with mem | mem
    · simpa using List.mem_takeWhile_imp mem
    · simpa using List.mem_takeWhile_imp (List.mem_reverse.1 mem)
  · intro slash
    have first := head?_dropWhile_slash directory.toList
    rw [show directory.toList.dropWhile (· = '/') = rest from rfl,behind,List.head?_append,slash] at first
    exact first rfl
  · rw [Text.trimmed,List.getLast?_reverse]
    exact head?_dropWhile_slash _

theorem dropWhile_slash_append {slashes cs : List Char} (all : ∀ c ∈ slashes, c = '/') (first : cs.head? ≠ some '/') :
    (slashes ++ cs).dropWhile (· = '/') = cs := by
  rw [List.dropWhile_append_of_pos (by simpa using all)]
  cases cs with
  | nil => rfl
  | cons c cs => exact List.dropWhile_cons_of_neg (by simpa using first)

theorem IsDirectory.trimmed_eq {directory : String} {core : List Char} (is : IsDirectory directory core) :
    Text.trimmed (· = '/') directory.toList = core := by
  obtain ⟨front,back,split,all⟩ := is.slashes
  simp only [List.mem_append] at all
  rw [split]
  cases core with
  | nil =>
    have empty : (front ++ back ++ []).dropWhile (· = '/') = [] := dropWhile_slash_append (by simpa using all) (by simp)
    rw [List.append_nil] at empty
    rw [List.append_nil,Text.trimmed,empty]
    rfl
  | cons c core =>
    have first : (c :: core ++ back).head? ≠ some '/' := is.first
    have last : (c :: core).reverse.head? ≠ some '/' := by rw [List.head?_reverse]; exact is.last
    rw [Text.trimmed,List.append_assoc,dropWhile_slash_append (fun c mem => all c (.inl mem)) first,List.reverse_append,
      dropWhile_slash_append (fun c mem => all c (.inr (List.mem_reverse.1 mem))) last,List.reverse_reverse]

/-- Whether a path lies in a directory, and how it goes on there: behind the directory's path and a slash, if that path is not
    empty. -/
def Within (s : Source) (directory : String) (rest : List Char) : Prop :=
  ∃ path ∈ s.assets.keys, ∃ core, IsDirectory directory core ∧
    path.toList = (if core = [] then [] else core ++ ['/']) ++ rest

/-- How the paths in a directory go on, in the order of the paths. -/
def rests (s : Source) (directory : String) : List (List Char) :=
  s.assets.keys.filterMap fun path => List.isPrefixOf? (directoryStem directory) path.toList

variable {s : Source} {directory name : String} {rest : List Char}

theorem mem_rests : rest ∈ s.rests directory ↔ s.Within directory rest := by
  simp only [rests,List.mem_filterMap,List.isPrefixOf?_eq_some_iff_append_eq]
  constructor
  · rintro ⟨path,mem,split⟩
    exact ⟨path,mem,_,isDirectory_trimmed directory,split.symm⟩
  · rintro ⟨path,mem,core,is,split⟩
    refine ⟨path,mem,?_⟩
    rw [split,directoryStem,is.trimmed_eq]

/-- What stands behind one beginning is in order as the whole is. -/
theorem append_lt_append_iff {front cs cs' : List Char} : front ++ cs < front ++ cs' ↔ cs < cs' := by
  induction front with
  | nil => rfl
  | cons c front ih => simp [ih]

theorem rests_ascending (s : Source) (directory : String) : (s.rests directory).Pairwise (· < ·) := by
  rw [rests,List.pairwise_filterMap]
  have ascending : s.assets.keys.Pairwise (· < ·) :=
    (List.pairwise_map.2 s.assets.ascending).imp compare_lt_iff_lt.1
  refine ascending.imp fun {path path'} less rest isRest rest' isRest' => ?_
  rw [String.lt_iff_toList_lt,← List.isPrefixOf?_eq_some_iff_append_eq.1 isRest,
    ← List.isPrefixOf?_eq_some_iff_append_eq.1 isRest'] at less
  exact append_lt_append_iff.1 less

/-! ## Names -/

/-- Whether a path goes on with a name: it is the whole rest, or what stands before the next slash. -/
structure Starts (name : String) (rest : List Char) : Prop where
  single : '/' ∉ name.toList
  ends : rest = name.toList ∨ ∃ inner, rest = name.toList ++ '/' :: inner

/-- The name that a path goes on with. -/
def nextName (rest : List Char) : String := String.ofList (rest.takeWhile (· ≠ '/'))

theorem nextName_eq_iff : nextName rest = name ↔ Starts name rest := by
  constructor
  · rintro rfl
    have name : (nextName rest).toList = rest.takeWhile (· ≠ '/') := String.toList_ofList
    refine ⟨fun slash => ?_,?_⟩
    · rw [name] at slash
      simpa using List.mem_takeWhile_imp slash
    · rw [name]
      have whole := List.takeWhile_append_dropWhile (p := (· ≠ '/')) (l := rest)
      cases behind : rest.dropWhile (· ≠ '/') with
      | nil =>
        rw [behind,List.append_nil] at whole
        exact .inl whole.symm
      | cons c inner =>
        have isSlash := List.head?_dropWhile_not (· ≠ '/') rest
        rw [behind] at isSlash whole
        obtain rfl : c = '/' := by simpa using isSlash
        exact .inr ⟨inner,whole.symm⟩
  · rintro ⟨single,ends⟩
    have all : ∀ c ∈ name.toList, decide (c ≠ '/') = true := fun c mem => decide_eq_true fun same => single (same ▸ mem)
    rw [nextName,← String.toList_inj,String.toList_ofList]
    rcases ends with rfl | ⟨inner,rfl⟩
    · simpa using all
    · rw [List.takeWhile_append_of_pos all]
      simp

theorem list_eq (s : Source) (directory : String) : s.list directory = withoutRepeats ((s.rests directory).map nextName) := by
  rw [list,rests,List.map_filterMap]
  rfl

theorem mem_list_iff : name ∈ s.list directory ↔ ∃ rest, s.Within directory rest ∧ Starts name rest := by
  simp only [list_eq,mem_withoutRepeats,List.mem_map,mem_rests,nextName_eq_iff]

/-! ## Names that are torn apart -/

/-- What is in order between two texts of one beginning has that beginning. -/
theorem exists_append_of_between {front cs cs' middle : List Char} (above : front ++ cs < middle)
    (below : middle < front ++ cs') : ∃ inner, middle = front ++ inner ∧ cs < inner ∧ inner < cs' := by
  induction front generalizing middle with
  | nil => exact ⟨middle,rfl,above,below⟩
  | cons c front ih =>
    cases middle with
    | nil => cases above
    | cons d middle =>
      rw [List.cons_append,List.cons_lt_cons_iff] at above below
      have same : c = d := by
        rcases above with less | ⟨same,_⟩
        · rcases below with greater | ⟨same,_⟩
          · exact absurd greater (lt_asymm less)
          · exact same.symm
        · exact same
      subst same
      obtain ⟨inner,rfl,between⟩ := ih (by simpa using above) (by simpa using below)
      exact ⟨inner,rfl,between⟩

/-- Whether a name is torn apart: it is that of a file and of a subdirectory, and a path goes on with it and a character before
    the slash. -/
structure Torn (s : Source) (directory name : String) : Prop where
  single : '/' ∉ name.toList
  file : s.Within directory name.toList
  subdirectory : ∃ inner, s.Within directory (name.toList ++ '/' :: inner)
  between : ∃ c inner, c < '/' ∧ s.Within directory (name.toList ++ c :: inner)

theorem Starts.exists_append (starts : Starts name rest) :
    ∃ behind, rest = name.toList ++ behind ∧ (behind = [] ∨ ∃ inner, behind = '/' :: inner) := by
  rcases starts.ends with rfl | ⟨inner,rfl⟩
  · exact ⟨[],(List.append_nil _).symm,.inl rfl⟩
  · exact ⟨'/' :: inner,rfl,.inr ⟨inner,rfl⟩⟩

/-- Between two paths with one name another one stands only if the first is that of a file, and the second lies in a
    subdirectory. -/
theorem torn_of_between {x y z : List Char} (above : x < y) (below : y < z) (first : Starts name x) (last : Starts name z)
    (differ : ¬ Starts name y) : x = name.toList ∧ (∃ inner, z = name.toList ++ '/' :: inner) ∧
      ∃ c inner, c < '/' ∧ y = name.toList ++ c :: inner := by
  obtain ⟨behind,rfl,isBehind⟩ := first.exists_append
  obtain ⟨behind',rfl,isBehind'⟩ := last.exists_append
  obtain ⟨middle,rfl,above,below⟩ := exists_append_of_between above below
  -- What is between begins with a character, which the slash is not, as the name would end there.
  obtain ⟨c,inner,rfl⟩ : ∃ c inner, middle = c :: inner := by
    cases middle with
    | nil => exact absurd above (List.not_lt_nil behind)
    | cons c inner => exact ⟨c,inner,rfl⟩
  have noSlash : c ≠ '/' := by
    rintro rfl
    exact differ ⟨first.single,.inr ⟨inner,rfl⟩⟩
  rcases isBehind' with rfl | ⟨inner',rfl⟩
  · exact absurd below (List.not_lt_nil _)
  · have small : c < '/' := (List.cons_lt_cons_iff.1 below).resolve_right fun same => noSlash same.1
    refine ⟨?_,⟨inner',rfl⟩,c,inner,small,rfl⟩
    rcases isBehind with rfl | ⟨inner,rfl⟩
    · exact List.append_nil _
    · rcases List.cons_lt_cons_iff.1 above with greater | ⟨same,_⟩
      · exact absurd small (lt_asymm greater)
      · exact absurd same.symm noSlash

/-- What the paths in a directory go on with, some of them in their order. -/
theorem sublist_map_nextName_iff {names : List String} : List.Sublist names ((s.rests directory).map nextName) ↔
    ∃ paths : List (List Char), names = paths.map nextName ∧ paths.Pairwise (· < ·) ∧
      ∀ rest ∈ paths, s.Within directory rest := by
  rw [List.sublist_map_iff]
  constructor
  · rintro ⟨paths,sub,rfl⟩
    exact ⟨paths,rfl,(rests_ascending s directory).sublist sub,fun rest mem => mem_rests.1 (sub.subset mem)⟩
  · rintro ⟨paths,rfl,ascending,within⟩
    have nodup : paths.Nodup := ascending.imp ne_of_lt
    have subperm := List.subperm_of_subset nodup fun rest mem => mem_rests.2 (within rest mem)
    exact ⟨paths,List.sublist_of_subperm_of_pairwise subperm ascending (rests_ascending s directory),rfl⟩

theorem two_le_count_list_iff : 2 ≤ (s.list directory).count name ↔ s.Torn directory name := by
  rw [list_eq,two_le_count_withoutRepeats_iff]
  simp only [sublist_map_nextName_iff]
  constructor
  · rintro ⟨other,differ,paths,same,ascending,within⟩
    obtain ⟨x,_,rfl,first,afterX⟩ := List.map_eq_cons_iff.1 same.symm
    obtain ⟨y,_,rfl,rfl,afterY⟩ := List.map_eq_cons_iff.1 afterX
    obtain ⟨z,_,rfl,last,_⟩ := List.map_eq_cons_iff.1 afterY
    simp only [List.pairwise_cons,List.forall_mem_cons] at ascending within
    obtain ⟨⟨above,_⟩,⟨below,_⟩,_⟩ := ascending
    obtain ⟨atX,atY,atZ,_⟩ := within
    obtain ⟨rfl,⟨inner,rfl⟩,c,inner',small,rfl⟩ := torn_of_between above below (nextName_eq_iff.1 first)
      (nextName_eq_iff.1 last) (mt nextName_eq_iff.2 differ)
    exact ⟨(nextName_eq_iff.1 first).single,atX,⟨inner,atZ⟩,c,inner',small,atY⟩
  · rintro ⟨single,file,⟨inner,subdirectory⟩,c,inner',small,between⟩
    have other : ¬ Starts name (name.toList ++ c :: inner') := by
      rintro ⟨_,whole | ⟨inner,same⟩⟩
      · simp at whole
      · have isSlash := (List.cons.inj (List.append_cancel_left same)).1
        exact absurd small (isSlash ▸ lt_irrefl _)
    refine ⟨_,mt nextName_eq_iff.1 other,[name.toList,name.toList ++ c :: inner',name.toList ++ '/' :: inner],?_,?_,?_⟩
    · have file := nextName_eq_iff.2 (Starts.mk single (.inl rfl))
      have subdirectory := nextName_eq_iff.2 (Starts.mk single (.inr ⟨inner,rfl⟩))
      simp [file,subdirectory]
    · have above : name.toList < name.toList ++ c :: inner' := by
        have longer : name.toList ++ [] < name.toList ++ c :: inner' := append_lt_append_iff.2 (List.nil_lt_cons c inner')
        rwa [List.append_nil] at longer
      have below : name.toList ++ c :: inner' < name.toList ++ '/' :: inner :=
        append_lt_append_iff.2 (List.cons_lt_cons_iff.2 (.inl small))
      simp [above,below,above.trans below]
    · simp [file,subdirectory,between]

theorem count_list_le_two (s : Source) (directory name : String) : (s.list directory).count name ≤ 2 := by
  by_contra more
  rw [list_eq] at more
  obtain ⟨other,other',differ,differ',sub⟩ := between_of_three_le_count (Nat.lt_of_not_le more)
  obtain ⟨paths,same,ascending,_⟩ := sublist_map_nextName_iff.1 sub
  obtain ⟨v,_,rfl,first,afterV⟩ := List.map_eq_cons_iff.1 same.symm
  obtain ⟨w,_,rfl,rfl,afterW⟩ := List.map_eq_cons_iff.1 afterV
  obtain ⟨x,_,rfl,second,afterX⟩ := List.map_eq_cons_iff.1 afterW
  obtain ⟨y,_,rfl,rfl,afterY⟩ := List.map_eq_cons_iff.1 afterX
  obtain ⟨z,_,rfl,third,_⟩ := List.map_eq_cons_iff.1 afterY
  simp only [List.pairwise_cons,List.forall_mem_cons] at ascending
  obtain ⟨⟨vw,_⟩,⟨wx,_⟩,⟨xy,_⟩,⟨yz,_⟩,_⟩ := ascending
  have second := nextName_eq_iff.1 second
  -- The one in the middle would lie in a subdirectory, and be a file.
  obtain ⟨_,⟨inner,isInner⟩,_⟩ := torn_of_between vw wx (nextName_eq_iff.1 first) second (mt nextName_eq_iff.2 differ)
  obtain ⟨isFile,_⟩ := torn_of_between xy yz second (nextName_eq_iff.1 third) (mt nextName_eq_iff.2 differ')
  rw [isInner] at isFile
  simp at isFile

/-- A directory is listed by the names that the paths in it go on with. No name is listed more than twice, and twice exactly if
    it is torn apart, so that the names are distinct exactly if none is. -/
theorem list_names (s : Source) (directory : String) :
    (∀ name, name ∈ s.list directory ↔ ∃ rest, s.Within directory rest ∧ Starts name rest) ∧
    (∀ name, (s.list directory).count name ≤ 2) ∧
    (∀ name, (s.list directory).count name = 2 ↔ s.Torn directory name) ∧
    ((s.list directory).Nodup ↔ ∀ name, ¬ s.Torn directory name) := by
  refine ⟨fun _ => mem_list_iff,count_list_le_two s directory,fun name => ?_,?_⟩
  · rw [← two_le_count_list_iff,Nat.le_antisymm_iff]
    exact and_iff_right (count_list_le_two s directory name)
  · rw [List.nodup_iff_count_le_one]
    refine forall_congr' fun name => ?_
    rw [← two_le_count_list_iff,Nat.not_le,Nat.lt_succ_iff]

/-- A file and a subdirectory of one name are listed apart where a path with an exclamation mark stands between them. -/
theorem list_torn :
    let s := ((({ path := "s" } : Source).withAsset "a" []).withAsset "a!" []).withAsset "a/b" []
    s.list "" = ["a","a!","a"] ∧ ¬ (s.list "").Nodup := by
  decide +kernel

end AndroidResources.Source
