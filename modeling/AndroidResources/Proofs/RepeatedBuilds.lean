import AndroidResources.Proofs.TableContents

/-!
# Building again

Each request adds to what a builder has: a package, a definition, imported names, or its failure. A build takes all of it,
unless a request has failed: then it takes the failure alone, and the next build is that of the requests that could be read
(`Builder.build_again`).
-/
namespace AndroidResources.Builder
variable {b : Builder} {requests : List Call}

/-! ## What one request adds -/

/-- Why a request cannot be read. -/
def Call.failure? (c : Call) : Option TableError := (({} : Builder).call c).error

/-- The definition of a request that can be read. -/
def Call.definition? (c : Call) : Option Pending := (({} : Builder).call c).pending.head?

/-- The package that a request declares. -/
def Call.package? : Call → Option (UInt8 × String)
  | .package id name => some (id,name)
  | _ => none

theorem add_eq (b : Builder) (read : Except TableError Pending) : b.add read =
    { b with
      pending := b.pending ++ (({} : Builder).add read).pending.head?.toList
      error := b.error.or (({} : Builder).add read).error } := by
  cases read with
  | ok item => simp [add]
  | error error => simp [add,fail]

/-- A request adds a package, a definition or a failure, and nothing else but imported names. -/
theorem call_eq (b : Builder) (c : Call) : b.call c =
    { packages := b.packages ++ c.package?.toList
      pending := b.pending ++ c.definition?.toList
      imported := (b.call c).imported
      error := b.error.or c.failure? } := by
  -- Most requests only add what is read of their texts.
  have reads (read : Except TableError Pending) (all : ∀ b : Builder, b.call c = b.add read)
      (noPackage : c.package? = none) : b.call c =
        { packages := b.packages ++ c.package?.toList
          pending := b.pending ++ c.definition?.toList
          imported := (b.call c).imported
          error := b.error.or c.failure? } := by
    rw [noPackage,Call.definition?,Call.failure?,all,all,add_eq]
    simp
  cases c with
  | package id name => simp [call,package,Call.package?,Call.definition?,Call.failure?]
  | importNames t => simp [call,importNames,Call.package?,Call.definition?,Call.failure?]
  | typedValue id name c v => exact reads (.ok ⟨id,name,c,.value (.value v)⟩) (fun _ => rfl) rfl
  | value | valueFor | bag | bagFor | array => exact reads _ (fun _ => rfl) rfl

theorem calls_packages (b : Builder) (requests : List Call) :
    (b.calls requests).packages = b.packages ++ requests.filterMap Call.package? := by
  induction requests generalizing b with
  | nil => simp [calls]
  | cons c rest ih =>
    have later : (b.call c).packages ++ rest.filterMap Call.package? =
        b.packages ++ (c :: rest).filterMap Call.package? := by
      rw [call_eq,List.filterMap_cons]
      cases c.package? <;> simp
    exact (ih (b.call c)).trans later

theorem calls_pending (b : Builder) (requests : List Call) :
    (b.calls requests).pending = b.pending ++ requests.filterMap Call.definition? := by
  induction requests generalizing b with
  | nil => simp [calls]
  | cons c rest ih =>
    have later : (b.call c).pending ++ rest.filterMap Call.definition? =
        b.pending ++ (c :: rest).filterMap Call.definition? := by
      rw [call_eq,List.filterMap_cons]
      cases c.definition? <;> simp
    exact (ih (b.call c)).trans later

theorem calls_error (b : Builder) (requests : List Call) :
    (b.calls requests).error = b.error.or (requests.findSome? Call.failure?) := by
  induction requests generalizing b with
  | nil => simp [calls]
  | cons c rest ih =>
    have later : (b.call c).error.or (rest.findSome? Call.failure?) =
        b.error.or ((c :: rest).findSome? Call.failure?) := by
      rw [call_eq,List.findSome?_cons,Option.or_assoc]
      cases c.failure? <;> simp
    exact (ih (b.call c)).trans later

/-! ## Requests that cannot be read -/

/-- Whether a request can be read. -/
def Call.isRead (c : Call) : Bool := c.failure?.isNone

/-- Whether a request leaves a package or a definition in the builder. -/
def Call.leaves (c : Call) : Bool := c.package?.isSome || c.definition?.isSome

theorem calls_error_iff : (b.calls requests).error = none ↔ b.error = none ∧ ∀ c ∈ requests, c.isRead := by
  rw [calls_error]
  simp [Call.isRead]

theorem calls_empty_iff : (b.calls requests).packages = [] ∧ (b.calls requests).pending = [] ↔
    b.packages = [] ∧ b.pending = [] ∧ ∀ c ∈ requests, ¬ c.leaves := by
  rw [calls_packages,calls_pending]
  simp only [List.append_eq_nil_iff,List.filterMap_eq_nil_iff,Call.leaves,Bool.or_eq_true,not_or,
    Bool.not_eq_true,Option.isSome_eq_false_iff,Option.isNone_iff_eq_none]
  constructor
  · intro ⟨⟨noPackages,noPackage⟩,noPending,noDefinition⟩
    exact ⟨noPackages,noPending,fun c mem => ⟨noPackage c mem,noDefinition c mem⟩⟩
  · intro ⟨noPackages,noPending,leaves⟩
    exact ⟨⟨noPackages,fun c mem => (leaves c mem).1⟩,noPending,fun c mem => (leaves c mem).2⟩

/-- A request that cannot be read leaves its failure, and nothing else. -/
theorem call_unread {c : Call} (unread : ¬ c.isRead) (b : Builder) :
    { b.call c with error := none } = { b with error := none } := by
  have adds (read : Except TableError Pending) (all : ∀ b : Builder, b.call c = b.add read) :
      { b.call c with error := none } = { b with error := none } := by
    rw [all]
    cases read with
    | ok item =>
      rw [Call.isRead,Call.failure?,all] at unread
      exact absurd rfl unread
    | error error => rfl
  cases c with
  | package id name => exact absurd rfl unread
  | importNames t => exact absurd rfl unread
  | typedValue id name c v => exact absurd rfl unread
  | value | valueFor | bag | bagFor | array => exact adds _ fun _ => rfl

/-- A request that can be read leaves the same, whether or not one before it has failed. -/
theorem call_read {c : Call} (read : c.isRead) (b : Builder) :
    { b.call c with error := none } = { b with error := none }.call c := by
  have noFailure : c.failure? = none := Option.isNone_iff_eq_none.1 read
  have sameImports : (b.call c).imported = ({ b with error := none }.call c).imported := by
    cases c with
    | package id name => rfl
    | importNames t => rfl
    | typedValue | value | valueFor | bag | bagFor | array =>
      exact (b.add_keeps _).2.trans (Builder.add_keeps { b with error := none } _).2.symm
  rw [call_eq,call_eq { b with error := none },sameImports,noFailure]
  rfl

/-- What requests leave is what those leave that can be read. -/
theorem calls_read (b : Builder) (requests : List Call) :
    { b.calls requests with error := none } = { b with error := none }.calls (requests.filter Call.isRead) := by
  induction requests generalizing b with
  | nil => rfl
  | cons c rest ih =>
    refine (ih (b.call c)).trans ?_
    by_cases read : c.isRead
    · rw [List.filter_cons_of_pos read,call_read read]
      rfl
    · rw [List.filter_cons_of_neg read,call_unread read]

/-! ## Building twice -/

theorem build_failed (failed : b.error ≠ none) : b.build.2 = { b with error := none } := by
  obtain ⟨error,isError⟩ := Option.ne_none_iff_exists'.1 failed
  simp [build,isError]

theorem build_unfailed (unfailed : b.error = none) :
    b.build = (tableOf b.imported b.packages b.pending,{ imported := b.imported }) := by
  simp [build,unfailed]

/-- A table without packages is that of a builder that has collected nothing. -/
theorem collected_nil {t : Table} (built : b.build.1 = .ok t) (empty : t.packages = {}) :
    b.packages = [] ∧ b.pending = [] := by
  have holds := build_holds built
  refine ⟨List.eq_nil_iff_forall_not_mem.2 fun (id,name) mem => ?_,List.eq_nil_iff_forall_not_mem.2 fun item mem => ?_⟩
  · have declared := (holds.packages id name).2 mem
    rw [empty] at declared
    cases declared
  · obtain ⟨e,found⟩ := Option.isSome_iff_exists.1 ((holds.defined item.id).2 ⟨item,mem,rfl⟩)
    have declared := (fullName_ok (holds.named item mem e found)).1
    rw [empty] at declared
    cases declared

/-- A further build finds nothing if every request could be read. Otherwise it is the build of those that could, and the
    one after it finds nothing. -/
theorem build_again (b : Builder) (requests : List Call) :
    ((∃ t, (b.calls requests).build.2.build.1 = .ok t ∧ t.packages = {} ∧ t.strings = {}) ↔
      (b.error = none ∧ ∀ c ∈ requests, c.isRead) ∨
        b.packages = [] ∧ b.pending = [] ∧ ∀ c ∈ requests, ¬ c.leaves) ∧
    ((b.calls requests).build.2.build.1 =
      if b.error = none ∧ ∀ c ∈ requests, c.isRead then .ok {}
      else ({ b with error := none }.calls (requests.filter Call.isRead)).build.1) ∧
    (b.calls requests).build.2.build.2.build.1 = .ok {} := by
  simp only [← calls_error_iff,← calls_empty_iff,← calls_read]
  generalize b.calls requests = collected
  -- A failure is met before anything is taken.
  by_cases unfailed : collected.error = none
  · have emptied : collected.build.2 = { imported := collected.imported } := by rw [build_unfailed unfailed]
    rw [emptied,if_pos unfailed]
    exact ⟨⟨fun _ => .inl unfailed,fun _ => ⟨{},rfl,rfl,rfl⟩⟩,rfl,rfl⟩
  · rw [build_failed unfailed,if_neg unfailed]
    refine ⟨⟨?_,?_⟩,rfl,rfl⟩
    · intro ⟨t,built,empty,_⟩
      exact .inr (collected_nil (b := { collected with error := none }) built empty)
    · intro nothing
      obtain ⟨noPackages,noPending⟩ := nothing.resolve_left unfailed
      refine ⟨{},?_,rfl,rfl⟩
      rw [build_unfailed rfl,noPackages,noPending]
      rfl

/-- What a batch defines that was refused for a word in one of its configurations is built by the next build. -/
theorem build_again_leftover :
    let requests : List Call := [.package 0x7f "app",.value 0x7f010000 "string/s" "x",
      .valueFor 0x7f020000 "color/c" "bogus" "#fff"]
    let b := ({} : Builder).calls requests
    (∀ t, b.build.1 ≠ .ok t) ∧ ∃ t, b.build.2.build.1 = .ok t ∧ t.packages.get? 0x7f = some "app" ∧
      t.name? 0x7f010000 = some ⟨"app","string","s"⟩ ∧ t.strings.strings = ["x"] := by
  intro requests b
  have first : ¬ b.build.1.isOk := by decide +kernel
  have second : (b.build.2.build.1.toOption.map fun t => (t.packages.get? 0x7f,t.name? 0x7f010000,t.strings.strings)) =
      some (some "app",some ⟨"app","string","s"⟩,["x"]) := by decide +kernel
  refine ⟨fun t built => ?_,?_⟩
  · rw [built] at first
    exact first rfl
  · cases built : b.build.2.build.1 with
    | error => simp [built,Except.toOption] at second
    | ok t =>
      rw [built] at second
      simp only [Except.toOption,Option.map_some,Option.some.injEq,Prod.mk.injEq] at second
      exact ⟨t,rfl,second.1,second.2.1,second.2.2⟩

end AndroidResources.Builder
