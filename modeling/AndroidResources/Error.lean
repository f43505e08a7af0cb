import AndroidResources.Text.Quoted

/-!
# What can go wrong

The causes of failure and the one place where each has its wording.
-/
namespace AndroidResources

/-- Why a table cannot be read or built. -/
inductive TableError where
  /-- A word of a configuration is no qualifier. -/
  | invalidQualifier (word : String)
  /-- A text is no value, or a resource has parts that do not go together. -/
  | invalidValue (text : String)
  /-- A text is no name of a resource, or the name of none. -/
  | invalidName (name : String)
  /-- An id lacks its package or its type. -/
  | invalidId (id : UInt32)
  | undeclaredPackage (id : UInt32)
  | duplicatePackage (package : UInt8)
  | duplicateConfiguration (id : UInt32) (configuration : String)
  /-- An id with two names, or a type with two names. -/
  | nameMismatch (id : UInt32) (first second : String)
  | malformedDescription
  deriving DecidableEq

/-- The wording of a table error. -/
def TableError.message : TableError → String
  | invalidQualifier word => "invalid configuration qualifier: " ++ Text.quoted word
  | invalidValue text => "invalid value literal: " ++ Text.quoted text
  | invalidName name => "invalid resource name: " ++ Text.quoted name
  | invalidId id => "invalid resource id: " ++ Text.hexId id
  | undeclaredPackage id => "resource " ++ Text.hexId id ++ " refers to undeclared package"
  | duplicatePackage package => "package 0x" ++ Text.hex 2 package.toNat ++ " declared twice"
  | duplicateConfiguration id configuration =>
    "resource " ++ Text.hexId id ++ " defined twice for configuration " ++ Text.quoted configuration
  | nameMismatch id first second =>
    "resource " ++ Text.hexId id ++ " named both " ++ Text.quoted first ++ " and " ++ Text.quoted second
  | malformedDescription => "got error while reading table description"

/-- Why a registry, or what is built on it, refuses a request. -/
inductive ResourceError where
  | fileNotFound
  | table (error : TableError)
  | malformedSource
  /-- A style is its own ancestor. -/
  | cyclicParents (style : UInt32)
  | invalidArgument (reason : String)
  | bufferTooSmall (needed got : Nat)
  | staleHandle
  /-- A theme was used with another registry than its own. -/
  | wrongRegistry
  deriving DecidableEq

/-- The wording of an error by itself. -/
def ResourceError.summary : ResourceError → String
  | fileNotFound => "No such file or directory (os error 2)"
  | table _ => "got error while building resource table"
  | malformedSource => "got error while reading source description"
  | cyclicParents style => "corrupt resource data: cyclic parent chain through style " ++ Text.hexId style
  | invalidArgument reason => "invalid argument: " ++ reason
  | bufferTooSmall needed got =>
    "buffer too small: need " ++ Nat.repr needed ++ " entries, got " ++ Nat.repr got
  | staleHandle => "stale or closed handle"
  | wrongRegistry => "theme belongs to a different asset manager"

/-- The wording of an error with its cause behind it. -/
def ResourceError.message : ResourceError → String
  | table error => summary (table error) ++ ": " ++ error.message
  | error => error.summary

/-- Two steps succeed if the first one does and then the second one. -/
theorem bind_eq_ok_iff {ε α β : Type} {x : Except ε α} {f : α → Except ε β} {b : β} :
    x >>= f = .ok b ↔ ∃ a, x = .ok a ∧ f a = .ok b := by
  cases x <;> simp [bind,Except.bind]

theorem map_eq_ok_iff {ε α β : Type} {x : Except ε α} {f : α → β} {b : β} :
    x.map f = .ok b ↔ ∃ a, x = .ok a ∧ f a = b := by
  cases x <;> simp [Except.map]

/-- Whether two steps succeed at all. -/
theorem exists_bind_eq_ok_iff {ε α β : Type} {x : Except ε α} {f : α → Except ε β} :
    (∃ b, x >>= f = .ok b) ↔ ∃ a, x = .ok a ∧ ∃ b, f a = .ok b := by
  cases x <;> simp [bind,Except.bind]

theorem exists_map_eq_ok_iff {ε α β : Type} {x : Except ε α} {f : α → β} : (∃ b, x.map f = .ok b) ↔ ∃ a, x = .ok a := by
  cases x <;> simp [Except.map]

end AndroidResources
