import AndroidResources.Table.Basic
import AndroidResources.Value.Literal

/-!
# Building tables

A builder collects packages and definitions in their text form; a table is built from them in two
passes. The first declares every name, so that a definition may refer to one that comes after it, and
the second looks names up and puts strings into the pool.
-/
namespace AndroidResources

/-- How an entry of a bag is keyed. -/
inductive BagKey where
  | id (key : UInt32)
  | name (name : String)
  /-- The next position of an array. -/
  | position
  deriving DecidableEq

/-- A definition's content before names are looked up. -/
inductive PendingContent where
  | value (literal : Literal)
  | bag (parent : Option Literal) (entries : List (BagKey × Literal))
  deriving DecidableEq

/-- A definition before names are looked up. -/
structure Pending where
  id : ResourceId
  name : String
  configuration : Configuration
  content : PendingContent
  deriving DecidableEq

/-- The ids of full names, the latest first. -/
abbrev Names := List (ResourceName × ResourceId)

/-- What has been collected for a table. -/
structure Builder where
  packages : List (UInt8 × String) := []
  pending : List Pending := []
  imported : Names := []
  /-- The first failure in what was asked for. -/
  error : Option TableError := none
  deriving Inhabited

namespace Builder

/-! ## Collecting -/

/-- Notes a failure, unless there is one already. -/
def fail (b : Builder) (error : TableError) : Builder :=
  { b with error := b.error.or (some error) }

/-- Adds what could be read, or notes why it could not. -/
def add (b : Builder) : Except TableError Pending → Builder
  | .ok item => { b with pending := b.pending ++ [item] }
  | .error error => b.fail error

/-- Declares a package. -/
def package (b : Builder) (id : UInt8) (name : String) : Builder :=
  { b with packages := b.packages ++ [(id,name)] }

/-- Makes the names of another table known. -/
def importNames (b : Builder) (t : Table) : Builder :=
  { b with imported := t.entries.toList.foldl (fun names e => (e.2.name,e.1) :: names) b.imported }

/-- Defines a value for a configuration. -/
def valueFor (b : Builder) (id : ResourceId) (name configuration text : String) : Builder :=
  b.add do
    let literal ← Literal.ofText text
    let configuration ← Configuration.ofText configuration
    pure ⟨id,name,configuration,.value literal⟩

/-- Defines a value. -/
def value (b : Builder) (id : ResourceId) (name text : String) : Builder :=
  b.valueFor id name "" text

/-- Defines a value that needs no reading. -/
def typedValue (b : Builder) (id : ResourceId) (name : String) (configuration : Configuration) (v : Value) :
    Builder :=
  b.add (.ok ⟨id,name,configuration,.value (.value v)⟩)

/-- The type that a name gives before its slash. -/
def typeBeforeSlash (name : String) : String :=
  match splitOnce? '/' name.toList with
  | some (type,_) => String.ofList type
  | none => "style"

/-- Reads the parent of a bag: nothing, a reference, or a bare name of the same type as the bag's. -/
def readParent (name parent : String) : Except TableError (Option Literal) :=
  match parent.toList with
  | [] => .ok none
  | '@' :: _ => (Literal.ofText parent).map some
  | _ => .ok (some (.name (typeBeforeSlash name ++ "/" ++ parent) false))

/-- Reads the key of a bag's entry. -/
def readKey (key : String) : BagKey :=
  if key = "" then .position
  else
    match Literal.hexId? key.toList with
    | some id => .id id
    | none => .name key

/-- Reads the entries of a bag. -/
def readEntries (entries : List (String × String)) : Except TableError (List (BagKey × Literal)) :=
  entries.mapM fun (key,text) => return (readKey key,← Literal.ofText text)

/-- Defines a bag for a configuration. -/
def bagFor (b : Builder) (id : ResourceId) (name configuration parent : String)
    (entries : List (String × String)) : Builder :=
  b.add do
    let parent ← readParent name parent
    let entries ← readEntries entries
    let configuration ← Configuration.ofText configuration
    pure ⟨id,name,configuration,.bag parent entries⟩

/-- Defines a bag. -/
def bag (b : Builder) (id : ResourceId) (name parent : String) (entries : List (String × String)) : Builder :=
  b.bagFor id name "" parent entries

/-- Defines an array. -/
def array (b : Builder) (id : ResourceId) (name : String) (items : List String) : Builder :=
  b.bag id name "" (items.map fun item => ("",item))

/-! ## First pass -/

/-- The packages of a table, each declared once. -/
def declarePackages (packages : List (UInt8 × String)) : Except TableError (OrderedMap UInt8 String) :=
  packages.foldlM (fun declared (id,name) =>
    if declared.contains id then .error (.duplicatePackage id) else .ok (declared.insert id name)) {}

/-- What has been declared: entries without definitions, and the ids of all names. -/
structure Declared where
  entries : OrderedMap ResourceId Entry := {}
  names : Names := []

/-- The name of a type that has been declared in a package. -/
def Declared.typeName? (d : Declared) (id : ResourceId) : Option String :=
  (d.entries.toList.find? fun e => e.1.package = id.package ∧ e.1.type = id.type).map (·.2.name.type)

/-- Refuses a second name for the same thing. -/
def agree (id : ResourceId) (declared : Option String) (name : String) : Except TableError Unit :=
  match declared with
  | some first => if first = name then .ok () else .error (.nameMismatch id first name)
  | none => .ok ()

/-- The full name of a definition, which needs its type and may have its package. -/
def fullName (packages : OrderedMap UInt8 String) (item : Pending) : Except TableError ResourceName := do
  if !item.id.isValid then throw (.invalidId item.id)
  let parts ← NameParts.ofText item.name
  match parts.type with
  | none => throw (.invalidName item.name)
  | some type =>
    match packages.get? item.id.package with
    | none => throw (.undeclaredPackage item.id)
    | some package =>
      if parts.package.any (· ≠ package) then throw (.invalidName item.name)
      pure ⟨package,type,parts.entry⟩

/-- Declares the name of a definition. -/
def declare (packages : OrderedMap UInt8 String) (d : Declared) (item : Pending) :
    Except TableError Declared := do
  let name ← fullName packages item
  agree item.id (d.typeName? item.id) name.type
  agree item.id ((d.entries.get? item.id).map (·.name.entry)) name.entry
  let entries := if d.entries.contains item.id then d.entries else d.entries.insert item.id { name }
  pure ⟨entries,(name,item.id) :: d.names⟩

/-! ## Second pass -/

/-- Looks a name up, from within a package and with a type to take if it has none. -/
def lookUp (names : Names) (package : String) (name defaultType : String) : Except TableError ResourceId := do
  let parts ← NameParts.ofText name
  match names.lookup ⟨parts.package.getD package,parts.type.getD defaultType,parts.entry⟩ with
  | some id => pure id
  | none => throw (.invalidName name)

/-- The value of a literal, and the pool with its string. -/
def encode (names : Names) (package : String) (pool : StringPool) :
    Literal → Except TableError (Value × StringPool)
  | .value v => .ok (v,pool)
  | .string s =>
    let (position,pool) := pool.intern s
    .ok (⟨.string,position⟩,pool)
  | .name name isAttribute =>
    if isAttribute then (lookUp names package name "attr").map fun id => (.themeAttribute id,pool)
    else (lookUp names package name "").map fun id => (.reference id,pool)

/-- The entries of a bag, `position` being the number of array positions before them. -/
def encodeEntries (names : Names) (package : String) :
    (position : Nat) → StringPool → List (BagKey × Literal) →
      Except TableError (List (UInt32 × Value) × StringPool)
  | _, pool, [] => .ok ([],pool)
  | position, pool, (key,literal) :: rest => do
    let (key,position) ← match key with
      | .id id => pure (id,position)
      | .name name => pure (← lookUp names package name "attr",position)
      | .position => pure (ResourceId.arrayBase + .ofNat position,position + 1)
    let (v,pool) ← encode names package pool literal
    let (entries,pool) ← encodeEntries names package position pool rest
    pure ((key,v) :: entries,pool)

/-- The id of a bag's parent: the data of whatever value it has. -/
def encodeParent (names : Names) (package : String) (pool : StringPool) :
    Option Literal → Except TableError (ResourceId × StringPool)
  | none => .ok (0,pool)
  | some literal => (encode names package pool literal).map fun (v,pool) => (v.data,pool)

/-- The content of a definition, and the pool with its strings. -/
def encodeContent (names : Names) (package : String) (pool : StringPool) :
    PendingContent → Except TableError (Content × StringPool)
  | .value literal => (encode names package pool literal).map fun (v,pool) => (.value v,pool)
  | .bag parent entries => do
    let (parent,pool) ← encodeParent names package pool parent
    let (entries,pool) ← encodeEntries names package 0 pool entries
    pure (.bag parent entries,pool)

/-- Adds a definition to its entry. -/
def define (names : Names) (t : Table) (item : Pending) : Except TableError Table := do
  let package := (t.packages.get? item.id.package).getD ""
  let (content,strings) ← encodeContent names package t.strings item.content
  match t.entries.get? item.id with
  | none => throw (.undeclaredPackage item.id)
  | some entry =>
    if entry.definitions.any (·.configuration = item.configuration) then
      throw (.duplicateConfiguration item.id item.configuration.text)
    let definitions := entry.definitions ++ [⟨item.configuration,content⟩]
    pure { t with strings, entries := t.entries.insert item.id { entry with definitions } }

/-! ## Building -/

/-- The table of packages and definitions, with imported names behind its own. -/
def tableOf (imported : Names) (packages : List (UInt8 × String)) (pending : List Pending) :
    Except TableError Table := do
  let packages ← declarePackages packages
  let declared ← pending.foldlM (declare packages) { names := imported }
  pending.foldlM (define declared.names) { packages, entries := declared.entries }

/-- Builds the table. What was collected is gone afterwards, the known names apart; after a failure in
    collecting, only the failure is. -/
def build (b : Builder) : Except TableError Table × Builder :=
  match b.error with
  | some error => (.error error,{ b with error := none })
  | none => (tableOf b.imported b.packages b.pending,{ imported := b.imported })

/-! ## Calls -/

/-- One request to a builder. -/
inductive Call where
  | package (id : UInt8) (name : String)
  | value (id : ResourceId) (name text : String)
  | valueFor (id : ResourceId) (name configuration text : String)
  | typedValue (id : ResourceId) (name : String) (configuration : Configuration) (v : Value)
  | bag (id : ResourceId) (name parent : String) (entries : List (String × String))
  | bagFor (id : ResourceId) (name configuration parent : String) (entries : List (String × String))
  | array (id : ResourceId) (name : String) (items : List String)
  | importNames (t : Table)

/-- The builder after a request. -/
def call (b : Builder) : Call → Builder
  | .package id name => b.package id name
  | .value id name text => b.value id name text
  | .valueFor id name configuration text => b.valueFor id name configuration text
  | .typedValue id name configuration v => b.typedValue id name configuration v
  | .bag id name parent entries => b.bag id name parent entries
  | .bagFor id name configuration parent entries => b.bagFor id name configuration parent entries
  | .array id name items => b.array id name items
  | .importNames t => b.importNames t

/-- The builder after requests in order. -/
def calls (b : Builder) (requests : List Call) : Builder :=
  requests.foldl call b

end Builder

end AndroidResources
