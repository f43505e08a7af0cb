import AndroidResources.Registry.Lookup

/-!
# Bags

A bag is put together from its definitions in all sources, each of which adds to or replaces what stands
in those of lower rank, on top of its parent. The parent is that of the definition of highest rank.
-/
namespace AndroidResources

/-- What the keys of a bag are. -/
inductive BagKind where
  /-- Attributes. -/
  | style
  /-- Positions. -/
  | array
  /-- Attributes, in the definition of an attribute. -/
  | attributeMap
  deriving DecidableEq, Inhabited

namespace BagKind

/-- The kind of the bags of a type. -/
def ofType (type : String) : BagKind :=
  if type ∈ ["array","string-array","integer-array"] then array
  else if type = "attr" then attributeMap
  else style

/-- The key of an entry at a position within its definition. -/
def key (kind : BagKind) (key : UInt32) (position : Nat) : UInt32 :=
  match kind with
  | array => ResourceId.arrayBase + .ofNat position
  | style | attributeMap => key

def name : BagKind → String
  | style => "Style"
  | array => "Array"
  | attributeMap => "AttributeMap"

end BagKind

/-- An entry of a bag, with its source and the bag that defines it. -/
structure BagEntry where
  key : UInt32
  value : Value
  cookie : Cookie
  style : ResourceId
  deriving DecidableEq

/-- The definition of a bag in one source. -/
structure Layer where
  cookie : Cookie
  kind : BagKind
  changes : Changes
  parent : ResourceId
  entries : List (UInt32 × Value)

/-- A bag put together. -/
structure Bag where
  id : ResourceId
  kind : BagKind
  entries : List BagEntry := []
  /-- The dimensions over which the bag, its parents and all their definitions vary. -/
  changes : Changes := .none
  /-- The parent, zero if there is none. -/
  parent : ResourceId

namespace Bag

/-- Puts an entry in the place of the one with its key, or at the end. -/
def put (entries : List BagEntry) (entry : BagEntry) : List BagEntry :=
  match entries with
  | [] => [entry]
  | e :: rest => if e.key = entry.key then entry :: rest else e :: put rest entry

/-- The entries that a layer brings to a bag of some kind. -/
def entriesOf (id : ResourceId) (kind : BagKind) (layer : Layer) : List BagEntry :=
  layer.entries.zipIdx.map fun ((key,value),position) =>
    { key := kind.key key position, value, cookie := layer.cookie, style := id }

/-- Lays a layer on top of a bag. -/
def lay (b : Bag) (layer : Layer) : Bag :=
  { b with
    entries := (entriesOf b.id b.kind layer).foldl put b.entries
    changes := b.changes.union layer.changes }

/-- A bag of its layers on top of its parent. -/
def compose (id : ResourceId) (top : Layer) (layers : List Layer) (parent : Option Bag) : Bag :=
  layers.foldl lay {
    id
    kind := top.kind
    parent := top.parent
    entries := (parent.map entries).getD []
    changes := (parent.map changes).getD .none }

/-- The last entry with a key. -/
def find? (b : Bag) (key : UInt32) : Option BagEntry :=
  b.entries.reverse.find? fun e => e.key = key

/-- An entry as a value that comes from no resource of its own. -/
def selected (b : Bag) (e : BagEntry) : Selected :=
  ⟨e.cookie,e.value,0,b.changes,{}⟩

/-- The keys that a bag sets. -/
def keys (b : Bag) : List UInt32 := b.entries.map BagEntry.key

/-- All entries as values. -/
def values (b : Bag) : List Selected := b.entries.map b.selected

end Bag

namespace Registry

/-- A candidate as a layer, if it is a bag. -/
def layerOf? (c : Candidate) : Option Layer :=
  match c.definition.content with
  | .value _ => none
  | .bag parent entries => some ⟨c.cookie,.ofType c.type,c.changes,parent,entries⟩

/-- The layer of a bag in one source: the best of its definitions there, for the locales in order. -/
def layerIn? (r : Registry) (id : ResourceId) (p : Placed) : Option Layer :=
  (r.selectLocalized? (candidatesIn p id) none).bind fun found => layerOf? found.1

/-- The layers of a bag by rank. -/
def layers (r : Registry) (id : ResourceId) : List Layer :=
  if id.isValid then r.byRank.filterMap (r.layerIn? id) else []

/-- A bag and its parents, the nearest first, in at most `fuel` steps; `visited` has those that came
    before. A chain ends without a parent or before a bag that is missing. -/
def stackWithin (r : Registry) : (fuel : Nat) → (visited : List ResourceId) → ResourceId →
    Except ResourceError (List ResourceId)
  | 0, _, _ => .ok []
  | fuel + 1, visited, id =>
    if id = 0 then .ok []
    else if id ∈ visited then .error (.cyclicParents id)
    else
      match (r.layers id).getLast? with
      | none => .ok []
      | some top => (r.stackWithin fuel (id :: visited) top.parent).map (id :: ·)

/-- How many ids have definitions at most. -/
def idCount (r : Registry) : Nat :=
  (r.sources.flatMap fun s => s.table.entries.keys).length

/-- A bag and its parents. Only ids with definitions take a step, and each of them one, so the steps
    suffice to come back to an id or to the end. -/
def stack (r : Registry) (id : ResourceId) : Except ResourceError (List ResourceId) :=
  r.stackWithin (r.idCount + 1) [] id

end Registry

end AndroidResources
