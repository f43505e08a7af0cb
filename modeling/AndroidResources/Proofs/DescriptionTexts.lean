import AndroidResources.Proofs.JsonRecords
import AndroidResources.Proofs.MapEntries
import AndroidResources.Source.Description

/-!
# Texts of descriptions

A description is written with the members that it needs, and each of them is read back from where it stands, absent
ones as absent (`SourceDescription.ofJson?_toJson`). The written value is sound and shallow and has small numbers, so
both of its texts are descriptions too, of the same source (`SourceDescription.ofText_toJson`).
-/
namespace AndroidResources

theorem idBelow?_integer {bound n : Nat} (below : n < bound) : idBelow? bound (.integer n) = some n := by
  simp [idBelow?,below]

/-! ## Reading back -/

/-- The members of an entry. -/
def BagItem.members (item : BagItem) : List (String × Option Json) :=
  [("key",some (.string item.key)),("value",some (.string item.value))]

theorem BagItem.ofJson?_toJson (item : BagItem) : ofJson? item.toJson = some item := by
  have members : item.toJson.record? ["key","value"] = some [some (.string item.key),some (.string item.value)] :=
    Json.record?_present item.members (by decide : ["key","value"].Nodup)
  simp [ofJson?,members,Json.optional?,Json.required?,Json.toText?]

/-- The members of a resource, of which some may be absent. -/
def ResourceDescription.members (r : ResourceDescription) : List (String × Option Json) :=
  [("id",some (.integer r.id.toNat)),("name",some (.string r.name)),
    ("config",if r.configuration = "" then none else some (.string r.configuration)),
    ("value",r.value.map .string),("parent",r.parent.map .string),
    ("bag",r.bag.map fun items => .array (items.map BagItem.toJson)),
    ("items",r.items.map fun items => .array (items.map .string))]

theorem ResourceDescription.toJson_eq (r : ResourceDescription) : r.toJson = .object (Json.present r.members) := by
  have optional {α : Type} (name : String) (write : α → Json) (value : Option α) :
      memberIf name write value = (value.map write).toList.map fun value => (name,value) := by cases value <;> rfl
  have configuration : (if r.configuration = "" then [] else [("config",Json.string r.configuration)]) =
      (if r.configuration = "" then none else some (Json.string r.configuration)).toList.map
        fun value => ("config",value) := by split <;> rfl
  rw [toJson,configuration,optional,optional,optional,optional]
  simp [Json.present,members]

theorem ResourceDescription.ofJson?_toJson (r : ResourceDescription) : ofJson? r.toJson = some r := by
  have read : Json.record? ["id","name","config","value","parent","bag","items"] (.object (Json.present r.members)) =
      some (r.members.map Prod.snd) := Json.record?_present r.members (by simp [members])
  have id := idBelow?_integer r.id.toNat_lt
  have configuration : Json.optional? Json.toText? ""
      (if r.configuration = "" then none else some (.string r.configuration)) = some r.configuration := by
    by_cases absent : r.configuration = "" <;> simp [Json.optional?,Json.toText?,absent]
  have bag := Json.optional?_nullable? _ _ (Json.toList?_map _ _ BagItem.ofJson?_toJson) (by simp) r.bag
  have texts (items : List String) : Json.toList? Json.toText? (.array (items.map .string)) = some items :=
    Json.toList?_map _ .string (fun _ => rfl) items
  have items := Json.optional?_nullable? _ _ texts (by simp) r.items
  rw [ofJson?,toJson_eq,read]
  simp [members,Json.required?,id,Json.optional?_text,configuration,bag,items,Json.toText?]

/-- The members of a package. -/
def PackageDescription.members (p : PackageDescription) : List (String × Option Json) :=
  [("id",some (.integer p.id.toNat)),("name",some (.string p.name)),
    ("resources",some (.array (p.resources.map ResourceDescription.toJson)))]

theorem PackageDescription.ofJson?_toJson (p : PackageDescription) : ofJson? p.toJson = some p := by
  have read : p.toJson.record? ["id","name","resources"] = some (p.members.map Prod.snd) :=
    Json.record?_present p.members (by simp [members])
  have id := idBelow?_integer p.id.toNat_lt
  have resources := Json.toList?_map _ _ ResourceDescription.ofJson?_toJson p.resources
  rw [ofJson?,read]
  simp [members,Json.required?,Json.optional?,id,resources,Json.toText?]

theorem packagesOf?_packagesMember (packages : List PackageDescription) :
    packagesOf? (some (packagesMember packages).2) = some packages :=
  Json.toList?_map _ _ PackageDescription.ofJson?_toJson packages

theorem TableDescription.ofJson?_toJson (d : TableDescription) : ofJson? d.toJson = some d := by
  have read : d.toJson.record? ["packages"] = some [some (packagesMember d.packages).2] :=
    Json.record?_present [("packages",some (packagesMember d.packages).2)] (by simp)
  simp [ofJson?,read,packagesOf?_packagesMember]

namespace SourceDescription

/-- The files of a source as a member. -/
def assetsValue (assets : OrderedMap String String) : Json :=
  .object (assets.toList.map fun (path,content) => (path,.string content))

theorem assetsOfJson?_assetsValue (assets : OrderedMap String String) :
    assetsOfJson? (assetsValue assets) = some assets := by
  have read : (assets.toList.map fun (path,content) => (path,Json.string content)).mapM assetOfMember? =
      some (assets.toList.map id) := mapM_map_eq_some fun _ _ => rfl
  rw [List.map_id] at read
  unfold assetsValue
  rw [assetsOfJson?,read,Option.map_some,OrderedMap.ofList_toList]

/-- The members of a source. -/
def members (d : SourceDescription) : List (String × Option Json) :=
  [("system",some (.bool d.flags.system)),("overlay",some (.bool d.flags.overlay)),
    ("loader",some (.bool d.flags.loader)),("lower_priority",some (.bool d.flags.lowerPriority)),
    ("assets",some (assetsValue d.assets)),("packages",some (packagesMember d.packages).2)]

theorem mark?_present {d : SourceDescription} {name : String} {b : Bool} (mem : (name,some (.bool b)) ∈ d.members) :
    mark? (Json.present d.members) name = some b := by
  rw [mark?,Json.member?_present (by simp [members]) mem]
  rfl

end SourceDescription

/-! ## Soundness -/

theorem BagItem.isSound_toJson (item : BagItem) : item.toJson.IsSound 1 := by
  refine Json.isSound_present item.members ?_
  simp [members,Json.isSound_string]

theorem ResourceDescription.isSound_toJson (r : ResourceDescription) : r.toJson.IsSound 3 := by
  have bag (items : List BagItem) : Json.IsSound 2 (.array (items.map BagItem.toJson)) :=
    Json.isSound_array (List.forall_mem_map.mpr fun item _ => item.isSound_toJson)
  have items (items : List String) : Json.IsSound 2 (.array (items.map .string)) :=
    Json.isSound_array (List.forall_mem_map.mpr fun item _ => Json.isSound_string item)
  rw [toJson_eq]
  refine Json.isSound_present r.members ?_
  simp [members,Json.isSound_string,Json.isSound_integer r.id.toNat_lt,bag,items]

theorem PackageDescription.isSound_toJson (p : PackageDescription) : p.toJson.IsSound 5 := by
  have resources : Json.IsSound 4 (.array (p.resources.map ResourceDescription.toJson)) :=
    Json.isSound_array (List.forall_mem_map.mpr fun r _ => r.isSound_toJson)
  have id := p.id.toNat_lt
  refine Json.isSound_present p.members ?_
  simp [members,Json.isSound_string,Json.isSound_integer (n := p.id.toNat) (by omega),resources]

theorem isSound_packagesMember (packages : List PackageDescription) : (packagesMember packages).2.IsSound 6 :=
  Json.isSound_array (List.forall_mem_map.mpr fun p _ => p.isSound_toJson)

/-- A table's description is read back from its text, whether it is written without blanks or over several lines. -/
theorem TableDescription.ofText_written (d : TableDescription) :
    ofText d.toJson.compact = .ok d ∧ ofText d.toJson.pretty = .ok d := by
  have sound : d.toJson.IsSound 7 :=
    Json.isSound_present [("packages",some (packagesMember d.packages).2)] (by simp [isSound_packagesMember])
  obtain ⟨compact,pretty⟩ := Json.parse?_written sound.near
  exact ⟨by simp only [ofText,compact,Option.bind_some,ofJson?_toJson],
    by simp only [ofText,pretty,Option.bind_some,ofJson?_toJson]⟩

namespace SourceDescription

theorem isSound_toJson (d : SourceDescription) : d.toJson.IsSound 7 := by
  have assets : Json.IsSound 6 (assetsValue d.assets) :=
    Json.isSound_object (List.forall_mem_map.mpr fun entry _ => Json.isSound_string entry.2)
  refine Json.isSound_present d.members ?_
  simp [members,Json.isSound_bool,assets,isSound_packagesMember]

theorem ofJson?_toJson (d : SourceDescription) : ofJson? d.toJson = some d := by
  have proper := d.isSound_toJson.proper
  have shallow : ¬ maxDepth < d.toJson.depth := Nat.not_lt.mpr (d.isSound_toJson.shallow.trans (by decide))
  have read (name : String) (value : Json) (mem : (name,some value) ∈ d.members) :
      Json.member? (Json.present d.members) name = some (some value) := Json.member?_present (by simp [members]) mem
  have isObject : d.toJson = .object (Json.present d.members) := rfl
  have system : mark? (Json.present d.members) "system" = some d.flags.system := mark?_present (by simp [members])
  have overlay : mark? (Json.present d.members) "overlay" = some d.flags.overlay := mark?_present (by simp [members])
  have loader : mark? (Json.present d.members) "loader" = some d.flags.loader := mark?_present (by simp [members])
  have lower : mark? (Json.present d.members) "lower_priority" = some d.flags.lowerPriority :=
    mark?_present (by simp [members])
  have assets := read "assets" (assetsValue d.assets) (by simp [members])
  have packages := read "packages" (packagesMember d.packages).2 (by simp [members])
  -- What follows the checks is read member by member.
  rw [isObject] at proper shallow ⊢
  simp only [ofJson?]
  simp [proper,shallow,system,overlay,loader,lower,assets,packages,Json.optional?,assetsOfJson?_assetsValue,
    packagesOf?_packagesMember]

/-- A description is read back from its text, whether it is written without blanks or over several lines, and the file
    that holds the text is the source that is described. -/
theorem ofText_toJson (d : SourceDescription) :
    ofText d.toJson.compact = .ok d ∧ ofText d.toJson.pretty = .ok d ∧
      ∀ path imports, Source.load path (some d.toJson.compact) imports = d.build path imports ∧
        Source.load path (some d.toJson.pretty) imports = d.build path imports := by
  obtain ⟨compact,pretty⟩ := Json.parse?_written d.isSound_toJson.near
  have compact : ofText d.toJson.compact = .ok d := by simp only [ofText,compact,Option.bind_some,ofJson?_toJson]
  have pretty : ofText d.toJson.pretty = .ok d := by simp only [ofText,pretty,Option.bind_some,ofJson?_toJson]
  refine ⟨compact,pretty,fun path imports => ⟨?_,?_⟩⟩
  · simp only [Source.load,compact]
    rfl
  · simp only [Source.load,pretty]
    rfl

end SourceDescription

end AndroidResources
