import EntityProvider.Backstage.Entities
import EntityProvider.Library.Records

/-!
# Entities as JSON

What `serde` derives for the types of `backstage/entities.rs`, and the serializer for a boxed
entity that is written by hand.

A type has two names for each field, one to serialize it under and one to deserialize it
from.  They are the same if nothing is said, if the field is renamed for both directions (as
`apiVersion` is), but not if it is renamed for serialization only.  Optional fields are left
out when they are absent.  A `HashMap` is serialized in the order in which it happens to
iterate.

Deserialization is that of a JSON object.  A derived `Deserialize` accepts the fields in an
array as well, which nothing serializes; and of two errors in one object it reports the one
that comes first, which the functions below need not do.
-/

namespace EntityProvider.Entities

open Kube Library

/-! ## Values -/

/-- `Vec<String>`. -/
def serializeStrings (strings : List String) : Value := .array (strings.map .string)

/-- `HashMap<String, String>`. -/
def serializeMap (order : IterOrder) (map : StringMap) : Value :=
  .object ((order.arrange map.toList).map fun entry => (entry.1, .string entry.2))

/-- A string. -/
def deserializeString : Value → Except FieldError String
  | .string s => .ok s
  | _ => .error (.invalid "a string")

/-- `Vec<T>`. -/
def deserializeVec {α : Type} (deserialize : Value → Except FieldError α) :
    Value → Except FieldError (List α)
  | .array items => items.mapM deserialize
  | _ => .error (.invalid "a sequence")

/-- `HashMap<String, String>`: of two values under a key the later one stays. -/
def deserializeMap : Value → Except FieldError StringMap
  | .object fields =>
      fields.foldlM (fun map field => do
        let value ← deserializeString field.2
        return map.insert field.1 value) ∅
  | _ => .error (.invalid "a map")

/-- `Option<T>`: `null` is `None`. -/
def deserializeOption {α : Type} (deserialize : Value → Except FieldError α) (v : Value) :
    Except FieldError (Option α) :=
  match v with
  | .null => .ok none
  | v => (deserialize v).map some

/-- A struct, from its fields. -/
def deserializeStruct {α : Type} (name : String)
    (deserialize : List (String × Value) → Except FieldError α) :
    Value → Except FieldError α
  | .object fields => deserialize fields
  | _ => .error (.invalid ("struct " ++ name))

/-! ## Metadata -/

/-- The fields of a `Link`. -/
def Link.fields (link : Link) : List (String × Option Value) :=
  [("url", some (.string link.url)), ("title", link.title.map .string),
    ("icon", link.icon.map .string), ("type", link.type.map .string)]

def Link.serialize (link : Link) : Value := .object (written link.fields)

def Link.deserialize : Value → Except FieldError Link :=
  deserializeStruct "Link" fun fields => do
    let url ← required fields "url" deserializeString
    let title ← optional fields "title" (deserializeOption deserializeString)
    let icon ← optional fields "icon" (deserializeOption deserializeString)
    let type ← optional fields "type" (deserializeOption deserializeString)
    return ⟨url, title, icon, type⟩

/-- The fields of `Metadata`. -/
def Metadata.fields (order : IterOrder) (md : Metadata) : List (String × Option Value) :=
  [("name", some (.string md.name)), ("namespace", md.ns.map .string),
    ("title", md.title.map .string), ("description", md.description.map .string),
    ("labels", md.labels.map (serializeMap order)),
    ("annotations", md.annotations.map (serializeMap order)),
    ("tags", md.tags.map serializeStrings),
    ("links", md.links.map fun links => .array (links.map Link.serialize))]

def Metadata.serialize (order : IterOrder) (md : Metadata) : Value :=
  .object (written (md.fields order))

def Metadata.deserialize : Value → Except FieldError Metadata :=
  deserializeStruct "Metadata" fun fields => do
    let name ← required fields "name" deserializeString
    let ns ← optional fields "namespace" (deserializeOption deserializeString)
    let title ← optional fields "title" (deserializeOption deserializeString)
    let description ← optional fields "description" (deserializeOption deserializeString)
    let labels ← optional fields "labels" (deserializeOption deserializeMap)
    let annotations ← optional fields "annotations" (deserializeOption deserializeMap)
    let tags ← optional fields "tags" (deserializeOption (deserializeVec deserializeString))
    let links ← optional fields "links" (deserializeOption (deserializeVec Link.deserialize))
    return ⟨name, ns, title, description, labels, annotations, tags, links⟩

/-! ## Specs -/

/-- The fields of a `ResourceSpec`; two are renamed for serialization only. -/
def ResourceSpec.fields (spec : ResourceSpec) : List (String × Option Value) :=
  [("type", some (.string spec.type)), ("owner", some (.string spec.owner)),
    ("system", spec.system.map .string),
    ("dependsOn", spec.dependsOn.map serializeStrings),
    ("dependencyOf", spec.dependencyOf.map serializeStrings)]

def ResourceSpec.serialize (spec : ResourceSpec) : Value := .object (written spec.fields)

def ResourceSpec.deserialize : Value → Except FieldError ResourceSpec :=
  deserializeStruct "ResourceSpec" fun fields => do
    let type ← required fields "type" deserializeString
    let owner ← required fields "owner" deserializeString
    let system ← optional fields "system" (deserializeOption deserializeString)
    let dependsOn ← optional fields "depends_on"
      (deserializeOption (deserializeVec deserializeString))
    let dependencyOf ← optional fields "dependency_of"
      (deserializeOption (deserializeVec deserializeString))
    return ⟨type, owner, system, dependsOn, dependencyOf⟩

/-- The fields of a `GroupSpec`. -/
def GroupSpec.fields (order : IterOrder) (spec : GroupSpec) : List (String × Option Value) :=
  [("type", some (.string spec.type)), ("profile", spec.profile.map (serializeMap order)),
    ("parent", spec.parent.map .string), ("children", some (serializeStrings spec.children))]

def GroupSpec.serialize (order : IterOrder) (spec : GroupSpec) : Value :=
  .object (written (spec.fields order))

def GroupSpec.deserialize : Value → Except FieldError GroupSpec :=
  deserializeStruct "GroupSpec" fun fields => do
    let type ← required fields "type" deserializeString
    let profile ← optional fields "profile" (deserializeOption deserializeMap)
    let parent ← optional fields "parent" (deserializeOption deserializeString)
    let children ← required fields "children" (deserializeVec deserializeString)
    return ⟨type, profile, parent, children⟩

/-- The fields of a `UserSpec`; `member_of` is renamed for serialization only. -/
def UserSpec.fields (order : IterOrder) (spec : UserSpec) : List (String × Option Value) :=
  [("profile", spec.profile.map (serializeMap order)),
    ("memberOf", some (serializeStrings spec.memberOf))]

def UserSpec.serialize (order : IterOrder) (spec : UserSpec) : Value :=
  .object (written (spec.fields order))

def UserSpec.deserialize : Value → Except FieldError UserSpec :=
  deserializeStruct "UserSpec" fun fields => do
    let profile ← optional fields "profile" (deserializeOption deserializeMap)
    let memberOf ← required fields "member_of" (deserializeVec deserializeString)
    return ⟨profile, memberOf⟩

/-- The fields of a `DomainSpec`; `subdomain_of` is renamed for serialization only. -/
def DomainSpec.fields (spec : DomainSpec) : List (String × Option Value) :=
  [("owner", some (.string spec.owner)), ("subdomainOf", spec.subdomainOf.map .string),
    ("type", spec.type.map .string)]

def DomainSpec.serialize (spec : DomainSpec) : Value := .object (written spec.fields)

def DomainSpec.deserialize : Value → Except FieldError DomainSpec :=
  deserializeStruct "DomainSpec" fun fields => do
    let owner ← required fields "owner" deserializeString
    let subdomainOf ← optional fields "subdomain_of" (deserializeOption deserializeString)
    let type ← optional fields "type" (deserializeOption deserializeString)
    return ⟨owner, subdomainOf, type⟩

/-- The fields of a `SystemSpec`. -/
def SystemSpec.fields (spec : SystemSpec) : List (String × Option Value) :=
  [("owner", some (.string spec.owner)), ("domain", spec.domain.map .string),
    ("type", spec.type.map .string)]

def SystemSpec.serialize (spec : SystemSpec) : Value := .object (written spec.fields)

def SystemSpec.deserialize : Value → Except FieldError SystemSpec :=
  deserializeStruct "SystemSpec" fun fields => do
    let owner ← required fields "owner" deserializeString
    let domain ← optional fields "domain" (deserializeOption deserializeString)
    let type ← optional fields "type" (deserializeOption deserializeString)
    return ⟨owner, domain, type⟩

/-! ## Entities -/

/-- The fields that every entity has; `api_version` is renamed for both directions. -/
def entityFields (order : IterOrder) (apiVersion kind : String) (metadata : Metadata)
    (spec : Value) : List (String × Option Value) :=
  [("apiVersion", some (.string apiVersion)), ("kind", some (.string kind)),
    ("metadata", some (metadata.serialize order)), ("spec", some spec)]

/-- The derived `Deserialize` of an entity, by those of its spec. -/
def deserializeEntity {S T : Type} (name : String) (spec : Value → Except FieldError S)
    (make : String → String → Metadata → S → T) : Value → Except FieldError T :=
  deserializeStruct name fun fields => do
    let apiVersion ← required fields "apiVersion" deserializeString
    let kind ← required fields "kind" deserializeString
    let metadata ← required fields "metadata" Metadata.deserialize
    let spec ← required fields "spec" spec
    return make apiVersion kind metadata spec

def Resource.serialize (order : IterOrder) (r : Resource) : Value :=
  .object (written (entityFields order r.apiVersion r.kind r.metadata r.spec.serialize))

def Resource.deserialize : Value → Except FieldError Resource :=
  deserializeEntity "Resource" ResourceSpec.deserialize Resource.mk

def Group.serialize (order : IterOrder) (g : Group) : Value :=
  .object
    (written (entityFields order g.apiVersion g.kind g.metadata (g.spec.serialize order)))

def Group.deserialize : Value → Except FieldError Group :=
  deserializeEntity "Group" GroupSpec.deserialize Group.mk

def User.serialize (order : IterOrder) (u : User) : Value :=
  .object
    (written (entityFields order u.apiVersion u.kind u.metadata (u.spec.serialize order)))

def User.deserialize : Value → Except FieldError User :=
  deserializeEntity "User" UserSpec.deserialize User.mk

def Domain.serialize (order : IterOrder) (d : Domain) : Value :=
  .object (written (entityFields order d.apiVersion d.kind d.metadata d.spec.serialize))

def Domain.deserialize : Value → Except FieldError Domain :=
  deserializeEntity "Domain" DomainSpec.deserialize Domain.mk

def System.serialize (order : IterOrder) (s : System) : Value :=
  .object (written (entityFields order s.apiVersion s.kind s.metadata s.spec.serialize))

def System.deserialize : Value → Except FieldError System :=
  deserializeEntity "System" SystemSpec.deserialize System.mk

/-- What the type of the entity derives. -/
def Entity.serialize (order : IterOrder) : Entity → Value
  | .resource r => r.serialize order
  | .group g => g.serialize order
  | .user u => u.serialize order
  | .domain d => d.serialize order
  | .system s => s.serialize order

/-- `Serialize for Box<dyn BackstageEntity>`.  The five types are all there are, so the last
error of the source, for an unknown type, has no case. -/
def Entity.serializeBoxed (order : IterOrder) : Entity → Except String Value
  | .resource r =>
      .ok (.object [("apiVersion", .string r.apiVersion), ("kind", .string r.kind),
        ("metadata", r.metadata.serialize order), ("spec", r.spec.serialize)])
  | .group g =>
      .ok (.object [("apiVersion", .string g.apiVersion), ("kind", .string g.kind),
        ("metadata", g.metadata.serialize order), ("spec", g.spec.serialize order)])
  | .user u =>
      .ok (.object [("apiVersion", .string u.apiVersion), ("kind", .string u.kind),
        ("metadata", u.metadata.serialize order), ("spec", u.spec.serialize order)])
  | .domain d =>
      .ok (.object [("apiVersion", .string d.apiVersion), ("kind", .string d.kind),
        ("metadata", d.metadata.serialize order), ("spec", d.spec.serialize)])
  | .system s =>
      .ok (.object [("apiVersion", .string s.apiVersion), ("kind", .string s.kind),
        ("metadata", s.metadata.serialize order), ("spec", s.spec.serialize)])

end EntityProvider.Entities
