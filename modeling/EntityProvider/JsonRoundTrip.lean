import EntityProvider.Backstage.Json
import EntityProvider.Library.Grouping
import EntityProvider.Library.Maps

/-!
# Entities that are read back

The JSON of an entity should be the same whether it is serialized boxed or by its own type,
and should deserialize to the entity: `RoundTrips`.

The boxed serializer is right.  Deserialization is right where the two names of a field are
the same, and this is all that matters: `required_written` and `optional_written` find every
such field, in whatever pattern of presence.  Users and domains are deserialized from the
configuration, though, which has `member_of` and `subdomain_of`, so a served user cannot be
read back, and a served domain loses what it is a subdomain of.  `readsBack` says what holds
nevertheless.
-/

namespace EntityProvider.Entities

open Std (ExtTreeMap)
open Kube Library

/-! ## Values -/

theorem deserializeVec_map {α : Type} {write : α → Value}
    {deserialize : Value → Except FieldError α} (hread : ∀ a, deserialize (write a) = .ok a)
    (l : List α) : deserializeVec deserialize (.array (l.map write)) = .ok l := by
  have hall : l.mapM (deserialize ∘ write) = .ok (l.map id) :=
    mapM_eq_map fun a _ => hread a
  show (l.map write).mapM deserialize = .ok l
  rw [List.mapM_map, hall, List.map_id]

theorem deserializeVec_serializeStrings (strings : List String) :
    deserializeVec deserializeString (serializeStrings strings) = .ok strings :=
  @deserializeVec_map _ Value.string _ (fun _ => rfl) strings

/-- **A map is read back**, in whatever order it was written. -/
theorem deserializeMap_serializeMap (order : IterOrder) (map : StringMap) :
    deserializeMap (serializeMap order map) = .ok map := by
  have hinsert : ∀ (entries : List (String × String)) (base : StringMap),
      (entries.map fun entry => (entry.1, Value.string entry.2)).foldlM
        (fun map field => do
          let value ← deserializeString field.2
          return map.insert field.1 value) base =
        (.ok (base.insertMany entries) : Except FieldError StringMap) := by
    intro entries
    induction entries with
    | nil => intro base; simp [pure, Except.pure]
    | cons entry rest ih =>
        intro base
        rw [List.map_cons, List.foldlM_cons, ExtTreeMap.insertMany_cons]
        exact ih _
  rw [serializeMap, deserializeMap, hinsert, insertMany_of_perm (order.perm _)]

/-- An optional string is read as one that is there. -/
theorem deserializeOption_string (s : String) :
    deserializeOption deserializeString (.string s) = .ok (some s) := rfl

theorem deserializeOption_map (order : IterOrder) (map : StringMap) :
    deserializeOption deserializeMap (serializeMap order map) = .ok (some map) := by
  show (deserializeMap (serializeMap order map)).map some = _
  rw [deserializeMap_serializeMap]
  rfl

theorem deserializeOption_vec {α : Type} {write : α → Value}
    {deserialize : Value → Except FieldError α} (hread : ∀ a, deserialize (write a) = .ok a)
    (l : List α) :
    deserializeOption (deserializeVec deserialize) (.array (l.map write)) = .ok (some l) := by
  show (deserializeVec deserialize (.array (l.map write))).map some = _
  rw [deserializeVec_map hread]
  rfl

theorem deserializeOption_strings (strings : List String) :
    deserializeOption (deserializeVec deserializeString) (serializeStrings strings) =
      .ok (some strings) :=
  @deserializeOption_vec _ Value.string _ (fun _ => rfl) strings

/-! ## Metadata -/

theorem Link.deserialize_serialize (link : Link) :
    Link.deserialize link.serialize = .ok link := by
  have hnames : (link.fields.map Prod.fst).Nodup := by
    show ["url", "title", "icon", "type"].Nodup
    decide
  have hurl := required_written hnames
    (by simp [Link.fields] : ("url", some (Value.string link.url)) ∈ link.fields)
    deserializeString
  have htitle := optional_written hnames
    (by simp [Link.fields] : ("title", link.title.map Value.string) ∈ link.fields)
    deserializeOption_string
  have hicon := optional_written hnames
    (by simp [Link.fields] : ("icon", link.icon.map Value.string) ∈ link.fields)
    deserializeOption_string
  have htype := optional_written hnames
    (by simp [Link.fields] : ("type", link.type.map Value.string) ∈ link.fields)
    deserializeOption_string
  simp only [Link.deserialize, Link.serialize, deserializeStruct, hurl, htitle, hicon, htype]
  rfl

theorem Metadata.deserialize_serialize (order : IterOrder) (md : Metadata) :
    Metadata.deserialize (md.serialize order) = .ok md := by
  have hnames : ((md.fields order).map Prod.fst).Nodup := by
    show ["name", "namespace", "title", "description", "labels", "annotations", "tags",
      "links"].Nodup
    decide
  have hname := required_written hnames
    (by simp [fields] : ("name", some (Value.string md.name)) ∈ md.fields order)
    deserializeString
  have hns := optional_written hnames
    (by simp [fields] : ("namespace", md.ns.map Value.string) ∈ md.fields order)
    deserializeOption_string
  have htitle := optional_written hnames
    (by simp [fields] : ("title", md.title.map Value.string) ∈ md.fields order)
    deserializeOption_string
  have hdescription := optional_written hnames
    (by simp [fields] : ("description", md.description.map Value.string) ∈ md.fields order)
    deserializeOption_string
  have hlabels := optional_written hnames
    (by simp [fields] : ("labels", md.labels.map (serializeMap order)) ∈ md.fields order)
    (deserializeOption_map order)
  have hannotations := optional_written hnames
    (by simp [fields] :
      ("annotations", md.annotations.map (serializeMap order)) ∈ md.fields order)
    (deserializeOption_map order)
  have htags := optional_written hnames
    (by simp [fields] : ("tags", md.tags.map serializeStrings) ∈ md.fields order)
    deserializeOption_strings
  have hlinks := optional_written hnames
    (by simp [fields] :
      ("links", md.links.map fun links => .array (links.map Link.serialize)) ∈
        md.fields order)
    (deserializeOption_vec Link.deserialize_serialize)
  simp only [Metadata.deserialize, Metadata.serialize, deserializeStruct, hname, hns, htitle,
    hdescription, hlabels, hannotations, htags, hlinks]
  rfl

/-! ## Specs -/

theorem GroupSpec.deserialize_serialize (order : IterOrder) (spec : GroupSpec) :
    GroupSpec.deserialize (spec.serialize order) = .ok spec := by
  have hnames : ((spec.fields order).map Prod.fst).Nodup := by
    show ["type", "profile", "parent", "children"].Nodup
    decide
  have htype := required_written hnames
    (by simp [fields] : ("type", some (Value.string spec.type)) ∈ spec.fields order)
    deserializeString
  have hprofile := optional_written hnames
    (by simp [fields] :
      ("profile", spec.profile.map (serializeMap order)) ∈ spec.fields order)
    (deserializeOption_map order)
  have hparent := optional_written hnames
    (by simp [fields] : ("parent", spec.parent.map Value.string) ∈ spec.fields order)
    deserializeOption_string
  have hchildren := required_written hnames
    (by simp [fields] :
      ("children", some (serializeStrings spec.children)) ∈ spec.fields order)
    (deserializeVec deserializeString)
  rw [deserializeVec_serializeStrings] at hchildren
  simp only [GroupSpec.deserialize, GroupSpec.serialize, deserializeStruct, htype, hprofile,
    hparent, hchildren]
  rfl

theorem SystemSpec.deserialize_serialize (spec : SystemSpec) :
    SystemSpec.deserialize spec.serialize = .ok spec := by
  have hnames : (spec.fields.map Prod.fst).Nodup := by
    show ["owner", "domain", "type"].Nodup
    decide
  have howner := required_written hnames
    (by simp [fields] : ("owner", some (Value.string spec.owner)) ∈ spec.fields)
    deserializeString
  have hdomain := optional_written hnames
    (by simp [fields] : ("domain", spec.domain.map Value.string) ∈ spec.fields)
    deserializeOption_string
  have htype := optional_written hnames
    (by simp [fields] : ("type", spec.type.map Value.string) ∈ spec.fields)
    deserializeOption_string
  simp only [SystemSpec.deserialize, SystemSpec.serialize, deserializeStruct, howner, hdomain,
    htype]
  rfl

/-- **The parent of a domain is lost**: it is not read under the name it is written under. -/
theorem DomainSpec.deserialize_serialize (spec : DomainSpec) :
    DomainSpec.deserialize spec.serialize = .ok { spec with subdomainOf := none } := by
  have hnames : (spec.fields.map Prod.fst).Nodup := by
    show ["owner", "subdomainOf", "type"].Nodup
    decide
  have howner := required_written hnames
    (by simp [fields] : ("owner", some (Value.string spec.owner)) ∈ spec.fields)
    deserializeString
  have hsubdomainOf := optional_written_of_notMem
    (by show "subdomain_of" ∉ spec.fields.map Prod.fst; simp [fields])
    (deserializeOption deserializeString)
  have htype := optional_written hnames
    (by simp [fields] : ("type", spec.type.map Value.string) ∈ spec.fields)
    deserializeOption_string
  simp only [DomainSpec.deserialize, DomainSpec.serialize, deserializeStruct, howner,
    hsubdomainOf, htype]
  rfl

/-- **The relations of a resource are lost**, like the parent of a domain. -/
theorem ResourceSpec.deserialize_serialize (spec : ResourceSpec) :
    ResourceSpec.deserialize spec.serialize =
      .ok { spec with dependsOn := none, dependencyOf := none } := by
  have hnames : (spec.fields.map Prod.fst).Nodup := by
    show ["type", "owner", "system", "dependsOn", "dependencyOf"].Nodup
    decide
  have htype := required_written hnames
    (by simp [fields] : ("type", some (Value.string spec.type)) ∈ spec.fields)
    deserializeString
  have howner := required_written hnames
    (by simp [fields] : ("owner", some (Value.string spec.owner)) ∈ spec.fields)
    deserializeString
  have hsystem := optional_written hnames
    (by simp [fields] : ("system", spec.system.map Value.string) ∈ spec.fields)
    deserializeOption_string
  have hdependsOn := optional_written_of_notMem
    (by show "depends_on" ∉ spec.fields.map Prod.fst; simp [fields])
    (deserializeOption (deserializeVec deserializeString))
  have hdependencyOf := optional_written_of_notMem
    (by show "dependency_of" ∉ spec.fields.map Prod.fst; simp [fields])
    (deserializeOption (deserializeVec deserializeString))
  simp only [ResourceSpec.deserialize, ResourceSpec.serialize, deserializeStruct, htype,
    howner,
    hsystem, hdependsOn, hdependencyOf]
  rfl

/-- **The memberships of a user are missing**, and they are required. -/
theorem UserSpec.deserialize_serialize (order : IterOrder) (spec : UserSpec) :
    UserSpec.deserialize (spec.serialize order) = .error (.missing "member_of") := by
  have hnames : ((spec.fields order).map Prod.fst).Nodup := by
    show ["profile", "memberOf"].Nodup
    decide
  have hprofile := optional_written hnames
    (by simp [fields] :
      ("profile", spec.profile.map (serializeMap order)) ∈ spec.fields order)
    (deserializeOption_map order)
  have hmemberOf := required_written_of_notMem
    (by show "member_of" ∉ (spec.fields order).map Prod.fst; simp [fields])
    (deserializeVec deserializeString)
  simp only [UserSpec.deserialize, UserSpec.serialize, deserializeStruct, hprofile, hmemberOf]
  rfl

/-! ## Entities -/

/-- **An entity is read back as far as its spec is.** -/
theorem deserializeEntity_written {S T : Type} (order : IterOrder)
    (name apiVersion kind : String) (metadata : Metadata) (spec : Value)
    (deserialize : Value → Except FieldError S) (make : String → String → Metadata → S → T) :
    deserializeEntity name deserialize make
        (.object (written (entityFields order apiVersion kind metadata spec))) =
      (deserialize spec).map (make apiVersion kind metadata) := by
  have hnames : ((entityFields order apiVersion kind metadata spec).map Prod.fst).Nodup := by
    show ["apiVersion", "kind", "metadata", "spec"].Nodup
    decide
  have hversion := required_written hnames
    (by simp [entityFields] : ("apiVersion", some (Value.string apiVersion)) ∈
      entityFields order apiVersion kind metadata spec) deserializeString
  have hkind := required_written hnames
    (by simp [entityFields] : ("kind", some (Value.string kind)) ∈
      entityFields order apiVersion kind metadata spec) deserializeString
  have hmetadata := required_written hnames
    (by simp [entityFields] : ("metadata", some (metadata.serialize order)) ∈
      entityFields order apiVersion kind metadata spec) Metadata.deserialize
  have hspec := required_written hnames
    (by simp [entityFields] : ("spec", some spec) ∈
      entityFields order apiVersion kind metadata spec) deserialize
  rw [Metadata.deserialize_serialize] at hmetadata
  simp only [deserializeEntity, deserializeStruct, hversion, hkind, hmetadata, hspec]
  cases deserialize spec <;> rfl

theorem Resource.deserialize_serialize (order : IterOrder) (r : Resource) :
    Resource.deserialize (r.serialize order) =
      .ok { r with spec := { r.spec with dependsOn := none, dependencyOf := none } } := by
  rw [Resource.deserialize, Resource.serialize, deserializeEntity_written,
    ResourceSpec.deserialize_serialize]
  rfl

theorem Group.deserialize_serialize (order : IterOrder) (g : Group) :
    Group.deserialize (g.serialize order) = .ok g := by
  rw [Group.deserialize, Group.serialize, deserializeEntity_written,
    GroupSpec.deserialize_serialize]
  rfl

theorem User.deserialize_serialize (order : IterOrder) (u : User) :
    User.deserialize (u.serialize order) = .error (.missing "member_of") := by
  rw [User.deserialize, User.serialize, deserializeEntity_written,
    UserSpec.deserialize_serialize]
  rfl

theorem Domain.deserialize_serialize (order : IterOrder) (d : Domain) :
    Domain.deserialize (d.serialize order) =
      .ok { d with spec := { d.spec with subdomainOf := none } } := by
  rw [Domain.deserialize, Domain.serialize, deserializeEntity_written,
    DomainSpec.deserialize_serialize]
  rfl

theorem System.deserialize_serialize (order : IterOrder) (s : System) :
    System.deserialize (s.serialize order) = .ok s := by
  rw [System.deserialize, System.serialize, deserializeEntity_written,
    SystemSpec.deserialize_serialize]
  rfl

/-- **Served entities can be read back**: boxed and unboxed they are the same JSON, and it
deserializes to what was serialized. -/
structure RoundTrips (order : IterOrder) : Prop where
  boxed : ∀ x : Entity, x.serializeBoxed order = .ok (x.serialize order)
  resources : ∀ r : Resource, Resource.deserialize (r.serialize order) = .ok r
  groups : ∀ g : Group, Group.deserialize (g.serialize order) = .ok g
  users : ∀ u : User, User.deserialize (u.serialize order) = .ok u
  domains : ∀ d : Domain, Domain.deserialize (d.serialize order) = .ok d
  systems : ∀ s : System, System.deserialize (s.serialize order) = .ok s

/-- **What is read back.**  Groups and systems are, and so are resources without relations.
Domains and users are read like the configuration: a domain without its parent, and a user
not at all. -/
structure ReadsBack (order : IterOrder) : Prop where
  boxed : ∀ x : Entity, x.serializeBoxed order = .ok (x.serialize order)
  resources : ∀ r : Resource, r.spec.dependsOn = none → r.spec.dependencyOf = none →
    Resource.deserialize (r.serialize order) = .ok r
  groups : ∀ g : Group, Group.deserialize (g.serialize order) = .ok g
  users : ∀ u : User,
    User.deserialize (u.serialize order) = .error (.missing "member_of")
  domains : ∀ d : Domain, Domain.deserialize (d.serialize order) =
    .ok { d with spec := { d.spec with subdomainOf := none } }
  systems : ∀ s : System, System.deserialize (s.serialize order) = .ok s

/-- Boxed or not, an entity is the same JSON. -/
theorem Entity.serializeBoxed_eq (order : IterOrder) (x : Entity) :
    x.serializeBoxed order = .ok (x.serialize order) := by
  cases x <;> rfl

/-- **What can be read back of the served JSON**, in whatever order maps are written. -/
theorem readsBack (order : IterOrder) : ReadsBack order where
  boxed := Entity.serializeBoxed_eq order
  resources r hdependsOn hdependencyOf := by
    have hspec : { r.spec with dependsOn := none, dependencyOf := none } = r.spec :=
      calc { r.spec with dependsOn := none, dependencyOf := none }
        _ = { r.spec with
              dependsOn := r.spec.dependsOn, dependencyOf := r.spec.dependencyOf } := by
            rw [hdependsOn, hdependencyOf]
        _ = r.spec := rfl
    rw [Resource.deserialize_serialize, hspec]
  groups := Group.deserialize_serialize order
  users := User.deserialize_serialize order
  domains := Domain.deserialize_serialize order
  systems := System.deserialize_serialize order

/-! ## A user -/

/-- A user who is a member of one group. -/
def platformUser : User where
  apiVersion := backstageEntityApiVersion
  kind := backstageEntityUser
  metadata := Metadata.new "guest"
  spec := ⟨none, ["platform"]⟩

/-- **A served user is not read back.** -/
theorem not_roundTrips_platformUser : ¬ RoundTrips .sorted := by
  intro hround
  have hread := hround.users platformUser
  rw [User.deserialize_serialize] at hread
  exact absurd hread (by simp)

end EntityProvider.Entities
