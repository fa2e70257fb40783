import EntityProvider.Configuration

/-!
# Backstage entities

The conversions of `backstage/entities.rs` that the HTTP API runs: Kubernetes
StatefulSets and Pods become Resources and Systems, configured groups, users and
domains become entities with the global annotations added.

Every conversion checks the object's types first and returns an `EntityError`
that names the entity kind it was building, the object, and what was missing.
`redisClusterFromShard` alone unwraps an `Option` before it checks it, so it is
the one conversion that may panic.
-/

namespace EntityProvider.Entities

open Kube EntityProvider.Configuration Library

def backstageDefaultOwner : String := "platform"
def backstageEntityApiVersion : String := "backstage.io/v1alpha1"
def backstageEntityResource : String := "Resource"
def backstageEntityUser : String := "User"
def backstageEntityGroup : String := "Group"
def backstageEntityDomain : String := "Domain"
def backstageEntitySystem : String := "System"
def backstageAnnLabelSelector : String := "backstage.io/kubernetes-label-selector"
def backstageAnnNamespace : String := "backstage.io/kubernetes-namespace"
def axyomcoreAnnCluster : String := "acme.com/kubernetes-cluster"
def redisLabelCluster : String := "redis.acme.com/name"
def redisLabelShard : String := "shard.acme.com/name"
def redisLabelK8sName : String := "app.kubernetes.io/component"
def axyomAnnRedisStatus : String := "backstage.acme.com/redis-status"

/-- `EntityError`: the kind of entity that was to be built, the object it was built from, and
what was missing. -/
structure EntityError where
  kind : String
  name : String
  message : String
  deriving DecidableEq, Repr

/-! ## Metadata -/

/-- `Metadata::new`: a name in the default namespace, and nothing else. -/
def Metadata.new (name : String) : Metadata :=
  { Metadata.empty with name := name, ns := some "default" }

/-- `Metadata::from_annotations`: a name in the default namespace, with the global annotations
of the settings. -/
def Metadata.fromAnnotations (bsc : BackstageSettings) (name : String) : Metadata :=
  match bsc.annotations with
  | some anns =>
      { Metadata.empty with name := name, ns := some "default", annotations := some anns }
  | none => Metadata.new name

@[simp] theorem Metadata.fromAnnotations_name (bsc : BackstageSettings) (name : String) :
    (fromAnnotations bsc name).name = name := by
  unfold fromAnnotations
  split <;> rfl

@[simp] theorem Metadata.fromAnnotations_ns (bsc : BackstageSettings) (name : String) :
    (fromAnnotations bsc name).ns = some "default" := by
  unfold fromAnnotations
  split <;> rfl

@[simp] theorem Metadata.fromAnnotations_labels (bsc : BackstageSettings) (name : String) :
    (fromAnnotations bsc name).labels = none := by
  unfold fromAnnotations
  split <;> rfl

@[simp] theorem Metadata.fromAnnotations_annotations (bsc : BackstageSettings)
    (name : String) : (fromAnnotations bsc name).annotations = bsc.annotations := by
  unfold fromAnnotations
  split
  next anns hanns => exact hanns.symm
  next hanns => exact hanns.symm

/-- `Metadata::from_static_config`.  The entity's own annotations are merged into
a copy (`anns2`) that is then dropped; the global ones are what remains. -/
def Metadata.fromStaticConfig (bsc : BackstageSettings) (md : Metadata) : Metadata :=
  let anns : StringMap := bsc.annotations.getD ∅
  match md.annotations with
  | some enAnns =>
      let _anns2 : StringMap := anns ∪ enAnns
      { md with ns := some "default", annotations := some anns }
  | none => { md with ns := some "default", annotations := some anns }

/-- What is left of static metadata: everything but the annotations, which are the global
ones. -/
theorem Metadata.fromStaticConfig_eq (bsc : BackstageSettings) (md : Metadata) :
    fromStaticConfig bsc md =
      { md with ns := some "default", annotations := some (bsc.annotations.getD ∅) } := by
  unfold fromStaticConfig
  cases md.annotations <;> rfl

@[simp] theorem Metadata.fromStaticConfig_name (bsc : BackstageSettings) (md : Metadata) :
    (fromStaticConfig bsc md).name = md.name := by
  rw [fromStaticConfig_eq]

@[simp] theorem Metadata.fromStaticConfig_ns (bsc : BackstageSettings) (md : Metadata) :
    (fromStaticConfig bsc md).ns = some "default" := by
  rw [fromStaticConfig_eq]

/-! ## Entities built from Kubernetes objects -/

/-- `ResourceSpec`: what a Resource is, who owns it, and how it relates to others. -/
structure ResourceSpec where
  type : String
  owner : String
  system : Option String
  dependsOn : Option (List String)
  dependencyOf : Option (List String)
  deriving DecidableEq, Repr

/-- `Resource`: what a StatefulSet or a Pod becomes, and the clusters that are made from
shards; `spec.type` tells which. -/
structure Resource where
  apiVersion : String
  kind : String
  metadata : Metadata
  spec : ResourceSpec

/-- `SystemSpec`: the owner of a System and the domain it is part of, as far as they are
known. -/
structure SystemSpec where
  owner : String
  domain : Option String
  type : Option String
  deriving DecidableEq, Repr

/-- `System`: the entity that the clusters of one application belong to. -/
structure System where
  apiVersion : String
  kind : String
  metadata : Metadata
  spec : SystemSpec

/-- `Resource::redis_status_from_statefulset`: the text of a `status` object. -/
def redisStatusFromStatefulset (obj : DynamicObject) : Option String :=
  match obj.data.get "status" with
  | some (.object status) => some (Value.toText (.object status))
  | some _ => none
  | none => none

/-- The locals the label loop of a shard conversion updates. -/
structure ShardLoop where
  lbls : StringMap
  anns : StringMap
  specType : String
  dependencyOf : Option (List String)

/-- One round of the label loop: copy the label, and react to the three labels
that mean something. -/
def ShardLoop.step (ns : String) (loop : ShardLoop) (entry : String × String) : ShardLoop :=
  let (label, val) := entry
  { lbls := loop.lbls.insert label val
    dependencyOf :=
      if label = redisLabelCluster then some ["resource:default" ++ "/" ++ val]
      else loop.dependencyOf
    anns :=
      if label = redisLabelShard then
        (loop.anns.insert backstageAnnLabelSelector (label ++ "=" ++ val)).insert
          backstageAnnNamespace ns
      else loop.anns
    specType :=
      if label = redisLabelK8sName ∧ val = "redis-cluster" then "redis-cluster-shard"
      else loop.specType }

section Conversions

variable [UnicodeTables]

/-- The type check each conversion starts with; `entity` is the kind of entity
it builds and `what` the kind of object it takes, lowercased and as written. -/
def checkKind (entity : String) (lowercased written : String) (obj : DynamicObject) :
    Except EntityError Unit :=
  match obj.types with
  | some tp =>
      if toLowercase tp.kind ≠ lowercased then
        .error
          { kind := entity, name := obj.nameAny
            message := "Resource is not a k8s " ++ written }
      else .ok ()
  | none =>
      .error
        { kind := entity, name := obj.nameAny, message := "Resource lacks TypeMeta data" }

/-- The check lets an object through if its types have the kind, ignoring case. -/
theorem checkKind_eq_ok_iff {entity lowercased written : String} {obj : DynamicObject} :
    checkKind entity lowercased written obj = .ok () ↔
      ∃ tp, obj.types = some tp ∧ toLowercase tp.kind = lowercased := by
  unfold checkKind
  cases obj.types with
  | none => simp
  | some tp => by_cases hkind : toLowercase tp.kind = lowercased <;> simp [hkind]

/-- A conversion that starts with the check. -/
theorem checkKind_bind_eq_ok_iff {α : Type} {entity lowercased written : String}
    {obj : DynamicObject} {next : Unit → Except EntityError α} {a : α} :
    (checkKind entity lowercased written obj >>= next) = .ok a ↔
      (∃ tp, obj.types = some tp ∧ toLowercase tp.kind = lowercased) ∧ next () = .ok a := by
  rw [← checkKind_eq_ok_iff]
  cases checkKind entity lowercased written obj <;> simp [bind, Except.bind]

/-- `Resource::redis_shard_from_statefulset`: a shard in the default namespace, with the
labels of the object and annotations computed from them. -/
def redisShardFromStatefulset (config : Settings) (obj : DynamicObject) :
    Except EntityError Resource := do
  checkKind backstageEntityResource "statefulset" "StatefulSet" obj
  let bsc := config.backstage
  let m := Metadata.fromAnnotations bsc obj.nameAny
  let anns := m.annotations.getD ∅
  let ns := obj.metadata.ns.getD "default"
  if m.name = "" then
    .error
      { kind := backstageEntityResource, name := obj.nameAny
        message := "Resource lacks Metadata name" }
  else
    let loop := obj.labels.toList.foldl (ShardLoop.step ns)
      { lbls := ∅, anns := anns, specType := "statefulset", dependencyOf := none }
    let anns := loop.anns.insert axyomcoreAnnCluster config.cluster
    let statusAnns :=
      if loop.specType = "redis-cluster-shard" then redisStatusFromStatefulset obj else none
    let anns := match statusAnns with
      | some stans => anns.insert axyomAnnRedisStatus stans
      | none => anns
    let labels := if loop.lbls.isEmpty then m.labels else some loop.lbls
    -- the configured annotations win over the computed ones
    let anns := match m.annotations with
      | some bsAnns => anns ∪ bsAnns
      | none => anns
    .ok
      { apiVersion := backstageEntityApiVersion
        kind := backstageEntityResource
        metadata := { m with labels := labels, annotations := some anns }
        spec :=
          { type := loop.specType, owner := backstageDefaultOwner, system := none
            dependsOn := none, dependencyOf := loop.dependencyOf } }

/-- The system a redis cluster belongs to, read off its label; `upf` is looked
for first. -/
def redisSystemOfCluster (config : Settings) (cluster : String) : Option String :=
  let clLower := toLowercase cluster
  if containsText clLower "upf" then some ("upf-redis-" ++ config.cluster)
  else if containsText clLower "smf" then some ("smf-redis-" ++ config.cluster)
  else none

/-- `Resource::redis_cluster_from_shard`.  The labels are unwrapped before the
match that would turn their absence into an error. -/
def redisClusterFromShard (config : Settings) (redis : Resource) :
    Checked (Except EntityError Resource) := do
  let m := redis.metadata
  let clusterLabels := (← unwrap m.labels).erase redisLabelCluster
  match m.labels with
  | some labels =>
      let cluster := labels[redisLabelCluster]?
      .ok (.ok
        { apiVersion := backstageEntityApiVersion
          kind := backstageEntityResource
          metadata :=
            { m with name := cluster.getD m.name, labels := some clusterLabels }
          spec :=
            { type := "redis-cluster", owner := backstageDefaultOwner
              system := cluster.bind (redisSystemOfCluster config)
              dependsOn :=
                (labels[redisLabelShard]?).map fun shard =>
                  ["resource:default" ++ "/" ++ shard]
              dependencyOf := none } })
  | none =>
      .ok (.error
        { kind := backstageEntityResource, name := m.name
          message := "Resource lacks redis labels" })

/-- `Resource::redis_node_from_pod`: a node, which is a dependency of its shard if the Pod
says which one.  A Pod without labels is an error. -/
def redisNodeFromPod (config : Settings) (obj : DynamicObject) :
    Except EntityError Resource := do
  checkKind backstageEntityResource "pod" "Pod" obj
  let m := Metadata.fromAnnotations config.backstage obj.nameAny
  if m.name = "" then
    .error
      { kind := backstageEntityResource, name := obj.nameAny
        message := "Resource lacks Metadata name" }
  else
    match obj.metadata.labels with
    | some labels =>
        .ok
          { apiVersion := backstageEntityApiVersion
            kind := backstageEntityResource
            metadata := m
            spec :=
              { type := "redis-cluster-node", owner := backstageDefaultOwner, system := none
                dependsOn := none
                dependencyOf :=
                  (labels[redisLabelShard]?).map fun shard =>
                    ["resource:default" ++ "/" ++ shard] } }
    | none =>
        .error
          { kind := backstageEntityResource, name := m.name
            message := "Resource lacks redis labels" }

/-- `System::from_stateful_set`; here `smf` is looked for first. -/
def systemFromStatefulSet (config : Settings) (obj : DynamicObject) :
    Except EntityError System := do
  checkKind backstageEntitySystem "statefulset" "StatefulSet" obj
  match obj.labels[redisLabelCluster]? with
  | none =>
      .error
        { kind := backstageEntitySystem, name := obj.nameAny
          message := "Statefulset lacks redis cluster label" }
  | some name =>
      let nmLcase := toLowercase name
      let redisSystem ←
        if containsText nmLcase "smf" then .ok "smf"
        else if containsText nmLcase "upf" then .ok "upf"
        else
          .error
            { kind := backstageEntitySystem, name := obj.nameAny
              message := "redis cluster label missing system" }
      .ok
        { apiVersion := backstageEntityApiVersion
          kind := backstageEntitySystem
          metadata :=
            Metadata.fromAnnotations config.backstage
              (redisSystem ++ "-redis-" ++ config.cluster)
          spec :=
            { owner := backstageDefaultOwner, domain := some redisSystem
              type := some "service" } }

end Conversions

/-! ## Static entities -/

/-- `Group::groups_from_config`: the configured groups, each with its metadata rewritten. -/
def groupsFromConfig (bsc : BackstageSettings) : List Group :=
  bsc.groups.map fun g =>
    { apiVersion := backstageEntityApiVersion
      kind := backstageEntityGroup
      metadata := Metadata.fromStaticConfig bsc g.metadata
      spec := g.spec }

/-- `User::users_from_config`: the configured users, likewise. -/
def usersFromConfig (bsc : BackstageSettings) : List User :=
  bsc.users.map fun u =>
    { apiVersion := backstageEntityApiVersion
      kind := backstageEntityUser
      metadata := Metadata.fromStaticConfig bsc u.metadata
      spec := u.spec }

/-- `Domain::domains_from_config`: the configured domains, likewise; none if there is no
list. -/
def domainsFromConfig (bsc : BackstageSettings) : List Domain :=
  (bsc.domains.getD []).map fun d =>
    { apiVersion := backstageEntityApiVersion
      kind := backstageEntityDomain
      metadata := Metadata.fromStaticConfig bsc d.metadata
      spec := d.spec }

/-- `Box<dyn BackstageEntity>`: the five types that are served. -/
inductive Entity where
  | resource (r : Resource)
  | group (g : Group)
  | user (u : User)
  | domain (d : Domain)
  | system (s : System)

end EntityProvider.Entities
