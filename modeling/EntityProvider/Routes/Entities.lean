import EntityProvider.Backstage.Entities

/-!
# The entities API

The two handlers of `routes/api/v1/entities.rs` that read the cache, as functions
of its contents.  Both run with the cache locked; a panic inside one of them
unwinds through the lock guard.

`get_entities` collects the redis clusters in a `HashMap`, whose iteration order
is not determined; every result holds for all of them.
-/

namespace EntityProvider

open Std (ExtTreeMap)
open Kube Entities Library
open EntityProvider.Configuration (Settings)

namespace Routes

/-- `K8sKinds`: the kinds that `get_entities` tells apart.  It converts only two of them. -/
inductive K8sKinds where
  | statefulSet
  | deployment
  | pod
  | unknown
  deriving DecidableEq, Repr

section Handlers

variable [UnicodeTables]

/-- `K8sKinds::get_kind`: the kind with a name, in any case of letters. -/
def K8sKinds.getKind (name : String) : K8sKinds :=
  if toLowercase name = "statefulset" then .statefulSet
  else if toLowercase name = "deployment" then .deployment
  else if toLowercase name = "pod" then .pod
  else .unknown

/-- The locals of `get_entities` that its loop over the cache updates. -/
structure Serving where
  res : List Entity
  seen : ExtTreeMap String Resource compare
  seenSystem : ExtTreeMap String UInt8 compare

/-- The locals before the loop: nothing is listed, and nothing has been seen. -/
def Serving.start : Serving where
  res := []
  seen := ∅
  seenSystem := ∅

/-- `res.push`: one more entity at the end of the list. -/
def Serving.push (s : Serving) (entity : Entity) : Serving :=
  { s with res := s.res ++ [entity] }

/-- Enter a converted cluster in the seen-map: a new name is inserted, a known
one gets the new dependencies appended.  Appending unwraps both dependency
lists. -/
def Serving.addCluster (s : Serving) (cluster : Resource) : Checked Serving := do
  let sname := "redis_cluster/" ++ cluster.metadata.name
  match s.seen[sname]? with
  | some seenCluster =>
      let depNew ← unwrap cluster.spec.dependsOn
      let depSeen ← unwrap seenCluster.spec.dependsOn
      let spec := { seenCluster.spec with dependsOn := some (depSeen ++ depNew) }
      .ok { s with seen := s.seen.insert sname { seenCluster with spec := spec } }
  | none => .ok { s with seen := s.seen.insert sname cluster }

/-- Push a converted system unless one of its name was pushed before.  The first one of a name
stays, and its seen-map entry is never read. -/
def Serving.addSystem (s : Serving) (system : System) : Serving :=
  let sname := "system/" ++ system.metadata.name
  if s.seenSystem.contains sname then s
  else ({ s with seenSystem := s.seenSystem.insert sname 1 }).push (.system system)

/-- The StatefulSet arm of the loop: a shard, the cluster that is made from the shard, and the
system.  Without a shard there is nothing. -/
def Serving.statefulSet (config : Settings) (s : Serving) (obj : DynamicObject) :
    Checked Serving := do
  match redisShardFromStatefulset config obj with
  | .error _ => .ok s
  | .ok redisShard =>
      let s := s.push (.resource redisShard)
      let s ← match ← redisClusterFromShard config redisShard with
        | .ok cluster => s.addCluster cluster
        | .error _ => .ok s
      match systemFromStatefulSet config obj with
      | .ok system => .ok (s.addSystem system)
      | .error _ => .ok s

/-- The Pod arm of the loop: a node, if the Pod can be converted to one. -/
def Serving.pod (config : Settings) (s : Serving) (obj : DynamicObject) : Serving :=
  match redisNodeFromPod config obj with
  | .error _ => s
  | .ok redisNode => s.push (.resource redisNode)

/-- One round of the loop over the cache.  Objects without types and of other kinds are passed
over. -/
def Serving.visit (config : Settings) (s : Serving) (entry : String × DynamicObject) :
    Checked Serving :=
  match entry.2.types with
  | none => .ok s
  | some t =>
      match K8sKinds.getKind t.kind with
      | .statefulSet => s.statefulSet config entry.2
      | .pod => .ok (s.pod config entry.2)
      | .deployment => .ok s
      | .unknown => .ok s

/-- `get_entities` on the locked cache `db`: what the loop lists, then the clusters it has
seen, and the static entities last. -/
def getEntities (order : IterOrder) (config : Settings) (groups : List Group)
    (users : List User) (domains : List Domain) (db : CacheMap) : Checked (List Entity) := do
  let s ← db.toList.foldlM (Serving.visit config) Serving.start
  .ok (s.res ++ (order.arrange s.seen.toList).map (fun entry => .resource entry.2) ++
    groups.map .group ++ users.map .user ++ domains.map .domain)

/-- `RedisStatus`: one row of the answer, with nine fields of the `status` of a
StatefulSet. -/
structure RedisStatus where
  name : String
  ns : String
  cluster : String
  availableReplicas : Value
  collisionCount : Value
  currentReplicas : Value
  currentRevision : Value
  observedGeneration : Value
  readyReplicas : Value
  replicas : Value
  updateRevision : Value
  updatedReplicas : Value

/-- One round of the loop of `redis_status`: the row to add for an object, if it is a
StatefulSet labelled as a redis cluster and has a status. -/
def redisStatusRow (obj : DynamicObject) : Checked (List RedisStatus) := do
  match obj.types with
  | none => .ok []
  | some tp =>
      if toLowercase tp.kind ≠ "statefulset" then .ok []
      else if obj.labels["app.kubernetes.io/component"]? ≠ some "redis-cluster" then .ok []
      else
        match obj.data.get "status" with
        | some (.object status) =>
            .ok [
              { name := obj.nameAny
                ns := obj.metadata.ns.getD ""
                cluster := "ci-cd"
                availableReplicas := ← unwrap (status.lookup "availableReplicas")
                collisionCount := ← unwrap (status.lookup "collisionCount")
                currentReplicas := ← unwrap (status.lookup "currentReplicas")
                currentRevision := ← unwrap (status.lookup "currentRevision")
                observedGeneration := ← unwrap (status.lookup "observedGeneration")
                readyReplicas := ← unwrap (status.lookup "readyReplicas")
                replicas := ← unwrap (status.lookup "replicas")
                updateRevision := ← unwrap (status.lookup "updateRevision")
                updatedReplicas := ← unwrap (status.lookup "updatedReplicas") }]
        | some _ => .ok []
        | none => .ok []

/-- `redis_status` on the locked cache `db`: the rows of all objects, in the order of their
keys. -/
def redisStatus (db : CacheMap) : Checked (List RedisStatus) :=
  db.toList.foldlM (fun rows entry => do .ok (rows ++ (← redisStatusRow entry.2))) []

end Handlers

end Routes

end EntityProvider
