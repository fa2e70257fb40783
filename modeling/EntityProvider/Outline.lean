import EntityProvider.EntityAssembly
import EntityProvider.Startup

/-!
# What the handlers look at

A cached object is a whole Kubernetes object.  The handlers that read the cache look at
little of it: its types, its name and namespace, its labels and its status.  `outline` keeps
just that, and of the creation time that there is one.

`respond_sketch`: what a handler answers is what it answers on a cache in which only
StatefulSets and Pods are left, and only their outlines.  The annotations, the spec or the
data of an object, of a Secret for example, have no influence on any answer.
-/

namespace EntityProvider

open Std (ExtTreeMap)
open Kube Entities Library Routes
open EntityProvider.Configuration (Settings)

/-! ## Outlines -/

namespace Kube

/-- What is left of the data: the status. -/
def Value.statusOnly (data : Value) : Value :=
  match data.get "status" with
  | some status => .object [("status", status)]
  | none => .null

@[simp] theorem Value.get_statusOnly (data : Value) :
    data.statusOnly.get "status" = data.get "status" := by
  unfold Value.statusOnly
  cases data.get "status" <;> rfl

namespace DynamicObject

/-- The outline of an object. -/
def outline (o : DynamicObject) : DynamicObject where
  types := o.types
  metadata :=
    { ObjectMeta.empty with
      name := some o.nameAny
      ns := o.metadata.ns
      labels := o.metadata.labels
      creationTimestamp := o.metadata.creationTimestamp.map fun _ => 0
      annotations := some ∅
      managedFields := some [] }
  data := o.data.statusOnly

variable (o : DynamicObject)

@[simp] theorem types_outline : o.outline.types = o.types := rfl

@[simp] theorem nameAny_outline : o.outline.nameAny = o.nameAny := rfl

@[simp] theorem ns_outline : o.outline.metadata.ns = o.metadata.ns := rfl

@[simp] theorem metadata_labels_outline :
    o.outline.metadata.labels = o.metadata.labels := rfl

@[simp] theorem labels_outline : o.outline.labels = o.labels := rfl

@[simp] theorem status_outline : o.outline.data.get "status" = o.data.get "status" :=
  o.data.get_statusOnly

/-- There is nothing more to leave out of an outline. -/
theorem outline_outline : o.outline.outline = o.outline := by
  have hdata : o.data.statusOnly.statusOnly = o.data.statusOnly := by
    unfold Value.statusOnly
    cases o.data.get "status" <;> rfl
  simp only [outline, hdata, Option.map_map]
  rfl

end DynamicObject

end Kube

/-- A cache of outlines. -/
def outlineCache (db : CacheMap) : CacheMap := db.map fun _ obj => obj.outline

@[simp] theorem getElem?_outlineCache (db : CacheMap) (k : String) :
    (outlineCache db)[k]? = db[k]?.map DynamicObject.outline :=
  ExtTreeMap.getElem?_map

@[simp] theorem toList_outlineCache (db : CacheMap) :
    (outlineCache db).toList = db.toList.map fun entry => (entry.1, entry.2.outline) :=
  ExtTreeMap.toList_map

/-! ## Conversions -/

namespace Routes

section Handlers

variable [UnicodeTables]

theorem checkKind_outline (entity lowercased written : String) (obj : DynamicObject) :
    checkKind entity lowercased written obj.outline =
      checkKind entity lowercased written obj := by
  simp [checkKind]

theorem redisShardFromStatefulset_outline (config : Settings) (obj : DynamicObject) :
    redisShardFromStatefulset config obj.outline = redisShardFromStatefulset config obj := by
  simp only [redisShardFromStatefulset, checkKind_outline, redisStatusFromStatefulset,
    DynamicObject.nameAny_outline, DynamicObject.labels_outline, DynamicObject.ns_outline,
    DynamicObject.status_outline]
  rfl

theorem redisNodeFromPod_outline (config : Settings) (obj : DynamicObject) :
    redisNodeFromPod config obj.outline = redisNodeFromPod config obj := by
  simp only [redisNodeFromPod, checkKind_outline, DynamicObject.nameAny_outline,
    DynamicObject.metadata_labels_outline]
  rfl

theorem systemFromStatefulSet_outline (config : Settings) (obj : DynamicObject) :
    systemFromStatefulSet config obj.outline = systemFromStatefulSet config obj := by
  simp only [systemFromStatefulSet, checkKind_outline, DynamicObject.nameAny_outline,
    DynamicObject.labels_outline]

/-- A round of the loop of `get_entities` is the same for the outline. -/
theorem visit_outline (config : Settings) (s : Serving) (entry : String × DynamicObject) :
    s.visit config (entry.1, entry.2.outline) = s.visit config entry := by
  simp only [Serving.visit, Serving.statefulSet, Serving.pod, DynamicObject.types_outline,
    redisShardFromStatefulset_outline, redisNodeFromPod_outline,
    systemFromStatefulSet_outline]

/-- So is one of the loop of `redis_status`. -/
theorem redisStatusRow_outline (obj : DynamicObject) :
    redisStatusRow obj.outline = redisStatusRow obj := by
  simp only [redisStatusRow, DynamicObject.types_outline, DynamicObject.labels_outline,
    DynamicObject.status_outline, DynamicObject.nameAny_outline, DynamicObject.ns_outline]

/-! ## Handlers -/

/-- Does a handler look at the object at all? -/
def IsLookedAt (obj : DynamicObject) : Bool :=
  obj.types.any fun tp =>
    K8sKinds.getKind tp.kind = .statefulSet ∨ K8sKinds.getKind tp.kind = .pod

/-- What the handlers can tell of a cache. -/
def sketch (db : CacheMap) : CacheMap :=
  outlineCache (db.filter fun _ obj => IsLookedAt obj)

theorem toList_sketch (db : CacheMap) :
    (sketch db).toList = (db.toList.filter fun entry => IsLookedAt entry.2).map
      fun entry => (entry.1, entry.2.outline) := by
  rw [sketch, toList_outlineCache, ExtTreeMap.toList_filter]

theorem getElem?_sketch (db : CacheMap) (k : String) :
    (sketch db)[k]? = (db[k]?.filter IsLookedAt).map .outline := by
  rw [sketch, getElem?_outlineCache, ExtTreeMap.getElem?_filter']

/-- To leave out objects and to outline the others is the same in any order, any number of
times. -/
theorem filter_map_outline (found : Option DynamicObject) :
    ((found.map DynamicObject.outline).filter IsLookedAt).map DynamicObject.outline =
      (found.filter IsLookedAt).map DynamicObject.outline := by
  cases found with
  | none => rfl
  | some obj =>
      have hlooked : IsLookedAt obj.outline = IsLookedAt obj := rfl
      cases hobj : IsLookedAt obj <;>
        simp [Option.filter, hlooked, hobj, DynamicObject.outline_outline]

theorem sketch_outlineCache (db : CacheMap) : sketch (outlineCache db) = sketch db := by
  apply ExtTreeMap.ext_getElem?
  intro k
  rw [getElem?_sketch, getElem?_sketch, getElem?_outlineCache, filter_map_outline]

theorem sketch_sketch (db : CacheMap) : sketch (sketch db) = sketch db := by
  apply ExtTreeMap.ext_getElem?
  intro k
  rw [getElem?_sketch, getElem?_sketch, filter_map_outline, Option.filter_filter]
  simp

/-- An object that is not looked at leaves the loop of `get_entities` as it is. -/
theorem visit_of_not_isLookedAt (config : Settings) (s : Serving)
    {entry : String × DynamicObject} (hentry : IsLookedAt entry.2 = false) :
    s.visit config entry = .ok s := by
  unfold Serving.visit
  cases htypes : entry.2.types with
  | none => rfl
  | some tp =>
      rw [IsLookedAt, htypes] at hentry
      cases hkind : K8sKinds.getKind tp.kind <;> simp_all

/-- It gives no row. -/
theorem redisStatusRow_of_not_isLookedAt {obj : DynamicObject}
    (hobj : IsLookedAt obj = false) : redisStatusRow obj = .ok [] := by
  unfold redisStatusRow
  cases htypes : obj.types with
  | none => rfl
  | some tp =>
      have hkind : toLowercase tp.kind ≠ "statefulset" := by
        intro hlower
        have hset : K8sKinds.getKind tp.kind = .statefulSet :=
          getKind_eq_statefulSet_iff.mpr hlower
        rw [IsLookedAt, htypes] at hobj
        simp [hset] at hobj
      exact if_pos hkind

/-- A loop over the sketch is the loop over the cache, if it looks at outlines only. -/
theorem foldlM_sketch {S : Type} (round : S → String × DynamicObject → Checked S)
    (houtline : ∀ s entry, round s (entry.1, entry.2.outline) = round s entry)
    (hskip : ∀ s entry, IsLookedAt entry.2 = false → round s entry = .ok s)
    (db : CacheMap) (s : S) :
    (sketch db).toList.foldlM round s = db.toList.foldlM round s := by
  rw [toList_sketch]
  generalize db.toList = entries
  induction entries generalizing s with
  | nil => rfl
  | cons entry rest ih =>
      cases hentry : IsLookedAt entry.2 with
      | true =>
          rw [List.filter_cons, if_pos hentry, List.map_cons, List.foldlM_cons,
            List.foldlM_cons, houtline]
          exact bind_congr ih
      | false =>
          rw [List.filter_cons, if_neg (by simp [hentry]), List.foldlM_cons,
            hskip s entry hentry, ih]
          rfl

theorem getEntities_sketch (order : IterOrder) (config : Settings) (groups : List Group)
    (users : List User) (domains : List Domain) (db : CacheMap) :
    getEntities order config groups users domains (sketch db) =
      getEntities order config groups users domains db := by
  unfold getEntities
  rw [foldlM_sketch (Serving.visit config) (fun s entry => visit_outline config s entry)
    fun s entry hentry => visit_of_not_isLookedAt config s hentry]

theorem redisStatus_sketch (db : CacheMap) : redisStatus (sketch db) = redisStatus db :=
  foldlM_sketch _ (fun rows entry => by rw [redisStatusRow_outline])
    (fun rows entry hentry => by
      simp [redisStatusRow_of_not_isLookedAt hentry, bind, Except.bind]) db []

end Handlers

end Routes

/-! ## Answers -/

namespace Startup

section Answers

variable [UnicodeTables]

/-- The answer to a request can be read off the sketches. -/
theorem respond_sketch (app : App) (order : IterOrder) (memory : Memory) (r : Request) :
    app.respond order (fun db => sketch (memory db)) r = app.respond order memory r := by
  unfold App.respond
  cases route r with
  | none => rfl
  | some h =>
      cases h with
      | index | version | healthCheck => rfl
      | entities =>
          refine congrArg (fun answer : Option Answer => answer.getD .notConfigured)
            (bind_congr fun config => bind_congr fun groups => bind_congr fun users =>
              bind_congr fun domains => bind_congr fun cache => ?_)
          exact congrArg (fun served => some (Answer.ofChecked .entities served))
            (getEntities_sketch order config groups users domains (memory cache))
      | redisStatus =>
          refine congrArg (fun answer : Option Answer => answer.getD .notConfigured)
            (bind_congr fun cache => ?_)
          exact congrArg (fun rows => some (Answer.ofChecked .redisStatus rows))
            (redisStatus_sketch (memory cache))

/-- Of two memories with the same sketches, a request gets the same answer. -/
theorem respond_of_sketch (app : App) (order : IterOrder) (r : Request) {m m' : Memory}
    (hsame : (fun db => sketch (m db)) = fun db => sketch (m' db)) :
    app.respond order m r = app.respond order m' r := by
  rw [← respond_sketch, hsame, respond_sketch]

/-- What a request does under the lock, it does with a sketch as well. -/
theorem access_sketch {app : App} {cache : Db} {order : IterOrder} {r : Request}
    {read : CacheMap → Checked Unit} (hread : app.access cache order r = some read)
    (db : CacheMap) : read (sketch db) = read db := by
  unfold App.access at hread
  split at hread
  next =>
      simp only [bind, Option.bind_eq_some_iff] at hread
      obtain ⟨config, -, groups, -, users, -, domains, -, address, -, hif⟩ := hread
      split at hif
      · obtain rfl := Option.some.inj hif
        exact congrArg (Except.map fun _ => ())
          (getEntities_sketch order config groups users domains db)
      · exact absurd hif (by simp)
  next =>
      simp only [bind, Option.bind_eq_some_iff] at hread
      obtain ⟨address, -, hif⟩ := hread
      split at hif
      · obtain rfl := Option.some.inj hif
        exact congrArg (Except.map fun _ => ()) (redisStatus_sketch db)
      · exact absurd hif (by simp)
  next => exact absurd hread (by simp)

end Answers

end Startup

end EntityProvider
