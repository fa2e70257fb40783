import EntityProvider.CacheInvariant
import Mathlib.Logic.Function.Basic

/-!
# What a purge leaves behind

A purge asks the API server about the cached objects and removes those it does not
find.  To say which objects it misses, each entry has to be traced to the watch it
came from: a `Tracked` run remembers, for every key, the `Api` whose watch stored the
object there.

The request for an object is rebuilt from its types.  Objects without a namespace,
without types or with an odd `apiVersion` are skipped, so a cluster-scoped object
outlives its deletion (`not_purgeLeavesNoGhosts_clusterScoped`).  What is left of an object
that does not exist is always one that was not asked for at its own path
(`purge_leaves_no_checked_ghost`).
-/

namespace EntityProvider.Ingest

open Std (ExtTreeMap)
open Kube AxKube Library

/-! ## Tracked runs -/

/-- An event and where it comes from. -/
inductive Sent where
  /-- The watch of an API. -/
  | watch (api : Api) (k8sVersion eventType : String) (command : WatchCommand)
  /-- The timer that has the cache printed. -/
  | pollTimer
  /-- The timer that has the cache purged. -/
  | purgeTimer

/-- The event as it is sent. -/
def Sent.event : Sent → WatchEvent
  | .watch api k8sVersion eventType command =>
      ⟨k8sVersion, api.resourceUrl, eventType, command⟩
  | .pollTimer => .default
  | .purgeTimer => .purgeTick

/-- The ingest task, with the watch that each entry came from. -/
structure Tracked where
  task : IngestTask
  origin : String → Option Api

/-- The task when it is spawned. -/
def Tracked.start : Tracked := ⟨.start, fun _ => none⟩

section Runs

variable [UnicodeTables]

/-- Handle one event, and remember the watch if it stores an object. -/
def Tracked.step (t : Tracked) (input : Surroundings × Sent) : Tracked :=
  let task := t.task.step (input.1, input.2.event)
  match input.2 with
  | .watch api _ _ (.add obj) | .watch api _ _ (.update obj) =>
      ⟨task, if task.running then Function.update t.origin (cacheKey obj) (some api)
        else t.origin⟩
  | _ => ⟨task, t.origin⟩

/-- Handle a list of events. -/
def Tracked.run (t : Tracked) (inputs : List (Surroundings × Sent)) : Tracked :=
  inputs.foldl Tracked.step t

/-- Every entry is an object that the watch it came from reported, as it was processed,
under its own key and with a creation time. -/
structure Tracked.Inv (t : Tracked) : Prop where
  keyed : Keyed t.task.cache
  traced : ∀ (k : String) (obj : DynamicObject), t.task.cache[k]? = some obj →
    ∃ api reported, t.origin k = some api ∧ obj = processDynobj reported api.resourceUrl

/-- A step that stores nothing and forgets no origin. -/
theorem Tracked.Inv.of_subset {t t' : Tracked} (ht : t.Inv) (horigin : t'.origin = t.origin)
    (hsubset : ∀ (k : String) (obj : DynamicObject),
      t'.task.cache[k]? = some obj → t.task.cache[k]? = some obj) : t'.Inv := by
  refine ⟨fun k obj hobj => ht.keyed k obj (hsubset k obj hobj), fun k obj hobj => ?_⟩
  rw [horigin]
  exact ht.traced k obj (hsubset k obj hobj)

/-- The task takes the event as it is sent. -/
theorem Tracked.task_step (t : Tracked) (input : Surroundings × Sent) :
    (t.step input).task = t.task.step (input.1, input.2.event) := by
  obtain ⟨around, sent⟩ := input
  cases sent with
  | watch api ver type command => cases command <;> rfl
  | pollTimer | purgeTimer => rfl

/-- Objects are stored for the `Add`s and `Update`s of watches. -/
theorem exists_of_storedBy_eq_some {sent : Sent} {stored : DynamicObject}
    (hstores : storedBy sent.event = some stored) :
    ∃ api ver type obj,
      sent = .watch api ver type (.add obj) ∨ sent = .watch api ver type (.update obj) := by
  cases sent with
  | watch api ver type command =>
      cases command with
      | add obj => exact ⟨api, ver, type, obj, Or.inl rfl⟩
      | update obj => exact ⟨api, ver, type, obj, Or.inr rfl⟩
      | delete | printAll | purge | none => simp [storedBy, Sent.event] at hstores
  | pollTimer => simp [storedBy, Sent.event, WatchEvent.default] at hstores
  | purgeTimer => simp [storedBy, Sent.event, WatchEvent.purgeTick] at hstores

/-- Any other event leaves the origins alone. -/
theorem Tracked.origin_step_of_storedBy_eq_none {t : Tracked} {input : Surroundings × Sent}
    (hstores : storedBy input.2.event = none) : (t.step input).origin = t.origin := by
  obtain ⟨around, sent⟩ := input
  cases sent with
  | watch api ver type command =>
      cases command with
      | add obj | update obj => exact absurd hstores (by simp [storedBy, Sent.event])
      | delete | printAll | purge | none => rfl
  | pollTimer | purgeTimer => rfl

/-- A step that stores an object a watch has reported, and remembers the watch. -/
theorem Tracked.Inv.put {t : Tracked} (ht : t.Inv) (api : Api) {obj : DynamicObject}
    (hcreated : obj.creationTimestamp.isSome = true) :
    Tracked.Inv
      ⟨⟨t.task.cache.insert (cacheKey obj) (processDynobj obj api.resourceUrl), true⟩,
        Function.update t.origin (cacheKey obj) (some api)⟩ := by
  have hprocessed :
      (processDynobj obj api.resourceUrl).creationTimestamp.isSome = true := by
    rw [processDynobj_creationTimestamp]
    exact hcreated
  refine ⟨keyed_insert ht.keyed hprocessed, fun k o ho => ?_⟩
  rw [ExtTreeMap.getElem?_insert] at ho
  by_cases hk : cacheKey obj = k
  · -- the new entry comes from this watch, the others from where they came before
    subst hk
    obtain rfl : processDynobj obj api.resourceUrl = o := by simpa using ho
    exact ⟨api, obj, by simp, rfl⟩
  · have hold : t.task.cache[k]? = some o := by simpa [hk] using ho
    obtain ⟨api', reported, horigin, hreported⟩ := ht.traced k o hold
    exact ⟨api', reported, by rw [← horigin]; simp [Ne.symm hk], hreported⟩

/-- **One event keeps every entry traced.** -/
theorem Tracked.Inv.step {t : Tracked} (ht : t.Inv) (input : Surroundings × Sent) :
    (t.step input).Inv := by
  obtain ⟨around, sent⟩ := input
  cases hstores : storedBy sent.event with
  | none =>
      refine ht.of_subset (Tracked.origin_step_of_storedBy_eq_none hstores)
        fun k obj hobj => ?_
      rw [Tracked.task_step, IngestTask.cache_step] at hobj
      split at hobj
      · exact getElem?_of_handleWatchEvent ht.keyed hstores hobj
      · exact hobj
  | some stored =>
      obtain ⟨api, ver, type, obj, hsent⟩ := exists_of_storedBy_eq_some hstores
      have hstep : t.step (around, sent) =
          if t.task.running = true ∧ obj.creationTimestamp.isSome = true then
            ⟨⟨t.task.cache.insert (cacheKey obj) (processDynobj obj api.resourceUrl), true⟩,
              Function.update t.origin (cacheKey obj) (some api)⟩
          else ⟨⟨t.task.cache, false⟩, t.origin⟩ := by
        rcases hsent with rfl | rfl <;>
          cases hrunning : t.task.running <;> cases hc : obj.creationTimestamp <;>
            simp [Tracked.step, Sent.event, IngestTask.step, handleWatchEvent, hrunning, hc]
        -- a task that had stopped before is still the same
        all_goals exact congrArg (IngestTask.mk t.task.cache) hrunning
      rw [hstep]
      split
      next hstored => exact ht.put api hstored.2
      next => exact ht.of_subset rfl fun _ _ hobj => hobj

/-- **Every reachable entry is traced.** -/
theorem Tracked.Inv.run {t : Tracked} (ht : t.Inv) (inputs : List (Surroundings × Sent)) :
    (t.run inputs).Inv := by
  induction inputs generalizing t with
  | nil => exact ht
  | cons input rest ih => exact ih (ht.step input)

theorem Tracked.inv_start : Tracked.start.Inv :=
  ⟨fun k obj hobj => absurd hobj (by simp [Tracked.start, IngestTask.start]),
    fun k obj hobj => absurd hobj (by simp [Tracked.start, IngestTask.start])⟩

/-! ## Purging a tracked run -/

/-- The client and server of a cluster in which `live` says which paths lead to an
object: the client is obtained, and no request fails. -/
def serverOf (live : ObjectPath → Bool) : KubeApi where
  connects := true
  getOpt path := if live path then .found else .missing

/-- The path of an object, in the API it is watched under. -/
def ownPath (api : Api) (obj : DynamicObject) : ObjectPath where
  group := api.resource.group
  apiVersion := api.resource.apiVersion
  plural := api.resource.plural
  ns := obj.metadata.ns
  name := obj.nameAny

/-- After a purge by this server, every cached object exists. -/
def PurgeLeavesNoGhosts (inputs : List (Surroundings × Sent)) (now : Time)
    (live : ObjectPath → Bool) : Prop :=
  let t := (Tracked.start.run inputs).step (⟨now, serverOf live⟩, .purgeTimer)
  ∀ (k : String) (obj : DynamicObject) (api : Api),
    t.task.cache[k]? = some obj → t.origin k = some api → live (ownPath api obj) = true

/-- The object is asked for, and at its own path: it has a namespace and types, and the
`ApiResource` rebuilt from these is the watched one. -/
def AskedForAtOwnPath (api : Api) (obj : DynamicObject) : Prop :=
  obj.metadata.ns.isSome = true ∧
    ∃ tp ar, obj.types = some tp ∧ checkedResource tp = some ar ∧
      ar.group = api.resource.group ∧ ar.apiVersion = api.resource.apiVersion ∧
      ar.plural = api.resource.plural

theorem checkRequest_of_askedForAtOwnPath {api : Api} {obj : DynamicObject}
    (hasked : AskedForAtOwnPath api obj) : checkRequest obj = some (ownPath api obj) := by
  obtain ⟨hns, tp, ar, htypes, har, hgroup, hversion, hplural⟩ := hasked
  obtain ⟨ns, hns⟩ := Option.isSome_iff_exists.mp hns
  refine checkRequest_eq_some_iff.mpr ⟨ns, tp, ar, hns, htypes, har, ?_⟩
  simp [Api.getPath, Api.namespacedWith, ownPath, hgroup, hversion, hplural, hns]

/-- **No ghost that is asked for survives.**  In every reachable state of a running task,
whatever exists in the cluster: after a purge without failures each entry still comes
from the watch it came from before, and if its object is asked for at its own path,
the object exists.  An entry that is not asked for stays. -/
theorem purge_leaves_no_checked_ghost (inputs : List (Surroundings × Sent)) (now : Time)
    (live : ObjectPath → Bool) (hrunning : (Tracked.start.run inputs).task.running = true) :
    let t := Tracked.start.run inputs
    let t' := t.step (⟨now, serverOf live⟩, .purgeTimer)
    (∀ (k : String) (obj : DynamicObject), t'.task.cache[k]? = some obj →
        ∃ api, t.origin k = some api ∧ t'.origin k = some api ∧
          (AskedForAtOwnPath api obj → live (ownPath api obj) = true)) ∧
      ∀ (k : String) (obj : DynamicObject), t.task.cache[k]? = some obj →
        checkRequest obj = none → t'.task.cache[k]? = some obj := by
  have hinv : (Tracked.start.run inputs).Inv := Tracked.inv_start.run inputs
  have hcache : ((Tracked.start.run inputs).step
      (⟨now, serverOf live⟩, .purgeTimer)).task.cache =
        purged (serverOf live) (Tracked.start.run inputs).task.cache := by
    rw [Tracked.task_step, IngestTask.cache_step, if_pos hrunning,
      handleWatchEvent_purge hinv.keyed _ rfl]
  have hkept : ∀ (k : String) (obj : DynamicObject),
      (purged (serverOf live) (Tracked.start.run inputs).task.cache)[k]? = some obj ↔
        (Tracked.start.run inputs).task.cache[k]? = some obj ∧
          reportedMissing (serverOf live) obj = false := by
    intro k obj
    rw [purged, ExtTreeMap.getElem?_filter', Option.filter_eq_some_iff]
    simp [serverOf]
  dsimp only
  rw [hcache]
  refine ⟨fun k obj hobj => ?_, fun k obj hobj hskipped => ?_⟩
  · obtain ⟨hold, hfound⟩ := (hkept k obj).mp hobj
    obtain ⟨api, -, horigin, -⟩ := hinv.traced k obj hold
    refine ⟨api, horigin, horigin, fun hasked => ?_⟩
    -- a ghost that is asked for at its own path is answered with `None`, and removed
    by_contra hghost
    have hmissing : reportedMissing (serverOf live) obj = true :=
      reportedMissing_iff_checkRequest.mpr
        ⟨_, checkRequest_of_askedForAtOwnPath hasked, by simp [serverOf, hghost]⟩
    exact absurd (hmissing.symm.trans hfound) (by simp)
  · refine (hkept k obj).mpr ⟨hobj, ?_⟩
    simp [reportedMissing, hskipped]

end Runs

/-! ## A cluster-scoped ghost -/

/-- The resource of nodes. -/
def nodeResource : ApiResource := ⟨"", "v1", "v1", "Node", "nodes"⟩

/-- A node is reported by the watch of all nodes. -/
def nodeAdded : List (Surroundings × Sent) :=
  let node : DynamicObject :=
    { types := some ⟨"v1", "Node"⟩
      metadata := { ObjectMeta.empty with name := some "n", creationTimestamp := some 0 }
      data := .object [] }
  [(⟨0, serverOf fun _ => true⟩, .watch (.allWith nodeResource) "1.31" "" (.add node))]

/-- **Cluster-scoped ghosts stay.**  The node is gone from the cluster and still cached
after the purge. -/
theorem not_purgeLeavesNoGhosts_clusterScoped :
    ¬ @PurgeLeavesNoGhosts UnicodeTables.asciiOnly nodeAdded 0 fun _ => false := by
  intro hnoGhosts
  have hlive := hnoGhosts "none/n" _ (.allWith nodeResource) rfl rfl
  exact absurd hlive (by simp)

/-- A Pod is reported by the watch of all Pods. -/
def podAdded : List (Surroundings × Sent) :=
  [(⟨0, serverOf fun _ => true⟩,
    .watch (.allWith ⟨"", "v1", "v1", "Pod", "pods"⟩) "1.31" "" (.add (namesake "v1" "Pod")))]

/-- A Pod is asked for; once it is gone, a purge removes it. -/
theorem purge_leaves_no_checked_ghost_podAdded :
    letI := UnicodeTables.asciiOnly
    let t := Tracked.start.run podAdded
    let t' := t.step (⟨0, serverOf fun _ => false⟩, .purgeTimer)
    (∀ (k : String) (obj : DynamicObject), t'.task.cache[k]? = some obj →
        ∃ api, t.origin k = some api ∧ t'.origin k = some api ∧
          (AskedForAtOwnPath api obj → false = true)) ∧
      ∀ (k : String) (obj : DynamicObject), t.task.cache[k]? = some obj →
        checkRequest obj = none → t'.task.cache[k]? = some obj :=
  @purge_leaves_no_checked_ghost UnicodeTables.asciiOnly podAdded 0 (fun _ => false) rfl

end EntityProvider.Ingest
