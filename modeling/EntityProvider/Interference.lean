import EntityProvider.EntityAssembly
import EntityProvider.SharedCache

/-!
# Requests and ingestion

What GETs of the entities do to the ingest task.  `get_entities` holds the cache lock while
it converts one object after another, and some of these conversions unwrap what need not be
there; so a GET may panic with the cache locked, and that poisons the mutex for good.

`getEntities_safe_iff` says when it does: the handler returns the intended list exactly if
the cache is `Servable`, a condition on the labels of the cached StatefulSets, and a GET
disturbs ingestion exactly if it comes at a cache that is not.  The next event that locks
the cache then ends the task.  As long as it does not happen, the run is the one without
the requests.
-/

namespace EntityProvider.Ingest

open Std (ExtTreeMap)
open Kube AxKube Entities Library Routes
open EntityProvider.Configuration (Settings)

section Serving

variable [UnicodeTables]

/-! ## Serving entities -/

/-- GETs of the entities, by the order the handler finds the clusters in. -/
def gets (config : Settings) (groups : List Group) (users : List User)
    (domains : List Domain) (order : IterOrder) : Option (CacheMap → Checked Unit) :=
  some fun db => (getEntities order config groups users domains db).map fun _ => ()

section Gets

variable {config : Settings} {groups : List Group} {users : List User}
variable {domains : List Domain}

/-- A GET of the entities returns exactly if the cache is servable. -/
theorem returnsWhen_gets :
    ReturnsWhen (gets config groups users domains) fun _ => Servable := by
  intro order db
  simp only [gets, Option.some.injEq, forall_eq']
  by_cases hdb : Servable db
  · have hok := (getEntities_eq_intended_iff order config groups users domains db).mpr hdb
    simp [hok, hdb, Except.map]
  · obtain ⟨why, hwhy⟩ :=
      getEntities_error_of_not_servable order config groups users domains hdb
    simp [hwhy, hdb, Except.map]

end Gets

/-- **When serving entities is safe.**  The handler returns the intended list exactly if
the cache is servable; and in every run of events, task steps and GETs the mutex is
not poisoned exactly if every GET comes at a servable cache, and then the run is the
one without the GETs. -/
theorem getEntities_safe_iff (config : Settings) (groups : List Group) (users : List User)
    (domains : List Domain) :
    (∀ order db, getEntities order config groups users domains db =
        .ok (intendedEntities order config groups users domains db) ↔ Servable db) ∧
      ∀ actions : List (Action IterOrder),
        ((Shared.start.run (gets config groups users domains) actions).poisoned = false ↔
          RequestsMeet (gets config groups users domains) (fun _ => Servable) .start
            actions) ∧
        (RequestsMeet (gets config groups users domains) (fun _ => Servable) .start
            actions →
          Shared.start.run (gets config groups users domains) actions =
            Shared.start.run (gets config groups users domains)
              (actions.filter fun action => !action.isRequest)) :=
  ⟨fun order db => getEntities_eq_intended_iff order config groups users domains db,
    fun actions => run_requests returnsWhen_gets actions _ Shared.inv_start rfl⟩

end Serving

/-- A StatefulSet without labels. -/
def unlabelledStatefulSet : DynamicObject where
  types := some ⟨"apps/v1", "StatefulSet"⟩
  metadata :=
    { ObjectMeta.empty with
      name := some "a", ns := some "x", creationTimestamp := some 0 }
  data := .object []

/-- The StatefulSet is added and a GET comes in; then it is updated. -/
def getWhileUnlabelled : List (Action IterOrder) :=
  let around : Surroundings := ⟨0, ⟨true, fun _ => .found⟩⟩
  let event (command : WatchCommand) : WatchEvent :=
    ⟨"1.31", "/apis/apps/v1/statefulsets", "", command⟩
  [.send (event (.add unlabelledStatefulSet)), .task around, .request .sorted,
    .send (event (.update unlabelledStatefulSet)), .task around]

/-- **A GET ends ingestion.**  Serving a StatefulSet without labels poisons the mutex,
and the next event ends the task. -/
theorem poisoned_getWhileUnlabelled :
    letI := UnicodeTables.asciiOnly
    (Shared.start.run (gets .bare [] [] []) getWhileUnlabelled).poisoned = true ∧
      (Shared.start.run (gets .bare [] [] []) getWhileUnlabelled).phase = .stopped := by
  constructor <;> rfl

end EntityProvider.Ingest
