import EntityProvider.Interference
import Mathlib.Data.List.Forall2

/-!
# The status of redis clusters

`redis_status` lists a row for every StatefulSet of a redis cluster that has a status.  It
takes nine fields out of each status and unwraps them all, with the cache locked; but
Kubernetes leaves fields out of a status when they are zero.

`ServesStatus` is what the handler is for: one row for each of these objects, in key order,
with what its status has.  `redisStatus_safe_iff` says that it serves this exactly if every
such status has all nine fields, and that one request at a cache with an incomplete status
poisons the mutex.
-/

namespace EntityProvider.Routes

open Std (ExtTreeMap)
open Kube Library Ingest

/-- The fields of a status that a row shows, and where. -/
def statusFields : List (String × (RedisStatus → Value)) :=
  [("availableReplicas", RedisStatus.availableReplicas),
    ("collisionCount", RedisStatus.collisionCount),
    ("currentReplicas", RedisStatus.currentReplicas),
    ("currentRevision", RedisStatus.currentRevision),
    ("observedGeneration", RedisStatus.observedGeneration),
    ("readyReplicas", RedisStatus.readyReplicas),
    ("replicas", RedisStatus.replicas),
    ("updateRevision", RedisStatus.updateRevision),
    ("updatedReplicas", RedisStatus.updatedReplicas)]

section Status

variable [UnicodeTables]

/-- The status of an object that gets a row: a StatefulSet of a redis cluster whose status is
a JSON object. -/
def clusterStatus (obj : DynamicObject) : Option (List (String × Value)) :=
  if (obj.types.any fun tp => toLowercase tp.kind = "statefulset") ∧
      obj.labels["app.kubernetes.io/component"]? = some "redis-cluster" then
    match obj.data.get "status" with
    | some (.object status) => some status
    | _ => none
  else none

/-- The row of an object: its name, its namespace, and the fields that its status has. -/
def IsRowOf (obj : DynamicObject) (row : RedisStatus) : Prop :=
  row.name = obj.nameAny ∧ row.ns = obj.metadata.ns.getD "" ∧
    ∀ status, clusterStatus obj = some status →
      ∀ field ∈ statusFields, ∀ value,
        status.lookup field.1 = some value → field.2 row = value

/-- The status has all the fields that a row shows. -/
def IsComplete (status : List (String × Value)) : Prop :=
  ∀ field ∈ statusFields, (status.lookup field.1).isSome = true

/-- **The handler serves the status** of every redis cluster in the cache: it returns one row
for each object with such a status, in key order. -/
def ServesStatus (db : CacheMap) : Prop :=
  ∃ rows, redisStatus db = .ok rows ∧
    List.Forall₂ IsRowOf
      ((db.toList.map Prod.snd).filter fun obj => (clusterStatus obj).isSome) rows

/-- Every status in the cache is complete. -/
def StatusesComplete (db : CacheMap) : Prop :=
  ∀ entry ∈ db.toList, ∀ status, clusterStatus entry.2 = some status → IsComplete status

/-! ## One row -/

/-- An object without such a status gets no row. -/
theorem redisStatusRow_of_none {obj : DynamicObject} (hnone : clusterStatus obj = none) :
    redisStatusRow obj = .ok [] := by
  unfold redisStatusRow
  unfold clusterStatus at hnone
  cases htypes : obj.types with
  | none => rfl
  | some tp =>
      by_cases hkind : toLowercase tp.kind = "statefulset"
      · by_cases hlabel : obj.labels["app.kubernetes.io/component"]? = some "redis-cluster"
        · rw [if_pos ⟨by simp [htypes, hkind], hlabel⟩] at hnone
          simp only [hkind, hlabel, ne_eq, not_true_eq_false, if_false]
          split
          next status hstatus => rw [hstatus] at hnone; exact absurd hnone (by simp)
          next => rfl
          next => rfl
        · simp [hkind, hlabel]
      · simp [hkind]

/-- **The row of an object with such a status.**  It is there exactly if every field is. -/
theorem redisStatusRow_eq_ok_iff {obj : DynamicObject} {status : List (String × Value)}
    (hstatus : clusterStatus obj = some status) {rows : List RedisStatus} :
    redisStatusRow obj = .ok rows ↔
      ∃ row, rows = [row] ∧ row.name = obj.nameAny ∧ row.ns = obj.metadata.ns.getD "" ∧
        row.cluster = "ci-cd" ∧
        ∀ field ∈ statusFields, status.lookup field.1 = some (field.2 row) := by
  unfold clusterStatus at hstatus
  split at hstatus
  next heligible =>
    obtain ⟨hkind, hlabel⟩ := heligible
    obtain ⟨tp, htypes, hlower⟩ := (Option.any_eq_true _ _).mp hkind
    split at hstatus
    next status' hget =>
      obtain rfl := Option.some.inj hstatus
      unfold redisStatusRow
      simp only [htypes, of_decide_eq_true hlower, hlabel, hget, ne_eq, not_true_eq_false,
        if_false, unwrap_bind_eq_ok_iff, Except.ok.injEq]
      constructor
      · rintro ⟨v1, h1, v2, h2, v3, h3, v4, h4, v5, h5, v6, h6, v7, h7, v8, h8, v9, h9, rfl⟩
        refine ⟨_, rfl, rfl, rfl, rfl, ?_⟩
        simp only [statusFields, List.forall_mem_cons]
        exact ⟨h1, h2, h3, h4, h5, h6, h7, h8, h9, by simp⟩
      · rintro ⟨row, rfl, hname, hns, hcluster, hfields⟩
        simp only [statusFields, List.forall_mem_cons] at hfields
        obtain ⟨h1, h2, h3, h4, h5, h6, h7, h8, h9, -⟩ := hfields
        refine ⟨_, h1, _, h2, _, h3, _, h4, _, h5, _, h6, _, h7, _, h8, _, h9, ?_⟩
        rw [← hname, ← hns, ← hcluster]
    next => exact absurd hstatus (by simp)
  next => exact absurd hstatus (by simp)

/-- A complete status makes a row. -/
theorem exists_row_of_isComplete {obj : DynamicObject} {status : List (String × Value)}
    (hstatus : clusterStatus obj = some status) (hcomplete : IsComplete status) :
    ∃ row, redisStatusRow obj = .ok [row] ∧ IsRowOf obj row := by
  simp only [IsComplete, statusFields, List.forall_mem_cons, Option.isSome_iff_exists]
    at hcomplete
  obtain ⟨⟨v1, h1⟩, ⟨v2, h2⟩, ⟨v3, h3⟩, ⟨v4, h4⟩, ⟨v5, h5⟩, ⟨v6, h6⟩, ⟨v7, h7⟩, ⟨v8, h8⟩,
    ⟨v9, h9⟩, -⟩ := hcomplete
  let row : RedisStatus :=
    ⟨obj.nameAny, obj.metadata.ns.getD "", "ci-cd", v1, v2, v3, v4, v5, v6, v7, v8, v9⟩
  have hfields : ∀ field ∈ statusFields, status.lookup field.1 = some (field.2 row) := by
    simp only [statusFields, List.forall_mem_cons]
    exact ⟨h1, h2, h3, h4, h5, h6, h7, h8, h9, by simp⟩
  refine ⟨row, (redisStatusRow_eq_ok_iff hstatus).mpr ⟨row, rfl, rfl, rfl, rfl, hfields⟩,
    rfl, rfl, fun status' hstatus' field hfield value hvalue => ?_⟩
  obtain rfl := Option.some.inj (hstatus.symm.trans hstatus')
  exact Option.some.inj ((hfields field hfield).symm.trans hvalue)

/-- A row is only made of a complete status. -/
theorem isComplete_of_redisStatusRow {obj : DynamicObject} {rows : List RedisStatus}
    (hrows : redisStatusRow obj = .ok rows) {status : List (String × Value)}
    (hstatus : clusterStatus obj = some status) : IsComplete status := by
  obtain ⟨row, -, -, -, -, hfields⟩ := (redisStatusRow_eq_ok_iff hstatus).mp hrows
  intro field hfield
  rw [hfields field hfield]
  rfl

/-! ## All rows -/

/-- One round of the loop. -/
def statusStep (rows : List RedisStatus) (entry : String × DynamicObject) :
    Checked (List RedisStatus) := do
  .ok (rows ++ (← redisStatusRow entry.2))

theorem statusStep_eq_ok_iff {rows rows' : List RedisStatus}
    {entry : String × DynamicObject} :
    statusStep rows entry = .ok rows' ↔
      ∃ new, redisStatusRow entry.2 = .ok new ∧ rows' = rows ++ new := by
  unfold statusStep
  cases redisStatusRow entry.2 <;> simp [bind, Except.bind, eq_comm]

/-- With complete statuses the loop gets through, and adds the rows in order. -/
theorem foldlM_statusStep (entries : List (String × DynamicObject)) :
    ∀ init, (∀ entry ∈ entries, ∀ status, clusterStatus entry.2 = some status →
        IsComplete status) →
      ∃ rows, entries.foldlM statusStep init = .ok (init ++ rows) ∧
        List.Forall₂ IsRowOf
          ((entries.map Prod.snd).filter fun obj => (clusterStatus obj).isSome) rows := by
  induction entries with
  | nil => intro init _; exact ⟨[], by rw [List.append_nil]; rfl, .nil⟩
  | cons entry rest ih =>
      intro init hcomplete
      obtain ⟨hentry, hrest⟩ := List.forall_mem_cons.mp hcomplete
      rw [List.foldlM_cons, List.map_cons]
      cases hstatus : clusterStatus entry.2 with
      | none =>
          have hstep : statusStep init entry = .ok init :=
            statusStep_eq_ok_iff.mpr
              ⟨[], redisStatusRow_of_none hstatus, (List.append_nil init).symm⟩
          rw [hstep, List.filter_cons_of_neg (by simp [hstatus])]
          exact ih init hrest
      | some status =>
          obtain ⟨row, hrow, hshows⟩ :=
            exists_row_of_isComplete hstatus (hentry status hstatus)
          have hstep : statusStep init entry = .ok (init ++ [row]) :=
            statusStep_eq_ok_iff.mpr ⟨[row], hrow, rfl⟩
          obtain ⟨rows, hrows, hall⟩ := ih (init ++ [row]) hrest
          rw [hstep, List.filter_cons_of_pos (by simp [hstatus])]
          refine ⟨row :: rows, ?_, .cons hshows hall⟩
          rw [List.append_assoc, List.singleton_append] at hrows
          exact hrows

/-- If the loop gets through, every round does. -/
theorem exists_row_of_foldlM (entries : List (String × DynamicObject)) :
    ∀ {init out}, entries.foldlM statusStep init = .ok out →
      ∀ entry ∈ entries, ∃ rows, redisStatusRow entry.2 = .ok rows := by
  induction entries with
  | nil => intro init out _ entry hentry; exact absurd hentry (by simp)
  | cons first rest ih =>
      intro init out hout
      rw [List.foldlM_cons] at hout
      cases hstep : statusStep init first with
      | error why =>
          rw [hstep] at hout
          exact absurd hout (by simp [bind, Except.bind])
      | ok rows =>
          rw [hstep] at hout
          obtain ⟨new, hnew, -⟩ := statusStep_eq_ok_iff.mp hstep
          exact List.forall_mem_cons.mpr ⟨⟨new, hnew⟩, ih hout⟩

/-- **When the handler serves the status**: exactly if every status is complete.  Otherwise
it panics. -/
theorem servesStatus_iff (db : CacheMap) :
    (ServesStatus db ↔ StatusesComplete db) ∧
      ((∃ rows, redisStatus db = .ok rows) ↔ StatusesComplete db) := by
  have hserves : StatusesComplete db → ServesStatus db := by
    intro hcomplete
    obtain ⟨rows, hrows, hall⟩ := foldlM_statusStep db.toList [] hcomplete
    exact ⟨rows, hrows, hall⟩
  have hcomplete : (∃ rows, redisStatus db = .ok rows) → StatusesComplete db := by
    rintro ⟨rows, hrows⟩ entry hentry status hstatus
    obtain ⟨new, hnew⟩ := exists_row_of_foldlM db.toList hrows entry hentry
    exact isComplete_of_redisStatusRow hnew hstatus
  have hreturns : ServesStatus db → ∃ rows, redisStatus db = .ok rows :=
    fun ⟨rows, hrows, _⟩ => ⟨rows, hrows⟩
  exact ⟨⟨fun h => hcomplete (hreturns h), hserves⟩, hcomplete, fun h => hreturns (hserves h)⟩

/-! ## Requests -/

/-- GETs of the status. -/
def statusGets : Unit → Option (CacheMap → Checked Unit) :=
  fun _ => some fun db => (redisStatus db).map fun _ => ()

/-- A GET of the status returns exactly if every status is complete. -/
theorem returnsWhen_statusGets : ReturnsWhen statusGets fun _ => StatusesComplete := by
  intro _ db
  refine Iff.trans ?_ (servesStatus_iff db).2
  cases hrows : redisStatus db <;> simp [statusGets, hrows, Except.map]

/-- **When serving the status is safe.**  The handler serves the status of every redis
cluster exactly if every status in the cache is complete; and in every run of events, task
steps and GETs the mutex is not poisoned exactly if every GET comes at such a cache, and
then the run is the one without the GETs. -/
theorem redisStatus_safe_iff :
    (∀ db, ServesStatus db ↔ StatusesComplete db) ∧
      ∀ actions : List (Action Unit),
        ((Shared.start.run statusGets actions).poisoned = false ↔
          RequestsMeet statusGets (fun _ => StatusesComplete) .start actions) ∧
        (RequestsMeet statusGets (fun _ => StatusesComplete) .start actions →
          Shared.start.run statusGets actions =
            Shared.start.run statusGets (actions.filter fun action => !action.isRequest)) :=
  ⟨fun db => (servesStatus_iff db).1,
    fun actions => run_requests returnsWhen_statusGets actions _ Shared.inv_start rfl⟩

end Status

/-! ## A status without some fields -/

/-- A redis StatefulSet that has just been created: its status only counts its replicas. -/
def startingStatefulSet : DynamicObject where
  types := some ⟨"apps/v1", "StatefulSet"⟩
  metadata :=
    { ObjectMeta.empty with
      name := some "a", ns := some "x", creationTimestamp := some 0
      labels := some (ExtTreeMap.ofList
        [("app.kubernetes.io/component", "redis-cluster")] compare) }
  data := .object [("status", .object [("replicas", .number "0")])]

/-- The StatefulSet is added, and its status is asked for. -/
def statusWhileStarting : List (Action Unit) :=
  [.send ⟨"1.31", "/apis/apps/v1/statefulsets", "", .add startingStatefulSet⟩,
    .task ⟨0, ⟨true, fun _ => .found⟩⟩, .request ()]

/-- **One incomplete status is enough**: nothing is served, and the mutex is poisoned. -/
theorem not_servesStatus_starting :
    letI := UnicodeTables.asciiOnly
    ¬ ServesStatus (Shared.start.run statusGets statusWhileStarting).cache ∧
      (Shared.start.run statusGets statusWhileStarting).poisoned = true := by
  refine ⟨?_, rfl⟩
  rintro ⟨rows, hrows, -⟩
  have hpanic : @redisStatus UnicodeTables.asciiOnly
      (@Shared.run UnicodeTables.asciiOnly _ (@statusGets UnicodeTables.asciiOnly) .start
        statusWhileStarting).cache = .error .unwrapNone := rfl
  exact absurd (hpanic.symm.trans hrows) (by simp)

end EntityProvider.Routes
