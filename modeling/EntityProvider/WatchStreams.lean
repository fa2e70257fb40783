import EntityProvider.CacheRefinement
import EntityProvider.Library.Streams
import Mathlib.Data.List.Nodup

/-!
# One object, three watchers

Each watched API is followed by three independent watchers, and each kind of
event is taken from one of them only: changes from the first, deletions from the
second, listings from the third.  This module follows one object through such a
watch.

An `ObjectHistory` is what happened to the object in the cluster; a `Watcher` is
a watcher's life, one `Session` for each listing; `ObjectHistory.reports` is what
the watcher reports of the history; a `ThreeWayRun` is any order-preserving merge
of three such reports, drained by the ingest task.

What decides the outcome is the last event that is not skipped
(`ThreeWayRun.cache_eq`).  When that is the right one is the subject of
`EntityProvider.WatchOutcome`.
-/

namespace EntityProvider.Ingest

open Kube AxKube Library

/-! ## Histories -/

/-- One change of an object in the cluster. -/
inductive Change where
  /-- It is created or updated, and is now `o`. -/
  | put (o : DynamicObject)
  /-- It is deleted; `o` is its last state. -/
  | delete (o : DynamicObject)

/-- The state of the object that a change is reported with. -/
def Change.object : Change → DynamicObject
  | .put o => o
  | .delete o => o

/-- The event a connected watcher reports for a change. -/
def Change.event : Change → Event
  | .put o => .apply o
  | .delete o => .delete o

/-- All changes of one object in a cluster, oldest first.  The API server sets a
creation time on everything it stores, and every change has a resource version of
its own. -/
structure ObjectHistory where
  changes : List Change
  /-- The cache key all its states share. -/
  key : String
  sameObject : ∀ c ∈ changes, cacheKey c.object = key
  created : ∀ c ∈ changes, c.object.creationTimestamp.isSome = true
  versions : (changes.map fun c => c.object.metadata.resourceVersion).Nodup

namespace ObjectHistory

variable (h : ObjectHistory)

/-- The number of changes. -/
def length : ℕ := h.changes.length

/-- The object after the first `t` changes, if it exists then. -/
def stateAt (t : ℕ) : Option DynamicObject :=
  match (h.changes.take t).getLast? with
  | some (.put o) => some o
  | _ => none

/-- The object after all changes. -/
def finalState : Option DynamicObject := h.stateAt h.length

theorem changes_nodup : h.changes.Nodup :=
  List.Nodup.of_map _ h.versions

/-- Each change happened once. -/
theorem index_unique {c : Change} {i j : ℕ} (hi : h.changes[i]? = some c)
    (hj : h.changes[j]? = some c) : i = j := by
  obtain ⟨hilt, hieq⟩ := List.getElem?_eq_some_iff.mp hi
  obtain ⟨hjlt, hjeq⟩ := List.getElem?_eq_some_iff.mp hj
  exact (List.Nodup.getElem_inj_iff h.changes_nodup).mp (hieq.trans hjeq.symm)

/-- States with the same resource version are the same change. -/
theorem change_eq_of_version_eq {c d : Change} (hc : c ∈ h.changes) (hd : d ∈ h.changes)
    (hversion : c.object.metadata.resourceVersion = d.object.metadata.resourceVersion) :
    c = d :=
  List.inj_on_of_nodup_map h.versions hc hd hversion

/-- The object is in state `o` after `t` changes exactly if the latest of them put
it there. -/
theorem stateAt_eq_some_iff {t : ℕ} (ht : t ≤ h.length) {o : DynamicObject} :
    h.stateAt t = some o ↔ 0 < t ∧ h.changes[t - 1]? = some (.put o) := by
  have hlast : (h.changes.take t).getLast? = if t = 0 then none else h.changes[t - 1]? := by
    rw [List.getLast?_eq_getElem?, List.length_take,
      Nat.min_eq_left (show t ≤ h.changes.length from ht)]
    rcases Nat.eq_zero_or_pos t with rfl | hpos
    · simp
    · rw [if_neg (by omega), List.getElem?_take, if_pos (by omega)]
  unfold stateAt
  rw [hlast]
  rcases Nat.eq_zero_or_pos t with rfl | hpos
  · simp
  · rw [if_neg (by omega)]
    cases hc : h.changes[t - 1]? with
    | none => simp
    | some c => cases c <;> simp [hpos]

end ObjectHistory

/-! ## Watchers -/

/-- One stretch of a watcher's life: it lists after `listed` changes and stays
connected through change `upTo`. -/
structure Session where
  listed : ℕ
  upTo : ℕ

/-- The life of a watcher of the history, until it has reported everything: after
each loss of its connection it lists again, at some later point. -/
structure Watcher (h : ObjectHistory) where
  sessions : List Session
  within : ∀ s ∈ sessions, s.listed ≤ s.upTo ∧ s.upTo ≤ h.length
  ordered : sessions.IsChain fun s s' => s.upTo ≤ s'.listed
  drained : sessions.getLast?.any (fun s => s.upTo = h.length) = true

/-- The watcher that lists once, after `t` changes, and stays connected. -/
def Watcher.listing (h : ObjectHistory) (t : Fin (h.length + 1)) : Watcher h where
  sessions := [⟨t, h.length⟩]
  within := by
    intro s hs
    obtain rfl := List.mem_singleton.mp hs
    exact ⟨Nat.lt_succ_iff.mp t.2, le_rfl⟩
  ordered := .singleton _
  drained := by simp

namespace ObjectHistory

variable (h : ObjectHistory)

/-- What a watcher reports in one session: the listing, then each change. -/
def sessionReports (s : Session) : List Event :=
  [.init] ++ (h.stateAt s.listed).toList.map .initApply ++ [.initDone] ++
    ((h.changes.take s.upTo).drop s.listed).map Change.event

/-- What a watcher reports over its life. -/
def reports (w : Watcher h) : List Event := w.sessions.flatMap h.sessionReports

variable {h}

theorem mem_sessionChanges {s : Session} {c : Change} :
    c ∈ (h.changes.take s.upTo).drop s.listed ↔
      ∃ i, s.listed ≤ i ∧ i < s.upTo ∧ h.changes[i]? = some c := by
  rw [List.mem_iff_getElem?]
  constructor
  · rintro ⟨i, hi⟩
    rw [List.getElem?_drop, List.getElem?_take] at hi
    split at hi
    next hlt => exact ⟨s.listed + i, by omega, hlt, hi⟩
    next => exact absurd hi (by simp)
  · rintro ⟨i, hlow, hhigh, hi⟩
    refine ⟨i - s.listed, ?_⟩
    rw [List.getElem?_drop, List.getElem?_take, Nat.add_sub_cancel' hlow, if_pos hhigh, hi]

theorem event_injective {c d : Change} (hev : c.event = d.event) : c = d := by
  cases c <;> cases d <;> simp_all [Change.event]

/-- A change is reported as such exactly if a session was connected when it
happened. -/
theorem event_mem_reports {w : Watcher h} {c : Change} :
    c.event ∈ h.reports w ↔
      ∃ s ∈ w.sessions, ∃ i, s.listed ≤ i ∧ i < s.upTo ∧ h.changes[i]? = some c := by
  simp only [reports, List.mem_flatMap]
  refine exists_congr fun s => and_congr_right fun _ => ?_
  rw [← mem_sessionChanges]
  constructor
  · intro hmem
    -- `Init`, the listing and `InitDone` are events of other kinds
    simp only [sessionReports, List.mem_append, List.mem_map] at hmem
    rcases hmem with ((h0 | ⟨_, _, h1⟩) | h2) | ⟨d, hd, hev⟩
    · cases c <;> simp [Change.event] at h0
    · cases c <;> simp [Change.event] at h1
    · cases c <;> simp [Change.event] at h2
    · exact event_injective hev ▸ hd
  · intro hmem
    exact List.mem_append_right _ (List.mem_map.mpr ⟨_, hmem, rfl⟩)

/-- A listing reports the state of the object at that point. -/
theorem initApply_mem_reports {w : Watcher h} {o : DynamicObject} :
    Event.initApply o ∈ h.reports w ↔ ∃ s ∈ w.sessions, h.stateAt s.listed = some o := by
  simp only [reports, List.mem_flatMap]
  refine exists_congr fun s => and_congr_right fun _ => ?_
  constructor
  · intro hmem
    simp only [sessionReports, List.mem_append, List.mem_map] at hmem
    rcases hmem with ((h0 | ⟨o', ho', h1⟩) | h2) | ⟨c, _, hev⟩
    · simp at h0
    · obtain rfl : o' = o := by simpa using h1
      simpa using ho'
    · simp at h2
    · cases c <;> exact absurd hev (by simp [Change.event])
  · intro hstate
    simp [sessionReports, hstate]

end ObjectHistory

/-! ## Merged runs -/

/-- The three streams of a watch. -/
inductive StreamTag where
  | applied
  | deleted
  | restarted

/-- What a merged item shows of each stream; errors show nothing. -/
def streamView : StreamTag → StreamItem → Option Event
  | .applied, .ok (.applied e) => some e
  | .deleted, .ok (.deleted e) => some e
  | .restarted, .ok (.restarted e) => some e
  | _, _ => none

/-- A merge of the reports of three watchers, with errors anywhere, sent through
the watch loop and the event channel and drained by the ingest task. -/
structure ThreeWayRun {h : ObjectHistory} (applied deleted restarted : Watcher h) where
  merged : List StreamItem
  merges : IsMerge streamView
    (fun
      | .applied => h.reports applied
      | .deleted => h.reports deleted
      | .restarted => h.reports restarted) merged
  k8sVer : String
  resourceUrl : String
  eventType : String
  inputs : List (Surroundings × WatchEvent)
  drained : inputs.map Prod.snd = watchLoop k8sVer resourceUrl eventType merged

/-- The object an item adds, if the loop turns it into an `Add`. -/
def addedObject : StreamItem → Option DynamicObject
  | .ok (.applied (.apply o)) => some o
  | .ok (.restarted (.initApply o)) => some o
  | _ => none

/-- Is the item one the loop turns into a `Delete`? -/
def IsDeletion : StreamItem → Bool
  | .ok (.deleted (.delete _)) => true
  | _ => false

/-- Is the item one the loop does not skip? -/
def Forwarded (item : StreamItem) : Bool := !(commandsOf item).isEmpty

/-- The loop sends the additions it is given. -/
theorem add_mem_commandsOf {item : StreamItem} {o : DynamicObject} :
    WatchCommand.add o ∈ commandsOf item ↔ addedObject item = some o := by
  unfold commandsOf addedObject
  split <;> simp_all [eq_comm]

theorem forwarded_iff {item : StreamItem} :
    Forwarded item = true ↔ (addedObject item).isSome = true ∨ IsDeletion item = true := by
  unfold Forwarded commandsOf addedObject IsDeletion
  split <;> simp_all

theorem forwarded_of_addedObject {item : StreamItem} {o : DynamicObject}
    (ho : addedObject item = some o) : Forwarded item = true :=
  forwarded_iff.mpr (Or.inl (by simp [ho]))

theorem forwarded_of_isDeletion {item : StreamItem} (hd : IsDeletion item = true) :
    Forwarded item = true :=
  forwarded_iff.mpr (Or.inr hd)

theorem eq_of_streamView_applied {item : StreamItem} {e : Event}
    (hview : streamView .applied item = some e) : item = .ok (.applied e) := by
  unfold streamView at hview
  split at hview <;> simp_all

theorem eq_of_streamView_restarted {item : StreamItem} {e : Event}
    (hview : streamView .restarted item = some e) : item = .ok (.restarted e) := by
  unfold streamView at hview
  split at hview <;> simp_all

/-- A deletion adds nothing. -/
theorem addedObject_of_isDeletion {item : StreamItem} (hd : IsDeletion item = true) :
    addedObject item = none := by
  unfold IsDeletion at hd
  split at hd
  · rfl
  · exact absurd hd (by simp)

namespace ThreeWayRun

variable {h : ObjectHistory} {applied deleted restarted : Watcher h}
variable (run : ThreeWayRun applied deleted restarted)

/-- An item that adds an object comes from the first stream, connected when the
object was put in that state, or from a listing of the third. -/
theorem addedObject_cases {item : StreamItem} (hitem : item ∈ run.merged)
    {o : DynamicObject} (ho : addedObject item = some o) :
    (item = .ok (.applied (.apply o)) ∧ Event.apply o ∈ h.reports applied) ∨
      (item = .ok (.restarted (.initApply o)) ∧
        Event.initApply o ∈ h.reports restarted) := by
  unfold addedObject at ho
  split at ho
  · obtain rfl := Option.some.inj ho
    exact Or.inl ⟨rfl, (run.merges.mem_iff (i := .applied)).mpr ⟨_, hitem, rfl⟩⟩
  · obtain rfl := Option.some.inj ho
    exact Or.inr ⟨rfl, (run.merges.mem_iff (i := .restarted)).mpr ⟨_, hitem, rfl⟩⟩
  · exact absurd ho (by simp)

/-- What an item adds is a state the object was put in. -/
theorem put_mem_of_addedObject {item : StreamItem} (hitem : item ∈ run.merged)
    {o : DynamicObject} (ho : addedObject item = some o) :
    Change.put o ∈ h.changes := by
  rcases run.addedObject_cases hitem ho with ⟨-, hmem⟩ | ⟨-, hmem⟩
  · obtain ⟨_, _, i, _, _, hi⟩ :=
      (ObjectHistory.event_mem_reports (c := .put o)).mp hmem
    exact List.mem_of_getElem? hi
  · obtain ⟨s, hs, hstate⟩ := ObjectHistory.initApply_mem_reports.mp hmem
    have hle : s.listed ≤ h.length :=
      (restarted.within s hs).1.trans (restarted.within s hs).2
    exact List.mem_of_getElem? ((h.stateAt_eq_some_iff hle).mp hstate).2

/-- Every command the loop sends is about a state of the object. -/
theorem exists_change_of_command {item : StreamItem} (hitem : item ∈ run.merged)
    {cmd : WatchCommand} (hcmd : cmd ∈ commandsOf item) :
    ∃ c ∈ h.changes, commandObject cmd = some c.object := by
  have hcases : (∃ o, addedObject item = some o ∧ cmd = .add o) ∨
      ∃ o, item = .ok (.deleted (.delete o)) ∧ cmd = .delete o := by
    unfold commandsOf at hcmd
    split at hcmd
    · exact Or.inl ⟨_, rfl, List.mem_singleton.mp hcmd⟩
    · exact Or.inr ⟨_, rfl, List.mem_singleton.mp hcmd⟩
    · exact Or.inl ⟨_, rfl, List.mem_singleton.mp hcmd⟩
    · exact absurd hcmd (by simp)
    · exact absurd hcmd (by simp)
  rcases hcases with ⟨o, ho, rfl⟩ | ⟨o, rfl, rfl⟩
  · exact ⟨.put o, run.put_mem_of_addedObject hitem ho, rfl⟩
  · have hmem : Event.delete o ∈ h.reports deleted :=
      (run.merges.mem_iff (i := .deleted)).mpr ⟨_, hitem, rfl⟩
    obtain ⟨_, _, i, _, _, hi⟩ :=
      (ObjectHistory.event_mem_reports (c := .delete o)).mp hmem
    exact ⟨.delete o, List.mem_of_getElem? hi, rfl⟩

/-- The event a command of the watch is sent as. -/
def eventOf (cmd : WatchCommand) : WatchEvent where
  k8sVersion := run.k8sVer
  resourceUrl := run.resourceUrl
  eventType := run.eventType
  command := cmd

/-- The events the task gets, item by item. -/
theorem inputs_eq :
    run.inputs.map Prod.snd =
      run.merged.flatMap fun item => (commandsOf item).map run.eventOf :=
  run.drained

theorem exists_change_of_event {item : StreamItem} (hitem : item ∈ run.merged)
    {we : WatchEvent} (hwe : we ∈ (commandsOf item).map run.eventOf) :
    ∃ c ∈ h.changes, commandObject we.command = some c.object := by
  obtain ⟨cmd, hcmd, rfl⟩ := List.mem_map.mp hwe
  exact run.exists_change_of_command hitem hcmd

/-- Every event the task gets is about a state of the object. -/
theorem exists_change_of_input {input : Surroundings × WatchEvent}
    (hinput : input ∈ run.inputs) :
    ∃ c ∈ h.changes, commandObject input.2.command = some c.object := by
  have hmem : input.2 ∈ run.inputs.map Prod.snd := List.mem_map_of_mem hinput
  rw [run.inputs_eq] at hmem
  obtain ⟨item, hitem, hwe⟩ := List.mem_flatMap.mp hmem
  exact run.exists_change_of_event hitem hwe

/-- The state that the last item not skipped leaves the object in. -/
def lastState : Option DynamicObject :=
  (lastWith Forwarded run.merged).bind addedObject

/-- The state a run ends with is one the object was put in. -/
theorem put_mem_of_lastState {o : DynamicObject} (ho : run.lastState = some o) :
    Change.put o ∈ h.changes := by
  obtain ⟨item, hlast, hadd⟩ := Option.bind_eq_some_iff.mp ho
  exact run.put_mem_of_addedObject (mem_of_lastWith_eq_some hlast) hadd

section Outcome

variable [UnicodeTables]

/-- The cache once the channel is drained. -/
def cache : CacheMap := (IngestTask.start.run run.inputs).cache

/-- **The last report decides.**  The cache holds the object as the last item that
is not skipped has it. -/
theorem cache_eq :
    run.cache[h.key]? = run.lastState.map fun o => processDynobj o run.resourceUrl := by
  have hpurge : ∀ input ∈ run.inputs, input.2.command ≠ .purge := by
    intro input hinput hcmd
    obtain ⟨c, -, hc⟩ := run.exists_change_of_input hinput
    simp [hcmd, commandObject] at hc
  have hcreated : ∀ input ∈ run.inputs, Created input.2 := by
    intro input hinput o ho
    obtain ⟨c, hc, hobj⟩ := run.exists_change_of_input hinput
    obtain rfl : c.object = o := Option.some.inj (hobj.symm.trans ho)
    exact h.created c hc
  have habout : ∀ item ∈ run.merged, ∀ we ∈ (commandsOf item).map run.eventOf,
      AboutKey h.key we = true := by
    intro item hitem we hwe
    obtain ⟨c, hc, hobj⟩ := run.exists_change_of_event hitem hwe
    have hkey := h.sameObject c hc
    unfold commandObject at hobj
    unfold AboutKey
    split at hobj <;> simp_all
  have hempty : IngestTask.start.cache[h.key]? = none := by simp [IngestTask.start]
  have hlast : ∀ last : Option WatchEvent,
      (last.map storedBy).getD none = last.bind storedBy := fun last => by
    cases last <;> rfl
  rw [cache, getElem?_run run.inputs rfl hpurge, hempty, hlast,
    handled_eq_of_created _ _ rfl hpurge hcreated, run.inputs_eq,
    lastWith_flatMap habout, lastState, Option.bind_assoc, Option.map_bind]
  have hforwarded :
      (fun item => !((commandsOf item).map run.eventOf).isEmpty) = Forwarded := by
    funext item
    simp [Forwarded]
  rw [hforwarded]
  -- an item gives one event at most, so the last event stores what the last item adds
  refine Option.bind_congr fun item _ => ?_
  cases item with
  | error e => rfl
  | ok selected =>
      cases selected with
      | applied e => cases e <;> rfl
      | deleted e => cases e <;> rfl
      | restarted e => cases e <;> rfl

end Outcome

end ThreeWayRun

end EntityProvider.Ingest
