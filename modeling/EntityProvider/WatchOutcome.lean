import EntityProvider.WatchStreams

/-!
# What a three-way watch ends with

A `ThreeWayRun` leaves the object as the last forwarded report has it.  Nothing
orders the three streams, and a change reported by one of the other two watchers
is skipped, so that report need not be about the last change.  The main results
say exactly when it is:

* `ThreeWayRun.inSync_iff_settles`, for watchers that list once and never lose
  their connection;
* `ThreeWayRun.finalVersion_iff`, for watchers that list again at any points, if
  the additions arrive in the order of the versions they carry.

Both rest on `lastState_eq_none_iff` and `lastState_eq_some_iff`: the run ends
with the object gone exactly if every addition is `Followed` by a deletion, and
with version `v` exactly if `v` was added and everything else that was forwarded
is followed by an addition of `v`.
-/

namespace EntityProvider.Ingest

open Kube AxKube Library

/-- The item adds the object in state `v`. -/
def Adds (v : DynamicObject) (item : StreamItem) : Prop := addedObject item = some v

/-- The item is forwarded and leaves the object in a state other than `v`. -/
def Diverts (v : DynamicObject) (item : StreamItem) : Prop :=
  Forwarded item = true ∧ addedObject item ≠ some v

theorem forwarded_iff_diverts_or_adds {v : DynamicObject} {item : StreamItem} :
    Forwarded item = true ↔ Diverts v item ∨ Adds v item := by
  by_cases hv : addedObject item = some v
  · simp [Diverts, Adds, hv, forwarded_of_addedObject hv]
  · simp [Diverts, Adds, hv]

namespace ThreeWayRun

variable {h : ObjectHistory} {applied deleted restarted : Watcher h}
variable (run : ThreeWayRun applied deleted restarted)

/-! ## The last forwarded report -/

/-- The run ends with the object gone exactly if every addition is followed by a
deletion. -/
theorem lastState_eq_none_iff :
    run.lastState = none ↔
      Followed (fun item => (addedObject item).isSome = true)
        (fun item => IsDeletion item = true) run.merged := by
  rw [followed_iff_lastWith (fun item _ => forwarded_iff), lastState,
    Option.bind_eq_none_iff]
  refine forall_congr' fun item => imp_congr_right fun _ => ?_
  simp

/-- The run ends with the object in state `v` exactly if `v` was added, and
everything forwarded that says otherwise is followed by an addition of `v`. -/
theorem lastState_eq_some_iff {v : DynamicObject} :
    run.lastState = some v ↔
      (∃ item ∈ run.merged, Adds v item) ∧ Followed (Diverts v) (Adds v) run.merged := by
  rw [followed_iff_lastWith (fun item _ => forwarded_iff_diverts_or_adds), lastState,
    Option.bind_eq_some_iff]
  constructor
  · rintro ⟨item, hlast, hadd⟩
    refine ⟨⟨item, mem_of_lastWith_eq_some hlast, hadd⟩, ?_⟩
    rintro other hother ⟨-, hdiverts⟩
    obtain rfl : item = other := Option.some.inj (hlast.symm.trans hother)
    exact hdiverts hadd
  · rintro ⟨⟨item, hitem, hadd⟩, hlast⟩
    have hforwarded : Forwarded item = true := forwarded_of_addedObject hadd
    cases hl : lastWith Forwarded run.merged with
    | none => exact absurd hforwarded (by simp [lastWith_eq_none_iff.mp hl item hitem])
    | some last =>
        have hlastForwarded : Forwarded last = true := (lastWith_eq_some_iff.mp hl).1
        exact ⟨last, rfl, ((forwarded_iff_diverts_or_adds (v := v)).mp
          hlastForwarded).resolve_left (hlast last hl)⟩

/-! ## Seeing the final version -/

/-- The final version reaches a watcher whose report of it counts: the first one
is connected when the object gets it, or the third lists after that. -/
def SeesFinalVersion (_run : ThreeWayRun applied deleted restarted) : Prop :=
  (∃ s ∈ applied.sessions, s.listed < h.length ∧ h.length ≤ s.upTo) ∨
    ∃ s ∈ restarted.sessions, s.listed = h.length

/-- The last change of an object that is alive in state `v` in the end. -/
theorem getElem?_of_finalState {v : DynamicObject} (hv : h.finalState = some v) :
    0 < h.length ∧ h.changes[h.length - 1]? = some (.put v) :=
  (h.stateAt_eq_some_iff le_rfl).mp hv

/-- **The final version is added exactly if it is seen.** -/
theorem exists_adds_iff {v : DynamicObject} (hv : h.finalState = some v) :
    (∃ item ∈ run.merged, Adds v item) ↔ run.SeesFinalVersion := by
  obtain ⟨hpos, hchange⟩ := getElem?_of_finalState hv
  constructor
  · rintro ⟨item, hitem, hadd⟩
    rcases run.addedObject_cases hitem hadd with ⟨-, hmem⟩ | ⟨-, hmem⟩
    · obtain ⟨s, hs, i, hlow, hhigh, hi⟩ :=
        (ObjectHistory.event_mem_reports (c := .put v)).mp hmem
      -- the object got this version once, with the last change
      have hindex : i = h.length - 1 := h.index_unique hi hchange
      have hwithin := applied.within s hs
      exact Or.inl ⟨s, hs, by omega, by omega⟩
    · obtain ⟨s, hs, hstate⟩ := ObjectHistory.initApply_mem_reports.mp hmem
      have hwithin := restarted.within s hs
      obtain ⟨hlisted, hi⟩ := (h.stateAt_eq_some_iff (by omega)).mp hstate
      have hindex : s.listed - 1 = h.length - 1 := h.index_unique hi hchange
      exact Or.inr ⟨s, hs, by omega⟩
  · rintro (⟨s, hs, hlisted, hupTo⟩ | ⟨s, hs, hlisted⟩)
    · have hreport : Event.apply v ∈ h.reports applied :=
        (ObjectHistory.event_mem_reports (c := .put v)).mpr
          ⟨s, hs, h.length - 1, by omega, by omega, hchange⟩
      obtain ⟨item, hitem, hview⟩ := (run.merges.mem_iff (i := .applied)).mp hreport
      exact ⟨item, hitem, by rw [eq_of_streamView_applied hview]; rfl⟩
    · have hreport : Event.initApply v ∈ h.reports restarted :=
        ObjectHistory.initApply_mem_reports.mpr ⟨s, hs, hlisted ▸ hv⟩
      obtain ⟨item, hitem, hview⟩ := (run.merges.mem_iff (i := .restarted)).mp hreport
      exact ⟨item, hitem, by rw [eq_of_streamView_restarted hview]; rfl⟩

/-! ## Watchers that list once -/

section Outcome

variable [UnicodeTables]

/-- The cache holds the object exactly if it exists in the cluster, and then in its
latest version. -/
def InSync : Prop :=
  run.cache[h.key]? = h.finalState.map fun o => processDynobj o run.resourceUrl

/-- Processing keeps the resource version, so the cache tells the versions of the
object apart. -/
theorem inSync_iff_lastState : run.InSync ↔ run.lastState = h.finalState := by
  rw [InSync, run.cache_eq]
  constructor
  · intro hsync
    cases hlast : run.lastState with
    | none =>
        rw [hlast, Option.map_none, eq_comm, Option.map_eq_none_iff] at hsync
        exact hsync.symm
    | some o =>
        rw [hlast, Option.map_some, eq_comm, Option.map_eq_some_iff] at hsync
        obtain ⟨v, hv, hprocessed⟩ := hsync
        -- processing may make different states equal, but not their versions
        have hversion : v.metadata.resourceVersion = o.metadata.resourceVersion := by
          simpa using congrArg (fun d => d.metadata.resourceVersion) hprocessed
        have hvmem : Change.put v ∈ h.changes :=
          List.mem_of_getElem? (getElem?_of_finalState hv).2
        have homem : Change.put o ∈ h.changes := run.put_mem_of_lastState hlast
        have heq : Change.put v = Change.put o :=
          h.change_eq_of_version_eq hvmem homem hversion
        rw [hv, Change.put.inj heq]
  · intro hlast
    rw [hlast]

end Outcome

/-- A listing of the third watcher that still shows a version other than `v`. -/
def OutdatedListing (v : DynamicObject) (item : StreamItem) : Prop :=
  ∃ w, item = .ok (.restarted (.initApply w)) ∧ w ≠ v

/-- The watch settles.  For an object that is gone in the end: whatever adds it,
in the first stream or in the listing of the third, comes before some deletion in
the second.  For an object that is alive in the end: its final version is seen, and
every deletion and every outdated listing comes before a report of that version. -/
def Settles : Prop :=
  match h.finalState with
  | none =>
      Followed (fun item => (addedObject item).isSome = true)
        (fun item => IsDeletion item = true) run.merged
  | some v =>
      run.SeesFinalVersion ∧
        Followed (fun item => IsDeletion item = true ∨ OutdatedListing v item) (Adds v)
          run.merged

end ThreeWayRun

/-- A watcher that lists before the last change reports that change last. -/
theorem ObjectHistory.getLast?_reports_listing {h : ObjectHistory}
    {t : Fin (h.length + 1)} (ht : t.val < h.length) {v : DynamicObject}
    (hv : h.finalState = some v) :
    (h.reports (.listing h t)).getLast? = some (.apply v) := by
  have hchange := (ThreeWayRun.getElem?_of_finalState hv).2
  have hlast : (h.changes.drop t).getLast? = some (.put v) := by
    rw [List.getLast?_drop, if_neg (show ¬ h.changes.length ≤ t from Nat.not_le.mpr ht),
      List.getLast?_eq_getElem?]
    exact hchange
  have htake : h.changes.take h.length = h.changes := List.take_length
  have hreports : h.reports (.listing h t) =
      ([.init] ++ (h.stateAt t).toList.map .initApply ++ [.initDone]) ++
        (h.changes.drop t).map Change.event := by
    simp [ObjectHistory.reports, ObjectHistory.sessionReports, Watcher.listing, htake]
  rw [hreports, List.getLast?_append, List.getLast?_map, hlast]
  rfl

namespace ThreeWayRun

section Listing

variable {h : ObjectHistory} {tApplied tDeleted tRestarted : Fin (h.length + 1)}
variable (run : ThreeWayRun (.listing h tApplied) (.listing h tDeleted)
  (.listing h tRestarted))

/-- An older version reported by the first stream is followed by the final one. -/
theorem followed_applied {v : DynamicObject} (hv : h.finalState = some v) :
    Followed (fun item => ∃ w, item = .ok (.applied (.apply w)) ∧ w ≠ v) (Adds v)
      run.merged := by
  rintro front item back hsplit ⟨w, rfl, hwv⟩
  have hstream : h.reports (.listing h tApplied) = _ :=
    run.merges.split (i := .applied) hsplit rfl
  have hreported : Event.apply w ∈ h.reports (.listing h tApplied) := by
    rw [hstream]
    simp
  obtain ⟨s, hs, i, hlow, hhigh, -⟩ :=
    (ObjectHistory.event_mem_reports (c := .put w)).mp hreported
  obtain rfl : s = ⟨tApplied, h.length⟩ := List.mem_singleton.mp hs
  -- the watcher saw a change, so it had listed before the last one and reports that too
  have hlast := ObjectHistory.getLast?_reports_listing (lt_of_le_of_lt hlow hhigh) hv
  have hback : Event.apply v ∈ back.filterMap (streamView .applied) :=
    mem_of_getLast?_eq hlast hstream (by simpa using hwv)
  obtain ⟨later, hlater, hview⟩ := List.mem_filterMap.mp hback
  exact ⟨later, hlater, by rw [eq_of_streamView_applied hview]; rfl⟩

/-- **When a three-way watch ends in sync.**  For every history and every merge of
the three streams: the cache ends with the object as the cluster has it exactly if
the watch settles. -/
theorem inSync_iff_settles [UnicodeTables] : run.InSync ↔ run.Settles := by
  rw [inSync_iff_lastState, Settles]
  cases hv : h.finalState with
  | none => exact run.lastState_eq_none_iff
  | some v =>
      simp only
      rw [lastState_eq_some_iff, exists_adds_iff run hv]
      refine and_congr_right fun _ => ⟨fun hfollowed => ?_, fun hfollowed => ?_⟩
      · refine hfollowed.mono ?_
        rintro item - (hdeletion | ⟨w, rfl, hwv⟩)
        · exact ⟨forwarded_of_isDeletion hdeletion, by
            simp [addedObject_of_isDeletion hdeletion]⟩
        · exact ⟨rfl, by simpa [addedObject] using hwv⟩
      · refine hfollowed.of_cases ((run.followed_applied hv).mono ?_)
        -- what is neither a deletion nor an outdated listing came on the first stream
        rintro item hitem ⟨⟨hforwarded, hnot⟩, hrest⟩
        rcases forwarded_iff.mp hforwarded with hadded | hdeletion
        · obtain ⟨w, hw⟩ := Option.isSome_iff_exists.mp hadded
          have hwv : w ≠ v := fun heq => hnot (heq ▸ hw)
          rcases run.addedObject_cases hitem hw with ⟨heq, -⟩ | ⟨heq, -⟩
          · exact ⟨w, heq, hwv⟩
          · exact absurd (Or.inr ⟨w, heq, hwv⟩) hrest
        · exact absurd (Or.inl hdeletion) hrest

end Listing

end ThreeWayRun

/-- A version of the object `a` in namespace `x`. -/
def versionOf (resourceVersion : String) : DynamicObject where
  types := none
  metadata :=
    { ObjectMeta.empty with
      name := some "a", ns := some "x", resourceVersion := some resourceVersion
      creationTimestamp := some 0 }
  data := .object []

/-- The object is created, and nothing else happens. -/
def createdOnce : ObjectHistory where
  changes := [.put (versionOf "1")]
  key := "x/a"
  sameObject := by simp [Change.object, versionOf, cacheKey, DynamicObject.nameAny]
  created := by simp [Change.object, versionOf, DynamicObject.creationTimestamp]
  versions := by simp

/-- The object is created between the lists of the second and third watcher and the
list of the first.  The first stream shows it in its listing, the others as a
change; all three reports are skipped. -/
def creationSkipped :
    ThreeWayRun (.listing createdOnce 1) (.listing createdOnce 0)
      (.listing createdOnce 0) where
  merged :=
    [.ok (.deleted .init), .ok (.deleted .initDone),
      .ok (.restarted .init), .ok (.restarted .initDone),
      .ok (.deleted (.apply (versionOf "1"))), .ok (.restarted (.apply (versionOf "1"))),
      .ok (.applied .init), .ok (.applied (.initApply (versionOf "1"))),
      .ok (.applied .initDone)]
  merges := by intro tag; cases tag <;> rfl
  k8sVer := "1.31"
  resourceUrl := "/api/v1/pods"
  eventType := ""
  inputs := []
  drained := rfl

/-- **A live object is missing.**  The object exists in the cluster and never enters
the cache. -/
theorem not_inSync_creationSkipped :
    ¬ @ThreeWayRun.InSync _ _ _ _ creationSkipped UnicodeTables.asciiOnly := by
  intro hsync
  have hsome := congrArg Option.isSome hsync
  revert hsome
  decide

/-! ## Watchers that list again -/

/-- The object was in state `o` no later than in state `o'`. -/
def ObjectHistory.NotAfter (h : ObjectHistory) (o o' : DynamicObject) : Prop :=
  ∃ i j : ℕ, i ≤ j ∧ h.changes[i]? = some (.put o) ∧ h.changes[j]? = some (.put o')

namespace ThreeWayRun

variable {h : ObjectHistory} {applied deleted restarted : Watcher h}
variable (run : ThreeWayRun applied deleted restarted)

/-- The additions arrive in the order of the versions they carry. -/
def AddsInOrder : Prop := (run.merged.filterMap addedObject).Pairwise h.NotAfter

/-- Version `v` is sent to the ingest task. -/
def Sends (v : DynamicObject) : Prop := ∃ input ∈ run.inputs, input.2.command = .add v

/-- The loop sends what the items add. -/
theorem sends_iff_exists_adds {v : DynamicObject} :
    run.Sends v ↔ ∃ item ∈ run.merged, Adds v item := by
  have hcommands : run.inputs.map (fun input => input.2.command) =
      run.merged.flatMap commandsOf := by
    have hcommand := congrArg (List.map WatchEvent.command) run.drained
    simpa [watchLoop, List.map_flatMap, Function.comp_def] using hcommand
  have hsends : run.Sends v ↔ WatchCommand.add v ∈ run.merged.flatMap commandsOf := by
    rw [← hcommands, List.mem_map]
    rfl
  rw [hsends, List.mem_flatMap]
  exact exists_congr fun item => and_congr_right fun _ => add_mem_commandsOf

/-- With the additions in order, an older version is always followed by the final
one, once that is added at all. -/
theorem followed_of_addsInOrder {v : DynamicObject} (hv : h.finalState = some v)
    (horder : run.AddsInOrder) (hadds : ∃ item ∈ run.merged, Adds v item) :
    Followed (fun item => ∃ w, Adds w item ∧ w ≠ v) (Adds v) run.merged := by
  obtain ⟨-, hchange⟩ := getElem?_of_finalState hv
  rintro front item back hsplit ⟨w, hw, hwv⟩
  obtain ⟨later, hlater, hadd⟩ := hadds
  rw [hsplit, List.mem_append, List.mem_cons] at hlater
  rcases hlater with hfront | rfl | hback
  · -- an older version cannot arrive after the final one
    have hpairs := horder
    rw [AddsInOrder, hsplit, List.filterMap_append, List.filterMap_cons_some hw,
      List.pairwise_append] at hpairs
    obtain ⟨i, j, hij, hi, hj⟩ := hpairs.2.2 v (List.mem_filterMap.mpr ⟨later, hfront, hadd⟩)
      w List.mem_cons_self
    have hi' : i = h.length - 1 := h.index_unique hi hchange
    have hj' : j < h.length := (List.getElem?_eq_some_iff.mp hj).1
    have hsame : j = h.length - 1 := by omega
    rw [hsame, hchange] at hj
    exact absurd (Change.put.inj (Option.some.inj hj)).symm hwv
  · exact absurd (Option.some.inj (hw.symm.trans hadd)) hwv
  · exact ⟨later, hback, hadd⟩

/-- **When the final version is kept.**  For an object that is alive in the end,
any listings of the three watchers and any merge in which the additions arrive in
order: the final version is sent exactly if it is seen, and the cache ends with it
exactly if, besides, every deletion comes before a report of it. -/
theorem finalVersion_iff [UnicodeTables] {v : DynamicObject} (hv : h.finalState = some v)
    (horder : run.AddsInOrder) :
    (run.Sends v ↔ run.SeesFinalVersion) ∧
      (run.Sends v ∧ run.cache[h.key]? = some (processDynobj v run.resourceUrl) ↔
        run.SeesFinalVersion ∧
          Followed (fun item => IsDeletion item = true) (Adds v) run.merged) := by
  have hsends : run.Sends v ↔ run.SeesFinalVersion :=
    run.sends_iff_exists_adds.trans (run.exists_adds_iff hv)
  refine ⟨hsends, ?_⟩
  have hcache : run.cache[h.key]? = some (processDynobj v run.resourceUrl) ↔
      run.lastState = some v := by
    rw [← hv, ← inSync_iff_lastState, InSync, hv, Option.map_some]
  rw [hcache, hsends, lastState_eq_some_iff, run.exists_adds_iff hv]
  constructor
  · rintro ⟨hseen, -, hfollowed⟩
    refine ⟨hseen, hfollowed.mono fun item _ hdeletion => ?_⟩
    exact ⟨forwarded_of_isDeletion hdeletion, by simp [addedObject_of_isDeletion hdeletion]⟩
  · rintro ⟨hseen, hfollowed⟩
    have hadds := (run.exists_adds_iff hv).mpr hseen
    refine ⟨hseen, hseen, hfollowed.of_cases ?_⟩
    refine (run.followed_of_addsInOrder hv horder hadds).mono ?_
    rintro item - ⟨⟨hforwarded, hnot⟩, hdeletion⟩
    obtain ⟨w, hw⟩ :=
      Option.isSome_iff_exists.mp ((forwarded_iff.mp hforwarded).resolve_right hdeletion)
    exact ⟨w, hw, fun heq => hnot (heq ▸ hw)⟩

end ThreeWayRun

/-- The object is created and updated. -/
def updatedOnce : ObjectHistory where
  changes := [.put (versionOf "1"), .put (versionOf "2")]
  key := "x/a"
  sameObject := by simp [Change.object, versionOf, cacheKey, DynamicObject.nameAny]
  created := by simp [Change.object, versionOf, DynamicObject.creationTimestamp]
  versions := by simp [Change.object, versionOf]

/-- A watcher of `updatedOnce` that loses its connection before the update and lists
again after it. -/
def reconnecting : Watcher updatedOnce where
  sessions := [⟨0, 1⟩, ⟨2, 2⟩]
  within := by simp [updatedOnce, ObjectHistory.length]
  ordered := by simp
  drained := rfl

/-- Only the first watcher reconnects.  It shows the update in its listing, the
others as a change; all three reports of it are skipped. -/
def updateSkipped :
    ThreeWayRun reconnecting (.listing updatedOnce 0) (.listing updatedOnce 0) where
  merged :=
    [.ok (.applied .init), .ok (.applied .initDone),
      .ok (.deleted .init), .ok (.deleted .initDone),
      .ok (.restarted .init), .ok (.restarted .initDone),
      .ok (.applied (.apply (versionOf "1"))),
      .ok (.deleted (.apply (versionOf "1"))), .ok (.restarted (.apply (versionOf "1"))),
      .error ⟨"watch stream failed"⟩,
      .ok (.deleted (.apply (versionOf "2"))), .ok (.restarted (.apply (versionOf "2"))),
      .ok (.applied .init), .ok (.applied (.initApply (versionOf "2"))),
      .ok (.applied .initDone)]
  merges := by intro tag; cases tag <;> rfl
  k8sVer := "1.31"
  resourceUrl := "/api/v1/pods"
  eventType := ""
  inputs :=
    [(⟨0, ⟨true, fun _ => .found⟩⟩,
      ⟨"1.31", "/api/v1/pods", "", .add (versionOf "1")⟩)]
  drained := rfl

theorem finalState_updatedOnce : updatedOnce.finalState = some (versionOf "2") := rfl

theorem addsInOrder_updateSkipped : updateSkipped.AddsInOrder := by
  have hadded : updateSkipped.merged.filterMap addedObject = [versionOf "1"] := rfl
  rw [ThreeWayRun.AddsInOrder, hadded]
  exact List.pairwise_singleton _ _

/-- **An update is lost.**  The additions arrive in order and the object ends alive
in its second version, which is never sent. -/
theorem not_sends_updateSkipped :
    updatedOnce.finalState = some (versionOf "2") ∧ updateSkipped.AddsInOrder ∧
      ¬ updateSkipped.Sends (versionOf "2") := by
  refine ⟨finalState_updatedOnce, addsInOrder_updateSkipped, ?_⟩
  rintro ⟨input, hinput, hcommand⟩
  obtain rfl := List.mem_singleton.mp hinput
  have hversion : versionOf "1" = versionOf "2" := WatchCommand.add.inj hcommand
  have hne := congrArg (fun o => o.metadata.resourceVersion) hversion
  simp [versionOf] at hne

/-- The object is created, deleted, and created again. -/
def recreated : ObjectHistory where
  changes := [.put (versionOf "1"), .delete (versionOf "2"), .put (versionOf "3")]
  key := "x/a"
  sameObject := by simp [Change.object, versionOf, cacheKey, DynamicObject.nameAny]
  created := by simp [Change.object, versionOf, DynamicObject.creationTimestamp]
  versions := by simp [Change.object, versionOf]

/-- All three watchers list first and stay connected.  The second one reports the deletion
before the first one reports that the object is there again. -/
def recreationSent :
    ThreeWayRun (.listing recreated 0) (.listing recreated 0) (.listing recreated 0) where
  merged :=
    [.ok (.applied .init), .ok (.applied .initDone),
      .ok (.deleted .init), .ok (.deleted .initDone),
      .ok (.restarted .init), .ok (.restarted .initDone),
      .ok (.applied (.apply (versionOf "1"))), .ok (.restarted (.apply (versionOf "1"))),
      .ok (.deleted (.apply (versionOf "1"))), .ok (.deleted (.delete (versionOf "2"))),
      .ok (.restarted (.delete (versionOf "2"))), .ok (.applied (.delete (versionOf "2"))),
      .ok (.deleted (.apply (versionOf "3"))), .ok (.restarted (.apply (versionOf "3"))),
      .ok (.applied (.apply (versionOf "3")))]
  merges := by intro tag; cases tag <;> rfl
  k8sVer := "1.31"
  resourceUrl := "/api/v1/pods"
  eventType := ""
  inputs :=
    [.add (versionOf "1"), .delete (versionOf "2"), .add (versionOf "3")].map
      (quietly "/api/v1/pods")
  drained := rfl

theorem addsInOrder_recreationSent : recreationSent.AddsInOrder := by
  have hadded : recreationSent.merged.filterMap addedObject =
      [versionOf "1", versionOf "3"] := rfl
  rw [ThreeWayRun.AddsInOrder, hadded, List.pairwise_pair]
  exact ⟨0, 2, by decide, rfl, rfl⟩

/-- The deletion is not the last item. -/
theorem followed_recreationSent :
    Followed (fun item => IsDeletion item = true) (Adds (versionOf "3"))
      recreationSent.merged := by
  intro front item back hsplit hdeletion
  have hlast : recreationSent.merged.getLast? =
      some (.ok (.applied (.apply (versionOf "3")))) :=
    rfl
  refine ⟨_, mem_of_getLast?_eq hlast hsplit ?_, rfl⟩
  rintro rfl
  exact absurd hdeletion (by decide)

/-- The third version is sent, and the cache ends with it. -/
theorem finalVersion_iff_recreationSent :
    letI := UnicodeTables.asciiOnly
    recreationSent.Sends (versionOf "3") ∧
      recreationSent.cache["x/a"]? =
        some (processDynobj (versionOf "3") "/api/v1/pods") :=
  letI := UnicodeTables.asciiOnly
  (recreationSent.finalVersion_iff rfl addsInOrder_recreationSent).2.mpr
    ⟨Or.inl ⟨_, List.mem_singleton_self _, by decide, by decide⟩, followed_recreationSent⟩

end EntityProvider.Ingest
