import EntityProvider.Mirror
import EntityProvider.Program
import EntityProvider.Startup

/-!
# Where cached objects come from

The running provider with the program around it.  The settings name resources, discovery
finds out what the cluster serves, the plan has a watch for what is both named and served,
and the ingest task caches what the watches report.  `cached_from_plan` goes this way back:
an object is in the cache only if a planned watch has reported it.  The URL of the watch is
where an object gets its types from, but only one that was reported without any.

One step of the task writes nothing but what it takes from the channel
(`Provider.write_step`), so what is written in a run has entered the channel
(`entered_of_write`); what enters it is what a watch makes of an item of its stream.
-/

namespace EntityProvider.Ingest

open Std (ExtTreeMap)
open Kube AxKube Library

/-! ## From the cache to the streams -/

/-- A stream shows an object: it reports it as one that exists. -/
def Shows (items : List StreamItem) (o : DynamicObject) : Prop :=
  .ok (.applied (.apply o)) ∈ items ∨ .ok (.restarted (.initApply o)) ∈ items

theorem add_mem_commandsOf_iff {item : StreamItem} {o : DynamicObject} :
    .add o ∈ commandsOf item ↔
      item = .ok (.applied (.apply o)) ∨ item = .ok (.restarted (.initApply o)) := by
  rcases item with why | ⟨e⟩ | ⟨e⟩ | ⟨e⟩
  · simp [commandsOf]
  all_goals cases e <;> simp [commandsOf, eq_comm]

theorem update_notMem_commandsOf (item : StreamItem) (o : DynamicObject) :
    .update o ∉ commandsOf item := by
  rcases item with why | ⟨e⟩ | ⟨e⟩ | ⟨e⟩
  · simp [commandsOf]
  all_goals cases e <;> simp [commandsOf]

section Origin

variable {n : ℕ} [UnicodeTables] {k8sVer : String} {plan : Fin n → ApiWithSelectors}
variable {R : Type*} (access : R → Option (CacheMap → Checked Unit))
variable {streams : Fin n → List StreamItem} {p : Provider n}

/-- **A step writes nothing of its own**: what is written is an event in the channel. -/
theorem Provider.Inv.write_step (hp : p.Inv k8sVer plan streams) {occ : Occurrence n R}
    {w : Write String DynamicObject} (hentry : p.logEntry occ = some (.write w)) :
    ∃ we ∈ p.pipe.entered.map Prod.snd, writeOf we = some w := by
  cases occ with
  | reads i | pollTick | purgeTick | feeds f | request r => exact absurd hentry (by nofun)
  | task around =>
      change p.shared.logEntry around = some (.write w) at hentry
      unfold Shared.logEntry at hentry
      split at hentry
      next =>
        split at hentry
        next => exact absurd hentry (by simp)
        next we rest hqueue =>
          split at hentry
          next => exact absurd hentry (by simp)
          next =>
            obtain ⟨w', hwrite, heq⟩ := Option.map_eq_some_iff.mp hentry
            obtain rfl := Entry.write.inj heq
            refine ⟨we, ?_, hwrite⟩
            have hmessages : p.pipe.channel.messages = we :: rest := hqueue
            rw [hp.pipe.kept, hmessages]
            exact List.mem_append_right _ List.mem_cons_self
      next =>
        split at hentry
        next => exact absurd hentry (by simp)
        next => exact absurd hentry (by simp)
      next => exact absurd hentry (by simp)

variable (k8sVer plan)

/-- **What is written has entered the channel**, in the course of a schedule. -/
theorem entered_of_write (streams : Fin n → List StreamItem)
    (schedule : List (Occurrence n R))
    {w : Write String DynamicObject}
    (hw : .write w ∈ (Provider.start streams).log k8sVer plan access schedule) :
    ∃ we ∈
      ((Provider.start streams).run k8sVer plan access schedule).pipe.entered.map Prod.snd,
      writeOf we = some w := by
  induction schedule using List.reverseRecOn with
  | nil => exact absurd hw (by simp [Provider.log])
  | append_singleton schedule occ ih =>
      have hp : (Provider.run k8sVer plan access (Provider.start streams) schedule).Inv k8sVer
          plan streams := Provider.inv_run k8sVer plan access streams schedule
      rw [Provider.log_concat] at hw
      rw [Provider.run_append]
      obtain ⟨_, later, -, hentered, -⟩ :=
        ((Provider.start streams).run k8sVer plan access schedule).shared_step
          k8sVer plan access occ
      have hgrows : ∀ we ∈
          ((Provider.start streams).run k8sVer plan access schedule).pipe.entered.map
            Prod.snd,
          we ∈ (((Provider.start streams).run k8sVer plan access schedule).run k8sVer plan
            access
            [occ]).pipe.entered.map Prod.snd := fun we hwe =>
        (congrArg (we ∈ ·) hentered).mpr (List.mem_append_left _ hwe)
      rcases List.mem_append.mp hw with hold | hnew
      · obtain ⟨we, hwe, hwrite⟩ := ih hold
        exact ⟨we, hgrows we hwe, hwrite⟩
      · obtain ⟨we, hwe, hwrite⟩ := hp.write_step (Option.mem_toList.mp hnew)
        exact ⟨we, hgrows we hwe, hwrite⟩

/-- An event that a watch sends and that stores an object is about one that its stream
shows. -/
theorem shows_of_storedBy {apisel : ApiWithSelectors} {items : List StreamItem}
    {we : WatchEvent} (hwe : we ∈ watchEvents k8sVer apisel items) {obj : DynamicObject}
    (hstored : storedBy we = some obj) :
    ∃ o, Shows items o ∧ obj = processDynobj o apisel.apiDyn.resourceUrl := by
  obtain ⟨item, hitem, hcmd⟩ := List.mem_flatMap.mp hwe
  obtain ⟨cmd, hcommand, rfl⟩ := List.mem_map.mp hcmd
  cases cmd with
  | add o =>
      refine ⟨o, ?_, (Option.some.inj hstored).symm⟩
      rcases add_mem_commandsOf_iff.mp hcommand with rfl | rfl
      · exact Or.inl hitem
      · exact Or.inr hitem
  | update o => exact absurd hcommand (update_notMem_commandsOf item o)
  | delete o | printAll | purge | none => exact absurd hstored (by simp [storedBy])

/-- **A cached object has been reported** by the stream of a watch. -/
theorem reported_of_cached (streams : Fin n → List StreamItem)
    (schedule : List (Occurrence n R)) {k : String} {obj : DynamicObject}
    (hcached : ((Provider.start streams).run k8sVer plan access schedule).cache[k]? =
      some obj) :
    ∃ i o, Shows (streams i) o ∧ cacheKey o = k ∧
      obj = processDynobj o (plan i).apiDyn.resourceUrl := by
  have hp : (Provider.run k8sVer plan access (Provider.start streams) schedule).Inv k8sVer
      plan streams := Provider.inv_run k8sVer plan access streams schedule
  have hkey : cacheKey obj = k := (hp.shared.keyed k obj hcached).1
  rw [Provider.cache_eq_carryOut] at hcached
  obtain ⟨w, hlast, hvalue⟩ :=
    Option.bind_eq_some_iff.mp ((getElem?_carryOut_iff _ k obj).mp hcached).1
  obtain ⟨entry, hentry, hwrite⟩ := List.mem_filterMap.mp (mem_of_lastWith_eq_some hlast)
  obtain rfl : entry = .write w := by
    cases entry with
    | write w' => exact congrArg Entry.write (Option.some.inj hwrite)
    | sweep keep => exact absurd hwrite (by simp [Entry.write?])
  obtain ⟨we, hwe, hof⟩ := entered_of_write k8sVer plan access streams schedule hentry
  obtain ⟨sent, hsent, rfl⟩ := List.mem_map.mp hwe
  have habout : AboutKey k sent.2 = true := by
    rw [← writesTo_writeOf, WritesTo, hof]
    simpa using (lastWith_eq_some_iff.mp hlast).1
  have hstored : storedBy sent.2 = some obj := by
    rw [← writeOf_bind_value, hof]
    exact hvalue
  obtain ⟨i, -, hevent⟩ := hp.about_entered hsent habout
  obtain ⟨o, hshows, rfl⟩ := shows_of_storedBy k8sVer hevent hstored
  exact ⟨i, o, hshows, hkey, rfl⟩

end Origin

end EntityProvider.Ingest

namespace EntityProvider.Program

open Kube AxKube Ingest Library Routes Startup

/-! ## From the watches to the settings -/

/-- The watches that have a task. -/
def Served.watches (served : Served) : List ApiWithSelectors := served.plan.getD []

/-- Without a plan no task is started, and nothing happens but requests. -/
def Served.happens (served : Served) {n : ℕ} {R : Type*} : Occurrence n R → Bool
  | .request _ => true
  | _ => served.plan.isSome

section Served

variable [UnicodeTables]

/-- The provider that the program starts, after a schedule. -/
def Served.run (served : Served) (cache : Db)
    (streams : Fin served.watches.length → List StreamItem)
    (schedule : List (Occurrence served.watches.length (IterOrder × Request))) :
    Provider served.watches.length :=
  (Provider.start streams).run served.k8sVersion served.watches.get
    (fun asked => (appOf served.config.toSettings cache).access cache asked.1 asked.2)
    (schedule.filter served.happens)

variable {C E : Type} [GroupVersionParser] [VersionPriority]

/-- **Why there is a watch**: the cluster serves a resource, an entry of the settings names
it, and the entry that decides about it admits its group. -/
structure PlannedFor (world : World C E) (served : Served) (apisel : ApiWithSelectors)
    (found : Discovered) : Prop where
  offered : ∃ cli, Reaches world served.config.kube cli ∧ Serves (world.api cli) found
  named : ∃ entry ∈ served.config.kube.resources, apisel ∈ entryApis found.1 found.2 entry
  admitted : ∃ decider, decidingEntry served.config.kube.resources found.1 = some decider ∧
    admits decider.apiGroups found.1.group = true

variable [Configuration.UrlParser] {world : World C E} {served : Served}

/-- Each watch of a program that serves is there for a resource. -/
theorem exists_plannedFor (hserved : main world = .ok (.serving served))
    {apisel : ApiWithSelectors} (hwatch : apisel ∈ served.watches) :
    ∃ found, PlannedFor world served apisel found := by
  obtain ⟨config, version, watched, -, -, hwatched, -, rfl⟩ := main_eq_serving_iff.mp hserved
  rcases plan_cases hwatched with ⟨cli, hreaches, hplan⟩ | ⟨-, hplan⟩
  · cases hdiscover : discover (world.api cli) with
    | error failure =>
        rw [hdiscover] at hplan
        exact absurd hwatch
          (by simp [Served.watches, show watched.toOption = none from hplan])
    | ok discovery =>
        rw [hdiscover] at hplan
        have hmem : apisel ∈ watchPlan world.order discovery config.kube.resources := by
          simpa [Served.watches, show watched.toOption = some _ from hplan] using hwatch
        obtain ⟨found, hfound, hapis⟩ := List.mem_flatMap.mp hmem
        obtain ⟨hrecommended, hdecider⟩ := mem_resolveApiResources_iff.mp hfound
        exact ⟨found,
          ⟨cli, (hreaches cli).mpr rfl, serves_of_recommended hdiscover hrecommended⟩,
          List.mem_flatMap.mp hapis, hdecider⟩
  · exact absurd hwatch (by simp [Served.watches, hplan])

/-- **From the settings to the cache.**  Whatever is cached while the program serves has been
reported by the stream of a watch and is under its own key, as `process_dynobj` left it:
with the types it was reported with, or if it had none, those that are read off that watch's
URL.  And the watch is there because the settings name the resource, the cluster that was
reached serves it, and its group is admitted. -/
theorem cached_from_plan (hserved : main world = .ok (.serving served)) (cache : Db)
    (streams : Fin served.watches.length → List StreamItem)
    (schedule : List (Occurrence served.watches.length (IterOrder × Request))) {k : String}
    {obj : DynamicObject}
    (hcached : (served.run cache streams schedule).cache[k]? = some obj) :
    ∃ i o found, Shows (streams i) o ∧ cacheKey o = k ∧
      obj = processDynobj o (served.watches.get i).apiDyn.resourceUrl ∧
      PlannedFor world served (served.watches.get i) found := by
  obtain ⟨i, o, hshows, hkey, hobj⟩ := reported_of_cached _ _ _ streams _ hcached
  obtain ⟨found, hplanned⟩ := exists_plannedFor hserved (List.get_mem served.watches i)
  exact ⟨i, o, found, hshows, hkey, hobj, hplanned⟩

end Served

/-! ## A Deployment in the cache -/

/-- A Deployment that is reported. -/
def webDeployment : DynamicObject where
  types := some ⟨"apps/v1", "Deployment"⟩
  metadata :=
    { ObjectMeta.empty with name := some "web", ns := some "x", creationTimestamp := some 0 }
  data := .object []

/-- The watch reads it, and the ingest task takes it. -/
def deploymentSchedule :
    List (Occurrence reachedServed.watches.length (IterOrder × Request)) :=
  [.reads ⟨0, by decide⟩, .feeds (.watch ⟨0, by decide⟩), .task findsAll]

theorem cached_from_plan_webDeployment :
    letI := UnicodeTables.asciiOnly
    letI := GroupVersionParser.slashed
    letI := VersionPriority.shorter
    ∃ (i : Fin reachedServed.watches.length) (o : DynamicObject) (found : Discovered),
      Shows [.ok (.applied (.apply webDeployment))] o ∧ cacheKey o = "x/web" ∧
        processDynobj webDeployment deploymentWatch.apiDyn.resourceUrl =
          processDynobj o (reachedServed.watches.get i).apiDyn.resourceUrl ∧
        PlannedFor reachedWorld reachedServed (reachedServed.watches.get i) found := by
  let _ := UnicodeTables.asciiOnly
  let _ := GroupVersionParser.slashed
  let _ := VersionPriority.shorter
  let _ := UrlParser.lenient
  exact cached_from_plan main_reachedWorld ⟨0⟩
    (fun _ => [.ok (.applied (.apply webDeployment))]) deploymentSchedule rfl

end EntityProvider.Program
