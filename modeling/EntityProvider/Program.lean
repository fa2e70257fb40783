import EntityProvider.Backstage.Json
import EntityProvider.DiscoveryRun
import EntityProvider.RetryDelays
import EntityProvider.Validation

/-!
# The program

`main.rs`: load the settings, ask the cluster for its version, start the watches and the
ingest task, and serve.  `get_k8s_version` and `watch` ask for a client each, with retries;
if the first call gets one, the second one finds it in the pool.

The program is written to come up without a cluster.  A version that cannot be had is
`n/a`, and where `watch` returns an error nothing is watched.  It panics only on settings
that do not load, and on a cluster whose API cannot be read: `serves_iff`.  Until it serves
it makes at most two rounds of attempts to connect: `startup_calls`.  The version and the
watches are of one cluster: `served_from_one_cluster`.

## Design notes

A `World` fixes all that the program meets from outside, so its run is a function.  The two
calls have outcomes of their own: whether the second one tries at all is decided by the pool
that the first one leaves.

`Reaches` says without the calls which client `watch` gets, from the outcomes alone.  The
later results are stated with it, and only `watchCall_cases` connects it with the retry loop.
-/

namespace EntityProvider.Program

open Kube AxKube AxKube.Client EntityProvider.Configuration Entities Library

/-! ## The version of the cluster -/

/-- `ServerVersion`. -/
structure ServerVersion where
  major : String
  minor : String
  platform : String
  deriving DecidableEq, Repr

/-- The derived `Deserialize`: a JSON object, or an array of the fields. -/
def ServerVersion.deserialize : Value → Except FieldError ServerVersion
  | .array [major, minor, platform] => do
      let major ← deserializeString major
      let minor ← deserializeString minor
      let platform ← deserializeString platform
      return ⟨major, minor, platform⟩
  | resp =>
      deserializeStruct "ServerVersion" (fun fields => do
        let major ← required fields "major" deserializeString
        let minor ← required fields "minor" deserializeString
        let platform ← required fields "platform" deserializeString
        return ⟨major, minor, platform⟩) resp

/-- Why there is no version. -/
inductive VersionError (E : Type) where
  | client (why : ClientError E)
  | request (why : RequestError)
  | conversion (why : FieldError)

/-- Why nothing is watched. -/
inductive WatchError (E : Type) where
  | client (why : ClientError E)
  | discovery (why : RequestError)

/-- How the program panics before it serves. -/
inductive Panic where
  /-- `Failed to read configuration`. -/
  | configuration (why : LoadError)
  | client (fault : Fault)
  | discovery (why : DiscoveryFailure)
  /-- A `tokio` interval of no length. -/
  | zeroInterval

section Program

variable {C E : Type}

/-- `get_k8s_version`, by how its call of `client` went. -/
def getK8sVersion (call : Call C E C) (version : C → Except RequestError Value) :
    Except Panic (Except (VersionError E) ServerVersion) :=
  match call.ending with
  | .panicked fault => .error (.client fault)
  | .err why => .ok (.error (.client why))
  | .ok cli => .ok (do
      let resp ← (version cli).mapError .request
      (ServerVersion.deserialize resp).mapError .conversion)

/-- What `main` makes of the version. -/
def k8sVersionText : Except (VersionError E) ServerVersion → String
  | .ok sv => sv.major ++ "." ++ sv.minor
  | .error _ => "n/a"

/-! ## The two calls -/

/-- What the program meets: its settings, what the attempts to connect of its two calls end
in and the numbers drawn for their delays, the answers of a cluster to each client, the
order in which its maps iterate, and how its address can be used. -/
structure World (C E : Type) where
  sources : ConfigSources
  versionOutcomes : ℕ → Except E C
  versionDraws : ℕ → UInt64
  watchOutcomes : ℕ → Except E C
  watchDraws : ℕ → UInt64
  version : C → Except RequestError Value
  api : C → DiscoveryApi
  order : IterOrder
  bind : String → Except String Unit
  listen : String → Except String Unit

/-- The call of `client` in `get_k8s_version`. -/
def versionCall (world : World C E) (kube : KubeSettings) : Call C E C :=
  client kube world.versionOutcomes world.versionDraws .unset

/-- The call of `client` in `watch`, after that. -/
def watchCall (world : World C E) (kube : KubeSettings) : Call C E C :=
  client kube world.watchOutcomes world.watchDraws (versionCall world kube).pool

/-- A call on a pool that is not set. -/
theorem client_unset_cases (settings : KubeSettings) (outcomes : ℕ → Except E C)
    (draws : ℕ → UInt64) :
    (∃ i ≤ allowedRetries settings.retry, ∃ cli delays, FirstSuccess outcomes i cli ∧
        delays.length = i ∧ client settings outcomes draws .unset =
          ⟨spaced delays, .ok cli, .cell (some cli)⟩) ∨
      (∀ j ≤ allowedRetries settings.retry, ∃ why, outcomes j = .error why) ∧
        ∃ why delays, delays.length = allowedRetries settings.retry ∧
          client settings outcomes draws .unset =
            ⟨spaced delays, .err (.create why), .unset⟩ := by
  rcases firstSuccess_or_fails outcomes (allowedRetries settings.retry) with
    ⟨i, hallowed, cli, hfirst⟩ | hfails
  · obtain ⟨delays, hlength, hloop⟩ :=
      @retryLoop_of_firstSuccess _ _ _ _ draws .unset _ _ hallowed hfirst
    refine Or.inl ⟨i, hallowed, cli, delays, hfirst, hlength, hloop.trans ?_⟩
    simp [Call.after, connected]
  · obtain ⟨why, hlast⟩ := hfails _ le_rfl
    obtain ⟨delays, hlength, hloop⟩ :=
      @retryLoop_of_fails _ _ _ _ draws .unset _ hfails hlast
    refine Or.inr ⟨hfails, why, delays, hlength, hloop.trans ?_⟩
    simp [Call.after, giveUp]

/-- The clients that `watch` may get: the one of the first call, or its own if that has
failed. -/
def Reaches (world : World C E) (kube : KubeSettings) (cli : C) : Prop :=
  (∃ i ≤ allowedRetries kube.retry, FirstSuccess world.versionOutcomes i cli) ∨
    (∀ j ≤ allowedRetries kube.retry, ∃ why, world.versionOutcomes j = .error why) ∧
      ∃ i ≤ allowedRetries kube.retry, FirstSuccess world.watchOutcomes i cli

variable {world : World C E} {kube : KubeSettings}

/-- **A connection is made once**: if the first call makes one, the second one only takes it
out of the pool. -/
theorem calls_of_firstSuccess {i : ℕ} {cli : C} (hallowed : i ≤ allowedRetries kube.retry)
    (hfirst : FirstSuccess world.versionOutcomes i cli) :
    (∃ delays, delays.length = i ∧
        versionCall world kube = ⟨spaced delays, .ok cli, .cell (some cli)⟩) ∧
      watchCall world kube = ⟨[], .ok cli, .cell (some cli)⟩ := by
  rcases client_unset_cases kube world.versionOutcomes world.versionDraws with
    ⟨j, -, cli', delays, hfirst', hlength, hcall⟩ | ⟨hfails, -⟩
  · obtain ⟨rfl, rfl⟩ := hfirst.unique hfirst'
    refine ⟨⟨delays, hlength, hcall⟩, ?_⟩
    rw [watchCall, versionCall, hcall]
    rfl
  · exact absurd (hfails i hallowed) hfirst.not_fails

/-- If the first call fails, the second one starts from the beginning. -/
theorem calls_of_fails
    (hfails : ∀ j ≤ allowedRetries kube.retry, ∃ why, world.versionOutcomes j = .error why) :
    (∃ why delays, delays.length = allowedRetries kube.retry ∧
        versionCall world kube = ⟨spaced delays, .err (.create why), .unset⟩) ∧
      watchCall world kube = client kube world.watchOutcomes world.watchDraws .unset := by
  rcases client_unset_cases kube world.versionOutcomes world.versionDraws with
    ⟨j, hallowed, cli, _, hfirst, -⟩ | ⟨-, why, delays, hlength, hcall⟩
  · exact absurd (hfails j hallowed) hfirst.not_fails
  · refine ⟨⟨why, delays, hlength, hcall⟩, ?_⟩
    rw [watchCall, versionCall, hcall]

/-- The call in `watch` ends with the client that it reaches, or with an error if there is
none. -/
theorem watchCall_cases (world : World C E) (kube : KubeSettings) :
    (∃ cli, (∀ other, Reaches world kube other ↔ other = cli) ∧
        (watchCall world kube).ending = .ok cli) ∨
      (∀ cli, ¬ Reaches world kube cli) ∧
        ∃ why, (watchCall world kube).ending = .err (.create why) := by
  rcases firstSuccess_or_fails world.versionOutcomes (allowedRetries kube.retry) with
    ⟨i, hallowed, cli, hfirst⟩ | hfails
  · refine Or.inl ⟨cli, fun other => ⟨?_, ?_⟩,
      by rw [(calls_of_firstSuccess hallowed hfirst).2]⟩
    · rintro (⟨j, -, hother⟩ | ⟨hfails, -⟩)
      · exact (hother.unique hfirst).2
      · exact absurd (hfails i hallowed) hfirst.not_fails
    · rintro rfl
      exact Or.inl ⟨i, hallowed, hfirst⟩
  · have hreaches : ∀ cli, Reaches world kube cli ↔
        ∃ i ≤ allowedRetries kube.retry, FirstSuccess world.watchOutcomes i cli := by
      refine fun cli => ⟨?_, fun h => Or.inr ⟨hfails, h⟩⟩
      rintro (⟨i, hallowed, hfirst⟩ | ⟨-, h⟩)
      · exact absurd (hfails i hallowed) hfirst.not_fails
      · exact h
    rw [(calls_of_fails hfails).2]
    rcases client_unset_cases kube world.watchOutcomes world.watchDraws with
      ⟨i, hallowed, cli, delays, hfirst, -, hcall⟩ | ⟨hnone, why, delays, -, hcall⟩
    · refine Or.inl ⟨cli, fun other => ?_, by rw [hcall]⟩
      rw [hreaches]
      constructor
      · rintro ⟨j, -, hother⟩
        exact (hother.unique hfirst).2
      · rintro rfl
        exact ⟨i, hallowed, hfirst⟩
    · refine Or.inr ⟨fun cli hcli => ?_, why, by rw [hcall]⟩
      obtain ⟨i, hallowed, hfirst⟩ := (hreaches cli).mp hcli
      exact hfirst.not_fails (hnone i hallowed)

/-- `get_k8s_version` does not panic. -/
theorem exists_getK8sVersion (world : World C E) (kube : KubeSettings) :
    ∃ version, getK8sVersion (versionCall world kube) world.version = .ok version := by
  rcases client_unset_cases kube world.versionOutcomes world.versionDraws with
    ⟨_, _, _, _, _, _, hcall⟩ | ⟨_, _, _, _, hcall⟩ <;>
    exact ⟨_, by rw [versionCall, hcall]; rfl⟩

/-- A version comes from a client that `watch` gets as well. -/
theorem version_of_reached {version : Except (VersionError E) ServerVersion}
    (hversion : getK8sVersion (versionCall world kube) world.version = .ok version) :
    k8sVersionText version = "n/a" ∨ ∃ cli resp sv, Reaches world kube cli ∧
      world.version cli = .ok resp ∧ ServerVersion.deserialize resp = .ok sv ∧
      k8sVersionText version = sv.major ++ "." ++ sv.minor := by
  cases version with
  | error why => exact Or.inl rfl
  | ok sv =>
      rcases client_unset_cases kube world.versionOutcomes world.versionDraws with
        ⟨i, hallowed, cli, delays, hfirst, -, hcall⟩ | ⟨-, why, delays, -, hcall⟩
      · rw [versionCall, hcall, getK8sVersion] at hversion
        obtain ⟨resp, hresp, hread⟩ := bind_eq_ok_iff.mp (Except.ok.inj hversion)
        exact Or.inr ⟨cli, resp, sv, Or.inl ⟨i, hallowed, hfirst⟩,
          mapError_eq_ok_iff.mp hresp,
          mapError_eq_ok_iff.mp hread, rfl⟩
      · rw [versionCall, hcall] at hversion
        exact absurd (Except.ok.inj hversion) (by simp)

/-! ## How long it takes to connect -/

/-- What the program does to connect before it serves. -/
def startupEvents (world : World C E) (kube : KubeSettings) : List AxKube.Client.Event :=
  (versionCall world kube).events ++ (watchCall world kube).events

/-- **The attempts before the program serves.** -/
structure ConnectsOnce (world : World C E) (kube : KubeSettings) : Prop where
  /-- The first call connects, and the second one makes no attempt. -/
  connected : ∀ i ≤ allowedRetries kube.retry, ∀ cli,
    FirstSuccess world.versionOutcomes i cli →
      attempts (startupEvents world kube) = i + 1 ∧
        attempts (watchCall world kube).events = 0
  /-- The first call fails, and the second one connects. -/
  retried : (∀ j ≤ allowedRetries kube.retry, ∃ why, world.versionOutcomes j = .error why) →
    ∀ i ≤ allowedRetries kube.retry, ∀ cli, FirstSuccess world.watchOutcomes i cli →
      attempts (startupEvents world kube) = allowedRetries kube.retry + 1 + (i + 1)
  /-- Both fail. -/
  exhausted : (∀ j ≤ allowedRetries kube.retry, ∃ why, world.versionOutcomes j = .error why) →
    (∀ j ≤ allowedRetries kube.retry, ∃ why, world.watchOutcomes j = .error why) →
      attempts (startupEvents world kube) = 2 * (allowedRetries kube.retry + 1)
  /-- In any case the program sleeps no longer than for all the retries of both. -/
  slept : 4 * timeSlept (startupEvents world kube) ≤
    5 * (2 * (allowedRetries kube.retry * kube.retry.maxDelayMs.toNat))

theorem attempts_startupEvents (world : World C E) (kube : KubeSettings) :
    attempts (startupEvents world kube) =
      attempts (versionCall world kube).events + attempts (watchCall world kube).events :=
  List.count_append

/-- **Until the program serves** it makes one round of attempts to connect, or two if the
first one fails. -/
theorem startup_calls (world : World C E) (kube : KubeSettings) :
    ConnectsOnce world kube where
  connected i hallowed cli hfirst := by
    obtain ⟨⟨delays, hlength, hversion⟩, hwatch⟩ := calls_of_firstSuccess hallowed hfirst
    have hnone : attempts (watchCall world kube).events = 0 := by
      rw [hwatch]
      rfl
    refine ⟨?_, hnone⟩
    rw [attempts_startupEvents, hnone, hversion, attempts_spaced, hlength]
  retried hfails i hallowed cli hfirst := by
    obtain ⟨⟨why, delays, hlength, hversion⟩, hwatch⟩ := calls_of_fails hfails
    rw [attempts_startupEvents, hversion, hwatch, attempts_spaced, hlength]
    rcases client_unset_cases kube world.watchOutcomes world.watchDraws with
      ⟨j, -, cli', delays', hfirst', hlength', hcall⟩ | ⟨hnone, -⟩
    · rw [hcall, attempts_spaced, hlength', (hfirst.unique hfirst').1]
    · exact absurd (hnone i hallowed) hfirst.not_fails
  exhausted hfails hnone := by
    obtain ⟨⟨why, delays, hlength, hversion⟩, hwatch⟩ := calls_of_fails hfails
    rw [attempts_startupEvents, hversion, hwatch, attempts_spaced, hlength]
    rcases client_unset_cases kube world.watchOutcomes world.watchDraws with
      ⟨j, hallowed, cli, delays', hfirst, -⟩ | ⟨-, why', delays', hlength', hcall⟩
    · exact absurd (hnone j hallowed) hfirst.not_fails
    · rw [hcall, attempts_spaced, hlength']
      omega
  slept := by
    have hversion : 4 * timeSlept (versionCall world kube).events ≤ _ :=
      timeSlept_le kube world.versionOutcomes world.versionDraws .unset
    have hwatch : 4 * timeSlept (watchCall world kube).events ≤ _ :=
      timeSlept_le kube world.watchOutcomes world.watchDraws _
    rw [startupEvents, timeSlept_append]
    omega

/-! ## The watches -/

/-- `time::interval`. -/
def interval (period : UInt64) : Except Panic Unit :=
  if period = 0 then .error .zeroInterval else .ok ()

/-- What `process_k8s_resources` does before it starts its tasks. -/
def processK8sResources (cache : Cache) : Except Panic Unit := do
  interval cache.pollInterval
  interval cache.purgeCacheInterval

/-- What `main` does with the result of `watch`. -/
def ingest (cache : Cache) :
    Except (WatchError E) (List ApiWithSelectors) → Except Panic Unit
  | .ok _ => processK8sResources cache
  | .error _ => .ok ()

/-- The timers of valid settings have intervals. -/
theorem ingest_of_valid [UrlParser] {config : LoadedSettings} (hvalid : config.Valid)
    (watched : Except (WatchError E) (List ApiWithSelectors)) :
    ingest config.cache watched = .ok () := by
  obtain ⟨-, hpoll, hpurge⟩ := hvalid.cache
  cases watched with
  | ok plan => simp [ingest, processK8sResources, interval, hpoll, hpurge, bind, Except.bind]
  | error why => rfl

section Watch

variable [UnicodeTables] [GroupVersionParser] [VersionPriority]

/-- `watch`, up to the start of its tasks, by how its call of `client` went. -/
def watch (call : Call C E C) (api : C → DiscoveryApi) (order : IterOrder)
    (resources : List Configuration.Resource) :
    Except Panic (Except (WatchError E) (List ApiWithSelectors)) :=
  match call.ending with
  | .panicked fault => .error (.client fault)
  | .err why => .ok (.error (.client why))
  | .ok cli =>
      match discover (api cli) with
      | .ok discovery => .ok (.ok (watchPlan order discovery resources))
      | .error (.request why) => .ok (.error (.discovery why))
      | .error why => .error (.discovery why)

/-- `watch` panics exactly if discovery does. -/
theorem exists_watch_iff (world : World C E) (kube : KubeSettings) :
    (∃ watched, watch (watchCall world kube) world.api world.order kube.resources =
        .ok watched) ↔
      ∀ cli, Reaches world kube cli →
        FailsOnlyWith DiscoveryFailure.IsRequest (discover (world.api cli)) := by
  rcases watchCall_cases world kube with ⟨cli, hreaches, hending⟩ | ⟨hnone, why, hending⟩
  · simp only [hreaches, forall_eq, watch, hending]
    cases hdiscover : discover (world.api cli) with
    | ok discovery => exact ⟨fun _ => FailsOnlyWith.ok discovery, fun _ => ⟨_, rfl⟩⟩
    | error failure =>
        have hfails : FailsOnlyWith DiscoveryFailure.IsRequest
            (.error failure : Except DiscoveryFailure Discovery) ↔ failure.IsRequest :=
          ⟨fun h => h failure rfl, fun h why hwhy => Except.error.inj hwhy ▸ h⟩
        rw [hfails]
        cases failure <;> simp [DiscoveryFailure.IsRequest]
  · rw [watch, hending]
    exact ⟨fun _ cli hcli => absurd hcli (hnone cli), fun _ => ⟨_, rfl⟩⟩

/-- With a client, what is watched is planned for what the client discovers. -/
theorem plan_of_watch {call : Call C E C} {cli : C} (hending : call.ending = .ok cli)
    {api : C → DiscoveryApi} {order : IterOrder} {resources : List Configuration.Resource}
    {watched : Except (WatchError E) (List ApiWithSelectors)}
    (hwatched : watch call api order resources = .ok watched) :
    watched.toOption = (discover (api cli)).toOption.map fun discovery =>
      watchPlan order discovery resources := by
  simp only [watch, hending] at hwatched
  cases hdiscover : discover (api cli) with
  | ok discovery =>
      rw [hdiscover] at hwatched
      obtain rfl := Except.ok.inj hwatched
      rfl
  | error failure =>
      rw [hdiscover] at hwatched
      cases failure with
      | request why =>
          obtain rfl := Except.ok.inj hwatched
          rfl
      | unreadable why => exact absurd hwatched (by simp)
      | emptyGroupVersion => exact absurd hwatched (by simp)
      | emptyApiGroup => exact absurd hwatched (by simp)

/-- What is watched is planned for the cluster that is reached, and without one there is no
plan. -/
theorem plan_cases {watched : Except (WatchError E) (List ApiWithSelectors)}
    (hwatched : watch (watchCall world kube) world.api world.order kube.resources =
      .ok watched) :
    (∃ cli, (∀ other, Reaches world kube other ↔ other = cli) ∧
        watched.toOption = (discover (world.api cli)).toOption.map fun discovery =>
          watchPlan world.order discovery kube.resources) ∨
      (∀ cli, ¬ Reaches world kube cli) ∧ watched.toOption = none := by
  rcases watchCall_cases world kube with ⟨cli, hreaches, hending⟩ | ⟨hnone, why, hending⟩
  · exact Or.inl ⟨cli, hreaches, plan_of_watch hending hwatched⟩
  · rw [watch, hending] at hwatched
    obtain rfl := Except.ok.inj hwatched
    exact Or.inr ⟨hnone, rfl⟩

end Watch

/-! ## `main` -/

/-- The program when it serves. -/
structure Served where
  config : LoadedSettings
  k8sVersion : String
  /-- The watches, if `watch` has returned them. -/
  plan : Option (List ApiWithSelectors)

/-- How the start of the program ends. -/
inductive End where
  /-- `TcpListener::bind` fails, and with it `main`. -/
  | notBound (why : String)
  /-- `run` returns a `BindError`, which is logged. -/
  | notListening (why : String)
  | serving (served : Served)

/-- The address of the server. -/
def address (server : ServerSettings) : String :=
  server.host ++ ":" ++ toString server.port.toNat

/-- The end of `main`. -/
def serve (world : World C E) (served : Served) : End :=
  match world.bind (address served.config.server) with
  | .error why => .notBound why
  | .ok () =>
      match world.listen (address served.config.server) with
      | .error why => .notListening why
      | .ok () => .serving served

/-- The address of the program can be used. -/
structure Available (world : World C E) (server : ServerSettings) : Prop where
  bound : world.bind (address server) = .ok ()
  listening : world.listen (address server) = .ok ()

theorem serve_eq_serving_iff {served served' : Served} :
    serve world served = .serving served' ↔
      Available world served.config.server ∧ served = served' := by
  unfold serve
  constructor
  · intro hserve
    split at hserve
    next => exact absurd hserve (by simp)
    next hbound =>
      split at hserve
      next => exact absurd hserve (by simp)
      next hlistening => exact ⟨⟨hbound, hlistening⟩, End.serving.inj hserve⟩
  · rintro ⟨havailable, rfl⟩
    simp [havailable.bound, havailable.listening]

section Main

variable [UnicodeTables] [GroupVersionParser] [VersionPriority] [UrlParser]

/-- `main`. -/
def main (world : World C E) : Except Panic End := do
  let config ← (getConfiguration world.sources).mapError .configuration
  let version ← getK8sVersion (versionCall world config.kube) world.version
  let watched ←
    watch (watchCall world config.kube) world.api world.order config.kube.resources
  ingest config.cache watched
  return serve world ⟨config, k8sVersionText version, watched.toOption⟩

/-- **With its settings loaded**, only `watch` can make the program panic. -/
theorem main_of_loaded {config : LoadedSettings}
    (hloaded : getConfiguration world.sources = .ok config) :
    ∃ version, getK8sVersion (versionCall world config.kube) world.version = .ok version ∧
      ∀ ending, main world = .ok ending ↔ ∃ watched,
        watch (watchCall world config.kube) world.api world.order config.kube.resources =
            .ok watched ∧
          serve world ⟨config, k8sVersionText version, watched.toOption⟩ = ending := by
  obtain ⟨version, hversion⟩ := exists_getK8sVersion world config.kube
  refine ⟨version, hversion, fun ending => ?_⟩
  have hingest := ingest_of_valid (E := E) (valid_of_getConfiguration hloaded)
  simp only [main, bind_eq_ok_iff, mapError_eq_ok_iff]
  constructor
  · rintro ⟨config', hconfig, version', hversion', watched, hwatched, _, _, hserve⟩
    obtain rfl := Except.ok.inj (hloaded.symm.trans hconfig)
    obtain rfl := Except.ok.inj (hversion.symm.trans hversion')
    exact ⟨watched, hwatched, Except.ok.inj hserve⟩
  · rintro ⟨watched, hwatched, rfl⟩
    exact ⟨config, hloaded, version, hversion, watched, hwatched, (), hingest watched, rfl⟩

/-- What a program that serves has been through. -/
theorem main_eq_serving_iff {served : Served} :
    main world = .ok (.serving served) ↔ ∃ config version watched,
      getConfiguration world.sources = .ok config ∧
        getK8sVersion (versionCall world config.kube) world.version = .ok version ∧
        watch (watchCall world config.kube) world.api world.order config.kube.resources =
          .ok watched ∧
        Available world config.server ∧
        served = ⟨config, k8sVersionText version, watched.toOption⟩ := by
  constructor
  · intro hmain
    obtain ⟨config, hloaded, -⟩ := bind_eq_ok_iff.mp hmain
    rw [mapError_eq_ok_iff] at hloaded
    obtain ⟨version, hversion, hending⟩ := main_of_loaded hloaded
    obtain ⟨watched, hwatched, hserve⟩ := (hending _).mp hmain
    obtain ⟨havailable, rfl⟩ := serve_eq_serving_iff.mp hserve
    exact ⟨config, version, watched, hloaded, hversion, hwatched, havailable, rfl⟩
  · rintro ⟨config, version, watched, hloaded, hversion, hwatched, havailable, rfl⟩
    obtain ⟨version', hversion', hending⟩ := main_of_loaded hloaded
    obtain rfl := Except.ok.inj (hversion.symm.trans hversion')
    exact (hending _).mpr ⟨watched, hwatched, serve_eq_serving_iff.mpr ⟨havailable, rfl⟩⟩

/-- If the settings load and the address can be used, only discovery can panic. -/
theorem serves_of_loaded {config : LoadedSettings}
    (hloaded : getConfiguration world.sources = .ok config)
    (havailable : Available world config.server)
    (hdiscover : ∀ cli, Reaches world config.kube cli →
      FailsOnlyWith DiscoveryFailure.IsRequest (discover (world.api cli))) :
    ∃ served, main world = .ok (.serving served) := by
  obtain ⟨version, hversion⟩ := exists_getK8sVersion world config.kube
  obtain ⟨watched, hwatched⟩ := (exists_watch_iff world config.kube).mpr hdiscover
  exact ⟨_, main_eq_serving_iff.mpr
    ⟨config, version, watched, hloaded, hversion, hwatched, havailable, rfl⟩⟩

/-- **When the program serves.**  Exactly if its settings load, its address can be used, and
discovery does not panic on what the cluster that it reaches answers.  Nothing else can keep
it from serving: not a cluster that cannot be reached, nor a request that fails. -/
theorem serves_iff (world : World C E) :
    (∃ served, main world = .ok (.serving served)) ↔
      ∃ config, getConfiguration world.sources = .ok config ∧ Available world config.server ∧
        ∀ cli, Reaches world config.kube cli →
          FailsOnlyWith DiscoveryFailure.IsRequest (discover (world.api cli)) := by
  constructor
  · rintro ⟨served, hserved⟩
    obtain ⟨config, version, watched, hloaded, -, hwatched, havailable, -⟩ :=
      main_eq_serving_iff.mp hserved
    exact ⟨config, hloaded, havailable,
      (exists_watch_iff world config.kube).mp ⟨watched, hwatched⟩⟩
  · rintro ⟨config, hloaded, havailable, hdiscover⟩
    exact serves_of_loaded hloaded havailable hdiscover

/-- Answers that are sound cannot keep the program from serving. -/
theorem serves_of_sound {config : LoadedSettings}
    (hloaded : getConfiguration world.sources = .ok config)
    (havailable : Available world config.server)
    (hsound : ∀ cli, AnswersSoundly (world.api cli)) :
    ∃ served, main world = .ok (.serving served) :=
  serves_of_loaded hloaded havailable fun cli _ => failsOnlyWith_discover (hsound cli)

/-! ## What it serves with -/

/-- The program knows of a cluster what it answers: the version, unless there was no
connection or no version to be had, and the watches that are planned for what is discovered,
if it is. -/
structure OfCluster (world : World C E) (served : Served) (cli : C) : Prop where
  version : served.k8sVersion = "n/a" ∨ ∃ resp sv, world.version cli = .ok resp ∧
    ServerVersion.deserialize resp = .ok sv ∧ served.k8sVersion = sv.major ++ "." ++ sv.minor
  plan : served.plan = (discover (world.api cli)).toOption.map fun discovery =>
    watchPlan world.order discovery served.config.kube.resources

/-- **One cluster.**  A program that serves has reached one cluster at most.  If it has, its
version and its watches are both of that cluster; if not, it has no version and watches
nothing. -/
theorem served_from_one_cluster {served : Served}
    (hserved : main world = .ok (.serving served)) :
    (∃ cli, (∀ other, Reaches world served.config.kube other ↔ other = cli) ∧
        OfCluster world served cli) ∨
      (∀ cli, ¬ Reaches world served.config.kube cli) ∧
        served.k8sVersion = "n/a" ∧ served.plan = none := by
  obtain ⟨config, version, watched, -, hversion, hwatched, -, rfl⟩ :=
    main_eq_serving_iff.mp hserved
  rcases plan_cases hwatched with ⟨cli, hreaches, hplan⟩ | ⟨hnone, hplan⟩
  · refine Or.inl ⟨cli, hreaches, ?_, hplan⟩
    refine (version_of_reached hversion).imp_right ?_
    rintro ⟨other, resp, sv, hother, h⟩
    obtain rfl := (hreaches other).mp hother
    exact ⟨resp, sv, h⟩
  · refine Or.inr ⟨hnone, (version_of_reached hversion).resolve_right ?_, hplan⟩
    rintro ⟨cli, _, _, hcli, -⟩
    exact hnone cli hcli

end Main

end Program

/-! ## A cluster that is reached at the second attempt -/

/-- A parser that takes every text for a URL. -/
@[reducible] def UrlParser.lenient : UrlParser where
  parseError _ := none

/-- An entry for Deployments. -/
def deploymentEntry : Configuration.Resource where
  name := "Deployment"
  namespaces := []
  apiGroups := some ["apps"]
  labelSelectors := []
  fieldSelectors := []
  eventType := "deployments"

/-- Settings with this entry. -/
def watchesDeployments : LoadedSettings where
  toSettings :=
    { Settings.bare with
      backstage :=
        { Settings.bare.backstage with
          users := [⟨"backstage.io/v1alpha1", "User", .empty, ⟨none, []⟩⟩] }
      kube := { Settings.bare.kube with resources := [deploymentEntry] } }
  server := ⟨8080, "0.0.0.0", 30, ⟨10, 20, true⟩, ⟨["*"], false, true⟩⟩
  nats := ⟨"nats://localhost:4222"⟩

/-- The watch for it. -/
def deploymentWatch : ApiWithSelectors :=
  .selecting deploymentEntry (Api.allWith (deployment "v1").1.toKubeAr)

/-- The first attempt to connect fails, and everything else succeeds. -/
def reachedWorld : World ℕ String where
  sources :=
    { currentDir := .ok "/app", appEnvironment := none, fileExists := fun _ => true
      build := fun _ => .ok (), deserialize := fun _ => .ok watchesDeployments }
  versionOutcomes := reachedLate
  versionDraws _ := 0
  watchOutcomes := reachedLate
  watchDraws _ := 0
  version _ := .ok (.object
    [("major", .string "1"), ("minor", .string "31"), ("platform", .string "linux/amd64")])
  api _ := appsApi
  order := .sorted
  bind _ := .ok ()
  listen _ := .ok ()

/-- How the program serves there. -/
def reachedServed : Served := ⟨watchesDeployments, "1.31", some [deploymentWatch]⟩

theorem valid_watchesDeployments :
    letI := UrlParser.lenient
    watchesDeployments.Valid := by
  let _ := UrlParser.lenient
  refine ⟨?_, ?_, ?_, ?_, ?_, ⟨by decide, rfl⟩, ?_, ?_⟩ <;>
    simp [watchesDeployments, Settings.bare, deploymentEntry]

theorem firstSuccess_reachedWorld : FirstSuccess reachedWorld.versionOutcomes 1 1 where
  success := rfl
  first _ hj := ⟨"refused", if_pos (Nat.lt_one_iff.mp hj)⟩

theorem main_reachedWorld :
    letI := UnicodeTables.asciiOnly
    letI := GroupVersionParser.slashed
    letI := VersionPriority.shorter
    letI := UrlParser.lenient
    main reachedWorld = .ok (.serving reachedServed) := by
  let _ := UnicodeTables.asciiOnly
  let _ := GroupVersionParser.slashed
  let _ := VersionPriority.shorter
  let _ := UrlParser.lenient
  have hvalid : watchesDeployments.validate = .ok () :=
    watchesDeployments.validate_eq_ok_iff.mpr valid_watchesDeployments
  have hloaded : getConfiguration reachedWorld.sources = .ok watchesDeployments := by
    simp only [getConfiguration, bind_eq_ok_iff, mapError_eq_ok_iff]
    exact ⟨"/app", rfl, .localhost, rfl, (), rfl, (), rfl, watchesDeployments, rfl, (),
      hvalid,
      rfl⟩
  have hplan : watchPlan .sorted appsDiscovery [deploymentEntry] = [deploymentWatch] := by
    decide
  have hallowed : 1 ≤ allowedRetries watchesDeployments.kube.retry := by decide
  obtain ⟨⟨delays, -, hversion⟩, hwatch⟩ :=
    calls_of_firstSuccess hallowed firstSuccess_reachedWorld
  refine main_eq_serving_iff.mpr ⟨watchesDeployments, .ok ⟨"1", "31", "linux/amd64"⟩,
    .ok [deploymentWatch], hloaded, ?_, ?_, ⟨rfl, rfl⟩, rfl⟩
  · rw [hversion]
    rfl
  · rw [hwatch]
    simp only [watch, reachedWorld, discover_appsApi]
    rw [show watchesDeployments.kube.resources = [deploymentEntry] from rfl, hplan]

theorem served_from_one_cluster_reachedWorld :
    letI := UnicodeTables.asciiOnly
    letI := GroupVersionParser.slashed
    letI := VersionPriority.shorter
    (∃ cli, (∀ other, Reaches reachedWorld watchesDeployments.kube other ↔ other = cli) ∧
        OfCluster reachedWorld reachedServed cli) ∨
      (∀ cli, ¬ Reaches reachedWorld watchesDeployments.kube cli) ∧
        reachedServed.k8sVersion = "n/a" ∧ reachedServed.plan = none := by
  let _ := UnicodeTables.asciiOnly
  let _ := GroupVersionParser.slashed
  let _ := VersionPriority.shorter
  let _ := UrlParser.lenient
  exact served_from_one_cluster main_reachedWorld

end EntityProvider.Program
