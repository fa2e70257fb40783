import EntityProvider.Routes.Entities

/-!
# The application `run` starts

`startup.rs`: the shared application state, the routes, and what is registered for
the handlers to ask for.

A handler argument `web::Data<T>` is looked up by its type `T` when a request comes
in: first among the values registered for the handler's scope, then among those
registered for the application.  If there is none, the request is answered with
status 500 and the handler does not run.  `DataType` lists the types that occur as
`T`; `Extensions` is what one `app_data` container registers.

`run` registers one value, the `ApplicationState`.  The handlers of the API ask for
its parts instead (`call_eq_notConfigured_iff`, `get_appOf_eq_none`), so none of
them ever runs: `not_servedOnSharedState`.  `call_of_provides` shows that
registering the parts is all it takes.
-/

namespace EntityProvider.Startup

open Kube Entities Library Routes
open EntityProvider.Configuration (Settings)

/-! ## Application state -/

/-- `Db`, by the mutex it points to. -/
structure Db where
  address : ℕ
  deriving DecidableEq

/-- What the mutexes hold when a request is handled. -/
abbrev Memory := Db → CacheMap

/-- `ApplicationState`. -/
structure ApplicationState where
  config : Settings
  cache : Db
  groups : List Group
  users : List User
  domains : Option (List Domain)

/-- `ApplicationState::new`. -/
def ApplicationState.new (config : Settings) (cache : Db) : ApplicationState where
  config := config
  cache := cache
  groups := groupsFromConfig config.backstage
  users := usersFromConfig config.backstage
  domains := some (domainsFromConfig config.backstage)

/-! ## Registered data -/

/-- The types `T` of the `web::Data<T>` that are registered or asked for. -/
inductive DataType where
  | applicationState
  | settings
  | groups
  | users
  | domains
  | db
  deriving DecidableEq, Repr

/-- The values of these types. -/
def DataType.Value : DataType → Type
  | .applicationState => ApplicationState
  | .settings => Settings
  | .groups => List Group
  | .users => List User
  | .domains => List Domain
  | .db => Db

/-- The values registered with one `app_data` container, newest first. -/
abbrev Extensions := List ((T : DataType) × T.Value)

/-- The registered value of a type, if there is one. -/
def Extensions.get (T : DataType) : Extensions → Option T.Value
  | [] => none
  | ⟨T', value⟩ :: rest => if h : T' = T then some (h ▸ value) else get T rest

theorem Extensions.get_cons_of_ne {T T' : DataType} (h : T' ≠ T) (value : T'.Value)
    (rest : Extensions) : Extensions.get T (⟨T', value⟩ :: rest) = rest.get T := by
  simp [Extensions.get, h]

/-! ## Routes -/

/-- The methods of HTTP. -/
inductive Method where
  | get
  | head
  | post
  | put
  | delete
  | connect
  | options
  | trace
  | patch
  deriving DecidableEq, Repr

/-- What a route is chosen by. -/
structure Request where
  method : Method
  path : String
  deriving DecidableEq, Repr

/-- The handlers that are routed to. -/
inductive Handler where
  | index
  | version
  | entities
  | redisStatus
  | healthCheck
  deriving DecidableEq, Repr

/-- The services of the application.  Those of the scope `/api/v1` take any
method. -/
def route (r : Request) : Option Handler :=
  if r.method = .get ∧ r.path = "/" then some .index
  else if r.method = .get ∧ r.path = "/version" then some .version
  else if r.path = "/api/v1/entities" then some .entities
  else if r.path = "/api/v1/redis/status" then some .redisStatus
  else if r.method = .get ∧ r.path = "/healthz" then some .healthCheck
  else none

/-- Is the handler registered in the scope `/api/v1`? -/
def Handler.inScope : Handler → Bool
  | .entities | .redisStatus => true
  | .index | .version | .healthCheck => false

/-- The types of data a handler asks for, in the order of its arguments. -/
def Handler.arguments : Handler → List DataType
  | .index => [.applicationState]
  | .version => [.settings]
  | .entities => [.settings, .groups, .users, .domains, .db]
  | .redisStatus => [.db]
  | .healthCheck => []

/-- The data registered with an application and with its scope `/api/v1`. -/
structure App where
  data : Extensions
  scopeData : Extensions

/-- What a handler gets for an argument `web::Data<T>`. -/
def App.get (app : App) (h : Handler) (T : DataType) : Option T.Value :=
  if h.inScope then (app.scopeData.get T).or (app.data.get T) else app.data.get T

/-- The application `run` builds. -/
def appOf (conf : Settings) (cache : Db) : App where
  data := [⟨.applicationState, ApplicationState.new conf cache⟩]
  scopeData := [⟨.applicationState, ApplicationState.new conf cache⟩]

/-! ## Responses -/

/-- `HCVersion`. -/
structure HCVersion where
  app : String
  major : ℕ
  minor : ℕ
  patch : ℕ
  pre : String
  deriving DecidableEq, Repr

/-- `get_version`, for the package version `0.2.0`. -/
def getVersion (appName : String) : HCVersion where
  app := appName
  major := 0
  minor := 2
  patch := 0
  pre := ""

/-- The body of a successful response. -/
inductive Body where
  | text (s : String)
  | version (v : HCVersion)
  | entities (l : List Entity)
  | redisStatus (rows : List RedisStatus)
  | empty

/-- How a request is answered. -/
inductive Answer where
  /-- Status 200. -/
  | ok (body : Body)
  /-- The handler panicked; the connection is dropped. -/
  | panicked (why : Panic)
  /-- Status 500, `Requested application data is not configured correctly`: the
  handler did not run. -/
  | notConfigured
  /-- Status 404. -/
  | notFound

/-- The answer of a handler that ran. -/
def Answer.ofChecked {α : Type} (body : α → Body) : Checked α → Answer
  | .ok a => .ok (body a)
  | .error why => .panicked why

section Requests

variable [UnicodeTables]

/-- Call a handler with what is registered for its arguments. -/
def App.call (app : App) (order : IterOrder) (memory : Memory) (h : Handler) : Answer :=
  let answer : Option Answer :=
    match h with
    | .index => do
        let data ← app.get h .applicationState
        some (.ok (.text ("Welcome to " ++ data.config.display ++ "!")))
    | .version => do
        let data ← app.get h .settings
        some (.ok (.version (getVersion data.display)))
    | .entities => do
        let config ← app.get h .settings
        let groups ← app.get h .groups
        let users ← app.get h .users
        let domains ← app.get h .domains
        let cache ← app.get h .db
        some (.ofChecked .entities
          (getEntities order config groups users domains (memory cache)))
    | .redisStatus => do
        let cache ← app.get h .db
        some (.ofChecked .redisStatus (redisStatus (memory cache)))
    | .healthCheck => some (.ok .empty)
  answer.getD .notConfigured

/-- Answer a request. -/
def App.respond (app : App) (order : IterOrder) (memory : Memory) (r : Request) : Answer :=
  match route r with
  | some h => app.call order memory h
  | none => .notFound

/-- The result of a handler that runs on a given application state. -/
def resultOn (state : ApplicationState) (order : IterOrder) (memory : Memory) :
    Handler → Answer
  | .index => .ok (.text ("Welcome to " ++ state.config.display ++ "!"))
  | .version => .ok (.version (getVersion state.config.display))
  | .entities =>
      .ofChecked .entities
        (getEntities order state.config state.groups state.users (state.domains.getD [])
          (memory state.cache))
  | .redisStatus => .ofChecked .redisStatus (redisStatus (memory state.cache))
  | .healthCheck => .ok .empty

/-- What answering a request does with the cache under its lock, if a handler runs that
locks it. -/
def App.access (app : App) (cache : Db) (order : IterOrder) (r : Request) :
    Option (CacheMap → Checked Unit) :=
  match route r with
  | some .entities => do
      let config ← app.get .entities .settings
      let groups ← app.get .entities .groups
      let users ← app.get .entities .users
      let domains ← app.get .entities .domains
      let (db : Db) ← app.get .entities .db
      if db = cache then
        some fun content =>
          (getEntities order config groups users domains content).map fun _ => ()
      else none
  | some .redisStatus => do
      let (db : Db) ← app.get .redisStatus .db
      if db = cache then some fun content => (redisStatus content).map fun _ => ()
      else none
  | _ => none

/-! ## When a handler runs -/

/-- The value of a type that is part of an application state. -/
def ApplicationState.part (state : ApplicationState) : (T : DataType) → T.Value
  | .applicationState => state
  | .settings => state.config
  | .groups => state.groups
  | .users => state.users
  | .domains => (state.domains.getD [] : List Domain)
  | .db => state.cache

/-- Does an application provide everything a handler asks for, from this state? -/
def App.Provides (app : App) (state : ApplicationState) (h : Handler) : Prop :=
  ∀ T ∈ h.arguments, app.get h T = some (state.part T)

omit [UnicodeTables] in
theorem ofChecked_ne_notConfigured {α : Type} (body : α → Body) (result : Checked α) :
    Answer.ofChecked body result ≠ .notConfigured := by
  cases result <;> simp [Answer.ofChecked]

/-- **A handler does not run** exactly if one of its arguments is not registered. -/
theorem call_eq_notConfigured_iff {app : App} {order : IterOrder} {memory : Memory}
    {h : Handler} :
    app.call order memory h = .notConfigured ↔ ∃ T ∈ h.arguments, app.get h T = none := by
  cases h with
  | index => cases hdata : app.get .index .applicationState <;>
      simp [App.call, Handler.arguments, hdata]
  | version => cases hdata : app.get .version .settings <;>
      simp [App.call, Handler.arguments, hdata]
  | entities =>
      cases hconfig : app.get .entities .settings <;>
        cases hgroups : app.get .entities .groups <;>
        cases husers : app.get .entities .users <;>
        cases hdomains : app.get .entities .domains <;>
        cases hdb : app.get .entities .db <;>
        simp [App.call, Handler.arguments, hconfig, hgroups, husers, hdomains, hdb,
          ofChecked_ne_notConfigured]
  | redisStatus =>
      cases hdb : app.get .redisStatus .db <;>
        simp [App.call, Handler.arguments, hdb, ofChecked_ne_notConfigured]
  | healthCheck => simp [App.call, Handler.arguments]

/-- An application that provides a handler with a state serves its result on that
state. -/
theorem call_of_provides {app : App} {state : ApplicationState} {order : IterOrder}
    {memory : Memory} {h : Handler} (hprovides : app.Provides state h) :
    app.call order memory h = resultOn state order memory h := by
  unfold App.Provides at hprovides
  cases h with
  | index =>
      have hdata := hprovides .applicationState (by simp [Handler.arguments])
      simp only [App.call, hdata]
      rfl
  | version =>
      have hconfig := hprovides .settings (by simp [Handler.arguments])
      simp only [App.call, hconfig]
      rfl
  | entities =>
      have hconfig := hprovides .settings (by simp [Handler.arguments])
      have hgroups := hprovides .groups (by simp [Handler.arguments])
      have husers := hprovides .users (by simp [Handler.arguments])
      have hdomains := hprovides .domains (by simp [Handler.arguments])
      have hcache := hprovides .db (by simp [Handler.arguments])
      simp only [App.call, hconfig, hgroups, husers, hdomains, hcache]
      rfl
  | redisStatus =>
      have hcache := hprovides .db (by simp [Handler.arguments])
      simp only [App.call, hcache]
      rfl
  | healthCheck => rfl

/-! ## The application as it is started -/

omit [UnicodeTables] in
/-- The state is all that is registered. -/
theorem get_appOf_eq_none {conf : Settings} {cache : Db} {h : Handler} {T : DataType}
    (hT : T ≠ .applicationState) : (appOf conf cache).get h T = none := by
  have hdata : (appOf conf cache).data.get T = none :=
    Extensions.get_cons_of_ne hT.symm (ApplicationState.new conf cache) []
  have hscope : (appOf conf cache).scopeData.get T = none :=
    Extensions.get_cons_of_ne hT.symm (ApplicationState.new conf cache) []
  rw [App.get, hdata, hscope, Option.or_none, ite_self]

/-- Is the handler one that asks for a part of the shared state? -/
def Handler.Stateful (h : Handler) : Prop :=
  h = .version ∨ h = .entities ∨ h = .redisStatus

/-- The request is served by its handler, on the state `ApplicationState::new` builds
from the arguments of `run`. -/
def ServedOnSharedState (conf : Settings) (cache : Db) (order : IterOrder)
    (memory : Memory) (r : Request) : Prop :=
  ∃ h, route r = some h ∧
    (appOf conf cache).respond order memory r =
      resultOn (ApplicationState.new conf cache) order memory h

omit [UnicodeTables] in
/-- Each of these handlers asks for something that is not the state itself. -/
theorem Handler.Stateful.exists_argument {h : Handler} (hh : h.Stateful) :
    ∃ T ∈ h.arguments, T ≠ .applicationState := by
  rcases hh with rfl | rfl | rfl
  · exact ⟨.settings, by decide⟩
  · exact ⟨.settings, by decide⟩
  · exact ⟨.db, by decide⟩

theorem resultOn_ne_notConfigured (state : ApplicationState) (order : IterOrder)
    (memory : Memory) (h : Handler) : resultOn state order memory h ≠ .notConfigured := by
  cases h <;> simp [resultOn, ofChecked_ne_notConfigured]

/-- What `run` registers does not reach the handlers of the API. -/
theorem respond_appOf_eq_notConfigured {conf : Settings} {cache : Db} {order : IterOrder}
    {memory : Memory} {r : Request} {h : Handler} (hroute : route r = some h)
    (hstateful : h.Stateful) :
    (appOf conf cache).respond order memory r = .notConfigured := by
  obtain ⟨T, hT, hne⟩ := hstateful.exists_argument
  rw [App.respond, hroute]
  exact call_eq_notConfigured_iff.mpr ⟨T, hT, get_appOf_eq_none hne⟩

/-- No request to it locks the cache. -/
theorem access_appOf (conf : Settings) (cache : Db) (order : IterOrder) (r : Request) :
    (appOf conf cache).access cache order r = none := by
  unfold App.access
  split
  · rw [get_appOf_eq_none (by decide)]
    rfl
  · rw [get_appOf_eq_none (by decide)]
    rfl
  · rfl

/-- **The API is never served.**  Whatever the settings, the cache and the request: a
handler that asks for a part of the shared state is not run, and the answer is not
its result. -/
theorem not_servedOnSharedState {conf : Settings} {cache : Db} {order : IterOrder}
    {memory : Memory} {r : Request} {h : Handler} (hroute : route r = some h)
    (hstateful : h.Stateful) :
    ¬ ServedOnSharedState conf cache order memory r := by
  rintro ⟨h', -, hserved⟩
  rw [respond_appOf_eq_notConfigured hroute hstateful] at hserved
  exact resultOn_ne_notConfigured _ _ _ _ hserved.symm

end Requests

/-- A GET of the entities, with an empty cache, is not served. -/
theorem not_servedOnSharedState_entities :
    ¬ @ServedOnSharedState UnicodeTables.asciiOnly .bare ⟨0⟩ .sorted (fun _ => ∅)
      ⟨.get, "/api/v1/entities"⟩ := by
  rintro ⟨h, hroute, hserved⟩
  have hanswer : @App.respond UnicodeTables.asciiOnly (appOf .bare ⟨0⟩) .sorted (fun _ => ∅)
      ⟨.get, "/api/v1/entities"⟩ = .notConfigured :=
    @respond_appOf_eq_notConfigured UnicodeTables.asciiOnly _ _ _ _ _ _ rfl
      (Or.inr (Or.inl rfl))
  rw [hanswer] at hserved
  exact @resultOn_ne_notConfigured UnicodeTables.asciiOnly _ _ _ _ hserved.symm

/-- Nor is the version. -/
theorem not_servedOnSharedState_version :
    ¬ @ServedOnSharedState UnicodeTables.asciiOnly .bare ⟨0⟩ .sorted (fun _ => ∅)
      ⟨.get, "/version"⟩ :=
  @not_servedOnSharedState UnicodeTables.asciiOnly _ _ _ _ _ _
    (show route ⟨.get, "/version"⟩ = some .version by decide) (Or.inl rfl)

end EntityProvider.Startup
