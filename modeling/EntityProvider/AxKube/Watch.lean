import EntityProvider.Kube.Api

/-!
# Watching the cluster

The events of `ax_kube/watch_event.rs` and the two halves of `ax_kube/watch.rs`:
the loop that turns what three `kube` watchers report into commands for the
ingest task, and `check_objects`, which asks the API server which of the cached
objects are gone.
-/

namespace EntityProvider.AxKube

open Kube Library

/-! ## Commands -/

/-- `WatchCommand`: what the ingest task is asked to do with the cache.  No watch ever sends
`update` or `none`. -/
inductive WatchCommand where
  | add (o : DynamicObject)
  | delete (o : DynamicObject)
  | update (o : DynamicObject)
  | printAll
  | purge
  | none

/-- `WatchEvent`: a command with where it comes from, the message of the channel to the ingest
task. -/
structure WatchEvent where
  k8sVersion : String
  resourceUrl : String
  eventType : String
  command : WatchCommand

/-- `WatchEvent::default()`: the command to print, from nowhere. -/
def WatchEvent.default : WatchEvent where
  k8sVersion := ""
  resourceUrl := ""
  eventType := ""
  command := .printAll

/-- The event the purge timer sends: the default one with another command. -/
def WatchEvent.purgeTick : WatchEvent :=
  { WatchEvent.default with command := .purge }

/-! ## The watch loop -/

/-- `kube::runtime::watcher::Event`: a change of one object, or a step of listing all of them
again. -/
inductive Event where
  | apply (o : DynamicObject)
  | delete (o : DynamicObject)
  | init
  | initApply (o : DynamicObject)
  | initDone

/-- `SelectedEvents`: an event, tagged with the stream that reported it. -/
inductive SelectedEvents where
  | applied (e : Event)
  | deleted (e : Event)
  | restarted (e : Event)

/-- An error of a watcher stream, which the loop logs and passes over. -/
structure WatcherError where
  message : String

/-- One item of the merged stream of the three watchers of a watch. -/
abbrev StreamItem := Except WatcherError SelectedEvents

/-- The classification in the loop of `watch`.  Each kind of event counts on one
of the three streams only; everything else, and every error, is skipped. -/
def commandsOf : StreamItem → List WatchCommand
  | .ok (.applied (.apply o)) => [.add o]
  | .ok (.deleted (.delete o)) => [.delete o]
  | .ok (.restarted (.initApply o)) => [.add o]
  | .ok _ => []
  | .error _ => []

/-- The events one watch sends to the ingest task for what its merged stream
yields. -/
def watchLoop (k8sVer resourceUrl eventType : String) (items : List StreamItem) :
    List WatchEvent :=
  items.flatMap fun item =>
    (commandsOf item).map fun cmd =>
      { k8sVersion := k8sVer, resourceUrl := resourceUrl, eventType := eventType
        command := cmd }

/-! ## Checking cached objects -/

/-- The client could not be obtained, which ends a purge before any request is made. -/
structure ClientError where
  message : String

section Check

variable [UnicodeTables]

/-- The `ApiResource` that `check_objects` rebuilds from an object's types: the
plural is the lowercased kind followed by `s`.  An `apiVersion` of three parts or
more is skipped. -/
def checkedResource (tp : TypeMeta) : Option ApiResource :=
  match splitAtChar tp.apiVersion '/' with
  | [ver] =>
      some
        { group := "", version := ver, apiVersion := tp.apiVersion, kind := tp.kind
          plural := toLowercase tp.kind ++ "s" }
  | [group, ver] =>
      some
        { group := group, version := ver, apiVersion := tp.apiVersion, kind := tp.kind
          plural := toLowercase tp.kind ++ "s" }
  | _ => none

/-- The request `check_objects` makes for one object.  Objects without a
namespace, without types, or with an odd `apiVersion` are skipped. -/
def checkRequest (o : DynamicObject) : Option ObjectPath :=
  match o.metadata.ns with
  | none => none
  | some ns =>
      match o.types with
      | none => none
      | some tp =>
          (checkedResource tp).map fun ar => (Api.namespacedWith ns ar).getPath o.nameAny

/-- Is an object reported missing?  A failed request reports nothing. -/
def reportedMissing (api : KubeApi) (o : DynamicObject) : Bool :=
  match checkRequest o with
  | some path => api.getOpt path = .missing
  | none => false

/-- A request is made exactly for an object with a namespace and types that an
`ApiResource` can be rebuilt from. -/
theorem checkRequest_eq_some_iff {o : DynamicObject} {path : ObjectPath} :
    checkRequest o = some path ↔
      ∃ ns tp ar, o.metadata.ns = some ns ∧ o.types = some tp ∧
        checkedResource tp = some ar ∧
        (Api.namespacedWith ns ar).getPath o.nameAny = path := by
  unfold checkRequest
  cases o.metadata.ns with
  | none => simp
  | some ns =>
      cases o.types with
      | none => simp
      | some tp => simp [Option.map_eq_some_iff]

theorem reportedMissing_iff_checkRequest {api : KubeApi} {o : DynamicObject} :
    reportedMissing api o = true ↔
      ∃ path, checkRequest o = some path ∧ api.getOpt path = .missing := by
  unfold reportedMissing
  cases checkRequest o <;> simp

/-- `check_objects`: the objects the API server does not find. -/
def checkObjects (api : KubeApi) (objs : List DynamicObject) :
    Except ClientError (List DynamicObject) :=
  if api.connects then .ok (objs.filter (reportedMissing api))
  else .error { message := "k8s Client failed" }

end Check

end EntityProvider.AxKube
