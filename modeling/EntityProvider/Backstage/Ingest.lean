import EntityProvider.AxKube.Watch
import EntityProvider.Library.Captures
import EntityProvider.Library.Ledger

/-!
# The ingest task

`backstage/ingest.rs`: the parser that derives an object's types from the URL it
was watched under, the normalisation of an object before it is cached, and the
loop that applies watch commands to the cache one at a time.

The loop runs in a detached task.  A panic ends it: the cache stays as it was at
that point and later events are never handled.
-/

namespace EntityProvider.Ingest

open Kube AxKube Library

/-! ## Types from resource URLs -/

section Parser

/-- `[a-z0-9]`. -/
def lowerDigit (c : Char) : Bool := c.isLower || c.isDigit

/-- `[a-zA-Z0-9]`. -/
def letterDigit (c : Char) : Bool := c.isAlpha || c.isDigit

/-- `[a-zA-Z0-9-]`. -/
def letterDigitDash (c : Char) : Bool := letterDigit c || c = '-'

/-- `[a-z0-9\.]`. -/
def lowerDigitDot (c : Char) : Bool := lowerDigit c || c = '.'

/-- `/api/(?<ver>[a-z0-9]*)/(?<resource>[a-zA-Z0-9-]*)s$` -/
def corePattern : List Piece :=
  [.literal "/api/", .capture "ver" lowerDigit, .literal "/",
    .capture "resource" letterDigitDash, .literal "s", .finish]

/-- `/api/(?<ver>[a-z0-9]*)/namespaces/(?<ns>[a-zA-Z0-9-]*)/(?<resource>[a-zA-Z0-9]*)s$` -/
def coreNamespacedPattern : List Piece :=
  [.literal "/api/", .capture "ver" lowerDigit, .literal "/namespaces/",
    .capture "ns" letterDigitDash, .literal "/", .capture "resource" letterDigit,
    .literal "s", .finish]

/-- `/apis/(?<apigroup>[a-z0-9\.]*)/(?<ver>[a-z0-9]*)/(?<resource>[a-zA-Z0-9]*)s$` -/
def groupPattern : List Piece :=
  [.literal "/apis/", .capture "apigroup" lowerDigitDot, .literal "/",
    .capture "ver" lowerDigit, .literal "/", .capture "resource" letterDigit,
    .literal "s", .finish]

/-- `/apis/(?<apigroup>[a-z0-9\.]*)/(?<ver>[a-z0-9]*)/namespaces/(?<ns>[a-zA-Z0-9-]*)/`
followed by `(?<resource>[a-zA-Z0-9]*)s$` -/
def groupNamespacedPattern : List Piece :=
  [.literal "/apis/", .capture "apigroup" lowerDigitDot, .literal "/",
    .capture "ver" lowerDigit, .literal "/namespaces/", .capture "ns" letterDigitDash,
    .literal "/", .capture "resource" letterDigit, .literal "s", .finish]

/-- The patterns, in the order they are tried.  More than one may match a URL, and the first
one counts. -/
def k8sApiPattern : List (List Piece) :=
  [corePattern, coreNamespacedPattern, groupPattern, groupNamespacedPattern]

variable [UnicodeTables]

/-- `capitalize`: the first character in upper case, the others as they are. -/
def capitalize (s : String) : String :=
  match s.toList with
  | [] => ""
  | f :: rest => String.ofList (charToUppercase f ++ rest)

/-- The types a match stands for.  Every pattern has the groups `ver` and
`resource`, so the two index expressions of the source cannot panic. -/
def typeMetaOfCaptures (caps : Captures) : TypeMeta where
  apiVersion :=
    let ver := (caps.lookup "ver").getD ""
    match caps.lookup "apigroup" with
    | some v => v ++ "/" ++ ver
    | none => ver
  kind := capitalize ((caps.lookup "resource").getD "")

/-- The parser task of `parse_type_meta`: the first pattern that matches. -/
def parseTypeMeta (hay : String) : Option TypeMeta :=
  k8sApiPattern.findSome? fun r => (captures r hay).map typeMetaOfCaptures

/-- `process_dynobj`: fill in missing types from the resource URL, drop the
`last-applied-configuration` annotation and clear the managed fields. -/
def processDynobj (obj : DynamicObject) (resUrl : String) : DynamicObject where
  types := obj.types.or (parseTypeMeta resUrl)
  metadata :=
    { obj.metadata with
      annotations :=
        some ((obj.metadata.annotations.getD ∅).erase
          "kubectl.kubernetes.io/last-applied-configuration")
      managedFields := some [] }
  data := obj.data

@[simp] theorem processDynobj_resourceVersion (obj : DynamicObject) (resUrl : String) :
    (processDynobj obj resUrl).metadata.resourceVersion = obj.metadata.resourceVersion := rfl

@[simp] theorem processDynobj_creationTimestamp (obj : DynamicObject) (resUrl : String) :
    (processDynobj obj resUrl).creationTimestamp = obj.creationTimestamp := rfl

end Parser

/-! ## The age of an object -/

/-- `format_duration`; `seconds` is `num_seconds`, and the coarser counts
truncate toward zero as `chrono` does. -/
def formatDuration (seconds : Int) : String :=
  let days := seconds.tdiv 86400
  let hours := seconds.tdiv 3600
  let mins := seconds.tdiv 60
  if hours > 2 * 24 then toString days ++ "d" ++ toString (hours - days * 24) ++ "h"
  else if mins > 2 * 60 then toString hours ++ "h" ++ toString (mins - hours * 60) ++ "m"
  else if seconds > 2 * 60 then toString mins ++ "m" ++ toString (seconds - mins * 60) ++ "s"
  else toString seconds ++ "s"

/-- `format_creation_since`, at time `now`: an object without a creation time
makes it panic. -/
def formatCreationSince (now : Time) (time : Option Time) : Checked String := do
  let created ← unwrap time
  .ok (formatDuration ((now - created).tdiv 1000000000))

@[simp] theorem formatCreationSince_some (now created : Time) :
    formatCreationSince now (some created) =
      .ok (formatDuration ((now - created).tdiv 1000000000)) := rfl

@[simp] theorem formatCreationSince_none (now : Time) :
    formatCreationSince now none = .error .unwrapNone := rfl

/-! ## The ingest loop -/

/-- The cache key of an object: its namespace, or `none` for an object without
one, a slash, and its name. -/
def cacheKey (o : DynamicObject) : String :=
  o.metadata.ns.getD "none" ++ "/" ++ o.nameAny

/-- What the loop finds outside while it handles one event: the clock, and the
API server that a purge asks. -/
structure Surroundings where
  now : Time
  api : KubeApi

/-- How handling an event ended: the cache it left, and the panic if there was
one. -/
structure Handled where
  cache : CacheMap
  panic : Option Panic

section Loop

variable [UnicodeTables]

/-- Remove the objects that a purge found missing, one by one. -/
def removeMissing (now : Time) (db : CacheMap) : List DynamicObject → Handled
  | [] => ⟨db, none⟩
  | obj :: rest =>
      match formatCreationSince now obj.creationTimestamp with
      | .error why => ⟨db, some why⟩
      | .ok _age => removeMissing now (db.erase (cacheKey obj)) rest

/-- One round of the ingest loop of `process_watch_event`: what one event does to the cache,
by its command. -/
def handleWatchEvent (around : Surroundings) (cache : CacheMap) (we : WatchEvent) :
    Handled :=
  match we.command with
  | .add obj | .update obj =>
      let objToAdd := processDynobj obj we.resourceUrl
      match formatCreationSince around.now objToAdd.creationTimestamp with
      | .error why => ⟨cache, some why⟩
      | .ok _age => ⟨cache.insert (cacheKey objToAdd) objToAdd, none⟩
  | .delete obj =>
      match formatCreationSince around.now obj.creationTimestamp with
      | .error why => ⟨cache, some why⟩
      | .ok _age => ⟨cache.erase (cacheKey obj), none⟩
  | .purge =>
      let checkObjs := cache.toList.map Prod.snd
      let objs := match checkObjects around.api checkObjs with
        | .ok objs => objs
        | .error _ => []
      removeMissing around.now cache objs
  | .printAll => ⟨cache, none⟩
  | .none => ⟨cache, none⟩

/-- The ingest task: the cache it has built, and whether it still runs. -/
structure IngestTask where
  cache : CacheMap
  running : Bool

/-- The task when it is spawned, with nothing in the cache. -/
def IngestTask.start : IngestTask := ⟨∅, true⟩

/-- Take one event off the channel and handle it, unless the task has ended. -/
def IngestTask.step (task : IngestTask) (input : Surroundings × WatchEvent) : IngestTask :=
  if task.running then
    let handled := handleWatchEvent input.1 task.cache input.2
    ⟨handled.cache, handled.panic.isNone⟩
  else task

/-- Run the task over the events of the channel, each with the surroundings it is handled
in. -/
def IngestTask.run (task : IngestTask) (inputs : List (Surroundings × WatchEvent)) :
    IngestTask :=
  inputs.foldl IngestTask.step task

end Loop

end EntityProvider.Ingest
