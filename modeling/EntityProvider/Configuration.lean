import EntityProvider.Kube.Object

/-!
# Configuration

The settings that the provider works with, as `configuration.rs` has them, and the types of
`backstage/entities.rs` that are part of them: a configured group, user or domain is an
entity already, with its metadata and its spec, and is served with little change.

Two parts of the settings decide what the program does.  `KubeSettings` lists the resources
to be watched and says how often a connection is tried again; `BackstageSettings` has the
annotations that every entity gets, and the static entities.  The intervals of the two
timers are in `Cache`.

Only what a modelled function reads is here.  The sections for the HTTP server and the NATS
proxy are read by the validation alone and come with it (`LoadedSettings` in
`EntityProvider.Validation`); the connection pool's are read by nothing.  The check of one
resource entry stands here, because what an entry can say about API groups matters for the
watches as well.
-/

namespace EntityProvider

namespace Entities

/-- `Link`: an external page that belongs to an entity.  All but the URL may be left out, and
is then not written. -/
structure Link where
  url : String
  title : Option String
  icon : Option String
  type : Option String
  deriving DecidableEq, Repr

/-- `Metadata`, which every entity has, of whatever kind; `ns` is its `namespace` field.  What
is made from a Kubernetes object has labels and annotations; titles, tags and links can only
be configured. -/
structure Metadata where
  name : String
  ns : Option String
  title : Option String
  description : Option String
  labels : Option StringMap
  annotations : Option StringMap
  tags : Option (List String)
  links : Option (List Link)

/-- The derived `Default` of `Metadata`: no name and nothing else.  The conversions start
from it and fill in what they know. -/
def Metadata.empty : Metadata where
  name := ""
  ns := none
  title := none
  description := none
  labels := none
  annotations := none
  tags := none
  links := none

/-- `GroupSpec`: the type of a group of users and where it stands among the others.  The
list of children is required, and may be empty. -/
structure GroupSpec where
  type : String
  profile : Option StringMap
  parent : Option String
  children : List String

/-- `Group`: a static entity for a group of users, as it is configured.  The names of groups,
users and domains become references in the output. -/
structure Group where
  apiVersion : String
  kind : String
  metadata : Metadata
  spec : GroupSpec

/-- `UserSpec`: a profile, and the groups the user belongs to.  In JSON the list is called
`memberOf`, in the configuration files `member_of`. -/
structure UserSpec where
  profile : Option StringMap
  memberOf : List String

/-- `User`: a static entity for one user.  The validation asks for at least one of them. -/
structure User where
  apiVersion : String
  kind : String
  metadata : Metadata
  spec : UserSpec

/-- `DomainSpec`: the owner of a domain, and the domain above it if there is one.  Nothing
checks that the domain above is configured as well. -/
structure DomainSpec where
  owner : String
  subdomainOf : Option String
  type : Option String

/-- `Domain`: a static entity that groups Systems.  The list of domains is the only one that
may be left out. -/
structure Domain where
  apiVersion : String
  kind : String
  metadata : Metadata
  spec : DomainSpec

end Entities

namespace Configuration

/-- `BackstageSettings`: the annotations that go to every entity, and the static entities by
kind.  The name of the section is checked, and not used otherwise. -/
structure BackstageSettings where
  name : String
  annotations : Option StringMap
  groups : List Entities.Group
  users : List Entities.User
  domains : Option (List Entities.Domain)

/-- `Resource`: one entry of the list of resources to watch.  It names them by kind or plural,
in any case of letters; several entries may name the same one. -/
structure Resource where
  /-- Name of the resource type, its kind or its plural. -/
  name : String
  /-- Namespaces to watch it in; none listed means all. -/
  namespaces : List String
  /-- Optional API groups. -/
  apiGroups : Option (List String)
  labelSelectors : List String
  fieldSelectors : List String
  eventType : String
  deriving DecidableEq, Repr

/-- `ConfigError`, with the two variants that the validation of settings returns.  Both carry
the path of the field in the configuration. -/
inductive ConfigError where
  /-- Missing required configuration: the field is empty. -/
  | missingConfig (key : String)
  /-- Invalid configuration value: the field, and the value or what is wrong with it. -/
  | invalidValue (key value : String)
  deriving DecidableEq, Repr

/-- The loop of `Resource::validate` over the API groups, from index `i` on.  The first empty
group ends it, and its index is part of the error. -/
def validateApiGroups (i : ℕ) : List String → Except ConfigError Unit
  | [] => .ok ()
  | group :: rest =>
      if group = "" then
        .error (.invalidValue ("resource.api_groups[" ++ toString i ++ "]") "Empty API group")
      else validateApiGroups (i + 1) rest

/-- `Resource::validate`: an entry needs a name and an event type, and its API groups must not
be empty texts.  So an entry cannot be restricted to the core group, whose name is empty. -/
def Resource.validate (res : Resource) : Except ConfigError Unit :=
  if res.name = "" then .error (.missingConfig "resource.name")
  else if res.eventType = "" then .error (.missingConfig "resource.event_type")
  else
    match res.apiGroups with
    | some groups => validateApiGroups 0 groups
    | none => .ok ()

/-- The loop over the API groups ends well if none of them is the empty text, wherever it
starts counting. -/
theorem validateApiGroups_eq_ok_iff (groups : List String) :
    ∀ i, validateApiGroups i groups = .ok () ↔ "" ∉ groups := by
  induction groups with
  | nil => intro i; simp [validateApiGroups]
  | cons group rest ih =>
      intro i
      rw [validateApiGroups]
      by_cases hempty : group = ""
      · simp [hempty]
      · rw [if_neg hempty, ih, List.mem_cons, not_or]
        exact ⟨fun hrest => ⟨Ne.symm hempty, hrest⟩, fun hboth => hboth.2⟩

/-- **What the validation of one entry lets through**: names and event types that are not
empty, and lists of API groups without the empty one. -/
theorem Resource.validate_eq_ok_iff (res : Resource) :
    res.validate = .ok () ↔ res.name ≠ "" ∧ res.eventType ≠ "" ∧
      ∀ groups, res.apiGroups = some groups → "" ∉ groups := by
  unfold Resource.validate
  by_cases hname : res.name = ""
  · simp [hname]
  · by_cases htype : res.eventType = ""
    · simp [hname, htype]
    · rw [if_neg hname, if_neg htype]
      cases hgroups : res.apiGroups with
      | none => simp [hname, htype]
      | some groups => simp [hname, htype, validateApiGroups_eq_ok_iff]

/-- `KubeRetrySettings`: how often a connection is tried again, and the bounds of the delay
before it, in milliseconds.  If it is not enabled there is one attempt. -/
structure KubeRetrySettings where
  maxRetries : UInt32
  baseDelayMs : UInt64
  maxDelayMs : UInt64
  enabled : Bool
  deriving DecidableEq, Repr

/-- `KubeSettings`: the resources to watch, and how to connect to the cluster.  Nothing asks
the cluster for what is not listed here. -/
structure KubeSettings where
  useTls : Bool
  resources : List Resource
  retry : KubeRetrySettings
  deriving DecidableEq, Repr

/-- The `Cache` section: the intervals of the two timers in seconds, and a channel size that
is checked but not used: the channel for the events has room for 32. -/
structure Cache where
  defChannelSize : UInt64
  pollInterval : UInt64
  purgeCacheInterval : UInt64
  deriving DecidableEq, Repr

/-- `Settings`, without the sections that only the validation reads.  The name of the cluster
is written into annotations and into the names of Systems. -/
structure Settings where
  /-- Agent name. -/
  name : String
  display : String
  /-- Cluster name. -/
  cluster : String
  backstage : BackstageSettings
  kube : KubeSettings
  cache : Cache

/-- Settings that watch nothing and configure no static entities, for runs that are about the
cache alone. -/
def Settings.bare : Settings where
  name := "provider"
  display := "Provider"
  cluster := "c"
  backstage :=
    { name := "backstage", annotations := none, groups := [], users := [], domains := none }
  kube := { useTls := true, resources := [], retry := ⟨3, 100, 1000, true⟩ }
  cache := ⟨32, 60, 60⟩

end Configuration

end EntityProvider
