import EntityProvider.Configuration
import EntityProvider.Library.Checks
import EntityProvider.Library.Text
import Std.Data.String.ToNat

/-!
# Validating the settings

The validation of `configuration.rs`: `Settings::validate` and the methods it calls, which
check one section after the other and end with the error of the first check that fails.
`LoadedSettings` are the settings with the sections that only the validation reads; the URL
parser is a parameter.

## Main definitions

* `LoadedSettings.validate`: the validation as the source has it, section by section
* `LoadedSettings.checks`: the same checks as one list, in the order they are made
* `LoadedSettings.Valid`: what the validation is for, without any order of checks
* `getConfiguration`: loading the settings of an environment, from two files and the
  environment variables

## Main results

* `validate_exact`: the settings are accepted exactly if they are `Valid`.  If they are not,
  the error is that of the first check that fails, and no two checks have the same error, so
  it says which one it was.
* `ServerSettings.validate_default`: of the defaults for sections that may be left out, the
  one for `cors` does not pass its own check.
* `valid_of_getConfiguration`: what is loaded is valid.

## Design notes

The library's lists of checks (`EntityProvider.Library.Checks`) do the work: each section's
method is equal to running its list, and the whole validation to running all of them one
after the other (`LoadedSettings.validate_eq_runChecks`).

Errors of a resource are wrapped: `KubeSettings::validate` puts the text of the inner error
into the value of an outer one, whose field is the resource with its index.  That errors
still differ then rests on their texts differing, which `ConfigError.display` gives.
-/

namespace EntityProvider.Configuration

open Library

/-! ## The sections -/

/-- `RateLimitSettings`: how many requests the HTTP server takes per second and at once.  The
numbers are only checked if the limit is enabled. -/
structure RateLimitSettings where
  requestsPerSecond : UInt32
  burstSize : UInt32
  enabled : Bool
  deriving DecidableEq, Repr

/-- `CorsSettings`, with the three fields that are checked.  Methods, headers, credentials and
maximum age are read by nothing here. -/
structure CorsSettings where
  allowedOrigins : List String
  allowAllOrigins : Bool
  enabled : Bool
  deriving DecidableEq, Repr

/-- `RateLimitSettings::default()`, which stands for a section `rate_limit` that is left out
of the configuration files. -/
def RateLimitSettings.default : RateLimitSettings where
  requestsPerSecond := 100
  burstSize := 200
  enabled := true

/-- `CorsSettings::default()`, likewise for a section `cors`.  It is enabled and allows no
origin, so its own check rejects it. -/
def CorsSettings.default : CorsSettings where
  allowedOrigins := []
  allowAllOrigins := false
  enabled := true

/-- `default_request_timeout`: the seconds that a request may take if nothing is
configured. -/
def defaultRequestTimeout : UInt64 := 30

/-- `ServerSettings`: address of the HTTP server and limits of what it answers.  The rate
limit and the origins may be left out and have defaults. -/
structure ServerSettings where
  port : UInt16
  host : String
  requestTimeout : UInt64
  rateLimit : RateLimitSettings
  cors : CorsSettings
  deriving DecidableEq, Repr

/-- `NatsProxy`: the address of a proxy, which must be a URL.  Nothing but its validation
reads it. -/
structure NatsProxy where
  proxyUrl : String
  deriving DecidableEq, Repr

/-- The settings as they are loaded: those that the provider works with, and the two sections
that are validated and not modelled further. -/
structure LoadedSettings extends Settings where
  server : ServerSettings
  nats : NatsProxy

/-- `Url::parse` of the `url` crate, as the text of its error for what is not a URL; for a URL
there is no error. -/
class UrlParser where
  parseError : String → Option String

/-! ## Checks -/

/-- The text of an error, as the derived `Display` prints it.  It is what a wrapped error
keeps of the inner one. -/
def ConfigError.display : ConfigError → String
  | .missingConfig key => "Missing required configuration: " ++ key
  | .invalidValue key value => "Invalid configuration value for " ++ key ++ ": " ++ value

theorem ConfigError.display_missingConfig (key : String) :
    (ConfigError.missingConfig key).display = "Missing required configuration: " ++ key := rfl

theorem ConfigError.display_invalidValue (key value : String) :
    (ConfigError.invalidValue key value).display =
      "Invalid configuration value for " ++ key ++ ": " ++ value := rfl

/-- A text that must not be empty.  An empty one counts as missing, and the error names the
field only. -/
def notEmpty (text key : String) : Check ConfigError := ⟨text ≠ "", .missingConfig key⟩

/-- A number that must not be zero.  Zero is an invalid value rather than a missing one, and
the error gives it as text. -/
def notZero (n : ℕ) (key : String) : Check ConfigError := ⟨n ≠ 0, .invalidValue key "0"⟩

/-- `Cache::validate`: the size of the channel and the intervals of the timers are positive.
A timer with interval zero would panic. -/
def Cache.checks (cache : Cache) : List (Check ConfigError) :=
  [notZero cache.defChannelSize.toNat "cache.def_channel_size",
    notZero cache.pollInterval.toNat "cache.poll_interval",
    notZero cache.purgeCacheInterval.toNat "cache.purge_cache_interval"]

def Cache.validate (cache : Cache) : Except ConfigError Unit := runChecks cache.checks

/-- `ServerSettings::validate`: host, port and timeout first.  The two numbers of the rate
limit are checked only if it is enabled, and the origins only if CORS is. -/
def ServerSettings.checks (server : ServerSettings) : List (Check ConfigError) :=
  [notEmpty server.host "server.host",
    notZero server.port.toNat "server.port",
    notZero server.requestTimeout.toNat "server.request_timeout"] ++
  (if server.rateLimit.enabled then
    [notZero server.rateLimit.requestsPerSecond.toNat "server.rate_limit.requests_per_second",
      notZero server.rateLimit.burstSize.toNat "server.rate_limit.burst_size"]
  else []) ++
  [⟨!(server.cors.enabled && !server.cors.allowAllOrigins &&
      server.cors.allowedOrigins.isEmpty),
    .invalidValue "server.cors.allowed_origins"
      "No allowed origins specified and allow_all_origins is false"⟩]

def ServerSettings.validate (server : ServerSettings) : Except ConfigError Unit :=
  runChecks server.checks

/-- `BackstageSettings::validate`: the section is named and has a user.  Groups and domains
may be empty, and static entities are not checked further. -/
def BackstageSettings.checks (backstage : BackstageSettings) : List (Check ConfigError) :=
  [notEmpty backstage.name "backstage.name",
    ⟨!backstage.users.isEmpty, .invalidValue "backstage.users" "must have at least one user"⟩]

def BackstageSettings.validate (backstage : BackstageSettings) : Except ConfigError Unit :=
  runChecks backstage.checks

/-- `NatsProxy::validate`: the address is not empty and parses.  The error for what does not
parse has the address and the parser's own text. -/
def NatsProxy.validate [UrlParser] (nats : NatsProxy) : Except ConfigError Unit := do
  runChecks [notEmpty nats.proxyUrl "nats.proxy_url"]
  match UrlParser.parseError nats.proxyUrl with
  | some e => .error (.invalidValue "nats.proxy_url" (nats.proxyUrl ++ ": " ++ e))
  | none => .ok ()

/-- `KubeSettings::validate`: every resource of the list, with its index.  The first error
ends it, and becomes the value of an error about the resource. -/
def KubeSettings.validate (kube : KubeSettings) : Except ConfigError Unit :=
  validateFrom
    (fun i resource => resource.validate.mapError fun e =>
      .invalidValue ("kube.resources[" ++ toString i ++ "]") e.display)
    0 kube.resources

/-- `Settings::validate`: the names at the top, then the five sections in this order.  The
first error is the result. -/
def LoadedSettings.validate [UrlParser] (s : LoadedSettings) : Except ConfigError Unit := do
  runChecks
    [notEmpty s.name "name", notEmpty s.display "display", notEmpty s.cluster "cluster"]
  s.server.validate
  s.backstage.validate
  s.nats.validate
  s.kube.validate
  s.cache.validate

/-! ## One list of checks -/

/-- The checks of `Resource::validate` as a list: name, event type, and each API group with
its index. -/
def Resource.checks (res : Resource) : List (Check ConfigError) :=
  [notEmpty res.name "resource.name", notEmpty res.eventType "resource.event_type"] ++
  eachFrom (fun i group =>
    [⟨group ≠ "",
      .invalidValue ("resource.api_groups[" ++ toString i ++ "]") "Empty API group"⟩])
    0 (res.apiGroups.getD [])

/-- The checks of `NatsProxy::validate` as a list.  The second one's error has the text of the
parser, which is only there if the check fails. -/
def NatsProxy.checks [UrlParser] (nats : NatsProxy) : List (Check ConfigError) :=
  [notEmpty nats.proxyUrl "nats.proxy_url",
    ⟨(UrlParser.parseError nats.proxyUrl).isNone, .invalidValue "nats.proxy_url"
      (nats.proxyUrl ++ ": " ++ (UrlParser.parseError nats.proxyUrl).getD "")⟩]

/-- The checks of the resource with an index, as `KubeSettings::validate` makes them: the same
checks, with their errors wrapped. -/
def resourceChecks (i : ℕ) (res : Resource) : List (Check ConfigError) :=
  res.checks.map (Check.mapError fun e =>
    .invalidValue ("kube.resources[" ++ toString i ++ "]") e.display)

/-- All checks of the settings, in the order they are made: first failing check and first
error are the same thing here. -/
def LoadedSettings.checks [UrlParser] (s : LoadedSettings) : List (Check ConfigError) :=
  [notEmpty s.name "name", notEmpty s.display "display", notEmpty s.cluster "cluster"] ++
  (s.server.checks ++ (s.backstage.checks ++ (s.nats.checks ++
    (eachFrom resourceChecks 0 s.kube.resources ++ s.cache.checks))))

theorem validateApiGroups_eq_runChecks (groups : List String) :
    ∀ i, validateApiGroups i groups = runChecks (eachFrom (fun i group =>
      [⟨group ≠ "", .invalidValue ("resource.api_groups[" ++ toString i ++ "]")
        "Empty API group"⟩]) i groups) := by
  induction groups with
  | nil => intro i; rfl
  | cons group rest ih =>
      intro i
      rw [validateApiGroups, eachFrom, runChecks_append, ih]
      by_cases hgroup : group = ""
      · simp [hgroup, runChecks, bind, Except.bind]
      · simp [hgroup, runChecks, bind, Except.bind]

theorem Resource.validate_eq_runChecks (res : Resource) :
    res.validate = runChecks res.checks := by
  unfold Resource.validate Resource.checks
  rw [runChecks_append]
  by_cases hname : res.name = ""
  · simp [hname, runChecks, notEmpty, bind, Except.bind]
  · by_cases htype : res.eventType = ""
    · simp [hname, htype, runChecks, notEmpty, bind, Except.bind]
    · have hfirst : runChecks [notEmpty res.name "resource.name",
          notEmpty res.eventType "resource.event_type"] = .ok () := by
        simp [runChecks, notEmpty, hname, htype]
      rw [if_neg hname, if_neg htype, hfirst]
      cases hgroups : res.apiGroups with
      | none => rfl
      | some groups => exact validateApiGroups_eq_runChecks groups 0

section Validate

variable [UrlParser]

theorem NatsProxy.validate_eq_runChecks (nats : NatsProxy) :
    nats.validate = runChecks nats.checks := by
  have hsplit : runChecks nats.checks =
      (runChecks [notEmpty nats.proxyUrl "nats.proxy_url"] >>=
      fun _ => runChecks [⟨(UrlParser.parseError nats.proxyUrl).isNone,
        .invalidValue "nats.proxy_url"
          (nats.proxyUrl ++ ": " ++ (UrlParser.parseError nats.proxyUrl).getD "")⟩]) :=
    runChecks_append [_] [_]
  rw [hsplit, NatsProxy.validate]
  cases UrlParser.parseError nats.proxyUrl <;> rfl

omit [UrlParser] in
theorem KubeSettings.validate_eq_runChecks (kube : KubeSettings) :
    kube.validate = runChecks (eachFrom resourceChecks 0 kube.resources) :=
  validateFrom_eq_runChecks (fun i res => by
    rw [resourceChecks, runChecks_mapError, Resource.validate_eq_runChecks]) kube.resources 0

/-- **The validation is one list of checks.**  Section after section, the methods make the
checks of the list and stop at the first one that fails. -/
theorem LoadedSettings.validate_eq_runChecks (s : LoadedSettings) :
    s.validate = runChecks s.checks := by
  rw [LoadedSettings.checks, runChecks_append, runChecks_append, runChecks_append,
    runChecks_append, runChecks_append, ← NatsProxy.validate_eq_runChecks,
    ← KubeSettings.validate_eq_runChecks]
  rfl

/-! ## What is accepted -/

/-- **The settings are valid.**  Field by field, what the sections must satisfy: nothing is
said about the order in which it is checked, or about the errors. -/
structure LoadedSettings.Valid (s : LoadedSettings) : Prop where
  named : s.name ≠ "" ∧ s.display ≠ "" ∧ s.cluster ≠ ""
  server : s.server.host ≠ "" ∧ s.server.port ≠ 0 ∧ s.server.requestTimeout ≠ 0
  rateLimit : s.server.rateLimit.enabled = true →
    s.server.rateLimit.requestsPerSecond ≠ 0 ∧ s.server.rateLimit.burstSize ≠ 0
  cors : s.server.cors.enabled = true →
    s.server.cors.allowAllOrigins = true ∨ s.server.cors.allowedOrigins ≠ []
  backstage : s.backstage.name ≠ "" ∧ s.backstage.users ≠ []
  nats : s.nats.proxyUrl ≠ "" ∧ UrlParser.parseError s.nats.proxyUrl = none
  resources : ∀ res ∈ s.kube.resources, res.name ≠ "" ∧ res.eventType ≠ "" ∧
    ∀ groups, res.apiGroups = some groups → "" ∉ groups
  cache : s.cache.defChannelSize ≠ 0 ∧ s.cache.pollInterval ≠ 0 ∧
    s.cache.purgeCacheInterval ≠ 0

omit [UrlParser] in
@[simp] theorem passes_notEmpty (text key : String) :
    (notEmpty text key).passes = true ↔ text ≠ "" := decide_eq_true_iff

omit [UrlParser] in
@[simp] theorem passes_notZero (n : ℕ) (key : String) :
    (notZero n key).passes = true ↔ n ≠ 0 := decide_eq_true_iff

omit [UrlParser] in
theorem Cache.validate_eq_ok_iff (cache : Cache) : cache.validate = .ok () ↔
    cache.defChannelSize ≠ 0 ∧ cache.pollInterval ≠ 0 ∧ cache.purgeCacheInterval ≠ 0 := by
  simp [Cache.validate, Cache.checks, runChecks_eq_ok_iff, ← UInt64.toNat_inj]

omit [UrlParser] in
theorem ServerSettings.validate_eq_ok_iff (server : ServerSettings) :
    server.validate = .ok () ↔
      (server.host ≠ "" ∧ server.port ≠ 0 ∧ server.requestTimeout ≠ 0) ∧
      (server.rateLimit.enabled = true →
        server.rateLimit.requestsPerSecond ≠ 0 ∧ server.rateLimit.burstSize ≠ 0) ∧
      (server.cors.enabled = true →
        server.cors.allowAllOrigins = true ∨ server.cors.allowedOrigins ≠ []) := by
  have hcors : (!(server.cors.enabled && !server.cors.allowAllOrigins &&
      server.cors.allowedOrigins.isEmpty)) = true ↔ (server.cors.enabled = true →
        server.cors.allowAllOrigins = true ∨ server.cors.allowedOrigins ≠ []) := by
    cases server.cors.enabled <;> cases server.cors.allowAllOrigins <;> simp
  have hrate : (∀ check ∈ (if server.rateLimit.enabled then
      [notZero server.rateLimit.requestsPerSecond.toNat
          "server.rate_limit.requests_per_second",
        notZero server.rateLimit.burstSize.toNat "server.rate_limit.burst_size"]
      else []), check.passes = true) ↔ (server.rateLimit.enabled = true →
        server.rateLimit.requestsPerSecond ≠ 0 ∧ server.rateLimit.burstSize ≠ 0) := by
    cases server.rateLimit.enabled <;> simp [← UInt32.toNat_inj]
  rw [ServerSettings.validate, ServerSettings.checks, runChecks_eq_ok_iff,
    List.forall_mem_append, List.forall_mem_append, hrate, List.forall_mem_singleton, hcors,
    and_assoc]
  simp [← UInt64.toNat_inj, ← UInt16.toNat_inj]

omit [UrlParser] in
/-- **The defaults and their checks.**  A section `cors` that is left out is rejected.  The
other defaults pass: with them, an address and an allowed origin are all that is asked for. -/
theorem ServerSettings.validate_default (server : ServerSettings) :
    (server.cors = .default → server.validate ≠ .ok ()) ∧
      (server.rateLimit = .default → server.requestTimeout = defaultRequestTimeout →
        (server.validate = .ok () ↔ server.host ≠ "" ∧ server.port ≠ 0 ∧
          (server.cors.enabled = true →
            server.cors.allowAllOrigins = true ∨ server.cors.allowedOrigins ≠ []))) := by
  rw [ne_eq, server.validate_eq_ok_iff]
  constructor
  · rintro hcors ⟨-, -, hallowed⟩
    rw [hcors] at hallowed
    exact absurd (hallowed rfl) (by simp [CorsSettings.default])
  · intro hrate htimeout
    have hpasses : (100 : UInt32) ≠ 0 ∧ (200 : UInt32) ≠ 0 ∧ defaultRequestTimeout ≠ 0 := by
      decide
    rw [hrate, htimeout]
    constructor
    · rintro ⟨⟨hhost, hport, -⟩, -, hcors⟩
      exact ⟨hhost, hport, hcors⟩
    · rintro ⟨hhost, hport, hcors⟩
      exact ⟨⟨hhost, hport, hpasses.2.2⟩, fun _ => ⟨hpasses.1, hpasses.2.1⟩, hcors⟩

omit [UrlParser] in
theorem BackstageSettings.validate_eq_ok_iff (backstage : BackstageSettings) :
    backstage.validate = .ok () ↔ backstage.name ≠ "" ∧ backstage.users ≠ [] := by
  simp [BackstageSettings.validate, BackstageSettings.checks, runChecks_eq_ok_iff]

theorem NatsProxy.validate_eq_ok_iff (nats : NatsProxy) : nats.validate = .ok () ↔
    nats.proxyUrl ≠ "" ∧ UrlParser.parseError nats.proxyUrl = none := by
  simp [NatsProxy.validate_eq_runChecks, NatsProxy.checks, runChecks_eq_ok_iff]

omit [UrlParser] in
theorem KubeSettings.validate_eq_ok_iff (kube : KubeSettings) : kube.validate = .ok () ↔
    ∀ res ∈ kube.resources, res.name ≠ "" ∧ res.eventType ≠ "" ∧
      ∀ groups, res.apiGroups = some groups → "" ∉ groups := by
  rw [KubeSettings.validate_eq_runChecks, runChecks_eq_ok_iff]
  constructor
  · intro hall res hres
    obtain ⟨j, hj⟩ := List.mem_iff_getElem?.mp hres
    rw [← Resource.validate_eq_ok_iff, Resource.validate_eq_runChecks, runChecks_eq_ok_iff]
    intro check hcheck
    have hmem := List.mem_map_of_mem (f := Check.mapError fun e : ConfigError =>
      ConfigError.invalidValue ("kube.resources[" ++ toString (0 + j) ++ "]") e.display)
      hcheck
    have hpasses := hall _ (mem_eachFrom.mpr ⟨j, res, hj, hmem⟩)
    exact hpasses
  · intro hall check hcheck
    obtain ⟨j, res, hj, hmem⟩ := mem_eachFrom.mp hcheck
    obtain ⟨inner, hinner, rfl⟩ := List.mem_map.mp hmem
    have hres := hall res (List.mem_of_getElem? hj)
    rw [← Resource.validate_eq_ok_iff, Resource.validate_eq_runChecks,
      runChecks_eq_ok_iff] at hres
    exact hres inner hinner

/-- **What the validation lets through** are the valid settings, and nothing else: each
method's own equivalence is one of the conditions. -/
theorem LoadedSettings.validate_eq_ok_iff (s : LoadedSettings) :
    s.validate = .ok () ↔ s.Valid := by
  have hand : ∀ {x : Except ConfigError Unit} {next : Except ConfigError Unit},
      (x >>= fun _ => next) = .ok () ↔ x = .ok () ∧ next = .ok () := by
    intro x next
    rw [bind_eq_ok_iff]
    exact ⟨fun ⟨_, hx, hnext⟩ => ⟨hx, hnext⟩, fun ⟨hx, hnext⟩ => ⟨(), hx, hnext⟩⟩
  rw [LoadedSettings.validate, hand, hand, hand, hand, hand,
    ServerSettings.validate_eq_ok_iff,
    BackstageSettings.validate_eq_ok_iff, NatsProxy.validate_eq_ok_iff,
    KubeSettings.validate_eq_ok_iff, Cache.validate_eq_ok_iff, runChecks_eq_ok_iff]
  constructor
  · rintro ⟨hnamed, ⟨hserver, hrate, hcors⟩, hbackstage, hnats, hkube, hcache⟩
    exact ⟨by simpa using hnamed, hserver, hrate, hcors, hbackstage, hnats, hkube, hcache⟩
  · intro hvalid
    exact ⟨by simpa using hvalid.named, ⟨hvalid.server, hvalid.rateLimit, hvalid.cors⟩,
      hvalid.backstage, hvalid.nats, hvalid.resources, hvalid.cache⟩

/-! ## What the error says -/

omit [UrlParser] in
theorem between_inj {a b x y : String} (h : a ++ x ++ b = a ++ y ++ b) : x = y :=
  (String.append_right_inj a).mp ((String.append_left_inj b).mp h)

omit [UrlParser] in
theorem ConfigError.display_missing_inj {key key' : String}
    (h : (ConfigError.missingConfig key).display = (ConfigError.missingConfig key').display) :
    key = key' :=
  (String.append_right_inj _).mp h

omit [UrlParser] in
theorem ConfigError.display_invalid_inj {key key' value : String}
    (h : (ConfigError.invalidValue key value).display =
      (ConfigError.invalidValue key' value).display) : key = key' :=
  between_inj ((String.append_left_inj value).mp h)

omit [UrlParser] in
/-- Texts that begin with different characters differ, whatever follows after the
beginnings. -/
theorem append_ne_append {a b : String} {c d : Char} {as bs : List Char}
    (ha : a.toList = c :: as) (hb : b.toList = d :: bs) (hne : c ≠ d) (x y : String) :
    a ++ x ≠ b ++ y := by
  intro h
  have hlist := congrArg String.toList h
  rw [String.toList_append, String.toList_append, ha, hb] at hlist
  exact hne (List.cons.inj hlist).1

omit [UrlParser] in
/-- An error for a missing field never reads like one for an invalid value: one text begins
with `Missing`, the other one with `Invalid`. -/
theorem ConfigError.display_missing_ne_invalid (key key' value : String) :
    (ConfigError.missingConfig key).display ≠
      (ConfigError.invalidValue key' value).display := by
  have hmissing : "Missing required configuration: ".toList =
      'M' :: "issing required configuration: ".toList := by decide
  have hinvalid : "Invalid configuration value for ".toList =
      'I' :: "nvalid configuration value for ".toList := by decide
  rw [ConfigError.display_missingConfig, ConfigError.display_invalidValue,
    String.append_assoc, String.append_assoc]
  exact append_ne_append hmissing hinvalid (by decide) _ _

omit [UrlParser] in
/-- The texts of a resource's errors differ from each other.  For the API groups this rests on
the index, which is printed in decimal. -/
theorem Resource.nodup_texts (res : Resource) :
    (res.checks.map fun check => check.error.display).Nodup := by
  rw [Resource.checks, List.map_append, List.nodup_append]
  refine ⟨?_, ?_, ?_⟩
  · refine List.nodup_cons.mpr ⟨fun h => ?_, List.nodup_singleton _⟩
    exact absurd (ConfigError.display_missing_inj (List.mem_singleton.mp h)) (by decide)
  · refine nodup_map_eachFrom _ (fun i group => ?_) ?_ _ 0
    · exact List.nodup_singleton (ConfigError.display _)
    intro i j group group' hne check hcheck other hother heq
    obtain rfl := List.mem_singleton.mp hcheck
    obtain rfl := List.mem_singleton.mp hother
    exact hne (Nat.repr_injective (between_inj (ConfigError.display_invalid_inj heq)))
  · intro text htext text' htext' heq
    obtain ⟨check, hcheck, rfl⟩ := List.mem_map.mp htext
    obtain ⟨other, hother, rfl⟩ := List.mem_map.mp htext'
    obtain ⟨j, group, -, hmem⟩ := mem_eachFrom.mp hother
    obtain rfl := List.mem_singleton.mp hmem
    rcases List.mem_pair.mp hcheck with rfl | rfl
    · exact ConfigError.display_missing_ne_invalid _ _ _ heq
    · exact ConfigError.display_missing_ne_invalid _ _ _ heq

/-- Is the error one of a resource, wrapped?  The field of such an error begins with `k`, for
`kube.resources`, and no other field does. -/
def ConfigError.IsNested : ConfigError → Bool
  | .missingConfig _ => false
  | .invalidValue key _ => key.toList.head? = some 'k'

omit [UrlParser] in
theorem isNested_resourceChecks {i : ℕ} {res : Resource} {check : Check ConfigError}
    (hcheck : check ∈ resourceChecks i res) : check.error.IsNested = true := by
  obtain ⟨inner, -, rfl⟩ := List.mem_map.mp hcheck
  simp [Check.mapError, ConfigError.IsNested]

omit [UrlParser] in
/-- No two checks of the resources have the same error.  Within one resource the inner texts
differ; between two, the index in the field does. -/
theorem nodup_errors_resources (resources : List Resource) :
    ((eachFrom resourceChecks 0 resources).map Check.error).Nodup := by
  refine nodup_map_eachFrom _ (fun i res => ?_) ?_ _ 0
  · rw [resourceChecks, List.map_map]
    have hcomp : (Check.error ∘ Check.mapError fun e : ConfigError =>
        ConfigError.invalidValue ("kube.resources[" ++ toString i ++ "]") e.display) =
        (fun text => ConfigError.invalidValue ("kube.resources[" ++ toString i ++ "]") text) ∘
          fun check => check.error.display := rfl
    rw [hcomp, ← List.map_map]
    exact res.nodup_texts.map fun text text' h => (ConfigError.invalidValue.inj h).2
  · intro i j res res' hne check hcheck other hother heq
    obtain ⟨inner, -, rfl⟩ := List.mem_map.mp hcheck
    obtain ⟨inner', -, rfl⟩ := List.mem_map.mp hother
    exact hne (Nat.repr_injective (between_inj (ConfigError.invalidValue.inj heq).1))

/-- The checks that are not about resources, which have their fields written out in the
source. -/
def LoadedSettings.ownChecks (s : LoadedSettings) : List (Check ConfigError) :=
  [notEmpty s.name "name", notEmpty s.display "display", notEmpty s.cluster "cluster"] ++
  (s.server.checks ++ (s.backstage.checks ++ (s.nats.checks ++ s.cache.checks)))

theorem LoadedSettings.checks_perm (s : LoadedSettings) :
    s.checks.Perm (s.ownChecks ++ eachFrom resourceChecks 0 s.kube.resources) := by
  simp only [LoadedSettings.checks, LoadedSettings.ownChecks, List.append_assoc]
  exact ((((List.perm_append_comm.append_left _).append_left _).append_left _).append_left _)

theorem LoadedSettings.nodup_ownErrors (s : LoadedSettings) :
    (s.ownChecks.map Check.error).Nodup := by
  unfold LoadedSettings.ownChecks ServerSettings.checks BackstageSettings.checks
    NatsProxy.checks Cache.checks
  cases s.server.rateLimit.enabled <;> simp [notEmpty, notZero]

theorem LoadedSettings.not_isNested_own (s : LoadedSettings) :
    ∀ check ∈ s.ownChecks, check.error.IsNested = false := by
  unfold LoadedSettings.ownChecks ServerSettings.checks BackstageSettings.checks
    NatsProxy.checks Cache.checks
  cases s.server.rateLimit.enabled <;> simp [notEmpty, notZero, ConfigError.IsNested]

/-- **No two checks have the same error.**  So an error that the validation returns points to
one field, or to one resource and one of its fields. -/
theorem LoadedSettings.nodup_errors (s : LoadedSettings) :
    (s.checks.map Check.error).Nodup := by
  rw [(s.checks_perm.map Check.error).nodup_iff, List.map_append, List.nodup_append]
  refine ⟨s.nodup_ownErrors, nodup_errors_resources _, ?_⟩
  intro why hwhy why' hwhy' heq
  obtain ⟨check, hcheck, rfl⟩ := List.mem_map.mp hwhy
  obtain ⟨other, hother, rfl⟩ := List.mem_map.mp hwhy'
  obtain ⟨j, res, -, hmem⟩ := mem_eachFrom.mp hother
  have hnested : check.error.IsNested = true := heq ▸ isNested_resourceChecks hmem
  exact absurd ((s.not_isNested_own check hcheck).symm.trans hnested) (by simp)

/-- **The validation is exact.**  Settings are accepted exactly if they are valid.  If they
are not, the error is that of the first check that fails, and of no other check. -/
theorem validate_exact (s : LoadedSettings) :
    (s.validate = .ok () ↔ s.Valid) ∧
      (∀ why, s.validate = .error why ↔ ∃ front check back,
        s.checks = front ++ check :: back ∧
        (∀ before ∈ front, before.passes = true) ∧ check.passes = false ∧
        check.error = why) ∧
      (s.checks.map Check.error).Nodup :=
  ⟨s.validate_eq_ok_iff, fun why => by rw [s.validate_eq_runChecks, runChecks_eq_error_iff],
    s.nodup_errors⟩

/-! ## Loading -/

/-- `Environment`: where the program runs.  Each has its own configuration file beside the one
that both share. -/
inductive Environment where
  | localhost
  | production
  deriving DecidableEq, Repr

/-- `Environment::as_str`: the name of the environment, which is also that of its file. -/
def Environment.asStr : Environment → String
  | .localhost => "local"
  | .production => "production"

/-- `Environment::try_from`: the name in any case of letters.  For another one the error
quotes it in lower case. -/
def Environment.tryFrom [UnicodeTables] (s : String) : Except String Environment :=
  if toLowercase s = "local" then .ok .localhost
  else if toLowercase s = "production" then .ok .production
  else
    .error (toLowercase s ++
      " is not a supported environment. Use either `local` or `production`.")

/-- The errors of `get_configuration`, in the order they can occur.  Those of the process and
the file system are `ConfigError`s in the source too. -/
inductive LoadError where
  /-- `ConfigError::IoError`: the current directory cannot be told. -/
  | currentDir (message : String)
  /-- `ConfigError::EnvVar`: the environment's name is not known. -/
  | envVar (message : String)
  /-- `ConfigError::IoError`: a file is missing. -/
  | notFound (path : String)
  /-- An error of the `config` crate, with its context. -/
  | config (context message : String)
  /-- `Configuration validation failed`. -/
  | invalid (why : ConfigError)
  deriving DecidableEq, Repr

/-- Where the settings come from: the process, the file system, and the `config` crate,
which merges the two files of an environment with the environment variables, and
deserializes the result. -/
structure ConfigSources where
  currentDir : Except String String
  appEnvironment : Option String
  fileExists : String → Bool
  build : Environment → Except String Unit
  deserialize : Environment → Except String LoadedSettings

/-- `get_configuration`: the directory, the environment and its two files, which must both be
there, then the merged settings, and last their validation. -/
def getConfiguration [UnicodeTables] (sources : ConfigSources) :
    Except LoadError LoadedSettings := do
  let basePath ← sources.currentDir.mapError .currentDir
  let configurationDirectory := basePath ++ "/config"
  let environment ←
    (Environment.tryFrom (sources.appEnvironment.getD "local")).mapError .envVar
  let baseFilePath := configurationDirectory ++ "/base.yaml"
  let envFilePath := configurationDirectory ++ "/" ++ environment.asStr ++ ".yaml"
  runChecks [⟨sources.fileExists baseFilePath, .notFound baseFilePath⟩,
    ⟨sources.fileExists envFilePath, .notFound envFilePath⟩]
  (sources.build environment).mapError (.config "Failed to build configuration")
  let config ← (sources.deserialize environment).mapError
    (.config "Failed to deserialize configuration")
  config.validate.mapError .invalid
  return config

/-- **What is loaded is valid.**  The validation is the last step of `get_configuration`, and
its error is returned. -/
theorem valid_of_getConfiguration [UnicodeTables] {sources : ConfigSources}
    {config : LoadedSettings} (hloaded : getConfiguration sources = .ok config) :
    config.Valid := by
  unfold getConfiguration at hloaded
  simp only [bind_eq_ok_iff, mapError_eq_ok_iff] at hloaded
  obtain ⟨basePath, -, environment, -, _, -, _, -, config', -, _, hvalid, hreturn⟩ := hloaded
  obtain rfl : config' = config := Except.ok.inj hreturn
  exact config'.validate_eq_ok_iff.mp hvalid

end Validate

end EntityProvider.Configuration
