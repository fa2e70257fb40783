import EntityProvider.Backstage.Entities
import Mathlib.Data.List.Forall2

/-!
# Static entities and their annotations

Configured groups, users and domains are meant to be served as they are configured, in the
default namespace, with the global annotations added to their own: `overlay` is what the
annotations should be, key by key.

`Metadata::from_static_config` computes the overlay and then drops it, so an entity's own
annotations are lost unless the global ones say the same.  The three constructors share this
function, and `keepsStaticEntities_iff` says for all of them at once when they do what they
are for.
-/

namespace EntityProvider.Entities

open Std (ExtTreeMap)
open EntityProvider.Configuration (BackstageSettings)

/-- The value under a key in an optional map. -/
def annotationAt (annotations : Option StringMap) (key : String) : Option String :=
  (annotations.getD ∅)[key]?

/-- **The overlay**: an entity's own value if it has one, else the global one if there is
one. -/
def overlay (global own : Option StringMap) (key : String) : Option String :=
  (annotationAt own key).or (annotationAt global key)

/-- The metadata is served as it is configured: in the default namespace, with the overlaid
annotations, and the same otherwise. -/
structure KeepsMetadata (bsc : BackstageSettings) (configured served : Metadata) : Prop where
  same : { served with ns := none, annotations := none } =
    { configured with ns := none, annotations := none }
  ns : served.ns = some "default"
  annotations : ∀ key, annotationAt served.annotations key =
    overlay bsc.annotations configured.annotations key

/-- The entity's own annotations say nothing that the global ones do not say as well. -/
def OwnAreGlobal (bsc : BackstageSettings) (md : Metadata) : Prop :=
  ∀ key value, annotationAt md.annotations key = some value →
    annotationAt bsc.annotations key = some value

/-- An overlay by annotations that are global already changes nothing, and any other does. -/
theorem overlay_eq_iff (bsc : BackstageSettings) (md : Metadata) :
    annotationAt bsc.annotations = overlay bsc.annotations md.annotations ↔
      OwnAreGlobal bsc md := by
  constructor
  · intro heq key value hown
    rw [heq, overlay, hown, Option.some_or]
  · intro hglobal
    funext key
    cases hown : annotationAt md.annotations key with
    | none => rw [overlay, hown, Option.none_or]
    | some value => rw [overlay, hown, Option.some_or, hglobal key value hown]

/-- **When static metadata is kept**: exactly if its own annotations are global already. -/
theorem keepsMetadata_fromStaticConfig_iff (bsc : BackstageSettings) (md : Metadata) :
    KeepsMetadata bsc md (Metadata.fromStaticConfig bsc md) ↔ OwnAreGlobal bsc md := by
  rw [Metadata.fromStaticConfig_eq, ← overlay_eq_iff]
  constructor
  · intro hkeeps
    funext key
    exact hkeeps.annotations key
  · intro heq
    exact ⟨rfl, rfl, fun key => congrFun heq key⟩

/-- The metadata of all configured static entities. -/
def configuredMetadata (bsc : BackstageSettings) : List Metadata :=
  bsc.groups.map (·.metadata) ++ bsc.users.map (·.metadata) ++
    (bsc.domains.getD []).map (·.metadata)

/-- **Static entities are kept.**  Each kind is served one entity for each configured one,
in the same order, with its spec and its metadata. -/
structure KeepsStaticEntities (bsc : BackstageSettings) : Prop where
  groups : List.Forall₂ (fun g served : Group =>
    served.spec = g.spec ∧ KeepsMetadata bsc g.metadata served.metadata)
    bsc.groups (groupsFromConfig bsc)
  users : List.Forall₂ (fun u served : User =>
    served.spec = u.spec ∧ KeepsMetadata bsc u.metadata served.metadata)
    bsc.users (usersFromConfig bsc)
  domains : List.Forall₂ (fun d served : Domain =>
    served.spec = d.spec ∧ KeepsMetadata bsc d.metadata served.metadata)
    (bsc.domains.getD []) (domainsFromConfig bsc)

/-- A list that is converted one by one. -/
theorem forall₂_map_iff {α : Type} {R : α → α → Prop} {convert : α → α} (l : List α) :
    List.Forall₂ R l (l.map convert) ↔ ∀ a ∈ l, R a (convert a) := by
  rw [List.forall₂_map_right_iff, List.forall₂_same]

/-- **When static entities are kept.**  Exactly if no configured group, user or domain has an
annotation of its own that is not a global one. -/
theorem keepsStaticEntities_iff (bsc : BackstageSettings) :
    KeepsStaticEntities bsc ↔ ∀ md ∈ configuredMetadata bsc, OwnAreGlobal bsc md := by
  have hparts : KeepsStaticEntities bsc ↔
      (∀ g ∈ bsc.groups, OwnAreGlobal bsc g.metadata) ∧
        (∀ u ∈ bsc.users, OwnAreGlobal bsc u.metadata) ∧
        ∀ d ∈ bsc.domains.getD [], OwnAreGlobal bsc d.metadata := by
    simp only [← keepsMetadata_fromStaticConfig_iff]
    constructor
    · rintro ⟨hgroups, husers, hdomains⟩
      exact ⟨fun g hg => ((forall₂_map_iff _).mp hgroups g hg).2,
        fun u hu => ((forall₂_map_iff _).mp husers u hu).2,
        fun d hd => ((forall₂_map_iff _).mp hdomains d hd).2⟩
    · rintro ⟨hgroups, husers, hdomains⟩
      exact ⟨(forall₂_map_iff _).mpr fun g hg => ⟨rfl, hgroups g hg⟩,
        (forall₂_map_iff _).mpr fun u hu => ⟨rfl, husers u hu⟩,
        (forall₂_map_iff _).mpr fun d hd => ⟨rfl, hdomains d hd⟩⟩
  rw [hparts, configuredMetadata]
  simp only [List.forall_mem_append, List.forall_mem_map, and_assoc]

/-! ## An annotation that is lost -/

/-- One group with an annotation of its own, and no global annotations. -/
def annotatedGroup : BackstageSettings where
  name := "backstage"
  annotations := none
  groups := [{
    apiVersion := backstageEntityApiVersion
    kind := backstageEntityGroup
    metadata :=
      { Metadata.empty with
        name := "team", annotations := some (ExtTreeMap.ofList [("a", "b")] compare) }
    spec := ⟨"team", none, none, []⟩ }]
  users := []
  domains := none

/-- **Own annotations are lost.** -/
theorem not_keepsStaticEntities_annotatedGroup : ¬ KeepsStaticEntities annotatedGroup := by
  intro hkeeps
  obtain ⟨⟨-, hmetadata⟩, -⟩ := List.forall₂_cons.mp hkeeps.groups
  exact absurd (hmetadata.annotations "a") (by decide)

end EntityProvider.Entities
