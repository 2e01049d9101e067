-- The laws of the two steps that a child goes through before it is written. One puts its
-- owner into it, the other what the API server gave to the stored child. Each has fields of
-- its own and touches no others, so they can be taken in any order. Of two owners only the
-- later one counts, and so does the later of two stored children, unless it is an endpoint
-- that says nothing of its addresses.
import ServingOperator.Proofs.WrittenChildren

namespace ServingOperator

/-! ## Owners -/

/-- The object with other owners. -/
def Kind.withOwners {k : Kind} (o : k.Object) (owners : Option (List OwnerReference)) : k.Object :=
  withMetadata o { metadata o with ownerReferences := owners }

section

variable {k : Kind} {parent other : Intent} {o o' : k.Object}

@[simp] theorem Kind.withOwners_withOwners (owners owners' : Option (List OwnerReference)) :
    withOwners (withOwners o owners) owners' = withOwners o owners' := by
  simp only [withOwners, metadata_withMetadata, withMetadata_withMetadata]

@[simp] theorem Kind.metadata_withOwners (owners : Option (List OwnerReference)) :
    metadata (withOwners o owners) = { metadata o with ownerReferences := owners } :=
  metadata_withMetadata ..

theorem attachOwner_eq_withOwners (parent : Intent) (o : k.Object) :
    attachOwner parent o = parent.reference.map fun owner => Kind.withOwners o (some [owner]) :=
  attachOwner_eq parent o

theorem attachOwner_eq_ok :
    attachOwner parent o = .ok o' ↔
      ∃ uid name, parent.metadata.uid = some uid ∧ parent.metadata.name = some name ∧
        o' = Kind.withOwners o (some [.toIntent name uid]) := by
  rw [attachOwner_eq_withOwners, Intent.reference]
  rcases parent.metadata.uid with _ | uid <;> rcases parent.metadata.name with _ | name <;>
    simp [Except.map, eq_comm]

/-- The uid is missed before the name is. -/
theorem attachOwner_eq_error {r : Report OwnershipError} :
    attachOwner parent o = .error r ↔
      (parent.metadata.uid = none ∧
          r = .of (.missingOwnerField "ModelDeployment" "metadata.uid")) ∨
        (parent.metadata.uid ≠ none ∧ parent.metadata.name = none ∧
          r = .of (.missingOwnerField "ModelDeployment" "metadata.name")) := by
  rw [attachOwner_eq_withOwners, Intent.reference]
  rcases parent.metadata.uid with _ | uid <;> rcases parent.metadata.name with _ | name <;>
    simp [Except.map, eq_comm, Intent.kind]

/-- An owner takes the place of all owners there are. -/
theorem attachOwner_withOwners (owners : Option (List OwnerReference)) :
    attachOwner parent (Kind.withOwners o owners) = attachOwner parent o := by
  simp only [attachOwner_eq_withOwners, Kind.withOwners_withOwners]

theorem attachOwner_attachOwner (h : attachOwner parent o = .ok o') :
    attachOwner other o' = attachOwner other o := by
  obtain ⟨uid, name, -, -, rfl⟩ := attachOwner_eq_ok.1 h
  exact attachOwner_withOwners _

end

/-! ## What is carried over -/

/-- The addresses of the second stored endpoint count, or else those of the first. -/
theorem Endpoint.carryOver_carryOver (desired first second : Endpoint) :
    carryOver (carryOver desired first) second =
      carryOver desired { second with spec := second.spec.or first.spec } := by
  obtain ⟨_, spec, _⟩ := desired
  obtain ⟨_, early, _⟩ := first
  obtain ⟨_, late, _⟩ := second
  cases spec <;> cases early <;> cases late <;> rfl

theorem Endpoint.spec_carryOver_of_none {desired stored : Endpoint}
    (h : desired.spec = none ∨ stored.spec = none) :
    (desired.carryOver stored).spec = desired.spec := by
  obtain ⟨_, spec, _⟩ := desired
  obtain ⟨_, old, _⟩ := stored
  rcases h with rfl | rfl
  · cases old <;> rfl
  · cases spec <;> rfl

/-- The first of two stored endpoints does not count just if the second one has a spec, or
the first one did not change the spec in the first place. -/
theorem Endpoint.carryOver_last_iff (desired first second : Endpoint) :
    carryOver (carryOver desired first) second = carryOver desired second ↔
      second.spec ≠ none ∨ (desired.carryOver first).spec = desired.spec := by
  obtain ⟨metadata, late, status⟩ := second
  cases late with
  | some late =>
    rw [carryOver_carryOver]
    simp
  | none =>
    have hend : ∀ x : Endpoint, x.carryOver ⟨metadata, none, status⟩ =
        { x with metadata := { x.metadata with resourceVersion := metadata.resourceVersion } } := by
      rintro ⟨_, spec, _⟩
      cases spec <;> rfl
    rw [hend, hend]
    constructor
    · intro h
      exact .inr (Endpoint.mk.inj h).2.1
    · rintro (h | hspec)
      · exact absurd rfl h
      · rw [hspec]
        rfl

namespace Child

/-- The child without the fields that are carried over. -/
def unassigned : {c : Child} → c.Object → c.Object
  | .workload, (o : Workload) =>
    ({ o with metadata := { o.metadata with resourceVersion := none } } : Workload)
  | .endpoint, (o : Endpoint) =>
    ({ o with
        metadata := { o.metadata with resourceVersion := none }
        spec := o.spec.map fun s => { s with clusterIP := none, clusterIPs := none } } : Endpoint)

/-- The child says what it wants to be. -/
def HasSpec : {c : Child} → c.Object → Prop
  | .workload, (o : Workload) => o.spec ≠ none
  | .endpoint, (o : Endpoint) => o.spec ≠ none

variable {c : Child} (desired first second : c.Object)

theorem unassigned_carryOver : unassigned (carryOver desired first) = unassigned desired := by
  cases c with
  | workload => rfl
  | endpoint =>
    obtain ⟨_, spec, _⟩ := desired
    obtain ⟨_, old, _⟩ := first
    cases spec <;> cases old <;> rfl

theorem carryOver_self : carryOver (carryOver desired first) first = carryOver desired first := by
  cases c with
  | workload => rfl
  | endpoint =>
    refine (Endpoint.carryOver_carryOver desired first first).trans ?_
    rw [Option.or_self]
    rfl

theorem carryOver_last (h : HasSpec second ∨ ¬ HasSpec desired) :
    carryOver (carryOver desired first) second = carryOver desired second := by
  cases c with
  | workload => rfl
  | endpoint =>
    refine (Endpoint.carryOver_last_iff desired first second).2 (h.imp_right fun hnone => ?_)
    exact Endpoint.spec_carryOver_of_none (.inl (Classical.not_not.1 hnone))

/-- An owner and what is carried over are put into different fields. -/
theorem carryOver_withOwners (owners : Option (List OwnerReference)) :
    carryOver (Kind.withOwners desired owners) first =
      Kind.withOwners (carryOver desired first) owners := by
  cases c <;> rfl

theorem attachOwner_carryOver (parent : Intent) :
    attachOwner parent (carryOver desired first) =
      (attachOwner parent desired).map fun o => carryOver o first := by
  rw [attachOwner_eq_withOwners, attachOwner_eq_withOwners]
  cases parent.reference with
  | error r => rfl
  | ok owner => exact congrArg Except.ok (carryOver_withOwners desired first _).symm

/-! ## The law -/

/-- Who puts an owner into a child, and what is changed by it. -/
structure TakesOwner (parent : Intent) (c : Child) : Prop where
  /-- The owners are replaced by a reference to the parent, and all else is kept. -/
  attached : ∀ uid name, parent.metadata.uid = some uid → parent.metadata.name = some name →
    ∀ o : c.Object, ∃ o', attachOwner parent o = .ok o' ∧
      (Kind.metadata o').ownerReferences = some
        [{ apiVersion := "kaimera.ai/v1", kind := "ModelDeployment", name, uid,
           controller := some true, blockOwnerDeletion := some true }] ∧
      ∀ owners, Kind.withOwners o' owners = Kind.withOwners o owners
  discards : ∀ (o : c.Object) (owners : Option (List OwnerReference)),
    attachOwner parent (Kind.withOwners o owners) = attachOwner parent o
  idempotent : ∀ o o' : c.Object, attachOwner parent o = .ok o' → attachOwner parent o' = .ok o'
  /-- Of two owners the later one counts. -/
  last : ∀ (other : Intent) (o o' : c.Object), attachOwner parent o = .ok o' →
    attachOwner other o' = attachOwner other o
  refused : ∀ (o : c.Object) (r : Report OwnershipError), attachOwner parent o = .error r ↔
    (parent.metadata.uid = none ∧
        r = .of (.missingOwnerField "ModelDeployment" "metadata.uid")) ∨
      (parent.metadata.uid ≠ none ∧ parent.metadata.name = none ∧
        r = .of (.missingOwnerField "ModelDeployment" "metadata.name"))

/-- What a child takes over from the stored one. -/
structure TakesOver (c : Child) : Prop where
  version : ∀ desired stored : c.Object,
    (Kind.metadata (carryOver desired stored)).resourceVersion =
      (Kind.metadata stored).resourceVersion
  /-- All is kept but the version, and the addresses of an endpoint. -/
  rest : ∀ desired stored : c.Object, unassigned (carryOver desired stored) = unassigned desired
  addresses : ∀ (desired stored : Endpoint) (spec old : EndpointSpec), desired.spec = some spec →
    stored.spec = some old → (carryOver (c := .endpoint) desired stored : Endpoint).spec =
      some { spec with clusterIP := old.clusterIP, clusterIPs := old.clusterIPs }
  no_addresses : ∀ desired stored : Endpoint, desired.spec = none ∨ stored.spec = none →
    (carryOver (c := .endpoint) desired stored : Endpoint).spec = desired.spec
  idempotent : ∀ desired stored : c.Object,
    carryOver (carryOver desired stored) stored = carryOver desired stored
  /-- Of two stored children the later one counts, if it has a spec or nothing is desired. -/
  last : ∀ desired first second : c.Object, HasSpec second ∨ ¬ HasSpec desired →
    carryOver (carryOver desired first) second = carryOver desired second
  /-- Otherwise it counts alone just if the addresses were the same before. -/
  last_endpoint : ∀ desired first second : Endpoint,
    carryOver (c := .endpoint) (carryOver (c := .endpoint) desired first) second =
        carryOver (c := .endpoint) desired second ↔
      second.spec ≠ none ∨ (carryOver (c := .endpoint) desired first : Endpoint).spec = desired.spec

theorem takesOwner (parent : Intent) (c : Child) : TakesOwner parent c := by
  constructor
  case attached =>
    intro uid name huid hname o
    refine ⟨_, attachOwner_eq_ok.2 ⟨uid, name, huid, hname, rfl⟩, ?_, fun owners => ?_⟩
    · rw [Kind.metadata_withOwners]
      rfl
    · exact Kind.withOwners_withOwners _ _
  case discards => exact fun o owners => attachOwner_withOwners owners
  case idempotent => exact fun o o' h => (attachOwner_attachOwner h).trans h
  case last => exact fun other o o' h => attachOwner_attachOwner h
  case refused => exact fun o r => attachOwner_eq_error

theorem takesOver (c : Child) : TakesOver c := by
  constructor
  case version => exact fun desired stored => versionOf_carryOver desired stored
  case rest => exact unassigned_carryOver
  case addresses =>
    intro desired stored spec old hspec hold
    simp only [carryOver, Endpoint.carryOver, hspec, hold, EndpointSpec.carryOver]
  case no_addresses => exact fun desired stored h => Endpoint.spec_carryOver_of_none h
  case idempotent => exact carryOver_self
  case last => exact carryOver_last
  case last_endpoint => exact Endpoint.carryOver_last_iff

/-- The owner of a child and what it takes over from the stored one are put into fields of
their own, in any order, and nothing else is changed. -/
theorem owners_and_assigned_fields_keep_apart (parent : Intent) (c : Child) :
    TakesOwner parent c ∧ TakesOver c ∧ ∀ desired stored : c.Object,
      attachOwner parent (carryOver desired stored) =
        (attachOwner parent desired).map fun o => carryOver o stored :=
  ⟨takesOwner parent c, takesOver c, fun desired stored =>
    attachOwner_carryOver desired stored parent⟩

/-- A stored endpoint without a spec does not take back the addresses of an earlier one, and
an intent that was never stored owns nothing. -/
theorem the_later_of_two_does_not_count_alone_without_a_spec :
    let desired : Endpoint := { spec := some {} }
    let first : Endpoint := { spec := some { clusterIP := some "10.0.0.1" } }
    let parent : Intent :=
      { metadata := { name := some "llama" }, spec := { modelName := "llama" } }
    Endpoint.carryOver (Endpoint.carryOver desired first) {} ≠ Endpoint.carryOver desired {} ∧
      attachOwner (k := .endpoint) parent desired =
        .error (.of (.missingOwnerField "ModelDeployment" "metadata.uid")) := by
  intro desired first parent
  obtain ⟨howner, hover, -⟩ := owners_and_assigned_fields_keep_apart parent .endpoint
  constructor
  · intro h
    rcases (hover.last_endpoint desired first {}).1 h with h | h
    · exact h rfl
    · revert h
      decide
  · exact (howner.refused desired _).2 (.inl ⟨rfl, rfl⟩)

end Child

end ServingOperator
