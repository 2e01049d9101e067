-- The laws of what a pass writes for a child: the desired child, owned by
-- the intent, with what is carried over from the child that is stored. The
-- name and the namespace are those of the intent, and apart from its version
-- the object depends on the stored one only by its addresses.
import ServingOperator.Pass.Reconcile
import ServingOperator.Proofs.StoreCalls

namespace ServingOperator

/-! ## The owner -/

/-- The reference to an intent, if it has all that a reference needs. -/
def Intent.reference (intent : Intent) : Except (Report OwnershipError) OwnerReference :=
  match intent.metadata.uid, intent.metadata.name with
  | none, _ => .error (.of (.missingOwnerField Intent.kind "metadata.uid"))
  | some _, none => .error (.of (.missingOwnerField Intent.kind "metadata.name"))
  | some uid, some name => .ok (.toIntent name uid)

/-- An intent that is known goes by its name. -/
theorem Intent.anyName_of_identity {intent : Intent} {id : Identity}
    (hid : Kind.identity? (k := .intent) intent = .ok id) : intent.metadata.anyName = id.name := by
  have hname : intent.metadata.name = some id.name := (Kind.identity?_eq_ok.1 hid).1
  simp [Metadata.anyName, hname]

/-- An intent that is known and has a uid has all that a reference needs. -/
theorem Intent.reference_eq {intent : Intent} {id : Identity} {uid : String}
    (hid : Kind.identity? (k := .intent) intent = .ok id)
    (huid : intent.metadata.uid = some uid) : intent.reference = .ok (.toIntent id.name uid) := by
  have hname : intent.metadata.name = some id.name := (Kind.identity?_eq_ok.1 hid).1
  simp only [Intent.reference, huid, hname]

/-- The owner that a reference is to. -/
theorem Intent.reference_eq_ok {intent : Intent} {id : Identity} {owner : OwnerReference}
    (hid : Kind.identity? (k := .intent) intent = .ok id) (h : intent.reference = .ok owner) :
    ∃ uid, intent.metadata.uid = some uid ∧ owner = .toIntent id.name uid := by
  cases huid : intent.metadata.uid with
  | none => simp [Intent.reference, huid] at h
  | some uid =>
    rw [Intent.reference_eq hid huid] at h
    exact ⟨uid, rfl, (Except.ok.inj h).symm⟩

/-- The object with one owner, whoever owned it before. -/
def Kind.ownedBy {k : Kind} (o : k.Object) (owner : OwnerReference) : k.Object :=
  withMetadata o { metadata o with ownerReferences := some [owner] }

theorem attachOwner_eq {k : Kind} (intent : Intent) (o : k.Object) :
    attachOwner intent o = intent.reference.map (Kind.ownedBy o) := by
  unfold attachOwner Intent.reference
  rcases intent.metadata.uid with _ | uid <;> rcases intent.metadata.name with _ | name <;> rfl

/-! ## Desired children -/

namespace Child

theorem kind_ne_intent (c : Child) : c.kind ≠ .intent := by cases c <;> decide

theorem kind_ne {c d : Child} (h : c ≠ d) : c.kind ≠ d.kind := by
  cases c <;> cases d
  case workload.workload | endpoint.endpoint => exact absurd rfl h
  all_goals decide

/-- The child that an intent asks for under a policy. -/
def desired (intent : Intent) (policy : RuntimePolicy) : (c : Child) → c.Object
  | workload => Desired.workloadUnder intent policy
  | endpoint => Desired.endpoint intent

theorem metadata_desired (intent : Intent) (policy : RuntimePolicy) (c : Child) :
    Kind.metadata (c.desired intent policy) = Desired.childMetadata intent := by
  cases c <;> rfl

/-- The desired child as its owner has it. -/
def owned (intent : Intent) (policy : RuntimePolicy) (owner : OwnerReference) (c : Child) :
    c.Object := Kind.ownedBy (c.desired intent policy) owner

/-- A child is where its intent is. -/
theorem identity?_owned {intent : Intent} {id : Identity}
    (h : Kind.identity? (k := .intent) intent = .ok id) (policy : RuntimePolicy)
    (owner : OwnerReference) (c : Child) :
    Kind.identity? (c.owned intent policy owner) = .ok id := by
  refine Kind.identity?_eq_ok.2 ⟨?_, ?_⟩
  · simp only [owned, Kind.ownedBy, Kind.metadata_withMetadata, metadata_desired,
      Desired.childMetadata, Intent.anyName_of_identity h]
  · simp only [owned, Kind.ownedBy, Kind.metadata_withMetadata, metadata_desired,
      Desired.childMetadata]
    exact (Kind.identity?_eq_ok.1 h).2

/-! ## Writes -/

variable {c : Child}

/-- The object that is written for a child if `current` is stored. -/
def written (o : c.Object) : Option c.Object → c.Object
  | none => o
  | some current => carryOver o current

/-- The call that writes a child if `current` is stored. -/
def write (o : c.Object) : Option c.Object → Call
  | none => .create c.kind o
  | some current => .replace c.kind (carryOver o current)

def writeVerb : Option c.Object → WriteVerb
  | none => .create
  | some _ => .replace

def callVerb : Option c.Object → Verb
  | none => .create
  | some _ => .replace

def action : Option c.Object → ChildAction
  | none => .created
  | some _ => .updated

theorem metadata_carryOver (o current : c.Object) :
    Kind.metadata (carryOver o current) =
      { Kind.metadata o with resourceVersion := Store.versionOf current } := by
  cases c <;> rfl

theorem versionOf_carryOver (o current : c.Object) :
    Store.versionOf (carryOver o current) = Store.versionOf current := by
  rw [Store.versionOf, metadata_carryOver]

theorem identity?_written (o : c.Object) (current : Option c.Object) :
    Kind.identity? (written o current) = Kind.identity? o := by
  cases current with
  | none => rfl
  | some current => simp only [written, Kind.identity?, metadata_carryOver]

/-! ## Objects up to their versions -/

/-- The object without its version. -/
def unversioned {k : Kind} (o : k.Object) : k.Object :=
  Kind.withMetadata o { Kind.metadata o with resourceVersion := none }

theorem unversioned_withVersion {k : Kind} (o : k.Object) (v : String) :
    unversioned (Store.withVersion o v) = unversioned o := by
  simp [unversioned, Store.withVersion]

/-- What is written over two stored children that differ in their versions
alone differs in its version alone. -/
theorem unversioned_written_congr (o : c.Object) {current current' : Option c.Object}
    (h : current.map unversioned = current'.map unversioned) :
    unversioned (written o current) = unversioned (written o current') := by
  rcases current with _ | stored <;> rcases current' with _ | stored'
  case none.none => rfl
  case some.some =>
    have h : unversioned stored = unversioned stored' := Option.some.inj h
    cases c with
    | workload => rfl
    | endpoint =>
      -- the addresses are in the spec, and the specs are the same
      have hspec := congrArg Endpoint.spec h
      simp only [unversioned, Kind.withMetadata] at hspec
      simp only [unversioned, Kind.withMetadata, Kind.metadata, written, carryOver,
        Endpoint.carryOver, hspec]
  all_goals cases h

/-- To write again over what was written changes nothing but the version. -/
theorem unversioned_written_again (o : c.Object) (current : Option c.Object) :
    unversioned (written o (some (written o current))) = unversioned (written o current) := by
  cases c with
  | workload => cases current <;> rfl
  | endpoint =>
    obtain ⟨metadata, spec, status⟩ := o
    rcases current with _ | ⟨_, _ | old, _⟩ <;> cases spec <;> rfl

theorem unversioned_written_over {o stored : c.Object} {current : Option c.Object}
    (h : unversioned stored = unversioned (written o current)) :
    unversioned (written o (some stored)) = unversioned (written o current) := by
  have hstored : (some stored).map unversioned = (some (written o current)).map unversioned :=
    congrArg some h
  exact (unversioned_written_congr o hstored).trans (unversioned_written_again o current)

end Child

end ServingOperator
