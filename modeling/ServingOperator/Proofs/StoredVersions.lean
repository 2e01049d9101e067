-- The law of versions. A version is given to one entry and stays with it: no two entries of a
-- store have the same one, each object that is stored gets a greater one than all before it,
-- and an entry that has the version that it had before was not touched in between. This holds
-- of every store that requests and passes lead to, whatever versions they bring along.
import ServingOperator.Proofs.Cancellation
import ServingOperator.Proofs.StoreAnswers

namespace ServingOperator

namespace Store

variable {s t : Store} {key key' : Key} {v v' : Json} {version version' : String}

/-! ## Entries -/

/-- The entry is in the store, and it is the form of an object of the kind of its key, with the
name and the namespace of its key and with this version. -/
structure Holds (s : Store) (key : Key) (v : Json) (version : String) : Prop where
  kept : (key, v) ∈ s.objects
  form : ∃ o : key.kind.Object, key.kind.decode v = .ok o ∧
    (Kind.metadata o).name = some key.identity.name ∧
    (Kind.metadata o).ns = some key.identity.ns ∧ versionOf o = some version

theorem mem_of_find? (h : s.find? key = some v) : (key, v) ∈ s.objects := by
  obtain ⟨before, after, hobjects, -⟩ := List.lookup_eq_some_iff.1 h
  rw [hobjects]
  exact List.mem_append_right before List.mem_cons_self

/-- An entry has one version. -/
theorem Holds.unique (h : s.Holds key v version) (h' : t.Holds key v version') :
    version = version' := by
  obtain ⟨o, hdecode, -, -, hversion⟩ := h.form
  obtain ⟨o', hdecode', -, -, hversion'⟩ := h'.form
  cases hdecode.symm.trans hdecode'
  exact Option.some.inj (hversion.symm.trans hversion')

/-- The invariant of the entries of a store. -/
structure Versioned (s : Store) : Prop where
  /-- Under each key there is one entry. -/
  keys : (s.objects.map Prod.fst).Nodup
  /-- An entry is an object that belongs there, and it has a version that was given out. -/
  entry : ∀ key v, (key, v) ∈ s.objects →
    ∃ n, s.Holds key v (toString n) ∧ 1 ≤ n ∧ n ≤ s.counter
  /-- Different entries have different versions. -/
  apart : ∀ key key' v v' version, s.Holds key v version → s.Holds key' v' version →
    key = key' ∧ v = v'

theorem versioned_empty : Versioned empty where
  keys := List.nodup_nil
  entry _ _ h := nomatch h
  apart _ _ _ _ _ h := nomatch h.kept

/-! ## One step -/

theorem nodup_drop {objects : List (Key × Json)} (h : (objects.map Prod.fst).Nodup) (key : Key) :
    ((objects.filter (·.1 ≠ key)).map Prod.fst).Nodup :=
  h.sublist ((List.filter_sublist).map Prod.fst)

theorem Change.nodup_keys (h : s.Change t) (hs : (s.objects.map Prod.fst).Nodup) :
    (t.objects.map Prod.fst).Nodup := by
  cases h with
  | same ho _ => rwa [ho]
  | @kept k i o _ ho _ =>
    rw [ho]
    refine List.nodup_cons.2 ⟨fun hmem => ?_, nodup_drop hs _⟩
    obtain ⟨e, he, hkey⟩ := List.mem_map.1 hmem
    simp [hkey] at he
  | dropped k i ho _ =>
    rw [ho]
    exact nodup_drop hs _

/-- What a step does to the entries: it adds at most one, and that one has the next version. -/
theorem Change.entries (h : s.Change t) :
    (t.counter = s.counter ∧ ∀ e ∈ t.objects, e ∈ s.objects) ∨
      (t.counter = s.counter + 1 ∧ ∃ key v, t.Holds key v s.nextVersion ∧
        ∀ e ∈ t.objects, e = (key, v) ∨ e ∈ s.objects) := by
  cases h with
  | same ho hc => exact .inl ⟨hc, fun e he => ho ▸ he⟩
  | @kept k i o hi ho hc =>
    have hobjects : t.objects = (⟨k, i⟩, Kind.encode (withVersion o s.nextVersion)) ::
        s.objects.filter (·.1 ≠ ⟨k, i⟩) := ho
    have hidentity := Kind.identity?_eq_ok.1 ((identity?_withVersion o s.nextVersion).trans hi)
    refine .inr ⟨hc, ⟨k, i⟩, Kind.encode (withVersion o s.nextVersion), ⟨?_, ?_⟩, fun e he => ?_⟩
    · rw [hobjects]
      exact List.mem_cons_self
    · exact ⟨_, Kind.decode_encode _, hidentity.1, hidentity.2, versionOf_withVersion _ _⟩
    · rw [hobjects] at he
      exact (List.mem_cons.1 he).imp_right fun h => (List.mem_filter.1 h).1
  | dropped k i ho hc =>
    refine .inl ⟨hc, fun e he => ?_⟩
    rw [ho] at he
    exact (List.mem_filter.1 he).1

theorem nextVersion_ne {n : Nat} (hn : n ≤ s.counter) : toString n ≠ s.nextVersion := by
  intro h
  have := toString_inj.1 h
  omega

theorem Change.entry (h : s.Change t) (hs : s.Versioned) (hmem : (key, v) ∈ t.objects) :
    ∃ n, t.Holds key v (toString n) ∧ 1 ≤ n ∧ n ≤ t.counter := by
  have hold : (key, v) ∈ s.objects → ∃ n, t.Holds key v (toString n) ∧ 1 ≤ n ∧ n ≤ t.counter := by
    intro hbefore
    obtain ⟨n, hn, hpos, hle⟩ := hs.entry key v hbefore
    exact ⟨n, ⟨hmem, hn.form⟩, hpos, Nat.le_trans hle h.counter_le⟩
  rcases h.entries with ⟨-, hall⟩ | ⟨hc, key₀, v₀, hnew, hall⟩
  · exact hold (hall _ hmem)
  · rcases hall _ hmem with hnow | hbefore
    · cases hnow
      exact ⟨s.counter + 1, hnew, Nat.succ_pos _, Nat.le_of_eq hc.symm⟩
    · exact hold hbefore

theorem Change.apart (h : s.Change t) (hs : s.Versioned) (hv : t.Holds key v version)
    (hv' : t.Holds key' v' version) : key = key' ∧ v = v' := by
  -- the next version is not one of an entry that was there
  have hfresh : ∀ key v, (key, v) ∈ s.objects → ¬ t.Holds key v s.nextVersion := by
    intro key v hmem hv
    obtain ⟨n, hn, -, hle⟩ := hs.entry key v hmem
    exact nextVersion_ne hle (hn.unique hv)
  rcases h.entries with ⟨-, hall⟩ | ⟨-, key₀, v₀, hnew, hall⟩
  · exact hs.apart _ _ _ _ _ ⟨hall _ hv.kept, hv.form⟩ ⟨hall _ hv'.kept, hv'.form⟩
  · rcases hall _ hv.kept with hnow | hbefore <;> rcases hall _ hv'.kept with hnow' | hbefore'
    · cases hnow
      cases hnow'
      exact ⟨rfl, rfl⟩
    · cases hnow
      cases hv.unique hnew
      exact absurd hv' (hfresh key' v' hbefore')
    · cases hnow'
      cases hv'.unique hnew
      exact absurd hv (hfresh key v hbefore)
    · exact hs.apart _ _ _ _ _ ⟨hbefore, hv.form⟩ ⟨hbefore', hv'.form⟩

theorem Change.versioned (h : s.Change t) (hs : s.Versioned) : t.Versioned :=
  ⟨h.nodup_keys hs.keys, fun _ _ => h.entry hs, fun _ _ _ _ _ => h.apart hs⟩

/-- An entry that has an old version was there before. -/
theorem Change.kept_since (h : s.Change t) {n : Nat} (hv : t.Holds key v (toString n))
    (hn : n ≤ s.counter) : s.Holds key v (toString n) := by
  rcases h.entries with ⟨-, hold⟩ | ⟨-, key₀, v₀, hnew, hold⟩
  · exact ⟨hold _ hv.kept, hv.form⟩
  · rcases hold _ hv.kept with hnow | hbefore
    · cases hnow
      exact absurd (hv.unique hnew) (nextVersion_ne hn)
    · exact ⟨hbefore, hv.form⟩

/-! ## Many steps -/

theorem Later.versioned (h : s.Later t) (hs : s.Versioned) : t.Versioned := by
  induction h with
  | refl => exact hs
  | perform op _ ih => exact (change_perform _ op).versioned ih

theorem Later.kept_since (h : s.Later t) {n : Nat} (hv : t.Holds key v (toString n))
    (hn : n ≤ s.counter) : s.Holds key v (toString n) := by
  induction h with
  | refl => exact hv
  | perform op hlater ih =>
    exact ih ((change_perform _ op).kept_since hv (Nat.le_trans hn hlater.counter_le))

/-- A version tells which entry it is, now and later: if an entry has a version that was there
before, it is the entry that had it, and it has been there ever since. -/
theorem Later.untouched {u : Store} (h : s.Later u) (h' : u.Later t) (hs : s.Versioned)
    (hv : s.Holds key v version) (hv' : t.Holds key' v' version) :
    key' = key ∧ v' = v ∧ u.Holds key v version := by
  obtain ⟨n, hn, -, hle⟩ := hs.entry key v hv.kept
  cases hv.unique hn
  have hbefore := (h.trans h').kept_since hv' hle
  obtain ⟨rfl, rfl⟩ := hs.apart key' key v' v _ hbefore hv
  exact ⟨rfl, rfl, h'.kept_since hv' (Nat.le_trans hle h.counter_le)⟩

end Store

/-! ## What is done to a store -/

/-- What is done to a store at a time: a request is made of it, or a pass goes over an intent,
with a token that may fire. -/
inductive Doing where
  | request (r : Request)
  | pass (policies : PolicyTable) (id : Identity) (token : Token)

namespace Doing

/-- The requests by which it is done. The latest stands first. -/
def requests (s : Store) : Doing → List Request
  | request r => [r]
  | pass policies id token =>
    (((Pass.reconcile policies id).callsFrom (.alone token) 1 s).map Request.call).reverse

/-- The store afterwards. -/
def leaves (s : Store) : Doing → Store
  | request r => (s.respond r).2
  | pass policies id token => ((Pass.reconcile policies id).run (.alone token) s).state

end Doing

/-- What the exchange stores gets version `n`. -/
def Exchange.Assigns (e : Exchange) (n : Nat) : Prop :=
  ∃ (k : Kind) (i : Identity) (a : k.Object), e.Stores i a ∧
    Store.versionOf a = some (toString n)

namespace Store

/-- The store after all that was done to an empty one. The latest stands first. -/
def leftBy : List Doing → Store
  | [] => empty
  | d :: before => d.leaves (leftBy before)

/-- The requests by which all of it was done. The latest stands first. -/
def requestsOf : List Doing → List Request
  | [] => []
  | d :: before => d.requests (leftBy before) ++ requestsOf before

variable {s : Store} {k : Kind} {i : Identity} {before doings : List Doing}

/-! ### Requests of passes -/

theorem state_run_calls (calls : List Call) (before : List Request) :
    (machine.run ((calls.map Request.call).reverse ++ before)).2 =
      (machine.run before).2.afterCalls calls := by
  induction calls generalizing before with
  | nil => rfl
  | cons call rest ih =>
    rw [List.map_cons, List.reverse_cons, List.append_assoc, List.singleton_append, ih]
    rfl

/-- A pass does nothing to a store but make its calls. -/
theorem leftBy_eq (doings : List Doing) :
    leftBy doings = (machine.run (requestsOf doings)).2 := by
  induction doings with
  | nil => rfl
  | cons d before ih =>
    cases d with
    | request r =>
      rw [leftBy, ih]
      rfl
    | pass policies id token =>
      rw [leftBy, Doing.leaves, Pass.run, state_eq_after, after_alone, requestsOf, Doing.requests,
        state_run_calls, ← ih]

theorem later_respond (s : Store) (r : Request) : s.Later (s.respond r).2 := by
  cases r with
  | look => exact .refl
  | insert k o =>
    rw [respond_insert]
    exact .perform (.insert k o) .refl
  | remove k i => exact .perform (.remove k i) .refl
  | failOn verb k e => exact .perform (.failOn verb k e) .refl
  | clearFailures => exact .perform .clearFailures .refl
  | hangOn verb k => exact .perform (.hangOn verb k) .refl
  | call c => exact .perform (.call c) .refl

theorem later_leaves (s : Store) (d : Doing) : s.Later (d.leaves s) := by
  cases d with
  | request r => exact later_respond s r
  | pass policies id token => exact later_runFrom _ 1 s

theorem later_leftBy (h : before <:+ doings) : (leftBy before).Later (leftBy doings) := by
  obtain ⟨since, rfl⟩ := h
  induction since with
  | nil => exact .refl
  | cons d rest ih => exact ih.trans (later_leaves _ d)

/-! ## Versions that are given -/

/-- An object that is stored gets the next version, and is kept with it. -/
theorem given_by_respond (hs : s.Good) {r : Request} {a : k.Object}
    (h : Exchange.Stores i a ⟨r, (s.respond r).1⟩) :
    versionOf a = some s.nextVersion ∧ (s.respond r).2.counter = s.counter + 1 ∧
      (s.respond r).2.Holds ⟨k, i⟩ (Kind.encode a) s.nextVersion := by
  have hstored : (s.respond r).2.stored? k i = some a := by
    rcases respond_cases hs r k i with ⟨b, hb, hthere⟩ | ⟨rfl, -⟩ | ⟨hno, -⟩
    · rw [hthere, h.unique hb]
    · cases h
    · exact absurd h (hno a)
  have hgiven : versionOf a = some s.nextVersion ∧ (s.respond r).2.counter = s.counter + 1 := by
    cases h with
    | insert hi hok =>
      simp only [respond, Store.insert, hi, Except.map] at hok ⊢
      cases hok
      exact ⟨versionOf_withVersion _ _, rfl⟩
    | create hi hok =>
      have hwrote := (hs.created hi hok).2
      exact ⟨by rw [hwrote.answer, versionOf_withVersion], hwrote.counter⟩
    | replace hi hok =>
      have hwrote := (hs.replaced hi hok).2
      exact ⟨by rw [hwrote.answer, versionOf_withVersion], hwrote.counter⟩
  have hgood := (change_respond s r).good hs
  have hfind : (s.respond r).2.find? ⟨k, i⟩ = some (Kind.encode a) := by
    rw [hgood.find?_eq, hstored]
    rfl
  have hidentity := Kind.identity?_eq_ok.1 (hgood.stamped hstored).identity
  exact ⟨hgiven.1, hgiven.2, mem_of_find? hfind, a, Kind.decode_encode a,
    hidentity.1, hidentity.2, hgiven.1⟩

/-- Each exchange that stores an object gives it a version greater than all that were given
before, whatever became of the objects that got those. The latest exchange stands first. -/
structure Rising (past : List Exchange) (s : Store) : Prop where
  given : ∀ e ∈ past, ∀ (k : Kind) (i : Identity) (a : k.Object), e.Stores i a →
    ∃ n, versionOf a = some (toString n) ∧ 1 ≤ n ∧ n ≤ s.counter
  greater : past.Pairwise fun later earlier => ∀ m n, later.Assigns m → earlier.Assigns n → n < m

theorem rising_run (requests : List Request) :
    Rising (machine.run requests).1 (machine.run requests).2 := by
  induction requests with
  | nil => exact ⟨fun e he => absurd he List.not_mem_nil, .nil⟩
  | cons r before ih =>
    have hrun : machine.run (r :: before) =
        (⟨r, ((machine.run before).2.respond r).1⟩ :: (machine.run before).1,
          ((machine.run before).2.respond r).2) := rfl
    have hgood := good_run before
    have hcounter := (change_respond (machine.run before).2 r).counter_le
    rw [hrun]
    generalize machine.run before = run at ih hgood hcounter
    obtain ⟨past, s⟩ := run
    constructor
    case given =>
      intro e he k i a hstores
      rcases List.mem_cons.1 he with rfl | he
      · obtain ⟨hversion, hnext, -⟩ := given_by_respond hgood hstores
        exact ⟨s.counter + 1, hversion, Nat.succ_pos _, Nat.le_of_eq hnext.symm⟩
      · obtain ⟨n, hversion, hpos, hle⟩ := ih.given e he k i a hstores
        exact ⟨n, hversion, hpos, Nat.le_trans hle hcounter⟩
    case greater =>
      refine List.pairwise_cons.2 ⟨fun e he m n hlater hearlier => ?_, ih.greater⟩
      obtain ⟨k, i, a, hstores, hm⟩ := hlater
      obtain ⟨k', i', a', hstores', hn⟩ := hearlier
      obtain ⟨hversion, -⟩ := given_by_respond hgood hstores
      obtain ⟨n', hn', -, hle⟩ := ih.given e he k' i' a' hstores'
      have hold : n' ≤ s.counter := hle
      have hnext : m = s.counter + 1 := toString_inj.1 (Option.some.inj (hm.symm.trans hversion))
      have hsame : n = n' := toString_inj.1 (Option.some.inj (hn.symm.trans hn'))
      omega

/-! ## The law -/

/-- What holds of the versions when all this was done to an empty store. -/
structure KeepsVersions (doings : List Doing) : Prop where
  /-- It is the store that the requests lead to, those of the passes among them. -/
  requests : leftBy doings = (machine.run (requestsOf doings)).2
  versioned : (leftBy doings).Versioned
  rising : Rising (machine.run (requestsOf doings)).1 (leftBy doings)
  /-- An object that is stored next is kept under its key, with the version it is given. -/
  stored : ∀ (r : Request) (k : Kind) (i : Identity) (a : k.Object),
    Exchange.Stores i a ⟨r, ((leftBy doings).respond r).1⟩ → ∃ version,
      versionOf a = some version ∧
        ((leftBy doings).respond r).2.Holds ⟨k, i⟩ (Kind.encode a) version
  /-- An entry with a version that an entry had at an earlier moment is that entry, and it has
  been there at every moment since. -/
  untouched : ∀ before between, before <:+ between → between <:+ doings →
    ∀ key key' v v' version, (leftBy before).Holds key v version →
      (leftBy doings).Holds key' v' version →
      key' = key ∧ v' = v ∧ (leftBy between).Holds key v version

/-- Whatever is done to a store, a version tells which object is meant: it is given once, rises
with each object that is stored, and is found on that object alone, as long as nobody stores
another one or removes it. -/
theorem a_version_is_given_once (doings : List Doing) : KeepsVersions doings where
  requests := leftBy_eq doings
  versioned := (later_leftBy List.nil_suffix).versioned versioned_empty
  rising := by
    rw [leftBy_eq]
    exact rising_run _
  stored r k i a hstores := by
    have hgood : (leftBy doings).Good := leftBy_eq doings ▸ good_run _
    obtain ⟨hversion, -, hholds⟩ := given_by_respond hgood hstores
    exact ⟨_, hversion, hholds⟩
  untouched before between hbefore hbetween key key' v v' version hv hv' :=
    (later_leftBy hbefore).untouched (later_leftBy hbetween)
      ((later_leftBy List.nil_suffix).versioned versioned_empty) hv hv'

/-- An object that is removed and created again, with the version it had before, gets another
one. -/
example :
    let o : Endpoint := { metadata := { name := some "a", ns := some "default" } }
    let s := leftBy
      [.request (.call (.create .endpoint (withVersion (k := .endpoint) o "1"))),
        .request (.remove .endpoint ⟨"default", "a"⟩), .request (.call (.create .endpoint o))]
    s.stored? .endpoint ⟨"default", "a"⟩ = some (withVersion (k := .endpoint) o "2") := by
  rfl

end Store

end ServingOperator
