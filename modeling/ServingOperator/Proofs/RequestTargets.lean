-- The laws of targets. A target starts with the path of a kind, whatever
-- the names that follow it, so requests to read objects of two kinds are
-- never the same. Names that are safe in URLs and not too long make targets,
-- and from the path of such a target they are read back.
import Mathlib.Data.List.Basic
import ServingOperator.Proofs.TextBytes
import ServingOperator.Rest.Message
import ServingOperator.Rest.Place

namespace ServingOperator

namespace Rest

/-! ## Requests -/

theorem request?_eq_some {call : Call} {i : Identity} {r : Request} :
    request? call i = some r ↔
      Target.ofChars? (targetText call i).toList = some r.target ∧ r.method = method call ∧
        r.body = body call := by
  constructor
  · intro h
    obtain ⟨target, htarget, rfl⟩ := Option.map_eq_some_iff.1 h
    exact ⟨htarget, rfl, rfl⟩
  · rintro ⟨htarget, hmethod, hbody⟩
    rw [request?, htarget, Option.map_some, ← hmethod, ← hbody]

theorem split?_of_ofChars? {cs : List Char} {t : Target} (h : Target.ofChars? cs = some t) :
    Target.split? cs = some t := by
  rw [Target.ofChars?] at h
  split at h
  · cases h
  · exact h

/-! ## Paths -/

/-- Characters that may stand in a path are taken as they are. -/
theorem split?_append {cs : List Char} (h : ∀ c ∈ cs, allowedInPath c = true) (rest : List Char) :
    Target.split? (cs ++ rest) = (Target.split? rest).map fun t => ⟨cs ++ t.path, t.query⟩ := by
  induction cs with
  | nil => simp
  | cons c cs ih =>
    have hc := h c List.mem_cons_self
    have hsharp : c ≠ '#' := fun hc' => absurd hc (by rw [hc']; decide)
    have hmark : c ≠ '?' := fun hc' => absurd hc (by rw [hc']; decide)
    rw [List.cons_append, Target.split?, if_neg hsharp, if_neg hmark, if_pos hc,
      ih fun c' hc' => h c' (List.mem_cons_of_mem _ hc'), Option.map_map]
    rfl

/-- The start of every path to an object of a kind. -/
def rootPath (k : Kind) : String := groupPath k ++ "/namespaces/"

theorem allowed_rootPath (k : Kind) : ∀ c ∈ (rootPath k).toList, allowedInPath c = true := by
  rw [← List.all_eq_true]
  cases k <;> decide

theorem starts_at_root {k : Kind} {i : Identity} {r : Request}
    (h : request? (.get k i) i = some r) : (rootPath k).toList <+: r.target.path := by
  have htext : (targetText (.get k i) i).toList =
      (rootPath k).toList ++ (i.ns ++ "/" ++ plural k ++ "/" ++ i.name).toList := by
    simp [targetText, objectPath, collectionPath, rootPath]
  have htarget := split?_of_ofChars? (request?_eq_some.1 h).1
  rw [htext, split?_append (allowed_rootPath k)] at htarget
  obtain ⟨t, _, ht⟩ := Option.map_eq_some_iff.1 htarget
  rw [← ht]
  exact List.prefix_append _ _

/-- What a request reads is told by its path. -/
theorem kind_of_get {k k' : Kind} {i i' : Identity} {r : Request}
    (h : request? (.get k i) i = some r) (h' : request? (.get k' i') i' = some r) : k = k' := by
  have hroots : ∀ k k', (rootPath k).toList <+: (rootPath k').toList → k = k' := by
    intro k k'
    cases k <;> cases k' <;> decide
  rcases List.prefix_or_prefix_of_prefix (starts_at_root h) (starts_at_root h') with hp | hp
  · exact hroots k k' hp
  · exact (hroots k' k hp).symm

/-! ## Names that are safe in URLs -/

/-- A character that stands for itself anywhere in a URL. -/
def unreserved (c : Char) : Bool := c.isAlphanum || c ∈ ['-', '.', '_', '~']

/-- A name that is not empty and safe in URLs. -/
structure UrlSafe (name : String) : Prop where
  nonempty : name ≠ ""
  unreserved : ∀ c ∈ name.toList, unreserved c = true

/-- Both names of an identity are safe in URLs. -/
structure Safe (i : Identity) : Prop where
  ns : UrlSafe i.ns
  name : UrlSafe i.name

/-- No target for the intent `i` or its children is too long. -/
structure Fits (i : Identity) : Prop where
  intent : Text.byteLength (objectPath .intent i).toList ≤ maxTargetBytes
  child : ∀ c : Child, Text.byteLength (objectPath c.kind i ++ writerQuery).toList ≤ maxTargetBytes

theorem toNat_lt_of_unreserved {c : Char} (h : unreserved c = true) : c.toNat < 128 := by
  have hupper : c.isUpper = true → c.toNat ≤ 'Z'.toNat := fun h => (of_decide_eq_true h).2
  have hlower : c.isLower = true → c.toNat ≤ 'z'.toNat :=
    fun h => of_decide_eq_true (Bool.and_eq_true_iff.1 h).2
  have hdigit : c.isDigit = true → c.toNat ≤ '9'.toNat :=
    fun h => of_decide_eq_true (Bool.and_eq_true_iff.1 h).2
  rcases Bool.or_eq_true_iff.1 h with halnum | hmark
  · rcases Bool.or_eq_true_iff.1 halnum with halpha | h
    · rcases Bool.or_eq_true_iff.1 halpha with h | h
      · exact Nat.lt_of_le_of_lt (hupper h) (by decide)
      · exact Nat.lt_of_le_of_lt (hlower h) (by decide)
    · exact Nat.lt_of_le_of_lt (hdigit h) (by decide)
  · have hmem : c ∈ ['-', '.', '_', '~'] := of_decide_eq_true hmark
    simp only [List.mem_cons, List.not_mem_nil, or_false] at hmem
    rcases hmem with rfl | rfl | rfl | rfl <;> decide

theorem allowed_of_unreserved {c : Char} (h : unreserved c = true) : allowedInPath c = true := by
  have hall : ∀ n < 128, unreserved (Char.ofNat n) = true →
      allowedInPath (Char.ofNat n) = true := by
    decide
  have hc := hall c.toNat (toNat_lt_of_unreserved h)
  rw [Char.ofNat_toNat] at hc
  exact hc h

theorem UrlSafe.of_all {name : String} (h : name ≠ "")
    (hall : name.toList.all Rest.unreserved = true) : UrlSafe name := ⟨h, List.all_eq_true.1 hall⟩

theorem UrlSafe.no_slash {name : String} (h : UrlSafe name) : '/' ∉ name.toList :=
  fun hmem => absurd (h.unreserved '/' hmem) (by decide)

theorem UrlSafe.allowed {name : String} (h : UrlSafe name) :
    ∀ c ∈ name.toList, allowedInPath c = true :=
  fun c hc => allowed_of_unreserved (h.unreserved c hc)

/-! ## Places -/

theorem groupPieces_of_isPrefixOf? {k k' : Kind} {l r : List (List Char)}
    (h : (Text.pieces '/' (groupPath k').toList).isPrefixOf?
      (Text.pieces '/' (groupPath k).toList ++ l) = some r) : k' = k ∧ r = l := by
  have hgroups : ∀ k k', Text.pieces '/' (groupPath k).toList <+:
      Text.pieces '/' (groupPath k').toList → k = k' := by
    intro k k'
    cases k <;> cases k' <;> decide
  have happend := List.isPrefixOf?_eq_some_iff_append_eq.1 h
  have hkind : k' = k := by
    rcases List.prefix_or_prefix_of_prefix (List.prefix_append _ r)
      (happend ▸ List.prefix_append _ l) with hp | hp
    · exact hgroups _ _ hp
    · exact (hgroups _ _ hp).symm
  subst hkind
  exact ⟨rfl, List.append_cancel_left happend⟩

/-- A path that starts at the root of a kind leads to a place of the kind. -/
theorem ofPath?_rootPath {k : Kind} {rest : List Char} {p : Place}
    (h : Place.ofSegments? k ("namespaces" :: (Text.pieces '/' rest).map String.ofList) = some p) :
    Place.ofPath? ((rootPath k).toList ++ rest) = some p := by
  have hroot : (rootPath k).toList ++ rest =
      (groupPath k).toList ++ '/' :: ("namespaces".toList ++ '/' :: rest) := by
    simp [rootPath]
  have hslash : '/' ∉ "namespaces".toList := by decide
  have hpieces : Text.pieces '/' ((rootPath k).toList ++ rest) =
      Text.pieces '/' (groupPath k).toList ++ "namespaces".toList :: Text.pieces '/' rest := by
    rw [hroot, Text.pieces_append, Text.pieces_append, Text.pieces_of_not_mem hslash,
      List.singleton_append]
  let place k' := ((Text.pieces '/' (groupPath k').toList).isPrefixOf?
    (Text.pieces '/' ((rootPath k).toList ++ rest))).bind fun rest =>
      Place.ofSegments? k' (rest.map String.ofList)
  have hplace : place k = some p := by
    have hstart := List.isPrefixOf?_eq_some_iff_append_eq.2 hpieces.symm
    simp only [place, hstart, Option.bind_some, List.map_cons, String.ofList_toList, h]
  have hother : ∀ k' ≠ k, place k' = none := by
    intro k' hne
    refine Option.bind_eq_none_iff.2 fun r hr => ?_
    rw [hpieces] at hr
    exact absurd (groupPieces_of_isPrefixOf? hr).1 hne
  change [Kind.intent, Kind.workload, Kind.endpoint].findSome? place = some p
  cases k with
  | intent => simp [hplace]
  | workload => simp [hplace, hother .intent]
  | endpoint => simp [hplace, hother .intent, hother .workload]

/-- The path of a call: a create goes to the collection. -/
def callPath (c : Call) (i : Identity) : String :=
  match c with
  | .get k _ | .replace k _ => objectPath k i
  | .create k _ => collectionPath k (some i.ns)

theorem targetText_eq (c : Call) (i : Identity) :
    targetText c i = callPath c i ++ (if c.verb = .get then "" else writerQuery) := by
  cases c with
  | get => simp [targetText, callPath, Call.verb]
  | create | replace => rfl

theorem objectPath_toList (k : Kind) (i : Identity) :
    (objectPath k i).toList = (rootPath k).toList ++
      (i.ns.toList ++ '/' :: ((plural k).toList ++ '/' :: i.name.toList)) := by
  simp [objectPath, collectionPath, rootPath]

theorem collectionPath_toList (k : Kind) (ns : String) :
    (collectionPath k (some ns)).toList = (rootPath k).toList ++
      (ns.toList ++ '/' :: (plural k).toList) := by
  simp [collectionPath, rootPath]

theorem split?_writerQuery :
    Target.split? writerQuery.toList = some ⟨[], some "&fieldManager=model-operator".toList⟩ := by
  decide

section

variable {i : Identity} (hi : Safe i)
include hi

theorem allowed_callPath (c : Call) : ∀ x ∈ (callPath c i).toList, allowedInPath x = true := by
  have hslash : allowedInPath '/' = true := by decide
  have hplural : ∀ k, ∀ x ∈ (plural k).toList, allowedInPath x = true := by
    intro k
    rw [← List.all_eq_true]
    cases k <;> decide
  have hroot := allowed_rootPath
  cases c with
  | get k | replace k =>
    rw [callPath, objectPath_toList]
    simp only [List.forall_mem_append, List.forall_mem_cons]
    exact ⟨hroot k, hi.ns.allowed, hslash, hplural k, hslash, hi.name.allowed⟩
  | create k =>
    rw [callPath, collectionPath_toList]
    simp only [List.forall_mem_append, List.forall_mem_cons]
    exact ⟨hroot k, hi.ns.allowed, hslash, hplural k⟩

/-- A path to an object leads to the object. -/
theorem ofPath?_objectPath (k : Kind) :
    Place.ofPath? (objectPath k i).toList = some ⟨k, some i.ns, some i.name⟩ := by
  have hplural : '/' ∉ (plural k).toList := by cases k <;> decide
  rw [objectPath_toList]
  refine ofPath?_rootPath ?_
  rw [Text.pieces_append, Text.pieces_append, Text.pieces_of_not_mem hi.ns.no_slash,
    Text.pieces_of_not_mem hplural, Text.pieces_of_not_mem hi.name.no_slash]
  simp [Place.ofSegments?]

/-- A path to a collection leads to the collection. -/
theorem ofPath?_collectionPath (k : Kind) :
    Place.ofPath? (collectionPath k (some i.ns)).toList = some ⟨k, some i.ns, none⟩ := by
  have hplural : '/' ∉ (plural k).toList := by cases k <;> decide
  rw [collectionPath_toList]
  refine ofPath?_rootPath ?_
  rw [Text.pieces_append, Text.pieces_of_not_mem hi.ns.no_slash, Text.pieces_of_not_mem hplural]
  simp [Place.ofSegments?]

/-- The target of a call holds its path as it is. -/
theorem split?_targetText (c : Call) :
    ∃ query, Target.split? (targetText c i).toList = some ⟨(callPath c i).toList, query⟩ := by
  rw [targetText_eq, String.toList_append, split?_append (allowed_callPath hi c)]
  split
  · exact ⟨none, by simp [Target.split?]⟩
  · rw [split?_writerQuery]
    exact ⟨_, by rw [Option.map_some, List.append_nil]⟩

theorem path_of_request {c : Call} {r : Request} (h : request? c i = some r) :
    r.target.path = (callPath c i).toList := by
  obtain ⟨query, hquery⟩ := split?_targetText hi c
  have htarget := split?_of_ofChars? (request?_eq_some.1 h).1
  rw [hquery] at htarget
  rw [← Option.some.inj htarget]

/-- There is a request for a call if its target is not too long. -/
theorem exists_request {c : Call} (h : Text.byteLength (targetText c i).toList ≤ maxTargetBytes) :
    ∃ r, request? c i = some r := by
  obtain ⟨query, hquery⟩ := split?_targetText hi c
  refine ⟨⟨method c, ⟨(callPath c i).toList, query⟩, body c⟩, request?_eq_some.2 ⟨?_, rfl, rfl⟩⟩
  rw [Target.ofChars?, if_neg (Nat.not_lt.2 h), hquery]

end

/-! ## Length -/

theorem Fits.get {i : Identity} (h : Fits i) (k : Kind) :
    Text.byteLength (targetText (.get k i) i).toList ≤ maxTargetBytes := by
  have hchild := h.child
  simp only [String.toList_append, Text.byteLength_append] at hchild
  cases k with
  | intent => exact h.intent
  | workload => exact Nat.le_trans (Nat.le_add_right _ _) (hchild .workload)
  | endpoint => exact Nat.le_trans (Nat.le_add_right _ _) (hchild .endpoint)

theorem Fits.replace {i : Identity} (h : Fits i) (c : Child) (o : c.Object) :
    Text.byteLength (targetText (.replace c.kind o) i).toList ≤ maxTargetBytes := h.child c

theorem request?_of_long_name {k : Kind} {i : Identity}
    (h : maxTargetBytes < i.name.toList.length) : request? (.get k i) i = none := by
  have hlong : maxTargetBytes < Text.byteLength (targetText (.get k i) i).toList := by
    refine Nat.lt_of_lt_of_le h (Nat.le_trans ?_ (Text.length_le_byteLength _))
    simp only [targetText, objectPath_toList, List.length_append, List.length_cons]
    omega
  rw [request?, Target.ofChars?, if_pos hlong, Option.map_none]

theorem Fits.create {i : Identity} (h : Fits i) (c : Child) (o : c.Object) :
    Text.byteLength (targetText (.create c.kind o) i).toList ≤ maxTargetBytes := by
  have hchild := h.child c
  simp only [targetText, objectPath, String.toList_append, Text.byteLength_append] at hchild ⊢
  omega

end Rest

end ServingOperator
