-- The laws of the API server of a cluster. As long as it is not told to
-- refuse requests, it answers as every API server does: it finds the object
-- that a request is about, and what it sends back is read as what it keeps.
import ServingOperator.Proofs.ApiServer
import ServingOperator.Proofs.VersionForms

namespace ServingOperator

/-! ## Responses -/

namespace Rest

/-- The bytes of a text are the text. -/
theorem fromUTF8?_toUTF8 (s : String) : String.fromUTF8? s.toUTF8 = some s := by
  rw [String.fromUTF8?, String.toUTF8_eq_toByteArray, dif_pos s.isValidUTF8]
  rfl

theorem textOf_toUTF8 (status : Nat) (text : String) :
    textOf ⟨status, text.toUTF8⟩ =
      if 400 ≤ status ∧ status < 600 then .error (.api (.ofText status text)) else .ok text := by
  simp only [textOf, fromUTF8?_toUTF8, Response.isError, Bool.and_eq_true, decide_eq_true_eq]

/-- A plain form in a success is read as what it decodes as. -/
theorem objectOf_form {k : Kind} {v : Json} {o : k.Object} {status : Nat} (hplain : v.Plain)
    (hdecode : k.decode v = .ok o) (hstatus : status < 400) :
    objectOf k ⟨status, v.toText.toUTF8⟩ = .ok o := by
  rw [objectOf, textOf_toUTF8, if_neg (by omega)]
  simp only [bind, Except.bind, Json.ofLooseString?_toText hplain, Option.map_some, hdecode]

theorem ApiStatus.readsBack : ReadsBack ApiStatus.decode ApiStatus.encode := by
  refine ReadsBack.ofStrictFields (fun _ => by simp) (fun _ => by simp) fun s => ?_
  have hcode : Decode.uint16 (.int s.code.toNat) = .ok s.code := by
    have hsize := s.code.toNat_lt
    rw [Decode.uint16, if_pos ⟨by omega, by simp [UInt16.size]; omega⟩]
    simp
  have hlast : ApiStatus.withField
      { status := s.status, message := s.message, reason := s.reason } "code"
        (.int s.code.toNat) = .ok s := by
    simp only [ApiStatus.withField, hcode]
    rfl
  rw [ReadsBack.takeUp_field _ rfl, ReadsBack.takeUp_field _ rfl, ReadsBack.takeUp_field _ rfl,
    ReadsBack.takeUp_field _ hlast]
  rfl

/-- A refusal is read as the status it was made of. -/
theorem textOf_refusal {code : UInt16} (reason : String) (hlow : 400 ≤ code.toNat)
    (hhigh : code.toNat < 600) :
    textOf (Cluster.refusal code reason).response =
      .error (.api { status := "Failure", message := reason, reason, code }) := by
  have htext : ∀ st : ApiStatus, ApiStatus.ofText code.toNat st.encode.toText = st := by
    intro st
    simp only [ApiStatus.ofText, Json.ofLooseString?_toText st.solid.plain, Option.map_some,
      ApiStatus.readsBack.read_write]
  rw [Cluster.refusal, Cluster.Answer.response, textOf_toUTF8, if_pos ⟨hlow, hhigh⟩, htext]

end Rest

namespace Cluster.Server

/-! ## Objects -/

variable {s : Server} {k : Kind} {i : Identity} {o : k.Object}

theorem find?_keep_self (s : Server) (key : Key) (v : Json) :
    (s.keep key v).2.find? key = some (withVersion v (toString (s.counter + 1))) := by
  simp [find?, keep]

theorem find?_keep_ne (s : Server) {key key' : Key} (v : Json) (h : key' ≠ key) :
    (s.keep key v).2.find? key' = s.find? key' := by
  have hne : (key' == key) = false := by simpa using h
  simp only [find?, keep, List.lookup_cons, hne]
  exact Store.lookup_filter_ne s.objects h

theorem find?_drop_self (s : Server) (key : Key) : (s.drop key).find? key = none :=
  Store.lookup_filter_self s.objects key

theorem find?_drop_ne (s : Server) {key key' : Key} (h : key' ≠ key) :
    (s.drop key).find? key' = s.find? key' := Store.lookup_filter_ne s.objects h

/-- What a server holds. -/
def contents (s : Server) : Contents :=
  ⟨fun k i => (s.find? ⟨k, i⟩).bind fun v => (k.decode v).toOption, s.counter⟩

/-- No request is to be refused, and what is kept are the forms of objects
that were given versions. -/
structure Sound (s : Server) : Prop where
  faults : s.faults = []
  forms : ∀ (k : Kind) i v, s.find? ⟨k, i⟩ = some v →
    ∃ (o : k.Object) (version : String), v = withVersion (Kind.encode o) version

theorem sound_empty : Sound {} where
  faults := rfl
  forms := by
    intro k i v h
    cases h

theorem contents_of_find? {version : String}
    (h : s.find? ⟨k, i⟩ = some (withVersion (Kind.encode o) version)) :
    s.contents.find? k i = some (Store.withVersion o version) := by
  simp [contents, h, decode_withVersion]
  rfl

theorem contents_of_find?_none (h : s.find? ⟨k, i⟩ = none) : s.contents.find? k i = none := by
  simp [contents, h]

theorem stores_keep (s : Server) (i : Identity) (o : k.Object) :
    s.contents.Stores (s.keep ⟨k, i⟩ (Kind.encode o)).2.contents i o where
  here := contents_of_find? (s.find?_keep_self _ _)
  elsewhere := by
    intro k' i' hkey
    simp only [contents, s.find?_keep_ne _ hkey]
  counter := rfl

theorem removes_drop (s : Server) (k : Kind) (i : Identity) :
    s.contents.Removes (s.drop ⟨k, i⟩).contents k i where
  here := contents_of_find?_none (s.find?_drop_self _)
  elsewhere := by
    intro k' i' hkey
    simp only [contents, s.find?_drop_ne hkey]
  counter := rfl

theorem Sound.keep (h : s.Sound) (i : Identity) (o : k.Object) :
    (s.keep ⟨k, i⟩ (Kind.encode o)).2.Sound where
  faults := h.faults
  forms := by
    intro k' i' v hv
    by_cases hkey : (⟨k', i'⟩ : Key) = ⟨k, i⟩
    · cases hkey
      rw [find?_keep_self] at hv
      exact ⟨o, _, (Option.some.inj hv).symm⟩
    · rw [s.find?_keep_ne _ hkey] at hv
      exact h.forms k' i' v hv

theorem Sound.drop (h : s.Sound) (key : Key) : (s.drop key).Sound where
  faults := h.faults
  forms := by
    intro k i v hv
    by_cases hkey : (⟨k, i⟩ : Key) = key
    · rw [hkey, find?_drop_self] at hv
      cases hv
    · rw [s.find?_drop_ne hkey] at hv
      exact h.forms k i v hv

/-! ## Requests -/

/-- A request is about the object that its call is about. -/
theorem subject?_of_request {call : Call} {r : Rest.Request} (hsafe : Rest.Safe i)
    (hid : call.identity? = .ok i) (hreq : Rest.request? call i = some r) :
    subject? r = some ⟨call.kind, i⟩ := by
  have hpath := Rest.path_of_request hsafe hreq
  obtain ⟨_, hmethod, hbody⟩ := Rest.request?_eq_some.1 hreq
  cases call with
  | get k =>
    cases hid
    simp [subject?, hpath, Rest.callPath, Rest.ofPath?_objectPath hsafe, hmethod, Rest.method,
      Call.kind]
  | create k o =>
    have hname : identityIn (r.body.getD .null) = i := by
      rw [hbody]
      exact identityIn_encode hid
    simp [subject?, hpath, Rest.callPath, Rest.ofPath?_collectionPath hsafe, hmethod, Rest.method,
      Call.kind, hname]
  | replace k o =>
    simp [subject?, hpath, Rest.callPath, Rest.ofPath?_objectPath hsafe, hmethod, Rest.method,
      Call.kind]

/-- What the server does for a request is what every API server does. -/
theorem answers_act (h : s.Sound) {call : Call} (hid : call.identity? = .ok i) :
    Rest.Answers s.contents i call
      (s.act (Rest.method call) ⟨call.kind, i⟩ ((Rest.body call).getD .null)).1.response
      (s.act (Rest.method call) ⟨call.kind, i⟩ ((Rest.body call).getD .null)).2.contents := by
  have hform : ∀ {k : Kind} (o : k.Object) (version : String) {status : UInt16},
      status.toNat < 400 → Rest.objectOf k (Answer.mk status
        (withVersion (Kind.encode o) version)).response = .ok (Store.withVersion o version) :=
    fun o version =>
      Rest.objectOf_form (solid_withVersion o version).plain (decode_withVersion o version)
  cases call with
  | get k =>
    cases hid
    cases hv : s.find? ⟨k, i⟩ with
    | none =>
      simp only [act, Rest.method, Call.kind, hv]
      exact .absent (contents_of_find?_none hv)
        (Rest.textOf_refusal _ (by decide) (by decide)) rfl rfl
    | some v =>
      obtain ⟨o, version, rfl⟩ := h.forms k i v hv
      simp only [act, Rest.method, Call.kind, hv]
      exact .found (contents_of_find? hv) (hform o version (by decide))
  | create k o =>
    cases hv : s.find? ⟨k, i⟩ with
    | none =>
      simp only [act, Rest.method, Rest.body, Call.kind, hv]
      exact .created (contents_of_find?_none hv) (s.stores_keep i o) (hform o _ (by decide))
    | some v =>
      obtain ⟨current, version, rfl⟩ := h.forms k i v hv
      simp only [act, Rest.method, Call.kind, hv]
      exact .taken (contents_of_find? hv) (Rest.textOf_refusal _ (by decide) (by decide)) rfl
  | replace k o =>
    cases hv : s.find? ⟨k, i⟩ with
    | none =>
      simp only [act, Rest.method, Call.kind, hv]
      exact .missing (contents_of_find?_none hv) (Rest.textOf_refusal _ (by decide) (by decide)) rfl
    | some v =>
      obtain ⟨current, version, rfl⟩ := h.forms k i v hv
      simp only [act, Rest.method, Rest.body, Call.kind, hv, Option.getD_some,
        versionOf_withVersion, versionOf_encode]
      split
      case isTrue hversion =>
        exact .replaced (contents_of_find? hv) (by simpa using hversion) (s.stores_keep i o)
          (hform o _ (by decide))
      case isFalse hversion =>
        exact .stale (contents_of_find? hv) (by simpa using hversion)
          (Rest.textOf_refusal _ (by decide) (by decide)) rfl

theorem Sound.act (h : s.Sound) (call : Call) (i : Identity) :
    (s.act (Rest.method call) ⟨call.kind, i⟩ ((Rest.body call).getD .null)).2.Sound := by
  cases call with
  | get k =>
    cases hv : s.find? ⟨k, i⟩ <;> simpa only [Server.act, Rest.method, Call.kind, hv]
  | create k o =>
    cases hv : s.find? ⟨k, i⟩ <;> simp only [Server.act, Rest.method, Call.kind, hv]
    case none => exact h.keep i o
    case some => exact h
  | replace k o =>
    cases hv : s.find? ⟨k, i⟩ <;> simp only [Server.act, Rest.method, Call.kind, hv]
    case none => exact h
    case some =>
      split
      · exact h.keep i o
      · exact h

/-- A server with no request to refuse does what it is asked for. That it
remembers the request is not to be seen in what it holds. -/
theorem transport_eq (h : s.Sound) {r : Rest.Request} {key : Key}
    (hsubject : subject? r = some key) :
    ∃ exchanges, transport r s =
      (.response (s.act r.method key (r.body.getD .null)).1.response,
        { (s.act r.method key (r.body.getD .null)).2 with exchanges }) := by
  simp only [transport, hsubject, answer, h.faults, Fault.strike?]
  exact ⟨_, rfl⟩

/-- The server of a cluster is an API server. -/
def apiServer : Rest.ApiServer Server where
  send := transport
  insert {k} i o s := (s.keep ⟨k, i⟩ (Kind.encode o)).2
  remove k i s := s.drop ⟨k, i⟩
  contents := contents
  sound := Sound
  answers := by
    intro s call i r hs hsafe hid hreq
    obtain ⟨_, hmethod, hbody⟩ := Rest.request?_eq_some.1 hreq
    obtain ⟨exchanges, hsend⟩ := transport_eq hs (subject?_of_request hsafe hid hreq)
    rw [hmethod, hbody] at hsend
    have hsound := hs.act call i
    exact ⟨_, congrArg Prod.fst hsend, by rw [hsend]; exact answers_act hs hid,
      by rw [hsend]; exact ⟨hsound.faults, hsound.forms⟩⟩
  inserts := fun o hs _ => ⟨stores_keep _ _ o, hs.keep _ o⟩
  removes := fun k i hs => ⟨removes_drop _ k i, hs.drop _⟩

end Cluster.Server

end ServingOperator
