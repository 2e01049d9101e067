-- The laws of API servers. Whatever the server, it holds objects by kind,
-- namespace and name, and it answers each request about an object in one of
-- few ways. A store holds the same and answers calls in the same ways, so
-- from the same contents a call over HTTP and a call to the store agree.
import ServingOperator.Proofs.RequestTargets
import ServingOperator.Proofs.StoreCalls
import ServingOperator.Rest.Client

namespace ServingOperator

/-! ## Contents -/

/-- What a store or a server holds, as its clients can tell: which object is
under each kind and identity, and the version given last. -/
@[ext] structure Contents where
  find? : (k : Kind) → Identity → Option k.Object
  counter : Nat

namespace Contents

variable {c c' c'' : Contents} {k : Kind} {i : Identity}

def nextVersion (c : Contents) : String := toString (c.counter + 1)

/-- Under one identity there is `o` now, and nothing else changed but the
version given last. -/
structure Becomes (c c' : Contents) (k : Kind) (i : Identity) (o : Option k.Object)
    (counter : Nat) : Prop where
  here : c'.find? k i = o
  elsewhere : ∀ k' i', (⟨k', i'⟩ : Key) ≠ ⟨k, i⟩ → c'.find? k' i' = c.find? k' i'
  counter : c'.counter = counter

/-- An object was stored with the next version. -/
abbrev Stores (c c' : Contents) {k : Kind} (i : Identity) (o : k.Object) : Prop :=
  c.Becomes c' k i (some (Store.withVersion o c.nextVersion)) (c.counter + 1)

/-- An object was removed, if it was there. -/
abbrev Removes (c c' : Contents) (k : Kind) (i : Identity) : Prop :=
  c.Becomes c' k i none c.counter

theorem Becomes.unique {o : Option k.Object} {counter : Nat} (h : c.Becomes c' k i o counter)
    (h' : c.Becomes c'' k i o counter) : c' = c'' := by
  refine Contents.ext (funext fun k' => funext fun i' => ?_) (h.counter.trans h'.counter.symm)
  by_cases hkey : (⟨k', i'⟩ : Key) = ⟨k, i⟩
  · cases hkey
    exact h.here.trans h'.here.symm
  · exact (h.elsewhere k' i' hkey).trans (h'.elsewhere k' i' hkey).symm

end Contents

namespace Store

/-- What a store holds. -/
def contents (s : Store) : Contents := ⟨s.stored?, s.counter⟩

variable {k : Kind} {i : Identity}

theorem stores_keep (s : Store) (i : Identity) (o : k.Object) :
    s.contents.Stores (s.keep i o).2.contents i o where
  here := s.stored?_keep_self i o
  elsewhere := fun _ _ hkey => s.stored?_keep_ne o hkey
  counter := rfl

theorem removes_remove (s : Store) (k : Kind) (i : Identity) :
    s.contents.Removes (s.remove k i).contents k i where
  here := stored?_of_find?_none (s.find?_drop_self _)
  elsewhere := fun _ _ hkey => stored?_congr (s.find?_drop_ne hkey)
  counter := rfl

end Store

namespace Rest

/-! ## Answers of a server -/

/-- The response to a request about the object `i`, by what the server holds
before it and after it. An error answer is told by its code and, where it is
about absence, by its reason. -/
inductive Answers (c : Contents) (i : Identity) : Call → Response → Contents → Prop
  /-- An object that is there is returned. -/
  | found {k : Kind} {o : k.Object} {res : Response} (hstored : c.find? k i = some o)
      (hres : objectOf k res = .ok o) :
      Answers c i (.get k i) res c
  | absent {k : Kind} {res : Response} {st : ApiStatus} (hstored : c.find? k i = none)
      (hres : textOf res = .error (.api st)) (hcode : st.code = 404)
      (hreason : st.reason = ApiStatus.notFound) :
      Answers c i (.get k i) res c
  /-- A create needs a free name. -/
  | taken {k : Kind} {o current : k.Object} {res : Response} {st : ApiStatus}
      (hstored : c.find? k i = some current) (hres : textOf res = .error (.api st))
      (hcode : st.code = 409) :
      Answers c i (.create k o) res c
  | created {k : Kind} {o : k.Object} {res : Response} {c' : Contents}
      (hstored : c.find? k i = none) (hstores : c.Stores c' i o)
      (hres : objectOf k res = .ok (Store.withVersion o c.nextVersion)) :
      Answers c i (.create k o) res c'
  /-- A replace needs the object whose version it names. -/
  | missing {k : Kind} {o : k.Object} {res : Response} {st : ApiStatus}
      (hstored : c.find? k i = none) (hres : textOf res = .error (.api st))
      (hcode : st.code = 404) :
      Answers c i (.replace k o) res c
  | stale {k : Kind} {o current : k.Object} {res : Response} {st : ApiStatus}
      (hstored : c.find? k i = some current)
      (hversion : Store.versionOf current ≠ Store.versionOf o)
      (hres : textOf res = .error (.api st)) (hcode : st.code = 409) :
      Answers c i (.replace k o) res c
  | replaced {k : Kind} {o current : k.Object} {res : Response} {c' : Contents}
      (hstored : c.find? k i = some current)
      (hversion : Store.versionOf current = Store.versionOf o) (hstores : c.Stores c' i o)
      (hres : objectOf k res = .ok (Store.withVersion o c.nextVersion)) :
      Answers c i (.replace k o) res c'

/-- An API server whose state is a `σ`, with what others do to it directly.
Names that are not safe in URLs are not looked at. -/
structure ApiServer (σ : Type) where
  send : Transport σ
  insert : {k : Kind} → Identity → k.Object → σ → σ
  remove : Kind → Identity → σ → σ
  contents : σ → Contents
  /-- The states that the server can be in. -/
  sound : σ → Prop
  answers : ∀ {u : σ} {call : Call} {i : Identity} {r : Request}, sound u → Safe i →
    call.identity? = .ok i → request? call i = some r → ∃ res, (send r u).1 = .response res ∧
      Answers (contents u) i call res (contents (send r u).2) ∧ sound (send r u).2
  inserts : ∀ {u : σ} {k : Kind} {i : Identity} (o : k.Object), sound u →
    Kind.identity? o = .ok i →
      (contents u).Stores (contents (insert i o u)) i o ∧ sound (insert i o u)
  removes : ∀ {u : σ} (k : Kind) (i : Identity), sound u →
    (contents u).Removes (contents (remove k i u)) k i ∧ sound (remove k i u)

/-! ## Calls -/

/-- Two failures of a call that differ at most in the text of a rejection. -/
def AlikeError : PlaneError → PlaneError → Prop
  | .rejected k i code _, .rejected k' i' code' _ => k = k' ∧ i = i' ∧ code = code'
  | e, e' => e = e'

/-- A store and a server answer a call alike. What the client met may stand
beneath the failure. -/
inductive AlikeReply {α : Type} :
    Except (Report PlaneError) α → Except (Report PlaneError) α → Prop
  | ok (a : α) : AlikeReply (.ok a) (.ok a)
  | error {e e' : PlaneError} (beneath : List Context) (h : AlikeError e e') :
    AlikeReply (.error (.of e)) (.error ⟨e', beneath⟩)

/-- A store where no call fails or hangs holds what the server holds. -/
structure Agree {σ : Type} (server : ApiServer σ) (s : Store) (u : σ) : Prop where
  good : s.Good
  failures : s.failures = []
  hanging : s.hanging = []
  sound : server.sound u
  contents : s.contents = server.contents u

theorem Agree.serves {σ : Type} {server : ApiServer σ} {s : Store} {u : σ}
    (h : Agree server s u) (c : CallRecord) : s.treatment c = .serves := by
  simp [Store.treatment, h.failures, h.hanging]

theorem objectOf_of_textOf {k : Kind} {res : Response} {f : ClientFailure}
    (h : textOf res = .error f) : objectOf k res = .error f := by
  rw [objectOf, h]
  rfl

section

variable {σ : Type} {server : ApiServer σ} {s : Store} {u : σ}

theorem Agree.find? (h : Agree server s u) (k : Kind) (i : Identity) :
    (server.contents u).find? k i = s.stored? k i := by
  rw [← h.contents]
  rfl

/-- What a call did to the store and what its request did to the server. -/
structure CallsAgree (server : ApiServer σ) (i : Identity) (call : Call) (res : Response)
    (s : Store) (u' : σ) : Prop where
  answered : ∃ r, (Store.plane call s).1 = .answers r ∧
    AlikeReply r ((answer call res).mapError (classify call.kind i))
  contents : (Store.plane call s).2.contents = server.contents u'

theorem alike_of_conflict {α : Type} {st : ApiStatus} (h : st.code = 409) (k : Kind)
    (i : Identity) :
    AlikeReply (.error (.of (.conflict k i)) : Except _ α)
      (Except.mapError (classify k i) (.error (.api st))) := by
  have hplane : planeError k i (.api st) = .conflict k i := by simp [planeError, h]
  refine .error _ ?_
  rw [hplane]
  rfl

theorem alike_of_missing {α : Type} {st : ApiStatus} (h : st.code = 404) (k : Kind)
    (i : Identity) (text : String) :
    AlikeReply (.error (.of (.rejected k i 404 text)) : Except _ α)
      (Except.mapError (classify k i) (.error (.api st))) := by
  have hplane : planeError k i (.api st) =
      .rejected k i 404 (st.reason ++ ": " ++ st.message) := by simp [planeError, h]
  refine .error _ ?_
  rw [hplane]
  exact ⟨rfl, rfl, rfl⟩

theorem Agree.nextVersion (h : Agree server s u) :
    (server.contents u).nextVersion = s.nextVersion := by
  rw [← h.contents]
  rfl

section

variable {call : Call} {i : Identity} {res : Response} {u' : σ} {c : CallRecord}
  {r : Except (Report PlaneError) call.Answer}
  (halike : AlikeReply r ((answer call res).mapError (classify call.kind i)))
include halike

theorem Agree.callsAgree_of_same (h : Agree server s u)
    (hplane : Store.plane call s = (.answers r, s.record c))
    (hsame : server.contents u' = server.contents u) : CallsAgree server i call res s u' where
  answered := ⟨r, congrArg Prod.fst hplane, halike⟩
  contents := by
    rw [hplane]
    exact h.contents.trans hsame.symm

theorem Agree.callsAgree_of_stores {k : Kind} {o : k.Object} (h : Agree server s u)
    (hplane : Store.plane call s = (.answers r, (s.keep i o).2.record c))
    (hstores : (server.contents u).Stores (server.contents u') i o) :
    CallsAgree server i call res s u' where
  answered := ⟨r, congrArg Prod.fst hplane, halike⟩
  contents := by
    rw [hplane]
    rw [← h.contents] at hstores
    exact (s.stores_keep i o).unique hstores

end

/-- The store and the server do the same by what they hold. -/
theorem Agree.callsAgree (h : Agree server s u) {call : Call} {i : Identity}
    (hid : call.identity? = .ok i) {res : Response} {u' : σ}
    (hanswers : Answers (server.contents u) i call res (server.contents u')) :
    CallsAgree server i call res s u' := by
  generalize hc : server.contents u' = c' at hanswers
  cases hanswers with
  | @found k o _ hstored hres =>
    rw [h.find?] at hstored
    have hplane := Store.plane_get h.good k i
    rw [h.serves, hstored] at hplane
    refine h.callsAgree_of_same ?_ hplane hc
    rw [answer, hres]
    exact .ok (some o)
  | @absent k _ st hstored hres _ hreason =>
    rw [h.find?] at hstored
    have hplane := Store.plane_get h.good k i
    rw [h.serves, hstored] at hplane
    refine h.callsAgree_of_same ?_ hplane hc
    rw [answer, objectOf_of_textOf hres, absentAsNone, if_pos hreason]
    exact .ok none
  | @taken k o current _ st hstored hres hcode =>
    rw [h.find?] at hstored
    have hplane := Store.plane_create h.good hid
    rw [h.serves, hstored] at hplane
    refine h.callsAgree_of_same ?_ hplane hc
    rw [answer, objectOf_of_textOf hres]
    exact alike_of_conflict hcode k i
  | @created k o _ _ hstored hstores hres =>
    rw [h.find?] at hstored
    have hplane := Store.plane_create h.good hid
    rw [h.serves, hstored] at hplane
    refine h.callsAgree_of_stores ?_ hplane (hc ▸ hstores)
    rw [answer, hres, h.nextVersion]
    exact .ok _
  | @missing k o _ st hstored hres hcode =>
    rw [h.find?] at hstored
    have hplane := Store.plane_replace h.good hid
    rw [h.serves, hstored] at hplane
    refine h.callsAgree_of_same ?_ hplane hc
    rw [answer, objectOf_of_textOf hres]
    exact alike_of_missing hcode k i _
  | @stale k o current _ st hstored hstale hres hcode =>
    rw [h.find?] at hstored
    have hplane := Store.plane_replace h.good hid
    simp only [h.serves, hstored, if_neg hstale] at hplane
    refine h.callsAgree_of_same ?_ hplane hc
    rw [answer, objectOf_of_textOf hres]
    exact alike_of_conflict hcode k i
  | @replaced k o current _ _ hstored hfresh hstores hres =>
    rw [h.find?] at hstored
    have hplane := Store.plane_replace h.good hid
    simp only [h.serves, hstored, if_pos hfresh] at hplane
    refine h.callsAgree_of_stores ?_ hplane (hc ▸ hstores)
    rw [answer, hres, h.nextVersion]
    exact .ok _

/-- From the same contents a call over HTTP is answered as a call to the
store is, and the contents are the same afterwards. -/
theorem Agree.call (h : Agree server s u) {call : Call} {i : Identity} (hsafe : Safe i)
    (hid : call.identity? = .ok i)
    (hlength : Text.byteLength (targetText call i).toList ≤ maxTargetBytes) :
    ∃ r r' s' u', Store.plane call s = (.answers r, s') ∧
      Rest.plane server.send call u = (.answers r', u') ∧ AlikeReply r r' ∧
      Agree server s' u' := by
  obtain ⟨req, hreq⟩ := exists_request hsafe hlength
  obtain ⟨res, hres, hanswers, hsound⟩ := server.answers h.sound hsafe hid hreq
  obtain ⟨⟨r, hr, halike⟩, hcontents⟩ := h.callsAgree hid hanswers
  refine ⟨r, _, (Store.plane call s).2, (server.send req u).2, Prod.ext hr rfl, ?_, halike, ?_⟩
  · simp only [Rest.plane, hid, hreq, hres, served]
  · obtain ⟨hfailures, hhanging⟩ := s.sameFaults_plane call
    exact ⟨(s.change_plane call).good h.good, hfailures.trans h.failures,
      hhanging.trans h.hanging, hsound, hcontents⟩

end

end Rest

end ServingOperator
