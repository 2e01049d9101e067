-- The law of failures that come from the client. What comes back over HTTP is a failure
-- of the client in one of a few ways, the failure of the call says which, and the report
-- of the pass keeps both. So the code that the API server gives, and nothing else of what
-- it says, decides how soon the pass is tried again.
import ServingOperator.Proofs.DefiniteAbsence
import ServingOperator.Proofs.Dispatches

namespace ServingOperator

namespace Rest

/-! ## Failures of the client -/

namespace ClientFailure

/-- The code that the API server gave. -/
def code? : ClientFailure → Option UInt16
  | api s => some s.code
  | _ => none

/-- The API server says that there is no such object. -/
def SaysAbsent (f : ClientFailure) : Prop := ∃ s, f = .api s ∧ s.reason = "NotFound"

end ClientFailure

/-- What a decoder makes of a text, if the text is JSON and the decoder takes it. -/
def readAs? {α : Type} (decode : Json → Decoded α) (text : String) : Option α :=
  (Json.ofLooseString? text).bind fun v => (decode v).toOption

/-- What becomes of a request brings no object of a kind, but this failure. Of an error
answer the code is the one in its body, if that is a status, or else that of the answer. -/
inductive Brings (k : Kind) : Transmission → ClientFailure → Prop
  | transport : Brings k .failed .transport
  | noText {r : Response} (hbody : String.fromUTF8? r.body = none) :
    Brings k (.response r) .noText
  | refused {r : Response} {text : String} {s : ApiStatus}
      (hbody : String.fromUTF8? r.body = some text) (herror : 400 ≤ r.status ∧ r.status < 600)
      (hstatus : readAs? ApiStatus.decode text = some s) : Brings k (.response r) (.api s)
  | unreadable {r : Response} {text : String}
      (hbody : String.fromUTF8? r.body = some text) (herror : 400 ≤ r.status ∧ r.status < 600)
      (hstatus : readAs? ApiStatus.decode text = none) :
    Brings k (.response r) (.api
      { status := toString r.status
        message := Text.quoted text
        reason := "Failed to parse error data"
        code := UInt16.ofNat r.status })
  | undecodable {r : Response} {text : String}
      (hbody : String.fromUTF8? r.body = some text) (hfine : ¬ (400 ≤ r.status ∧ r.status < 600))
      (hobject : readAs? k.decode text = none) : Brings k (.response r) .undecodable

/-- A call on the object `i`, after which `sent` was sent, met this failure: no request could
be made, or the last one has brought it. -/
inductive Meets (call : Call) (i : Identity) (sent : List Exchange) : ClientFailure → Prop
  | noRequest (hrequest : request? call i = none) : Meets call i sent .noRequest
  | brought {x : Exchange} {f : ClientFailure} (hlast : sent.getLast? = some x)
      (hrequest : request? call i = some x.request) (hbrings : Brings call.kind x.outcome f) :
    Meets call i sent f

/-! ## What a response says -/

section

variable {k : Kind} {r : Response} {f : ClientFailure}

theorem objectOf_of_noText (hbody : String.fromUTF8? r.body = none) :
    objectOf k r = .error .noText := by
  simp only [objectOf, textOf, hbody]
  rfl

theorem objectOf_of_error {text : String} (hbody : String.fromUTF8? r.body = some text)
    (herror : 400 ≤ r.status ∧ r.status < 600) :
    objectOf k r = .error (.api
      ((readAs? ApiStatus.decode text).getD (ApiStatus.unreadable r.status text))) := by
  have hisError : r.isError = true := by
    simpa [Response.isError] using herror
  have hstatus : ApiStatus.ofText r.status text =
      (readAs? ApiStatus.decode text).getD (ApiStatus.unreadable r.status text) := by
    unfold ApiStatus.ofText readAs?
    cases hv : Json.ofLooseString? text with
    | none => rfl
    | some v => cases hs : ApiStatus.decode v <;> simp [hs, Except.toOption]
  simp only [objectOf, textOf, hbody, hisError, ← hstatus]
  rfl

theorem objectOf_of_fine {text : String} (hbody : String.fromUTF8? r.body = some text)
    (hfine : ¬ (400 ≤ r.status ∧ r.status < 600)) :
    objectOf k r = (readAs? k.decode text).elim (.error .undecodable) .ok := by
  have hisError : r.isError = false := by
    rw [Bool.eq_false_iff]
    intro h
    exact hfine (by simpa [Response.isError] using h)
  have htext : textOf r = .ok text := by
    simp [textOf, hbody, hisError]
  simp only [objectOf, htext, bind, Except.bind, readAs?]
  cases hv : Json.ofLooseString? text with
  | none => rfl
  | some v => cases ho : k.decode v <;> simp [ho, Except.toOption]

/-- A response that brings no object of a kind brings one of the failures. -/
theorem objectOf_eq_error_iff : objectOf k r = .error f ↔ Brings k (.response r) f := by
  constructor
  · intro h
    cases hbody : String.fromUTF8? r.body with
    | none =>
      rw [objectOf_of_noText hbody] at h
      cases h
      exact .noText hbody
    | some text =>
      by_cases herror : 400 ≤ r.status ∧ r.status < 600
      · rw [objectOf_of_error hbody herror] at h
        cases h
        cases hstatus : readAs? ApiStatus.decode text with
        | none => exact .unreadable hbody herror hstatus
        | some s => exact .refused hbody herror hstatus
      · rw [objectOf_of_fine hbody herror] at h
        cases hobject : readAs? k.decode text with
        | none =>
          rw [hobject] at h
          cases h
          exact .undecodable hbody herror hobject
        | some o =>
          rw [hobject] at h
          cases h
  · intro h
    cases h with
    | noText hbody => exact objectOf_of_noText hbody
    | refused hbody herror hstatus | unreadable hbody herror hstatus =>
      rw [objectOf_of_error hbody herror, hstatus]
      rfl
    | undecodable hbody hfine hobject =>
      rw [objectOf_of_fine hbody hfine, hobject]
      rfl

end

/-! ## How a call fails -/

section

variable {call : Call} {i : Identity} {f : ClientFailure}

/-- The failure is the one that a get does not take for a failure. -/
def TakenForAbsent (call : Call) (f : ClientFailure) : Prop := call.verb = .get ∧ f.SaysAbsent

theorem absentAsNone_of_absent {α : Type} (h : f.SaysAbsent) :
    absentAsNone (.error f : Except ClientFailure α) = .ok none := by
  obtain ⟨s, rfl, hreason⟩ := h
  exact if_pos hreason

theorem absentAsNone_of_not {α : Type} (h : ¬ f.SaysAbsent) :
    absentAsNone (.error f : Except ClientFailure α) = .error f := by
  cases f with
  | api s => exact if_neg fun hreason => h ⟨s, rfl, hreason⟩
  | transport | undecodable | noRequest | noText => rfl

theorem absentAsNone_eq_error_iff {α : Type} {x : Except ClientFailure α} :
    absentAsNone x = .error f ↔ x = .error f ∧ ¬ f.SaysAbsent := by
  rcases x with g | a
  · by_cases h : g.SaysAbsent
    · rw [absentAsNone_of_absent h]
      refine iff_of_false nofun ?_
      rintro ⟨⟨rfl⟩, hnot⟩
      exact hnot h
    · rw [absentAsNone_of_not h]
      constructor
      · rintro ⟨rfl⟩
        exact ⟨rfl, h⟩
      · rintro ⟨⟨rfl⟩, -⟩
        rfl
  · exact iff_of_false nofun nofun

theorem answer_eq_error_iff {r : Response} :
    answer call r = .error f ↔ Brings call.kind (.response r) f ∧ ¬ TakenForAbsent call f := by
  cases call with
  | get k i =>
    rw [answer, absentAsNone_eq_error_iff, objectOf_eq_error_iff]
    simp [TakenForAbsent, Call.verb, Call.kind]
  | create | replace =>
    rw [answer, objectOf_eq_error_iff]
    simp [TakenForAbsent, Call.verb, Call.kind]

/-- What a call that was sent fails with is the failure that came back. -/
theorem served_eq_error_iff {t : Transmission} {r : Report PlaneError} :
    served call i t = .answers (.error r) ↔
      ∃ f, Brings call.kind t f ∧ ¬ TakenForAbsent call f ∧ r = classify call.kind i f := by
  cases t with
  | hangs => exact iff_of_false nofun nofun
  | failed =>
    have htransport : ¬ TakenForAbsent call .transport := nofun
    constructor
    · rintro ⟨rfl⟩
      exact ⟨_, .transport, htransport, rfl⟩
    · rintro ⟨f, ⟨⟩, -, rfl⟩
      rfl
  | response res =>
    simp only [← and_assoc, ← answer_eq_error_iff, served]
    cases answer call res <;> simp [Except.mapError, eq_comm]

/-- A get takes the failure that tells of no object for its absence. -/
theorem served_get_absent {k : Kind} {t : Transmission} (hbrings : Brings k t f)
    (habsent : f.SaysAbsent) : served (.get k i) i t = .answers (.ok none) := by
  cases t with
  | hangs => cases hbrings
  | failed =>
    cases hbrings
    obtain ⟨s, ⟨⟩, -⟩ := habsent
  | response res =>
    rw [served, answer, objectOf_eq_error_iff.2 hbrings, absentAsNone_of_absent habsent]
    rfl

end

section

variable {σ : Type} (send : Transport σ) {call : Call} {i : Identity} (s : σ)
  (sent : List Exchange)

/-- After a call whose request was sent, that request decides what the call met. -/
theorem meets_concat_iff {x : Exchange} (hrequest : request? call i = some x.request)
    {f : ClientFailure} : Meets call i (sent ++ [x]) f ↔ Brings call.kind x.outcome f := by
  constructor
  · intro h
    cases h with
    | noRequest hnone =>
      rw [hrequest] at hnone
      cases hnone
    | brought hlast _ hbrings =>
      rw [List.getLast?_concat] at hlast
      cases hlast
      exact hbrings
  · exact .brought List.getLast?_concat hrequest

theorem meets_iff_of_unsent (hrequest : request? call i = none) {f : ClientFailure} :
    Meets call i sent f ↔ f = .noRequest := by
  constructor
  · intro h
    cases h with
    | noRequest => rfl
    | brought _ hsome _ =>
      rw [hrequest] at hsome
      cases hsome
  · rintro rfl
    exact .noRequest hrequest

/-- A call fails just if the client meets a failure that is not taken for the absence of an
object, and with the report of this failure. -/
theorem plane_eq_error_iff (hid : call.identity? = .ok i) {r : Report PlaneError} :
    (Rest.plane send.logged call (s, sent)).1 = .answers (.error r) ↔
      ∃ f, Meets call i (Rest.plane send.logged call (s, sent)).2.2 f ∧
        ¬ TakenForAbsent call f ∧ r = classify call.kind i f := by
  cases hrequest : request? call i with
  | none =>
    have hnot : ¬ TakenForAbsent call .noRequest := nofun
    simp only [plane_unsent send s sent hid hrequest, meets_iff_of_unsent sent hrequest]
    constructor
    · rintro ⟨rfl⟩
      exact ⟨_, rfl, hnot, rfl⟩
    · rintro ⟨f, rfl, -, rfl⟩
      rfl
  | some req =>
    simp only [plane_sent send s sent hid hrequest, served_eq_error_iff,
      meets_concat_iff sent (x := ⟨req, (send req s).1⟩) hrequest]

end

/-! ## What a failure is told by -/

/-- The kind and the identity that a failure of the control plane names. -/
def subject? : PlaneError → Option (Kind × Identity)
  | .conflict k i | .rejected k i _ _ | .unavailable k i => some (k, i)
  | .connectionFailed _ | .incompleteObject _ _ => none

/-- The report tells what the client met when it called for the object `i` of kind `k`. -/
structure Tells (k : Kind) (i : Identity) (f : ClientFailure) (r : Report PlaneError) : Prop where
  conflict : r.top = .conflict k i ↔ f.code? = some 409
  rejected : ∀ code text, r.top = .rejected k i code text ↔
    ∃ s, f = .api s ∧ s.code ≠ 409 ∧ code = s.code ∧ text = s.reason ++ ": " ++ s.message
  unavailable : r.top = .unavailable k i ↔ f.code? = none
  subject : subject? r.top = some (k, i)
  beneath : r.beneath = [.client f]

section

variable {k : Kind} {i : Identity} {f : ClientFailure} {r : Report PlaneError}

theorem tells_classify (k : Kind) (i : Identity) (f : ClientFailure) :
    Tells k i f (classify k i f) := by
  have hbeneath : (classify k i f).beneath = [.client f] := rfl
  have htop : (classify k i f).top = planeError k i f := rfl
  cases f with
  | api s =>
    by_cases hcode : s.code = 409
    · have hplane : planeError k i (.api s) = .conflict k i := if_pos hcode
      rw [hplane] at htop
      constructor <;> simp [htop, hbeneath, hcode, ClientFailure.code?, subject?]
    · have hplane : planeError k i (.api s) =
        .rejected k i s.code (s.reason ++ ": " ++ s.message) := if_neg hcode
      rw [hplane] at htop
      constructor <;> simp [htop, hbeneath, hcode, ClientFailure.code?, subject?, eq_comm]
  | transport | undecodable | noRequest | noText =>
    constructor <;> simp [htop, hbeneath, planeError, ClientFailure.code?, subject?]

/-- Only one report tells of a failure. -/
theorem Tells.eq_classify (h : Tells k i f r) : r = classify k i f := by
  have hclassify := tells_classify k i f
  obtain ⟨top, beneath⟩ := r
  have htop : top = (classify k i f).top := by
    cases hcode : f.code? with
    | none => exact (h.unavailable.2 hcode).trans (hclassify.unavailable.2 hcode).symm
    | some code =>
      cases f with
      | api s =>
        by_cases h409 : s.code = 409
        · have hconflict : (ClientFailure.api s).code? = some 409 := congrArg some h409
          exact (h.conflict.2 hconflict).trans (hclassify.conflict.2 hconflict).symm
        · have hrejected := (h.rejected _ _).2 ⟨s, rfl, h409, rfl, rfl⟩
          exact hrejected.trans ((hclassify.rejected _ _).2 ⟨s, rfl, h409, rfl, rfl⟩).symm
      | transport | undecodable | noRequest | noText => cases hcode
  have hbeneath : beneath = (classify k i f).beneath := h.beneath.trans hclassify.beneath.symm
  rw [htop, hbeneath]

/-- The code decides whether it is a conflict. -/
theorem Tells.isConflict_iff (h : Tells k i f r) :
    r.top.isConflict = true ↔ f.code? = some 409 := by
  rw [← h.conflict]
  have hsubject := h.subject
  cases htop : r.top <;> rw [htop] at hsubject <;> cases hsubject <;>
    simp [PlaneError.isConflict]

end

end Rest

/-! ## Failures in a pass -/

section

variable {σ : Type} {policies : PolicyTable} {id : Identity} {st : Stage}
  {context : ReconcileError} {call : Call} {after : call.Answer → Stage}

/-- A pass that hears of a failure ends with it, in the state in which the call has left it. -/
theorem ends_with_failure (policies : PolicyTable) (id : Identity) (w : Surroundings σ)
    (st : Stage) : ∀ (n : Nat) (s : σ) (call : Call) (r : Report PlaneError),
      ⟨call, .answered (.error r)⟩ ∈ (st.rest policies id).heardFrom w n s →
        ((st.rest policies id).heardFrom w n s).getLast? = some ⟨call, .answered (.error r)⟩ ∧
          ∃ u t, w.plane call u = (.answers (.error r), t) ∧
            (st.rest policies id).outcome w n s =
              (some (.error (r.wrap (⟨call.verb, call.kind, id⟩ : CallRecord).context)), t) := by
  induction st using Stage.induction_asks policies id with
  | ended v => exact fun n s call r h => nomatch h
  | @asks st context call' after hasks ih =>
    intro n s call r hmem
    rcases hasks.run_cases w n s with ⟨-, hheard⟩ | ⟨-, hheard⟩ |
      ⟨r', t, hplane, houtcome, hheard⟩ | ⟨a, t, -, houtcome, hheard⟩
    · rw [hheard] at hmem
      cases hmem
    · rw [hheard] at hmem
      cases List.mem_singleton.1 hmem
    · rw [hheard] at hmem ⊢
      cases List.mem_singleton.1 hmem
      exact ⟨rfl, _, t, hplane, by rw [houtcome, hasks.context_eq]⟩
    · rw [hheard] at hmem ⊢
      rw [houtcome]
      rcases List.mem_cons.1 hmem with heq | hmem
      · cases heq
      · obtain ⟨hlast, hrest⟩ := ih a (n + 1) t call r hmem
        refine ⟨?_, hrest⟩
        rw [List.getLast?_cons, hlast]
        rfl

/-- A pass that has ended at this stage reports no failure of the client. -/
def Stage.Unmet (st : Stage) : Prop :=
  ∀ r f, st = .ended (.error r) → .client f ∉ r.beneath

/-- The checks between the calls have nothing to do with the client. -/
theorem Stage.Asks.unmet (h : Stage.Asks policies id st context call after) (a : call.Answer) :
    (after a).Unmet := by
  intro r f hended
  cases h with
  | start =>
    cases a with
    | none => cases hended
    | some intent =>
      simp only [Stage.afterIntent] at hended
      cases hresolve : policies.resolve intent.spec.runtimeSelector with
      | error e =>
        obtain ⟨-, rfl⟩ := PolicyTable.resolve_eq_error hresolve
        rw [hresolve] at hended
        cases hended
        simp [Report.wrap, Report.levels, Report.of, Reportable.context]
      | ok policy =>
        rw [hresolve] at hended
        cases hended
  | reading turn intent policy =>
    simp only [Stage.afterRead, Intent.reference] at hended
    rcases huid : intent.metadata.uid with _ | uid <;>
      rcases hname : intent.metadata.name with _ | name <;>
      rw [huid, hname] at hended <;> cases hended <;>
      simp [Report.wrap, Report.levels, Report.of, Reportable.context]
  | writing turn => cases turn <;> cases hended

/-- A pass that reports a failure of the client has heard of it last. -/
theorem client_failure_was_heard (policies : PolicyTable) (id : Identity) (w : Surroundings σ)
    {f : Rest.ClientFailure} {r : Report ReconcileError} (hf : .client f ∈ r.beneath)
    (st : Stage) : ∀ (n : Nat) (s : σ), st.Unmet →
      ((st.rest policies id).outcome w n s).1 = some (.error r) →
        ∃ call r', ⟨call, .answered (.error r')⟩ ∈ (st.rest policies id).heardFrom w n s ∧
          r.beneath = r'.levels := by
  induction st using Stage.induction_asks policies id with
  | ended v =>
    intro n s hunmet hend
    have hv : v = .error r := Option.some.inj hend
    exact absurd hf (hunmet r f (congrArg Stage.ended hv))
  | @asks st context call after hasks ih =>
    intro n s _ hend
    rcases hasks.run_cases w n s with ⟨hblocked, -⟩ | ⟨hcancelled, -⟩ |
      ⟨r', t, -, houtcome, hheard⟩ | ⟨a, t, -, houtcome, hheard⟩
    · rw [hblocked] at hend
      cases hend
    · rw [hcancelled] at hend
      cases hend
      cases hf
    · rw [houtcome] at hend
      cases hend
      exact ⟨call, r', hheard ▸ List.mem_singleton_self _, rfl⟩
    · rw [houtcome] at hend
      obtain ⟨call', r', hmem, hlevels⟩ := ih a (n + 1) t (hasks.unmet a) hend
      exact ⟨call', r', hheard ▸ List.mem_cons_of_mem _ hmem, hlevels⟩

end

namespace Rest

/-! ## The law -/

/-- How calls fail that are made over a transport in the state `s`, after `sent` was sent. -/
structure TellsFailures {σ : Type} (send : Transport σ) (s : σ) (sent : List Exchange) :
    Prop where
  /-- A call fails just if the client meets a failure, and with a report that tells which. -/
  fails : ∀ (call : Call) (i : Identity), call.identity? = .ok i →
    ∀ r, (Rest.plane send.logged call (s, sent)).1 = .answers (.error r) ↔
      ∃ f, Meets call i (Rest.plane send.logged call (s, sent)).2.2 f ∧
        ¬ TakenForAbsent call f ∧ Tells call.kind i f r
  /-- To be told that there is no such object is no failure of a get. -/
  absent : ∀ (k : Kind) (i : Identity) (f : ClientFailure),
    Meets (.get k i) i (Rest.plane send.logged (.get k i) (s, sent)).2.2 f → f.SaysAbsent →
      (Rest.plane send.logged (.get k i) (s, sent)).1 = .answers (.ok none)
  /-- An object without a name or a namespace is not written, and nothing is sent. -/
  incomplete : ∀ (k : Kind) (o : k.Object),
    (Kind.metadata o).name = none ∨ (Kind.metadata o).ns = none →
      ∀ call : Call, call = .create k o ∨ call = .replace k o →
        Rest.plane send.logged call (s, sent) =
          (.answers (.error (.of (.incompleteObject k.name (Kind.missingField o)))), (s, sent))

/-- How a pass over `id` that has heard this, sent this and ended like this fails, if a call of
it fails, and what is done about it. -/
structure RetriedByCode (delays : RequeueDelays) (id : Identity)
    (heard : List (Σ call : Call, Reply call.Answer)) (sent : List Exchange)
    (ending : Option Dispatched) : Prop where
  /-- A failure that is heard of is the last that is heard, and it is reported. If it came
  from the client, the code decides when the pass is tried again. -/
  fails : ∀ (call : Call) (r : Report PlaneError), ⟨call, .answered (.error r)⟩ ∈ heard →
    heard.getLast? = some ⟨call, .answered (.error r)⟩ ∧
      ∀ i, call.identity? = .ok i → ∃ f, Meets call i sent f ∧ ¬ TakenForAbsent call f ∧
        Tells call.kind i f r ∧
        ending = some
          { failure := some (r.wrap (⟨call.verb, call.kind, id⟩ : CallRecord).context)
            action :=
              if f.code? = some 409 then .requeue delays.conflict else .requeue delays.error }
  /-- A failure of the client that is reported has been heard of. -/
  was_heard : ∀ d f r, ending = some d → d.failure = some r → .client f ∈ r.beneath →
    ∃ (call : Call) (i : Identity) (r' : Report PlaneError), call.identity? = .ok i ∧
      ⟨call, .answered (.error r')⟩ ∈ heard ∧ Tells call.kind i f r'

variable {σ : Type} (send : Transport σ)

theorem tellsFailures (s : σ) (sent : List Exchange) : TellsFailures send s sent where
  fails call i hid r := by
    rw [plane_eq_error_iff send s sent hid]
    constructor
    · rintro ⟨f, hmeets, habsent, rfl⟩
      exact ⟨f, hmeets, habsent, tells_classify _ _ f⟩
    · rintro ⟨f, hmeets, habsent, htells⟩
      exact ⟨f, hmeets, habsent, htells.eq_classify⟩
  absent k i f hmeets habsent := by
    cases hrequest : request? (.get k i) i with
    | none =>
      obtain rfl := (meets_iff_of_unsent _ hrequest).1 hmeets
      obtain ⟨_, ⟨⟩, _⟩ := habsent
    | some req =>
      rw [plane_sent send s sent rfl hrequest] at hmeets ⊢
      exact served_get_absent ((meets_concat_iff _ hrequest).1 hmeets) habsent
  incomplete k o hlacks call hcall := by
    have hidentity := Kind.identity?_eq_error.2 ⟨hlacks, rfl⟩
    rcases hcall with rfl | rfl <;> exact plane_unnamed send s sent hidentity

/-- The failure of a call over a transport whose exchanges are kept. -/
theorem tells_of_plane {call : Call} {i : Identity} (hid : call.identity? = .ok i)
    {r : Report PlaneError} {u t : σ × List Exchange}
    (h : Rest.plane send.logged call u = (.answers (.error r), t)) :
    ∃ f, Meets call i t.2 f ∧ ¬ TakenForAbsent call f ∧ Tells call.kind i f r := by
  have hfails := ((tellsFailures send u.1 u.2).fails call i hid r).1 (congrArg Prod.fst h)
  have hafter : Rest.plane send.logged call (u.1, u.2) = (.answers (.error r), t) := h
  rwa [hafter] at hfails

/-- An object that does not say who it is is no failure of the client. -/
theorem not_client_of_unnamed {call : Call} {r : Report PlaneError}
    (h : call.identity? = .error r) (f : ClientFailure) : .client f ∉ r.levels := by
  cases call with
  | get => cases h
  | create k o | replace k o =>
    obtain ⟨-, rfl⟩ := Kind.identity?_eq_error.1 h
    simp [Report.levels, Report.of, Reportable.context]

theorem Tells.eq_of_mem_levels {k : Kind} {i : Identity} {f g : ClientFailure}
    {r : Report PlaneError} (h : Tells k i f r) (hg : .client g ∈ r.levels) : g = f := by
  simpa [Report.levels, Reportable.context, h.beneath] using hg

theorem retriedByCode (policies : PolicyTable) (delays : RequeueDelays) {copy : Intent}
    {id : Identity} (hid : Kind.identity? (k := .intent) copy = .ok id) (t : Token) (s : σ) :
    let w : Surroundings (σ × List Exchange) := { plane := Rest.plane send.logged, token := t }
    let run := (Pass.handle policies delays copy).run w (s, [])
    RetriedByCode delays id ((Pass.handle policies delays copy).heardFrom w 1 (s, [])) run.state.2
      run.ending := by
  intro w run
  have hrun : (run.ending, run.state) = _ := outcome_handle policies delays w 1 (s, []) hid
  obtain ⟨hending, hstate⟩ := Prod.ext_iff.1 hrun
  rw [heardFrom_handle policies delays w 1 (s, []) hid]
  have hstart : Pass.reconcile policies id = Stage.rest policies id .start := rfl
  simp only [hstart] at hending hstate ⊢
  constructor
  case fails =>
    intro call r hmem
    obtain ⟨hlast, u, t', hplane, houtcome⟩ := ends_with_failure policies id w .start 1 (s, [])
      call r hmem
    refine ⟨hlast, fun i hi => ?_⟩
    obtain ⟨f, hmeets, habsent, htells⟩ := tells_of_plane send hi hplane
    rw [houtcome] at hending hstate
    refine ⟨f, hstate ▸ hmeets, habsent, htells, hending.trans ?_⟩
    have haction := delays.afterFailure_wrap r
      (CallRecord.context_isCancelled ⟨call.verb, call.kind, id⟩)
    simp only [htells.isConflict_iff] at haction
    simp only [Option.map_some, Except.map, RequeueDelays.decided, haction]
  case was_heard =>
    intro d f r hd hfailure hf
    rw [hending] at hd
    obtain ⟨v, hv, rfl⟩ := Option.map_eq_some_iff.1 hd
    cases v with
    | ok o => cases hfailure
    | error e =>
      cases hfailure
      obtain ⟨call, r', hmem, hlevels⟩ := client_failure_was_heard policies id w hf .start 1
        (s, []) nofun hv
      obtain ⟨-, u, t', hplane, -⟩ := ends_with_failure policies id w .start 1 (s, []) call r' hmem
      rw [hlevels] at hf
      -- a call that does not say what it is about never gets to the client
      cases hi : call.identity? with
      | error r'' =>
        have hunnamed : Rest.plane send.logged call u = (.answers (.error r''), u) :=
          plane_unnamed send u.1 u.2 hi
        cases hplane.symm.trans hunnamed
        exact absurd hf (not_client_of_unnamed hi f)
      | ok i =>
        obtain ⟨g, -, -, htells⟩ := tells_of_plane send hi hplane
        obtain rfl := htells.eq_of_mem_levels hf
        exact ⟨call, i, r', hi, hmem, htells⟩

/-- Whatever comes back over HTTP, a call that fails tells what the client met, and a pass that
fails with it is tried again after the delay for conflicts if the API server gave the code
409, and after the delay for errors otherwise. -/
theorem failures_of_the_client_are_told_apart {σ : Type} (send : Transport σ) (s : σ) :
    (∀ sent : List Exchange, TellsFailures send s sent) ∧
    ∀ (policies : PolicyTable) (delays : RequeueDelays) (copy : Intent) (id : Identity) (t : Token),
      Kind.identity? (k := .intent) copy = .ok id →
      let w : Surroundings (σ × List Exchange) := { plane := Rest.plane send.logged, token := t }
      let run := (Pass.handle policies delays copy).run w (s, [])
      RetriedByCode delays id ((Pass.handle policies delays copy).heardFrom w 1 (s, []))
        run.state.2 run.ending :=
  ⟨tellsFailures send s,
    fun policies delays _ _ t hid => retriedByCode send policies delays hid t s⟩

/-- An API server that answers with 409 and nothing else. -/
def bareConflict : Script := { answers := [.response ⟨409, "".toUTF8⟩] }

/-- The code of the answer counts where the body says nothing. -/
theorem a_bare_conflict_is_tried_again_soon :
    ∃ r, ((Pass.handle .standard {} llama).run
        { plane := Rest.plane Script.transport.logged } (bareConflict, [])).ending =
      some ⟨some r, .requeue 1⟩ := by
  obtain ⟨-, hpasses⟩ := failures_of_the_client_are_told_apart Script.transport bareConflict
  have hretried := hpasses .standard {} llama llamaId [] rfl
  have hheard : (Pass.handle .standard {} llama).heardFrom
      { plane := Rest.plane Script.transport.logged } 1 (bareConflict, []) =
        [⟨.get .intent llamaId, .answered (.error
          (classify .intent llamaId (.api (ApiStatus.unreadable 409 ""))))⟩] := rfl
  obtain ⟨-, hends⟩ := hretried.fails (.get .intent llamaId) _
    (hheard ▸ List.mem_singleton_self _)
  obtain ⟨f, -, -, htells, hending⟩ := hends llamaId rfl
  have hcode : f.code? = some 409 := htells.conflict.1 rfl
  rw [if_pos hcode] at hending
  exact ⟨_, hending⟩

end Rest

end ServingOperator
