-- The ways a pass can go from a stage on, whatever its surroundings are: which replies it
-- hears to its calls, which events it notes, and how it ends. What holds of all these ways
-- holds of each run, so a law of runs that speaks of nothing else is an induction on them.
import ServingOperator.Proofs.CallOrder

namespace ServingOperator

/-- A call with the reply to it. -/
abbrev Heard := Σ call : Call, Reply call.Answer

/-- An intent with a uid and a name has what a reference to an owner needs. -/
def Intent.canOwn (x : Intent) : Bool := x.metadata.uid.isSome && x.metadata.name.isSome

/-- What there is to tell of a reply. That a child is absent is told if the intent can own it. -/
def told (owns : Bool) : Heard → List Event
  | ⟨.get .intent _, .answered (.ok none)⟩ => [.intentGone]
  | ⟨.get .workload _, .answered (.ok none)⟩ => if owns then [.childAbsent .workload] else []
  | ⟨.get .endpoint _, .answered (.ok none)⟩ => if owns then [.childAbsent .endpoint] else []
  | ⟨.create k _, .answered (.ok _)⟩ => [.childReconciled k .created]
  | ⟨.replace k _, .answered (.ok _)⟩ => [.childReconciled k .updated]
  | _ => []

variable {σ α : Type} {policies : PolicyTable} {id : Identity}

/-! ## Notes on the way -/

/-- The pass that notes some events before it goes on. -/
def Pass.noting (events : List Event) (p : Pass α) : Pass α := events.foldr .note p

section

variable (w : Surroundings σ) (events : List Event) (p : Pass α) (n : Nat) (s : σ)

theorem runFrom_noting : (p.noting events).runFrom w n s = (p.runFrom w n s).noting events := by
  induction events with
  | nil => rfl
  | cons e rest ih =>
    have hnote : (p.noting (e :: rest)).runFrom w n s =
      Run.noting [e] ((p.noting rest).runFrom w n s) := rfl
    rw [hnote, ih]
    rfl

theorem heardFrom_noting : (p.noting events).heardFrom w n s = p.heardFrom w n s := by
  induction events with
  | nil => rfl
  | cons e rest ih => exact ih

end

theorem Intent.canOwn_eq (intent : Intent) : intent.canOwn = intent.reference.isOk := by
  unfold canOwn reference
  rcases intent.metadata.uid with _ | uid <;> rcases intent.metadata.name with _ | name <;> rfl

namespace Stage

/-- The intent that was read can own its children. -/
def owns : Stage → Bool
  | reading _ intent _ => intent.canOwn
  | writing _ intent _ _ _ => intent.canOwn
  | start => false
  | ended _ => false

/-- At a stage that is not the last, a pass makes a call, and if the call is answered it notes
what there is to tell of the answer and is at the next stage. -/
theorem Asks.rest_noted {st : Stage} {context : ReconcileError} {call : Call}
    {after : call.Answer → Stage} (h : Asks policies id st context call after) :
    ∃ next : call.Answer → Attempt Outcome,
    st.rest policies id = Attempt.request id context call next ∧
      ∀ a, next a =
        ((after a).rest policies id).noting (told st.owns ⟨call, .answered (.ok a)⟩) := by
  cases h with
  | start =>
    refine ⟨_, rfl, fun intent? => ?_⟩
    cases intent? with
    | none => rfl
    | some intent =>
      simp only [Pass.converge, Desired.workload, afterIntent]
      cases policies.resolve intent.spec.runtimeSelector <;> rfl
  | reading turn intent policy =>
    refine ⟨_, rfl, fun current => ?_⟩
    rw [attachOwner_eq, afterRead, owns, Intent.canOwn_eq]
    cases intent.reference with
    | error r => cases turn <;> cases current <;> rfl
    | ok owner => cases turn <;> cases current <;> rfl
  | writing turn intent policy owner current =>
    refine ⟨_, rfl, fun a => ?_⟩
    cases turn <;> cases current <;> rfl

/-! ## The ways of a pass -/

/-- A pass can go this way from a stage on: it is blocked or cancelled at its call, the call
fails, or the call is answered and the pass goes on from the next stage. -/
inductive Goes (policies : PolicyTable) (id : Identity) :
    Stage → List Heard → List Event → Option Verdict → Prop
  | ended (v : Verdict) : Goes policies id (ended v) [] [] (some v)
  | blocked {st context call} {after : call.Answer → Stage}
      (h : Asks policies id st context call after) : Goes policies id st [] [] none
  | cancelled {st context call} {after : call.Answer → Stage}
      (h : Asks policies id st context call after) :
      Goes policies id st [⟨call, .cancelled⟩] [] (some (.error (.of (.cancelled id))))
  | failed {st context call} {after : call.Answer → Stage}
      (h : Asks policies id st context call after) (r : Report PlaneError) :
      Goes policies id st [⟨call, .answered (.error r)⟩] [] (some (.error (r.wrap context)))
  | answered {st context call} {after : call.Answer → Stage}
      (h : Asks policies id st context call after) (a : call.Answer) {heard : List Heard}
      {log : List Event} {ending : Option Verdict}
      (hrest : Goes policies id (after a) heard log ending) :
      Goes policies id st (⟨call, .answered (.ok a)⟩ :: heard)
        (told st.owns ⟨call, .answered (.ok a)⟩ ++ log) ending

/-- Each run of a pass goes one of these ways. -/
theorem goes (policies : PolicyTable) (id : Identity) (w : Surroundings σ) (st : Stage) :
    ∀ (n : Nat) (s : σ), Goes policies id st ((st.rest policies id).heardFrom w n s)
      ((st.rest policies id).runFrom w n s).log ((st.rest policies id).runFrom w n s).ending := by
  induction st using induction_asks policies id with
  | ended v => exact fun n s => .ended v
  | asks h ih =>
    intro n s
    obtain ⟨next, hrest, hnext⟩ := h.rest_noted
    simp only [hrest, Attempt.request, Pass.heardFrom, Pass.runFrom]
    split
    · exact .cancelled h
    · rcases w.plane _ (w.meddle n s) with ⟨_ | ⟨r | a⟩, t⟩
      · simp only
        split
        · exact .cancelled h
        · exact .blocked h
      · exact .failed h r
      · simp only [hnext, runFrom_noting, heardFrom_noting]
        exact .answered h a (ih a (n + 1) t)

end Stage

/-! ## What is told of a reply -/

theorem told_cancelled (owns : Bool) (call : Call) : told owns ⟨call, .cancelled⟩ = [] := by
  rcases call with k | k | k <;> cases k <;> rfl

theorem told_error (owns : Bool) (call : Call) (r : Report PlaneError) :
    told owns ⟨call, .answered (.error r)⟩ = [] := by
  rcases call with k | k | k <;> cases k <;> rfl

/-- The intent that was read. -/
def fetched? (heard : List Heard) : Option Intent :=
  heard.findSome? fun
    | ⟨.get .intent _, .answered (.ok intent?)⟩ => intent?
    | _ => none

/-- The child that was written, and what was done to it. -/
def written? : Heard → Option (Kind × ChildAction)
  | ⟨.create k _, .answered (.ok _)⟩ => some (k, .created)
  | ⟨.replace k _, .answered (.ok _)⟩ => some (k, .updated)
  | _ => none

theorem written?_cons (x : Heard) (rest : List Heard) :
    (x :: rest).filterMap written? = (written? x).toList ++ rest.filterMap written? := by
  rw [List.filterMap_cons]
  cases written? x <;> rfl

/-- The place of a call among those of a pass. -/
def Call.position (call : Call) : Nat :=
  match call.kind, call.verb with
  | .intent, _ => 0
  | .workload, .get => 1
  | .workload, _ => 2
  | .endpoint, .get => 3
  | .endpoint, _ => 4

namespace Stage

/-- The places of the calls that are left. -/
def positions : Stage → List Nat
  | start => [0, 1, 2, 3, 4]
  | reading .workload _ _ => [1, 2, 3, 4]
  | writing .workload _ _ _ _ => [2, 3, 4]
  | reading (.endpoint _) _ _ => [3, 4]
  | writing (.endpoint _) _ _ _ _ => [4]
  | ended _ => []

/-- What was done to the children before. -/
def done : Stage → List (Kind × ChildAction)
  | reading (.endpoint first) _ _ => [(.workload, first)]
  | writing (.endpoint first) _ _ _ _ => [(.workload, first)]
  | ended (.ok (.converged first second)) => [(.workload, first), (.endpoint, second)]
  | _ => []

/-- The stage is behind the reading of the intent, which can own its children or not. -/
def Settled (owns : Bool) : Stage → Prop
  | start => False
  | reading _ intent _ => intent.canOwn = owns
  | writing _ intent _ _ _ => intent.canOwn = owns
  | ended _ => True

section

variable {st : Stage} {context : ReconcileError} {call : Call} {after : call.Answer → Stage}
  {owns : Bool} (h : Asks policies id st context call after)
include h

theorem Asks.ne_ended (v : Verdict) : st ≠ .ended v := by cases h <;> exact nofun

theorem Asks.settled (hst : st.Settled owns) : st.owns = owns ∧ ∀ a, (after a).Settled owns := by
  cases h with
  | start => exact hst.elim
  | reading turn intent policy =>
    refine ⟨hst, fun current => ?_⟩
    unfold afterRead
    cases intent.reference with
    | error r => trivial
    | ok owner => exact hst
  | writing turn intent policy owner current =>
    refine ⟨hst, fun _ => ?_⟩
    cases turn with
    | workload => exact hst
    | endpoint first => trivial

/-- A call has the first place of those that are left. -/
theorem Asks.positions_eq :
    ∃ rest, st.positions = call.position :: rest ∧ ∀ a, (after a).positions <+: rest := by
  cases h with
  | start =>
    refine ⟨_, rfl, fun intent? => ?_⟩
    cases intent? with
    | none => exact List.nil_prefix
    | some intent =>
      unfold afterIntent
      dsimp only
      split
      · exact List.nil_prefix
      · exact List.prefix_rfl
  | reading turn intent policy =>
    have hnext : ∀ current, (afterRead id turn intent policy current).positions <+:
        (Stage.reading turn intent policy).positions.tail := by
      intro current
      unfold afterRead
      cases intent.reference with
      | error r => exact List.nil_prefix
      | ok owner => cases turn <;> exact List.prefix_rfl
    cases turn <;> exact ⟨_, rfl, hnext⟩
  | writing turn intent policy owner current =>
    cases turn <;> cases current <;> exact ⟨_, rfl, fun _ => List.prefix_rfl⟩

/-- What was done before, and what is written now, was done after the call, unless the pass
ends there without being through. -/
theorem Asks.done_eq (a : call.Answer) :
    (after a).done = st.done ++ (written? ⟨call, .answered (.ok a)⟩).toList ∨
      ∃ v, after a = ended v ∧ ∀ first second, v ≠ .ok (.converged first second) := by
  cases h with
  | start =>
    cases a with
    | none => exact .inl rfl
    | some intent =>
      unfold afterIntent
      dsimp only
      split <;> exact .inl rfl
  | reading turn intent policy =>
    unfold afterRead
    cases intent.reference with
    | error r => exact .inr ⟨_, rfl, nofun⟩
    | ok owner => cases turn <;> exact .inl rfl
  | writing turn intent policy owner current =>
    cases turn <;> cases current <;> exact .inl rfl

/-- A pass ends because its intent is gone just if it has told so. -/
theorem Asks.gone_iff (a : call.Answer) :
    .intentGone ∈ told st.owns ⟨call, .answered (.ok a)⟩ ↔ after a = ended (.ok .intentGone) := by
  cases h with
  | start =>
    cases a with
    | none => exact iff_of_true (List.mem_singleton_self _) rfl
    | some intent =>
      refine iff_of_false List.not_mem_nil ?_
      unfold afterIntent
      dsimp only
      split <;> exact nofun
  | reading turn intent policy =>
    refine iff_of_false ?_ ?_
    · cases turn <;> cases a <;> simp [told]
    · unfold afterRead
      cases intent.reference <;> exact nofun
  | writing turn intent policy owner current =>
    refine iff_of_false ?_ ?_
    · cases turn <;> cases current <;> simp [told, Child.write]
    · cases turn <;> exact nofun

/-- No check between two calls is a cancellation. -/
theorem Asks.after_not_cancelled (a : call.Answer) {e : Report ReconcileError}
    (he : after a = ended (.error e)) : e.top.isCancelled = false := by
  cases h with
  | start =>
    cases a with
    | none => cases he
    | some intent =>
      unfold afterIntent at he
      dsimp only at he
      split at he
      · cases he
        rfl
      · cases he
  | reading turn intent policy =>
    unfold afterRead at he
    cases hreference : intent.reference with
    | error r =>
      rw [hreference] at he
      cases he
      rfl
    | ok owner =>
      rw [hreference] at he
      cases he
  | writing turn => cases turn <;> cases he

theorem Asks.context_not_cancelled : context.isCancelled = false := by cases h <;> rfl

theorem Asks.identity?_get (hverb : call.verb = .get) : call.identity? = .ok id := by
  cases h with
  | start | reading => rfl
  | writing turn intent policy owner current => cases current <;> cases hverb

end

/-! ## What holds of each way -/

section

variable {st : Stage} {heard : List Heard} {log : List Event} {ending : Option Verdict}

theorem Goes.of_ended {v : Verdict} (h : Goes policies id (.ended v) heard log ending) :
    heard = [] ∧ log = [] ∧ ending = some v := by
  cases h with
  | ended => exact ⟨rfl, rfl, rfl⟩
  | _ hasks => cases hasks

/-- Once the intent is read, what is noted is what there is to tell of the replies. -/
theorem Goes.log_eq {owns : Bool} (h : Goes policies id st heard log ending)
    (hst : st.Settled owns) : log = heard.flatMap (told owns) := by
  induction h with
  | ended | blocked => rfl
  | @cancelled _ _ call => simp [told_cancelled]
  | @failed _ _ call _ _ r => simp [told_error]
  | answered hasks a _ ih =>
    obtain ⟨howns, hafter⟩ := hasks.settled hst
    rw [List.flatMap_cons, howns, ih (hafter a)]

/-- What is noted in a whole pass is what there is to tell of the replies, by what the pass
has read of its intent. -/
theorem Goes.log_start (h : Goes policies id start heard log ending) :
    log = heard.flatMap (told ((fetched? heard).any Intent.canOwn)) := by
  cases h with
  | blocked => rfl
  | @cancelled _ call => simp [told_cancelled]
  | @failed _ call _ _ r => simp [told_error]
  | answered hasks a hrest =>
    -- whether the intent can own its children is known once the first call is answered
    cases hasks
    cases a with
    | none =>
      cases hrest with
      | ended => rfl
      | _ hasks => cases hasks
    | some intent =>
      have hsettled : (afterIntent policies id (some intent)).Settled intent.canOwn := by
        unfold afterIntent
        dsimp only
        split
        · trivial
        · exact rfl
      exact hrest.log_eq hsettled

/-- The calls are made in order, each of them once. -/
theorem Goes.positions (h : Goes policies id st heard log ending) :
    heard.map (·.1.position) <+: st.positions := by
  induction h with
  | ended | blocked => exact List.nil_prefix
  | cancelled hasks | failed hasks =>
    obtain ⟨rest, hst, -⟩ := hasks.positions_eq
    rw [hst]
    exact List.cons_prefix_cons.2 ⟨rfl, List.nil_prefix⟩
  | answered hasks a _ ih =>
    obtain ⟨rest, hst, hafter⟩ := hasks.positions_eq
    rw [hst, List.map_cons]
    exact List.cons_prefix_cons.2 ⟨rfl, ih.trans (hafter a)⟩

/-- A pass that converges has written both children. -/
theorem Goes.done_eq {first second : ChildAction}
    (h : Goes policies id st heard log (some (.ok (.converged first second)))) :
    st.done ++ heard.filterMap written? = [(.workload, first), (.endpoint, second)] := by
  generalize hending : some (Except.ok (Outcome.converged first second)) = ending at h
  induction h with
  | ended v =>
    cases hending
    rfl
  | blocked | cancelled | failed => cases hending
  | answered hasks a hrest ih =>
    rcases hasks.done_eq a with hdone | ⟨v, hafter, hv⟩
    · rw [written?_cons, ← List.append_assoc, ← hdone, ih hending]
    · -- a check that fails after the call ends the pass before it is through
      rw [hafter] at hrest
      obtain ⟨-, -, hend⟩ := hrest.of_ended
      cases hending.trans hend
      exact absurd rfl (hv first second)

/-- A pass tells that its intent is gone just if it ends for that. -/
theorem Goes.gone_iff (h : Goes policies id st heard log ending) :
    .intentGone ∈ log ∨ st = .ended (.ok .intentGone) ↔ ending = some (.ok .intentGone) := by
  induction h with
  | ended v => simp
  | blocked hasks | cancelled hasks | failed hasks =>
    simp [hasks.ne_ended]
  | answered hasks a hrest ih =>
    rw [← ih, List.mem_append, hasks.gone_iff a, or_iff_left (hasks.ne_ended _), or_comm]

/-- A pass ends as cancelled just if it hears that it is. -/
theorem Goes.cancelled_iff (h : Goes policies id st heard log ending)
    (hst : ∀ e, st = .ended (.error e) → e.top.isCancelled = false) :
    (∃ x ∈ heard, x.2 = .cancelled) ↔
      ∃ e, ending = some (.error e) ∧ e.top.isCancelled = true := by
  induction h with
  | ended v =>
    refine iff_of_false (by simp) ?_
    rintro ⟨e, hv, he⟩
    cases hv
    rw [hst e rfl] at he
    cases he
  | blocked => simp
  | cancelled => exact iff_of_true ⟨_, List.mem_singleton_self _, rfl⟩ ⟨_, rfl, rfl⟩
  | failed hasks r =>
    refine iff_of_false (by simp) ?_
    rintro ⟨e, hv, he⟩
    cases hv
    exact absurd he (Bool.eq_false_iff.1 hasks.context_not_cancelled)
  | answered hasks a hrest ih =>
    rw [← ih fun e he => hasks.after_not_cancelled a he]
    simp only [List.mem_cons, exists_eq_or_imp]
    exact or_iff_right nofun

/-- A pass fails without being cancelled just if it fails and does not hear that it is. -/
theorem Goes.failed_iff (h : Goes policies id st heard log ending)
    (hst : ∀ e, st = .ended (.error e) → e.top.isCancelled = false) :
    (∃ e, ending = some (.error e) ∧ e.top.isCancelled = false) ↔
      (∃ e, ending = some (.error e)) ∧ ∀ x ∈ heard, x.2 ≠ .cancelled := by
  have hcancelled := h.cancelled_iff hst
  constructor
  · rintro ⟨e, he, htop⟩
    refine ⟨⟨e, he⟩, fun x hx hreply => ?_⟩
    obtain ⟨e', he', htop'⟩ := hcancelled.1 ⟨x, hx, hreply⟩
    cases he.symm.trans he'
    exact absurd htop' (Bool.eq_false_iff.1 htop)
  · rintro ⟨⟨e, he⟩, hnone⟩
    refine ⟨e, he, Bool.eq_false_iff.2 fun htop => ?_⟩
    obtain ⟨x, hx, hreply⟩ := hcancelled.2 ⟨e, he, htop⟩
    exact hnone x hx hreply

theorem Goes.identity?_get (h : Goes policies id st heard log ending) :
    ∀ x ∈ heard, x.1.verb = .get → x.1.identity? = .ok id := by
  induction h with
  | ended | blocked => exact List.forall_mem_nil _
  | cancelled hasks | failed hasks =>
    exact List.forall_mem_cons.2 ⟨hasks.identity?_get, List.forall_mem_nil _⟩
  | answered hasks a _ ih => exact List.forall_mem_cons.2 ⟨hasks.identity?_get, ih⟩

end

end Stage

end ServingOperator
