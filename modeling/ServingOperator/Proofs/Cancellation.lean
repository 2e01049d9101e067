-- The laws of cancellation. A token is seen when a call is due or while
-- a call hangs. The pass ends there: it has made the first calls of those it
-- would have made, it makes no other, and the state is the one these calls
-- lead to. A token that is not seen changes nothing.
import ServingOperator.Proofs.Recovery
import ServingOperator.Proofs.Reports

namespace ServingOperator

variable {σ α : Type} {policies : PolicyTable} {id : Identity} {t : Token}

/-! ## The calls of a pass -/

/-- The calls that a pass makes from call `n` on, with the one that hangs. -/
def Pass.callsFrom (w : Surroundings σ) : Pass α → Nat → σ → List Call
  | .done _, _, _ => []
  | .note _ rest, n, s => rest.callsFrom w n s
  | .ask call next, n, s =>
    if w.token.fired n then (next .cancelled).callsFrom w n s
    else
      match w.plane call (w.meddle n s) with
      | (.answers result, s) => call :: (next (.answered result)).callsFrom w (n + 1) s
      | (.hangs, s) =>
        call :: if w.token.firesDuring n then (next .cancelled).callsFrom w (n + 1) s else []

/-- The state after calls were made in turn, the first of them as call `n`. -/
def Surroundings.after (w : Surroundings σ) : List Call → Nat → σ → σ
  | [], _, s => s
  | call :: rest, n, s => w.after rest (n + 1) (w.plane call (w.meddle n s)).2

/-! ## When a token is seen -/

/-- A pass that would make `total` calls from call `n` on, and `hangs` at the
last of them or not, sees the token after it has made `m` of them. -/
inductive Token.Seen (t : Token) (n total : Nat) (hangs : Prop) : Nat → Prop
  /-- The next call is due when the token has fired. -/
  | due {m : Nat} (hdue : m < total) (hfired : t.fired (n + m) = true)
      (hfirst : ∀ j < m, t.fired (n + j) = false) : Token.Seen t n total hangs m
  /-- The last call hangs when the token fires. -/
  | hanging (hhangs : hangs) (hduring : t.firesDuring (n + total - 1) = true)
      (hfirst : ∀ j < total, t.fired (n + j) = false) : Token.Seen t n total hangs total

namespace Token

variable {n total m k : Nat} {hangs : Prop}

/-- Once a token has fired, it is seen at once. -/
theorem seen_of_fired (h : t.fired n = true) :
    t.Seen n (total + 1) hangs m ↔ m = 0 := by
  constructor
  · intro hseen
    cases hseen with
    | due _ _ hfirst =>
      by_contra hm
      have hfalse := hfirst 0 (Nat.pos_of_ne_zero hm)
      rw [Nat.add_zero, h] at hfalse
      cases hfalse
    | hanging _ _ hfirst =>
      have hfalse := hfirst 0 (Nat.succ_pos total)
      rw [Nat.add_zero, h] at hfalse
      cases hfalse
  · rintro rfl
    exact .due (Nat.succ_pos total) h fun j hj => absurd hj (Nat.not_lt_zero j)

/-- A token that has not fired at a call is seen later or not at all, unless
it fires while this call hangs. -/
theorem seen_succ (h : t.fired n = false) :
    t.Seen n (total + 1) hangs m ↔ ∃ m', m = m' + 1 ∧ t.Seen (n + 1) total hangs m' := by
  have hshift : ∀ j, n + (j + 1) = n + 1 + j := fun j => by omega
  constructor
  · intro hseen
    cases hseen with
    | due hdue hfired hfirst =>
      cases m with
      | zero =>
        rw [Nat.add_zero, h] at hfired
        cases hfired
      | succ m' =>
        refine ⟨m', rfl, .due (by omega) (hshift m' ▸ hfired) fun j hj => ?_⟩
        rw [← hshift]
        exact hfirst (j + 1) (by omega)
    | hanging hhangs hduring hfirst =>
      refine ⟨total, rfl, .hanging hhangs ?_ fun j hj => ?_⟩
      · rwa [show n + 1 + total - 1 = n + (total + 1) - 1 by omega]
      · rw [← hshift]
        exact hfirst (j + 1) (by omega)
  · rintro ⟨m', rfl, hseen⟩
    have hfirst : ∀ j < m' + 1, (∀ j < m', t.fired (n + 1 + j) = false) →
        t.fired (n + j) = false := by
      intro j hj hrest
      cases j with
      | zero => exact h
      | succ j =>
        rw [hshift]
        exact hrest j (by omega)
    cases hseen with
    | due hdue hfired hrest =>
      exact .due (by omega) (hshift m' ▸ hfired) fun j hj => hfirst j hj hrest
    | hanging hhangs hduring hrest =>
      refine .hanging hhangs ?_ fun j hj => hfirst j hj hrest
      rwa [show n + (total + 1) - 1 = n + 1 + total - 1 by omega]

/-- A token that fires before call `k` is seen when call `k` is due, after
`k - 1` calls. -/
theorem seen_before : Token.Seen [.before k] 1 total hangs m ↔ m = k - 1 ∧ m < total := by
  have hfired : ∀ j, Token.fired [.before k] j = decide (k ≤ j) := fun j => by simp [Token.fired]
  constructor
  · intro hseen
    cases hseen with
    | due hdue hm hfirst =>
      refine ⟨?_, hdue⟩
      simp only [hfired, decide_eq_true_eq, decide_eq_false_iff_not] at hm hfirst
      by_contra hne
      exact hfirst (k - 1) (by omega) (by omega)
    | hanging _ hduring _ => simp [firesDuring] at hduring
  · rintro ⟨rfl, hdue⟩
    refine .due hdue ?_ fun j hj => ?_
    · simp only [hfired, decide_eq_true_eq]
      omega
    · simp only [hfired, decide_eq_false_iff_not]
      omega

/-- A token that fires during call `k` is seen while this call hangs, or when
the next one is due. -/
theorem seen_during :
    Token.Seen [.during k] 1 total hangs m ↔ m = k ∧ (k < total ∨ k = total ∧ hangs) := by
  have hfired : ∀ j, Token.fired [.during k] j = decide (k < j) := fun j => by simp [Token.fired]
  constructor
  · intro hseen
    cases hseen with
    | due hdue hm hfirst =>
      simp only [hfired, decide_eq_true_eq, decide_eq_false_iff_not] at hm hfirst
      have hmk : m = k := by
        by_contra hne
        exact hfirst k (by omega) (by omega)
      exact ⟨hmk, .inl (hmk ▸ hdue)⟩
    | hanging hhangs hduring hfirst =>
      have hk : k = total := by
        simp only [firesDuring, List.any_cons, List.any_nil, Bool.or_false,
          decide_eq_true_eq] at hduring
        omega
      exact ⟨hk.symm, .inr ⟨hk, hhangs⟩⟩
  · rintro ⟨rfl, hdue | ⟨rfl, hhangs⟩⟩
    · refine .due hdue ?_ fun j hj => ?_
      · simp only [hfired, decide_eq_true_eq]
        omega
      · simp only [hfired, decide_eq_false_iff_not]
        omega
    · refine .hanging hhangs ?_ fun j hj => ?_
      · simp [firesDuring]
      · simp only [hfired, decide_eq_false_iff_not]
        omega

/-- A token that fires as soon as a call hangs is seen if one does. -/
theorem seen_blocked : Token.Seen [.blocked] 1 total hangs m ↔ m = total ∧ hangs := by
  constructor
  · intro hseen
    cases hseen with
    | due _ hfired _ => simp [fired] at hfired
    | hanging hhangs _ _ => exact ⟨rfl, hhangs⟩
  · rintro ⟨rfl, hhangs⟩
    exact .hanging hhangs rfl fun _ _ => rfl

end Token

/-! ## Passes that heed their token -/

/-- Wherever the pass hears that it was cancelled, it ends at once with this
as its report. It never ends with such a report otherwise. -/
inductive Attempt.Heeds (id : Identity) : Attempt α → Prop
  | done (v : Except (Report ReconcileError) α)
      (hv : ∀ e, v = .error e → e.top.isCancelled = false) : Attempt.Heeds id (.done v)
  | note (e : Event) {rest : Attempt α} (hrest : Attempt.Heeds id rest) :
      Attempt.Heeds id (.note e rest)
  | ask (call : Call) {next : Reply call.Answer → Attempt α}
      (hcancelled : next .cancelled = .done (.error ⟨.cancelled id, []⟩))
      (hnext : ∀ result, Attempt.Heeds id (next (.answered result))) :
      Attempt.Heeds id (.ask call next)

theorem heeds_ok (a : α) : Attempt.Heeds id (Attempt.ok a) := .done _ fun _ h => nomatch h

theorem heeds_fail {ε : Type} [Reportable ε] {context : ReconcileError}
    (hcontext : context.isCancelled = false) (r : Report ε) :
    Attempt.Heeds id (Attempt.fail (α := α) (r.wrap context)) := by
  refine .done _ fun e he => ?_
  cases he
  exact hcontext

theorem heeds_request {context : ReconcileError} {call : Call} {next : call.Answer → Attempt α}
    (hcontext : context.isCancelled = false) (h : ∀ a, Attempt.Heeds id (next a)) :
    Attempt.Heeds id (Attempt.request id context call next) := by
  refine .ask call rfl fun result => ?_
  cases result with
  | error r => exact heeds_fail hcontext r
  | ok a => exact h a

theorem heeds_convergeChild {intent : Intent} {c : Child} {desired : c.Object}
    {next : ChildAction → Attempt Outcome} (h : ∀ action, Attempt.Heeds id (next action)) :
    Attempt.Heeds id (Pass.convergeChild id intent c desired next) := by
  apply heeds_request rfl
  intro current
  cases attachOwner intent desired with
  | error r => exact heeds_fail rfl r
  | ok owned =>
    cases current with
    | none =>
      apply Attempt.Heeds.note
      exact heeds_request rfl fun _ => .note _ (h .created)
    | some current => exact heeds_request rfl fun _ => .note _ (h .updated)

/-- A pass over an intent can be cancelled at each of its calls. -/
theorem heeds_reconcile (policies : PolicyTable) (id : Identity) :
    Attempt.Heeds id (Pass.reconcile policies id) := by
  apply heeds_request rfl
  intro intent?
  cases intent? with
  | none => exact .note _ (heeds_ok _)
  | some intent =>
    simp only [Pass.converge]
    cases Desired.workload policies intent with
    | error r => exact heeds_fail rfl r
    | ok workload =>
      apply heeds_convergeChild
      intro first
      exact heeds_convergeChild fun second => heeds_ok _

/-! ## One call -/

section

variable {w : Surroundings σ} {n : Nat} {s s' : σ} {call : Call}
  {next : Reply call.Answer → Pass α}

theorem runFrom_fired (h : w.token.fired n = true) :
    (Pass.ask call next).runFrom w n s = (next .cancelled).runFrom w n s := by
  simp only [Pass.runFrom, h, if_true]

theorem callsFrom_fired (h : w.token.fired n = true) :
    (Pass.ask call next).callsFrom w n s = (next .cancelled).callsFrom w n s := by
  simp only [Pass.callsFrom, h, if_true]

variable (hfired : w.token.fired n = false)
include hfired

theorem runFrom_answered {result : Except (Report PlaneError) call.Answer}
    (h : w.plane call (w.meddle n s) = (.answers result, s')) :
    (Pass.ask call next).runFrom w n s = (next (.answered result)).runFrom w (n + 1) s' := by
  simp only [Pass.runFrom, hfired, h, Bool.false_eq_true, if_false]

theorem callsFrom_answered {result : Except (Report PlaneError) call.Answer}
    (h : w.plane call (w.meddle n s) = (.answers result, s')) :
    (Pass.ask call next).callsFrom w n s =
      call :: (next (.answered result)).callsFrom w (n + 1) s' := by
  simp only [Pass.callsFrom, hfired, h, Bool.false_eq_true, if_false]

theorem runFrom_hangs (h : w.plane call (w.meddle n s) = (.hangs, s')) :
    (Pass.ask call next).runFrom w n s =
      if w.token.firesDuring n then (next .cancelled).runFrom w (n + 1) s' else ⟨none, s', []⟩ := by
  simp only [Pass.runFrom, hfired, h, Bool.false_eq_true, if_false]

theorem callsFrom_hangs (h : w.plane call (w.meddle n s) = (.hangs, s')) :
    (Pass.ask call next).callsFrom w n s =
      call :: if w.token.firesDuring n then (next .cancelled).callsFrom w (n + 1) s' else [] := by
  simp only [Pass.callsFrom, hfired, h, Bool.false_eq_true, if_false]

end

/-- A pass leaves the state that its calls lead to. -/
theorem state_eq_after (w : Surroundings σ) (p : Pass α) (n : Nat) (s : σ) :
    (p.runFrom w n s).state = w.after (p.callsFrom w n s) n s := by
  induction p generalizing n s with
  | done a => rfl
  | note e rest ih => exact ih n s
  | ask call next ih =>
    cases hfired : w.token.fired n with
    | true =>
      rw [runFrom_fired hfired, callsFrom_fired hfired]
      exact ih .cancelled n s
    | false =>
      rcases hplane : w.plane call (w.meddle n s) with ⟨_ | result, s'⟩
      · rw [runFrom_hangs hfired hplane, callsFrom_hangs hfired hplane, Surroundings.after, hplane]
        split
        · exact ih .cancelled (n + 1) s'
        · rfl
      · rw [runFrom_answered hfired hplane, callsFrom_answered hfired hplane, Surroundings.after,
          hplane]
        exact ih (.answered result) (n + 1) s'

/-! ## A pass that sees its token -/

/-- The same surroundings where nobody fires the token. -/
def Surroundings.tokenless (w : Surroundings σ) : Surroundings σ := { w with token := [] }

theorem fired_tokenless (w : Surroundings σ) (n : Nat) : w.tokenless.token.fired n = false := rfl

/-- What a token does to a pass: where it is seen it cuts the pass short, and
where it is not seen it changes nothing. -/
structure Heeded (w : Surroundings σ) (id : Identity) (p : Attempt α) (n : Nat) (s : σ) :
    Prop where
  cut : ∀ m, w.token.Seen n (p.callsFrom w.tokenless n s).length
    ((p.runFrom w.tokenless n s).ending = none) m →
      (p.runFrom w n s).ending = some (.error ⟨.cancelled id, []⟩) ∧
        p.callsFrom w n s = (p.callsFrom w.tokenless n s).take m
  unseen : (∀ m, ¬ w.token.Seen n (p.callsFrom w.tokenless n s).length
    ((p.runFrom w.tokenless n s).ending = none) m) →
      p.runFrom w n s = p.runFrom w.tokenless n s

section

variable {w : Surroundings σ} {n : Nat} {s s' : σ} {call : Call}
  {next : Reply call.Answer → Attempt α} {rest : Attempt α}

theorem heeded_done (v : Except (Report ReconcileError) α) : Heeded w id (.done v) n s := by
  constructor
  case cut =>
    intro m hseen
    cases hseen with
    | due hdue _ _ => exact absurd hdue (Nat.not_lt_zero m)
    | hanging hhangs _ _ => cases hhangs
  case unseen => exact fun _ => rfl

theorem heeded_note (e : Event) (h : Heeded w id rest n s) : Heeded w id (.note e rest) n s := by
  constructor
  case cut => exact h.cut
  case unseen =>
    intro hno
    simp only [Pass.runFrom, h.unseen hno]

/-- A call that is due when the token has fired is not made. -/
theorem heeded_fired (hcancelled : next .cancelled = .done (.error ⟨.cancelled id, []⟩))
    (hfired : w.token.fired n = true) : Heeded w id (.ask call next) n s := by
  -- without the token the call is made
  obtain ⟨rest, hmade⟩ : ∃ rest, (Pass.ask call next).callsFrom w.tokenless n s = call :: rest := by
    rcases hplane : w.plane call (w.meddle n s) with ⟨_ | result, s'⟩
    · exact ⟨_, callsFrom_hangs (fired_tokenless w n) hplane⟩
    · exact ⟨_, callsFrom_answered (fired_tokenless w n) hplane⟩
  constructor
  case cut =>
    intro m hseen
    rw [hmade] at hseen ⊢
    cases (Token.seen_of_fired hfired).1 hseen
    rw [runFrom_fired hfired, callsFrom_fired hfired, hcancelled]
    exact ⟨rfl, rfl⟩
  case unseen =>
    intro hno
    rw [hmade] at hno
    exact absurd ((Token.seen_of_fired hfired).2 rfl) (hno 0)

/-- A call that hangs ends the pass if the token fires meanwhile, and blocks
it otherwise. -/
theorem heeded_hangs (hcancelled : next .cancelled = .done (.error ⟨.cancelled id, []⟩))
    (hfired : w.token.fired n = false) (hplane : w.plane call (w.meddle n s) = (.hangs, s')) :
    Heeded w id (.ask call next) n s := by
  have hblocked : (Pass.ask call next).runFrom w.tokenless n s = ⟨none, s', []⟩ :=
    runFrom_hangs (fired_tokenless w n) hplane
  have hmade : (Pass.ask call next).callsFrom w.tokenless n s = [call] :=
    callsFrom_hangs (fired_tokenless w n) hplane
  constructor
  case cut =>
    intro m hseen
    rw [hmade] at hseen ⊢
    obtain ⟨m', rfl, hlast⟩ := (Token.seen_succ hfired).1 hseen
    cases hlast with
    | due hdue _ _ => exact absurd hdue (Nat.not_lt_zero m')
    | hanging _ hduring _ =>
      have hduring : w.token.firesDuring n = true := hduring
      rw [runFrom_hangs hfired hplane, callsFrom_hangs hfired hplane, if_pos hduring,
        if_pos hduring, hcancelled]
      exact ⟨rfl, rfl⟩
  case unseen =>
    intro hno
    rw [hmade, hblocked] at hno
    have hduring : ¬ w.token.firesDuring n = true := by
      intro hduring
      refine hno 1 ((Token.seen_succ hfired).2 ⟨0, rfl, .hanging rfl hduring fun j hj => ?_⟩)
      exact absurd hj (Nat.not_lt_zero j)
    rw [runFrom_hangs hfired hplane, if_neg hduring, hblocked]

/-- After a call that is answered, the token is seen later or not at all. -/
theorem heeded_answered {result : Except (Report PlaneError) call.Answer}
    (hfired : w.token.fired n = false)
    (hplane : w.plane call (w.meddle n s) = (.answers result, s'))
    (h : Heeded w id (next (.answered result)) (n + 1) s') :
    Heeded w id (.ask call next) n s := by
  have hrun : (Pass.ask call next).runFrom w.tokenless n s = _ :=
    runFrom_answered (fired_tokenless w n) hplane
  have hmade : (Pass.ask call next).callsFrom w.tokenless n s = _ :=
    callsFrom_answered (fired_tokenless w n) hplane
  constructor
  case cut =>
    intro m hseen
    rw [hmade, hrun] at hseen
    obtain ⟨m', rfl, hlater⟩ := (Token.seen_succ hfired).1 hseen
    obtain ⟨hending, hcalls⟩ := h.cut m' hlater
    rw [runFrom_answered hfired hplane, callsFrom_answered hfired hplane, hmade, hcalls,
      List.take_succ_cons]
    exact ⟨hending, rfl⟩
  case unseen =>
    intro hno
    rw [hmade, hrun] at hno
    rw [runFrom_answered hfired hplane, hrun]
    exact h.unseen fun m' hseen => hno (m' + 1) ((Token.seen_succ hfired).2 ⟨m', rfl, hseen⟩)

end

/-- In any surroundings, a token cuts a pass that heeds it short where it is
seen, and nowhere else. -/
theorem Attempt.Heeds.heeded {p : Attempt α} (h : p.Heeds id) (w : Surroundings σ) (n : Nat)
    (s : σ) : Heeded w id p n s := by
  induction h generalizing n s with
  | done v _ => exact heeded_done v
  | note e _ ih => exact heeded_note e (ih n s)
  | ask call hcancelled _ ih =>
    cases hfired : w.token.fired n with
    | true => exact heeded_fired hcancelled hfired
    | false =>
      rcases hplane : w.plane call (w.meddle n s) with ⟨_ | result, s'⟩
      · exact heeded_hangs hcancelled hfired hplane
      · exact heeded_answered hfired hplane (ih result (n + 1) s')

/-- A pass of which nobody fires the token never reports a cancellation. -/
theorem Attempt.Heeds.not_cancelled {p : Attempt α} (h : p.Heeds id) (w : Surroundings σ)
    (n : Nat) (s : σ) {e : Report ReconcileError}
    (he : (p.runFrom w.tokenless n s).ending = some (.error e)) : e.top.isCancelled = false := by
  induction h generalizing n s with
  | done v hv => exact hv e (Option.some.inj he)
  | note _ _ ih => exact ih n s he
  | ask call _ _ ih =>
    rcases hplane : w.plane call (w.meddle n s) with ⟨_ | result, s'⟩
    · rw [runFrom_hangs (fired_tokenless w n) hplane] at he
      cases he
    · rw [runFrom_answered (fired_tokenless w n) hplane] at he
      exact ih result (n + 1) s' he

/-! ## The calls of a pass alone at a store -/

/-- The store after calls were made in turn. -/
def Store.afterCalls (s : Store) (calls : List Call) : Store :=
  calls.foldl (fun s call => (plane call s).2) s

theorem after_alone (t : Token) (calls : List Call) (n : Nat) (s : Store) :
    (Surroundings.alone t).after calls n s = s.afterCalls calls := by
  induction calls generalizing n s with
  | nil => rfl
  | cons call rest ih => exact ih (n + 1) (Store.plane call s).2

/-- The record of a call over the intent `id`. -/
def Call.recordOn (id : Identity) (call : Call) : CallRecord := ⟨call.verb, call.kind, id⟩

theorem calls_afterCalls {s : Store} (hs : s.Good) {calls : List Call}
    (h : ∀ call ∈ calls, call.identity? = .ok id) :
    (s.afterCalls calls).calls = s.calls ++ calls.map (·.recordOn id) := by
  induction calls generalizing s with
  | nil => simp [Store.afterCalls]
  | cons call rest ih =>
    obtain ⟨hcall, hrest⟩ := List.forall_mem_cons.1 h
    have hafter := ih ((s.change_plane call).good hs) hrest
    rw [Store.calls_plane hs hcall] at hafter
    simp only [Store.afterCalls, List.foldl_cons, List.map_cons] at hafter ⊢
    rw [hafter, List.append_assoc, List.singleton_append]
    rfl

theorem callsFrom_unnoted (w : Surroundings σ) (p : Pass α) (n : Nat) (s : σ) :
    p.unnoted.callsFrom w n s = p.callsFrom w n s := by
  induction p with
  | done | ask => rfl
  | note _ rest ih => exact ih

/-- Whatever stage a pass is at, all calls that it makes are about its intent. -/
theorem identity?_callsFrom (policies : PolicyTable) (id : Identity) (st : Stage) :
    st.About id → ∀ n (s : Store), s.Good →
      ∀ call ∈ (st.rest policies id).callsFrom (.alone []) n s, call.identity? = .ok id := by
  refine Stage.induction_asks (motive := fun st => st.About id → ∀ n (s : Store), s.Good →
    ∀ call ∈ (st.rest policies id).callsFrom (.alone []) n s, call.identity? = .ok id)
    policies id ?_ ?_ st
  · intro v _ n s _ call hcall
    cases hcall
  · intro st context call after hasks ih hst n s hs
    obtain ⟨next, hrest, hnext⟩ := hasks.rest_eq
    have hcall := hasks.identity?_call hst
    have hfired : (Surroundings.alone []).token.fired n = false := rfl
    rw [hrest, Attempt.request]
    rcases hplane : Store.plane call s with ⟨_ | ⟨r | a⟩, s'⟩
    · rw [callsFrom_hangs hfired hplane]
      exact List.forall_mem_cons.2 ⟨hcall, List.forall_mem_nil _⟩
    · rw [callsFrom_answered hfired hplane]
      exact List.forall_mem_cons.2 ⟨hcall, List.forall_mem_nil _⟩
    · rw [callsFrom_answered hfired hplane]
      refine List.forall_mem_cons.2 ⟨hcall, ?_⟩
      have hs' : s'.Good := by
        have hgood := (s.change_plane call).good hs
        rwa [hplane] at hgood
      have habout := hasks.about hst hs (congrArg Prod.fst hplane)
      simp only
      rw [← callsFrom_unnoted, hnext]
      exact ih a habout (n + 1) s' hs'

/-! ## The law -/

/-- The calls that a pass over `id` would make at the store `s` if nobody
fired its token. -/
def plannedCalls (policies : PolicyTable) (id : Identity) (s : Store) : List Call :=
  (Pass.reconcile policies id).callsFrom (.alone []) 1 s

/-- The pass over `id` at the store `s` was cancelled when its calls were
those in `made`. -/
structure CancelledAfter (policies : PolicyTable) (id : Identity) (s : Store) (t : Token)
    (made : List Call) : Prop where
  /-- It reports that it was cancelled, and nothing else. -/
  ending : ((Pass.reconcile policies id).run (.alone t) s).ending =
    some (.error ⟨.cancelled id, []⟩)
  /-- It made these calls and no other one. -/
  calls : (Pass.reconcile policies id).callsFrom (.alone t) 1 s = made
  recorded : ((Pass.reconcile policies id).run (.alone t) s).state.calls =
    s.calls ++ made.map (·.recordOn id)
  /-- It left what they lead to. -/
  state : ((Pass.reconcile policies id).run (.alone t) s).state = s.afterCalls made

/-- The token is seen after `m` calls of a pass over `id` at the store `s`. -/
def SeenAfter (policies : PolicyTable) (id : Identity) (s : Store) (t : Token) (m : Nat) : Prop :=
  t.Seen 1 (plannedCalls policies id s).length
    (((Pass.reconcile policies id).run (.alone []) s).ending = none) m

/-- What a token does to a pass over `id` at the store `s`, and when. -/
structure Cancellable (policies : PolicyTable) (id : Identity) (s : Store) : Prop where
  /-- Whatever its calls are answered, the pass makes no call once it has heard
  that it was cancelled. -/
  at_once : Attempt.Heeds id (Pass.reconcile policies id)
  /-- Where the token is seen, the pass has made the first of its calls. -/
  seen : ∀ t m, SeenAfter policies id s t m →
    CancelledAfter policies id s t ((plannedCalls policies id s).take m)
  /-- Where it is not, the pass goes as it goes without a token. -/
  unseen : ∀ t, (∀ m, ¬ SeenAfter policies id s t m) →
    (Pass.reconcile policies id).run (.alone t) s = (Pass.reconcile policies id).run (.alone []) s
  /-- Before call `k`: the calls before it were made, if the pass gets there. -/
  before : ∀ k m, SeenAfter policies id s [.before k] m ↔
    m = k - 1 ∧ m < (plannedCalls policies id s).length
  /-- During call `k`: this call was made too. It hangs, or another follows. -/
  during : ∀ k m, SeenAfter policies id s [.during k] m ↔
    m = k ∧ (k < (plannedCalls policies id s).length ∨
      k = (plannedCalls policies id s).length ∧
        ((Pass.reconcile policies id).run (.alone []) s).ending = none)
  /-- As soon as a call hangs: it is the last one. -/
  blocked : ∀ m, SeenAfter policies id s [.blocked] m ↔
    m = (plannedCalls policies id s).length ∧
      ((Pass.reconcile policies id).run (.alone []) s).ending = none
  /-- Without a token, all calls are recorded. -/
  recorded : ((Pass.reconcile policies id).run (.alone []) s).state.calls =
    s.calls ++ (plannedCalls policies id s).map (·.recordOn id)
  /-- A failed pass waits for a change exactly if its token was seen. -/
  awaits : ∀ t (delays : RequeueDelays) e,
    ((Pass.reconcile policies id).run (.alone t) s).ending = some (.error e) →
      (delays.afterFailure e = .awaitChange ↔ ∃ m, SeenAfter policies id s t m)
  /-- So does any report of a cancellation. -/
  cancelled : ∀ (delays : RequeueDelays) (e : Report ReconcileError) i, e.top = .cancelled i →
    delays.afterFailure e = .awaitChange

/-- From any state, with any calls made to fail or to hang, over any intent or
none: whenever the token fires, the pass stops there and has done no more and
no less than it would have done by then. -/
theorem a_token_stops_a_pass_and_nothing_else (policies : PolicyTable) (id : Identity) {s : Store}
    (hs : s.Reachable) : Cancellable policies id s := by
  have hheeds := heeds_reconcile policies id
  have hheeded := fun t => hheeds.heeded (.alone t) 1 s
  have hidentity := identity?_callsFrom policies id .start trivial 1 s hs.good
  constructor
  case at_once => exact hheeds
  case seen =>
    intro t m hseen
    obtain ⟨hending, hcalls⟩ := (hheeded t).cut m hseen
    have hstate := state_eq_after (.alone t) (Pass.reconcile policies id) 1 s
    rw [hcalls, after_alone] at hstate
    refine ⟨hending, hcalls, ?_, hstate⟩
    rw [Pass.run, hstate]
    exact calls_afterCalls hs.good fun call hcall => hidentity call (List.mem_of_mem_take hcall)
  case unseen => exact fun t => (hheeded t).unseen
  case before => exact fun k m => Token.seen_before
  case during => exact fun k m => Token.seen_during
  case blocked => exact fun m => Token.seen_blocked
  case recorded =>
    rw [Pass.run, state_eq_after, after_alone]
    exact calls_afterCalls hs.good hidentity
  case awaits =>
    intro t delays e he
    rw [RequeueDelays.afterFailure_eq_awaitChange]
    constructor
    · intro hcancelled
      by_contra hno
      have hplain := (hheeded t).unseen fun m hm => hno ⟨m, hm⟩
      rw [Pass.run, hplain] at he
      rw [hheeds.not_cancelled (.alone []) 1 s he] at hcancelled
      cases hcancelled
    · rintro ⟨m, hseen⟩
      rw [Pass.run, ((hheeded t).cut m hseen).1] at he
      cases he
      rfl
  case cancelled =>
    intro delays e i he
    rw [RequeueDelays.afterFailure_eq_awaitChange, he]
    rfl

/-- A pass that hangs at its last call, and whose token fires meanwhile. -/
theorem a_token_stops_a_pass_that_hangs :
    CancelledAfter .standard llamaId stuckStore [.during 5]
      ((plannedCalls .standard llamaId stuckStore).take 5) :=
  (a_token_stops_a_pass_and_nothing_else .standard llamaId (.perform _ busyStore_reachable)).seen
    [.during 5] 5 (Token.seen_during.2 ⟨rfl, .inr ⟨rfl, rfl⟩⟩)

end ServingOperator
