-- Several passes at one store. Each makes its next call when it is its turn,
-- in any order, and other clients do what they like between the calls. What
-- was done is kept as a history, so that laws can speak of what happened
-- between two calls of a pass.
import Mathlib.Logic.Function.Basic
import ServingOperator.Proofs.StoreCalls

namespace ServingOperator

/-- A pass from its next call on. What it notes before is left out. -/
def Pass.unnoted {α : Type} : Pass α → Pass α
  | .note _ rest => rest.unnoted
  | .done a => .done a
  | .ask call next => .ask call next

/-- A pass on its way: what is left of it, and whether its next call was
made already and hangs. -/
structure Member (α : Type) where
  rest : Pass α
  hangs : Bool := false

/-- Something done to a store, by a pass or by somebody else. -/
structure Deed (ι : Type) where
  who : Option ι
  before : Store
  op : Store.Operation

structure Crowd (ι α : Type) where
  store : Store
  members : ι → Member α
  /-- What was done, the latest first. -/
  history : List (Deed ι) := []

/-- What can happen next. -/
inductive Move (ι : Type) where
  /-- A pass makes its next call. -/
  | go (i : ι)
  /-- The token of a pass fires, before its next call or while it hangs. -/
  | cancel (i : ι)
  /-- Another client does something. -/
  | others (op : Store.Operation)

namespace Crowd

variable {ι α : Type} {c : Crowd ι α} {i j : ι}

/-- Passes that have not made a call yet. -/
def start (s : Store) (passes : ι → Pass α) : Crowd ι α :=
  { store := s, members := fun i => { rest := (passes i).unnoted } }

/-- The crowd after something was done to its store. -/
def does (c : Crowd ι α) (who : Option ι) (op : Store.Operation) : Crowd ι α :=
  { c with store := c.store.perform op, history := ⟨who, c.store, op⟩ :: c.history }

/-- What is left of a pass after its call was made. -/
def reaction (call : Call) (next : Reply call.Answer → Pass α) : Served call.Answer → Member α
  | .hangs => { rest := .ask call next, hangs := true }
  | .answers result => { rest := (next (.answered result)).unnoted }

/-- How a pass has ended, if it has. -/
def ending? (c : Crowd ι α) (i : ι) : Option α :=
  match (c.members i).rest with
  | .done a => some a
  | _ => none

theorem ending?_eq_some {a : α} : c.ending? i = some a ↔ (c.members i).rest = .done a := by
  unfold ending?
  cases (c.members i).rest <;> simp

/-! ## Histories -/

/-- The deeds lead from `s` to `t`, one after the other. -/
def Leads (s : Store) : List (Deed ι) → Store → Prop
  | [], t => t = s
  | d :: rest, t => t = d.before.perform d.op ∧ Leads s rest d.before

theorem Leads.later {s t : Store} {history : List (Deed ι)} (h : Leads s history t) :
    s.Later t := by
  induction history generalizing t with
  | nil =>
    cases h
    exact .refl
  | cons d rest ih =>
    obtain ⟨rfl, hrest⟩ := h
    exact (ih hrest).perform d.op

/-- A history can be cut at any deed. -/
theorem Leads.cut {s t : Store} {later earlier : List (Deed ι)} {d : Deed ι}
    (h : Leads s (later ++ d :: earlier) t) :
    Leads s earlier d.before ∧ Leads (d.before.perform d.op) later t := by
  induction later generalizing t with
  | nil => exact ⟨h.2, h.1⟩
  | cons d' rest ih =>
    obtain ⟨rfl, hrest⟩ := h
    obtain ⟨hearlier, hlater⟩ := ih hrest
    exact ⟨hearlier, rfl, hlater⟩

/-- What holds at the start of a history and is kept by each deed in it holds
in the end. -/
theorem Leads.induction {s t : Store} {history : List (Deed ι)} (h : Leads s history t)
    {P : List (Deed ι) → Store → Prop} (start : P [] s)
    (step : ∀ later d earlier, history = later ++ d :: earlier → P earlier d.before →
      P (d :: earlier) (d.before.perform d.op)) : P history t := by
  induction history generalizing t with
  | nil =>
    cases h
    exact start
  | cons d rest ih =>
    obtain ⟨rfl, hrest⟩ := h
    refine step [] d rest rfl (ih hrest fun later d' earlier hcut => ?_)
    exact step (d :: later) d' earlier (congrArg (d :: ·) hcut)

/-! ## Moves -/

variable [DecidableEq ι]

/-- The crowd after a pass has heard something. -/
def hears (c : Crowd ι α) (i : ι) (m : Member α) : Crowd ι α :=
  { c with members := Function.update c.members i m }

def move (c : Crowd ι α) : Move ι → Crowd ι α
  | .go i =>
    match c.members i with
    | ⟨.ask call next, false⟩ =>
      (c.does (some i) (.call call)).hears i (reaction call next (Store.plane call c.store).1)
    | _ => c
  | .cancel i =>
    match (c.members i).rest with
    | .ask _ next => c.hears i { rest := (next .cancelled).unnoted }
    | _ => c
  | .others op => c.does none op

def run (c : Crowd ι α) (moves : List (Move ι)) : Crowd ι α := moves.foldl move c

/-! ## What a move does -/

theorem members_hears_self (c : Crowd ι α) (i : ι) (m : Member α) :
    (c.hears i m).members i = m := by
  simp [hears]

theorem members_hears_ne (c : Crowd ι α) (m : Member α) (h : j ≠ i) :
    (c.hears i m).members j = c.members j := by
  simp [hears, h]

/-- What a move can be. -/
inductive Moved (c : Crowd ι α) : Crowd ι α → Prop
  /-- It is not the turn of the pass: it has ended, or its call hangs. -/
  | idle : Moved c c
  | called {i : ι} {call : Call} {next : Reply call.Answer → Pass α}
      (hi : c.members i = { rest := .ask call next }) :
      Moved c ((c.does (some i) (.call call)).hears i
        (reaction call next (Store.plane call c.store).1))
  | cancelled {i : ι} {call : Call} {next : Reply call.Answer → Pass α}
      (hi : (c.members i).rest = .ask call next) :
      Moved c (c.hears i { rest := (next .cancelled).unnoted })
  | others (op : Store.Operation) : Moved c (c.does none op)

theorem moved (c : Crowd ι α) (m : Move ι) : Moved c (c.move m) := by
  cases m with
  | go i =>
    rcases hi : c.members i with ⟨_ | _ | ⟨call, next⟩, _ | _⟩
    case go.ask.false =>
      have hmove : c.move (.go i) = (c.does (some i) (.call call)).hears i
          (reaction call next (Store.plane call c.store).1) := by
        simp only [move, hi]
      rw [hmove]
      exact .called hi
    all_goals
      have hmove : c.move (.go i) = c := by simp only [move, hi]
      rw [hmove]
      exact .idle
  | cancel i =>
    rcases hi : (c.members i).rest with _ | _ | ⟨call, next⟩
    case cancel.ask =>
      have hmove : c.move (.cancel i) = c.hears i { rest := (next .cancelled).unnoted } := by
        simp only [move, hi]
      rw [hmove]
      exact .cancelled hi
    all_goals
      have hmove : c.move (.cancel i) = c := by simp only [move, hi]
      rw [hmove]
      exact .idle
  | others op => exact .others op

/-- What every move keeps, any number of moves keeps. -/
theorem run_induction {P : Crowd ι α → Prop} (hmove : ∀ c c', P c → Moved c c' → P c')
    (c : Crowd ι α) (hc : P c) (moves : List (Move ι)) : P (c.run moves) := by
  induction moves generalizing c with
  | nil => exact hc
  | cons m rest ih => exact ih (c.move m) (hmove c _ hc (c.moved m))

/-- Each pass is somewhere, and each of its turns takes it to a place with
less left to do, while the others stay where they are. Then any order leaves
a pass less to do by the turns that it has had. -/
theorem run_order {β : Type} {P : Crowd ι α → (ι → β) → Prop} {left : β → Nat}
    (hgo : ∀ {c f}, P c f → ∀ i, ∃ q, P (c.move (.go i)) (Function.update f i q) ∧
      left q ≤ left (f i) - 1)
    {c : Crowd ι α} {f : ι → β} (h : P c f) (order : List ι) :
    ∃ f', P (c.run (order.map .go)) f' ∧ ∀ i, left (f' i) ≤ left (f i) - order.count i := by
  induction order generalizing c f with
  | nil => exact ⟨f, h, fun i => Nat.le_refl _⟩
  | cons j rest ih =>
    obtain ⟨q, hq, hleft⟩ := hgo h j
    obtain ⟨f', h', hleft'⟩ := ih hq
    refine ⟨f', h', fun i => ?_⟩
    have hi := hleft' i
    by_cases hij : i = j
    · subst hij
      rw [Function.update_self] at hi
      rw [List.count_cons_self]
      omega
    · rw [Function.update_of_ne hij] at hi
      rw [List.count_cons_of_ne (Ne.symm hij)]
      exact hi

/-- It is nobody's turn any more who has ended. -/
theorem move_ended {a : α} (hend : c.ending? i = some a) : c.move (.go i) = c := by
  rw [ending?_eq_some] at hend
  rcases hi : c.members i with ⟨rest, hangs⟩
  rw [hi] at hend
  cases hend
  simp only [move, hi]

/-- A pass that has ended stays as it is. -/
theorem ending?_moved {c' : Crowd ι α} {a : α} (h : Moved c c') (hend : c.ending? i = some a) :
    c'.ending? i = some a := by
  rw [ending?_eq_some] at hend ⊢
  cases h with
  | idle => exact hend
  | @called j call next hj =>
    have hij : i ≠ j := by
      intro he
      rw [he, hj] at hend
      cases hend
    rw [members_hears_ne _ _ hij]
    exact hend
  | @cancelled j call next hj =>
    have hij : i ≠ j := by
      intro he
      rw [he, hj] at hend
      cases hend
    rw [members_hears_ne _ _ hij]
    exact hend
  | others op => exact hend

/-- What others have done after a move, they had done before, or it was the
move. -/
theorem mem_history_move {d : Deed ι} {m : Move ι} (hd : d ∈ (c.move m).history)
    (hwho : d.who = none) : d ∈ c.history ∨ m = .others d.op := by
  cases m with
  | go i =>
    left
    simp only [move] at hd
    split at hd
    · rcases List.mem_cons.1 hd with rfl | hd
      · cases hwho
      · exact hd
    · exact hd
  | cancel i =>
    left
    simp only [move] at hd
    split at hd <;> exact hd
  | others op =>
    rcases List.mem_cons.1 hd with rfl | hd
    · exact .inr rfl
    · exact .inl hd

/-- What others do in a run is among its moves. -/
theorem mem_history_run {d : Deed ι} {moves : List (Move ι)} (hd : d ∈ (c.run moves).history)
    (hwho : d.who = none) : d ∈ c.history ∨ .others d.op ∈ moves := by
  induction moves generalizing c with
  | nil => exact .inl hd
  | cons m rest ih =>
    rcases ih hd with hmove | hrest
    · rcases mem_history_move hmove hwho with hbefore | rfl
      · exact .inl hbefore
      · exact .inr (.head _)
    · exact .inr (.tail _ hrest)

/-- The history of a crowd leads to its store. -/
theorem leads_run (s : Store) (passes : ι → Pass α) (moves : List (Move ι)) :
    Leads s ((start s passes).run moves).history ((start s passes).run moves).store := by
  refine run_induction (P := fun c => Leads s c.history c.store) ?_ (start s passes) rfl moves
  intro c c' hc hmoved
  cases hmoved with
  | idle | cancelled => exact hc
  | called | others => exact ⟨rfl, hc⟩

/-! ## Requests -/

section

variable {β : Type} {c : Crowd ι (Except (Report ReconcileError) β)} {id : Identity}
  {context : ReconcileError} {call : Call} {next : call.Answer → Attempt β}

/-- A request that is answered goes on with the answer. -/
theorem move_answered (hi : c.members i = { rest := Attempt.request id context call next })
    {a : call.Answer} (hplane : (Store.plane call c.store).1 = .answers (.ok a)) :
    c.move (.go i) =
      (c.does (some i) (.call call)).hears i { rest := (next a).unnoted } := by
  simp only [move, hi, Attempt.request, reaction, hplane]

/-- A request that fails ends the pass. -/
theorem move_failed (hi : c.members i = { rest := Attempt.request id context call next })
    {r : Report PlaneError} (hplane : (Store.plane call c.store).1 = .answers (.error r)) :
    c.move (.go i) =
      (c.does (some i) (.call call)).hears i { rest := .done (.error (r.wrap context)) } := by
  simp only [move, hi, Attempt.request, reaction, hplane]
  rfl

end

/-! ## One pass of a crowd -/

/-- Surroundings where others do `ops n` just before call `n`. -/
def meddling (ops : Nat → List Store.Operation) : Surroundings Store :=
  { plane := Store.plane, meddle := fun n s => (ops n).foldl Store.perform s }

/-- The moves that make `k` calls of a pass from call `n` on, and what others
do before each. -/
def turns (ops : Nat → List Store.Operation) (i : ι) : Nat → Nat → List (Move ι)
  | _, 0 => []
  | n, k + 1 => (ops n).map .others ++ .go i :: turns ops i (n + 1) k

theorem run_others (c : Crowd ι α) (ops : List Store.Operation) :
    (c.run (ops.map .others)).store = ops.foldl Store.perform c.store ∧
      (c.run (ops.map .others)).members = c.members := by
  induction ops generalizing c with
  | nil => exact ⟨rfl, rfl⟩
  | cons op rest ih => exact ih (c.does none op)

/-- Moves are runs: to run a pass while others meddle is to let it move in a
crowd where they do the same. -/
theorem runFrom_eq_moves (ops : Nat → List Store.Operation) (p : Pass α) (n : Nat)
    (c : Crowd ι α) (hi : c.members i = { rest := p.unnoted }) :
    ∃ k, (c.run (turns ops i n k)).store = (p.runFrom (meddling ops) n c.store).state ∧
      (c.run (turns ops i n k)).ending? i = (p.runFrom (meddling ops) n c.store).ending := by
  induction p generalizing n c with
  | done a => exact ⟨0, rfl, ending?_eq_some.2 (by rw [turns, run, List.foldl_nil, hi]; rfl)⟩
  | note e rest ih => exact ih n c hi
  | ask call next ih =>
    obtain ⟨hstore, hmembers⟩ := run_others c (ops n)
    have hturn : ∀ k, c.run (turns ops i n (k + 1)) =
        ((c.run ((ops n).map .others)).move (.go i)).run (turns ops i (n + 1) k) := by
      intro k
      simp only [run, turns, List.foldl_append, List.foldl_cons]
    have hgo : (c.run ((ops n).map .others)).move (.go i) =
        ((c.run ((ops n).map .others)).does (some i) (.call call)).hears i
          (reaction call next (Store.plane call (c.run ((ops n).map .others)).store).1) := by
      simp only [move, hmembers, hi, Pass.unnoted]
    have hfired : Token.fired [] n = false := rfl
    have hduring : Token.firesDuring [] n = false := rfl
    simp only [Pass.runFrom, meddling, hfired, hduring, Bool.false_eq_true, if_false]
    rw [← hstore]
    rcases hplane : Store.plane call (c.run ((ops n).map .others)).store with ⟨_ | result, t⟩
    · refine ⟨1, ?_⟩
      rw [hturn, hgo, hplane]
      refine ⟨congrArg Prod.snd hplane, ?_⟩
      simp [run, turns, ending?, members_hears_self, reaction]
    · rw [hplane] at hgo
      have hself := members_hears_self ((c.run ((ops n).map .others)).does (some i) (.call call)) i
        (reaction call next (.answers result))
      rw [← hgo] at hself
      obtain ⟨k, hk⟩ := ih (.answered result) (n + 1) _ hself
      refine ⟨k + 1, ?_⟩
      have ht : ((c.run ((ops n).map .others)).move (.go i)).store = t := by
        rw [hgo]
        exact congrArg Prod.snd hplane
      rw [ht] at hk
      rw [hturn]
      exact hk

end Crowd

end ServingOperator
