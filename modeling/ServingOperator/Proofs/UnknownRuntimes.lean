-- How it is told that an intent asks for a runtime that nobody knows. The selector is free text
-- of a user, and it gets into messages and into the log. It stands there whole, and it cannot
-- break their line.
import ServingOperator.Pass.Dispatch
import ServingOperator.Proofs.QuotedText
import ServingOperator.Store

namespace ServingOperator

namespace Text

/-! ## Texts of one line -/

/-- A text that keeps to its line. -/
def OneLine (s : String) : Prop := ∀ c ∈ s.toList, ¬ Control c ∧ ¬ BreaksLine c

theorem OneLine.append {s t : String} (hs : OneLine s) (ht : OneLine t) : OneLine (s ++ t) := by
  intro c hc
  rw [String.toList_append, List.mem_append] at hc
  exact hc.elim (hs c) (ht c)

theorem oneLine_of_printable {s : String} (h : ∀ c ∈ s.toList, unprintable c = false) :
    OneLine s := by
  intro c hc
  have hseen := Bool.eq_false_iff.1 (h c hc)
  exact ⟨fun hcontrol => hseen (unprintable_of_control hcontrol),
    fun hbreak => hseen (unprintable_of_breaksLine hbreak)⟩

theorem oneLine_quoted (s : String) : OneLine (quoted s) :=
  oneLine_of_printable fun _ => printable_of_mem_quoted

end Text

variable {σ : Type} {policies : PolicyTable} {selector other : String}
  {r r' : Report PolicyError} {id : Identity}

/-! ## The texts -/

theorem message_of_resolve (h : policies.resolve selector = .error r) :
    r.top.message = "Unknown runtime selector " ++ Text.quoted selector := by
  obtain ⟨-, rfl⟩ := PolicyTable.resolve_eq_error h
  rfl

theorem message_eq_iff (h : policies.resolve selector = .error r)
    (h' : policies.resolve other = .error r') :
    r.top.message = r'.top.message ↔ selector = other := by
  rw [message_of_resolve h, message_of_resolve h', String.append_right_inj, Text.quoted_inj]

theorem ReconcileError.message_unknownRuntime (id : Identity) (selector : String) :
    (unknownRuntime id selector).message =
      "Intent " ++ id.display ++ " requests unsupported runtime " ++ Text.quoted selector :=
  rfl

theorem ReconcileError.message_unknownRuntime_inj :
    (unknownRuntime id selector).message = (unknownRuntime id other).message ↔
      selector = other := by
  rw [message_unknownRuntime, message_unknownRuntime, String.append_right_inj, Text.quoted_inj]

theorem oneLine_message (h : policies.resolve selector = .error r) :
    Text.OneLine r.top.message := by
  have hfront : Text.OneLine "Unknown runtime selector " := by
    simp [Text.OneLine, Text.Control, Text.BreaksLine]
  rw [message_of_resolve h]
  exact hfront.append (Text.oneLine_quoted selector)

/-- Of an unknown runtime one line tells, if the identity keeps to its line. -/
theorem ReconcileError.oneLine_unknownRuntime (hid : Text.OneLine id.display) :
    Text.OneLine (unknownRuntime id selector).message := by
  have hfront : Text.OneLine "Intent " := by
    simp [Text.OneLine, Text.Control, Text.BreaksLine]
  have hmiddle : Text.OneLine " requests unsupported runtime " := by
    simp [Text.OneLine, Text.Control, Text.BreaksLine]
  exact ((hfront.append hid).append hmiddle).append (Text.oneLine_quoted selector)

/-- A line feed in the text can only be one of the identity. -/
theorem ReconcileError.feed_mem_unknownRuntime :
    '\n' ∈ (unknownRuntime id selector).message.toList ↔ '\n' ∈ id.display.toList := by
  have hquoted : '\n' ∉ (Text.quoted selector).toList := fun h =>
    (Text.oneLine_quoted selector _ h).1 (.inl (by decide))
  simp [message_unknownRuntime, hquoted]

/-- The text heads the report of a failure whole, if the identity has no line feed. -/
theorem ReconcileError.heading_unknownRuntime :
    Text.heading (unknownRuntime id selector).message = (unknownRuntime id selector).message ↔
      '\n' ∉ id.display.toList := by
  have hend : (unknownRuntime id selector).message.toList.getLast? = some '"' := by
    rw [message_unknownRuntime, String.toList_append, List.getLast?_append, Text.getLast?_quoted]
    rfl
  rw [Text.heading_eq_self_iff, feed_mem_unknownRuntime, hend]
  exact and_iff_left (by decide)

/-! ## The pass that meets the runtime -/

theorem handle_of_unknownRuntime {delays : RequeueDelays} {copy intent : Intent}
    {w : Surroundings σ} {n : Nat} {s t : σ}
    (hid : Kind.identity? (k := .intent) copy = .ok id) (hasks : w.token.fired n = false)
    (hread : w.plane (.get .intent id) (w.meddle n s) = (.answers (.ok (some intent)), t))
    (hruntime : policies.resolve intent.spec.runtimeSelector = .error r) :
    (Pass.handle policies delays copy).runFrom w n s =
      { ending := some
          ⟨some (r.wrap (.unknownRuntime id intent.spec.runtimeSelector)), .requeue delays.error⟩
        state := t
        log := [.failed copy.metadata.anyName copy.metadata.ns
          (.unknownRuntime id intent.spec.runtimeSelector)] } := by
  have hworkload : Desired.workload policies intent = .error r := by
    rw [Desired.workload, hruntime]
    rfl
  obtain ⟨-, rfl⟩ := PolicyTable.resolve_eq_error hruntime
  simp only [Pass.handle, Pass.dispatch, hid, Pass.reconcile, Attempt.request, Pass.bind,
    Pass.runFrom, hasks, hread, Pass.converge, hworkload]
  rfl

/-! ## The law -/

/-- How it is told that no policy is known for a selector, of which the table reports `r`. -/
structure ToldWhole (policies : PolicyTable) (selector : String) (r : Report PolicyError) :
    Prop where
  /-- The texts of two unknown selectors are as different as the selectors. -/
  cause : ∀ other r', policies.resolve other = .error r' →
    (r.top.message = r'.top.message ↔ selector = other)
  failure : ∀ id other, (ReconcileError.unknownRuntime id selector).message =
    (ReconcileError.unknownRuntime id other).message ↔ selector = other
  /-- No character of the text breaks the line or controls anything. -/
  line : Text.OneLine r.top.message
  failure_line : ∀ id : Identity, Text.OneLine id.display →
    Text.OneLine (ReconcileError.unknownRuntime id selector).message
  /-- A pass that meets such a selector fails at once, and the one line that tells of it in the
  log has the whole text if there is no line feed in the identity. -/
  logged : ∀ {σ : Type} (w : Surroundings σ) (n : Nat) (s t : σ) (delays : RequeueDelays)
    (copy intent : Intent) (id : Identity), Kind.identity? (k := .intent) copy = .ok id →
    intent.spec.runtimeSelector = selector → w.token.fired n = false →
    w.plane (.get .intent id) (w.meddle n s) = (.answers (.ok (some intent)), t) →
    ∃ e : Event, (Pass.handle policies delays copy).runFrom w n s =
      ⟨some ⟨some (r.wrap (.unknownRuntime id selector)), .requeue delays.error⟩, t, [e]⟩ ∧
      (e.message =
        "reconciliation failed: " ++ (ReconcileError.unknownRuntime id selector).message ↔
          '\n' ∉ id.display.toList)

/-- Whatever text an intent has for its runtime, if nobody knows it then it is told whole and in
one line: different texts are told differently, and none can imitate another or break the line
that it stands in. -/
theorem an_unknown_runtime_is_told_whole (h : policies.resolve selector = .error r) :
    ToldWhole policies selector r where
  cause _ _ h' := message_eq_iff h h'
  failure _ _ := ReconcileError.message_unknownRuntime_inj
  line := oneLine_message h
  failure_line _ := ReconcileError.oneLine_unknownRuntime
  logged w n s t delays copy intent id hid hselector hasks hread := by
    subst hselector
    refine ⟨_, handle_of_unknownRuntime hid hasks hread h, ?_⟩
    exact (String.append_right_inj _).trans ReconcileError.heading_unknownRuntime

/-- A line feed in a selector is told apart from text that looks like how it is told, and the
log keeps it in one line. -/
theorem a_line_feed_and_its_imitation_are_told_apart :
    let intent : Intent :=
      { metadata := { name := some "llama", ns := some "models" }
        spec := { modelName := "llama", runtime := some "tpu\n" } }
    let s : Store := { objects := [(⟨.intent, ⟨"models", "llama"⟩⟩, intent.encode)] }
    ∃ r r', PolicyTable.standard.resolve "tpu\n" = .error r ∧
      PolicyTable.standard.resolve "tpu\\n" = .error r' ∧ r.top.message ≠ r'.top.message ∧
      ToldWhole .standard "tpu\n" r ∧
      ∃ e, ((Pass.handle .standard {} intent).run ⟨Store.plane, [], fun _ s => s⟩ s).log = [e] ∧
        e.message = "reconciliation failed: " ++
          (ReconcileError.unknownRuntime ⟨"models", "llama"⟩ "tpu\n").message := by
  intro intent s
  have hunknown : PolicyTable.standard.resolve "tpu\n" = .error (.of (.unknownRuntime "tpu\n")) :=
    rfl
  have hwhole := an_unknown_runtime_is_told_whole hunknown
  have hread : Store.plane (.get .intent ⟨"models", "llama"⟩) s =
      (.answers (.ok (some intent)), { s with calls := [⟨.get, .intent, ⟨"models", "llama"⟩⟩] }) :=
    rfl
  obtain ⟨e, hrun, hmessage⟩ := hwhole.logged ⟨Store.plane, [], fun _ s => s⟩ 1 s _ {} intent intent
    ⟨"models", "llama"⟩ rfl rfl rfl hread
  refine ⟨_, _, rfl, rfl, fun h => ?_, hwhole, e, ?_, hmessage.2 (by decide)⟩
  · exact absurd ((hwhole.cause "tpu\\n" _ rfl).1 h) (by decide)
  · rw [Pass.run, hrun]

end ServingOperator
