-- What the settings of a run are for. The images that a command line and its
-- environment name are the ones that workloads run, each for its own flavor,
-- and the delays it names are the ones after which a failed pass is tried
-- again. The two images, like the two delays, have no part in each other's
-- place, whatever they are.
import ServingOperator.Desired
import ServingOperator.Proofs.Reports
import ServingOperator.Proofs.SettingSources

namespace ServingOperator

namespace CommandLine

/-! ## What the words name -/

/-- The text that the options give for a setting. -/
def textOf? (options : List GivenOption) (s : Setting) : Option String :=
  (options.find? (·.setting = s)).map (·.text)

/-- The image that is named for a flavor, or else the built-in one. -/
def namedImage (options : List GivenOption) (env : Environment) : Flavor → String
  | .cpu => ((textOf? options .cpuImage).or (env "MODEL_OPERATOR_CPU_IMAGE")).getD
      "patnaikshekhar/vllm-cpu:1"
  | .gpu => ((textOf? options .gpuImage).or (env "MODEL_OPERATOR_GPU_IMAGE")).getD
      "vllm/vllm-openai:latest"

/-- The options name this number of seconds, by its digits, or they name none
and it is the default. -/
def NamesSeconds (options : List GivenOption) (s : Setting) (standard n : UInt64) : Prop :=
  match textOf? options s with
  | none => n = standard
  | some text => ∃ digits, (text.toList = digits ∨ text.toList = '+' :: digits) ∧ DigitsOf n digits

/-! ## Words that can be read as options in one way only -/

section

variable {o o' : GivenOption} {rest rest' : List String}

/-- The first word of an option tells which one it is, and whether its text
comes next. -/
theorem ofString_of_words {w : String} (h : o.words ++ rest = w :: rest') :
    Word.ofString w = if o.joined then .assigned o.setting o.text else .named o.setting := by
  unfold GivenOption.words at h
  cases hjoined : o.joined <;> rw [hjoined] at h <;> cases h
  · exact Word.ofString_named _
  · exact Word.ofString_assigned _ _

theorem option_of_words (h : o.words ++ rest = o'.words ++ rest') : o = o' ∧ rest = rest' := by
  obtain ⟨w, ws, hwords⟩ : ∃ w ws, o.words ++ rest = w :: ws := by
    unfold GivenOption.words
    split <;> exact ⟨_, _, rfl⟩
  have hfirst := (ofString_of_words hwords).symm.trans (ofString_of_words (h ▸ hwords))
  obtain ⟨s, text, joined⟩ := o
  obtain ⟨s', text', joined'⟩ := o'
  cases joined <;> cases joined' <;> cases hfirst
  · cases h
    exact ⟨rfl, rfl⟩
  · cases h
    exact ⟨rfl, rfl⟩

theorem ne_words {last : List String} (hlast : last = [] ∨ last = ["--"]) :
    last ≠ o.words ++ rest := by
  intro h
  rcases hlast with rfl | rfl
  · unfold GivenOption.words at h
    split at h <;> cases h
  · have hfirst : Word.separator = _ := ofString_of_words h.symm
    split at hfirst <;> cases hfirst

/-- Words are options in one way at most, perhaps with two hyphens at the end. -/
theorem options_of_words {options options' : List GivenOption} {last last' : List String}
    (hlast : last = [] ∨ last = ["--"]) (hlast' : last' = [] ∨ last' = ["--"])
    (h : options.flatMap (·.words) ++ last = options'.flatMap (·.words) ++ last') :
    options = options' := by
  induction options generalizing options' with
  | nil =>
    cases options' with
    | nil => rfl
    | cons o' rest' =>
      rw [List.flatMap_cons, List.append_assoc] at h
      exact absurd h (ne_words hlast)
  | cons o rest ih =>
    rw [List.flatMap_cons, List.append_assoc] at h
    cases options' with
    | nil => exact absurd h.symm (ne_words hlast')
    | cons o' rest' =>
      rw [List.flatMap_cons, List.append_assoc] at h
      obtain ⟨rfl, hrest⟩ := option_of_words h
      rw [ih hrest]

end

section

variable {options : List GivenOption} {env : Environment} {g : Given} {c : Configuration}
  {s : Setting}

/-- A setting has the value of the text that the options give, and none
without a text. -/
theorem Settles.value_of_text (h : Settles options g) {text : String}
    (htext : textOf? options s = some text) : ∃ v, s.read text = .ok v ∧ g s = some v := by
  obtain ⟨o, ho, rfl⟩ := Option.map_eq_some_iff.1 htext
  have hs : o.setting = s := by simpa using List.find?_some ho
  subst hs
  exact h.value o (List.mem_of_find?_eq_some ho)

theorem Settles.none_of_text (h : Settles options g) (htext : textOf? options s = none) :
    g s = none := by
  have hfind := List.find?_eq_none.1 (Option.map_eq_none_iff.1 htext)
  exact h.only s fun o ho hs => hfind o ho (by simpa using hs)

theorem given_eq_textOf? {found : Option String}
    (htext : ∀ text, textOf? options s = some text →
      ∃ v, (Except.ok text : Except BadValue String) = .ok v ∧ found = some v)
    (hnone : textOf? options s = none → found = none) : found = textOf? options s := by
  cases h : textOf? options s with
  | none => exact hnone h
  | some text =>
    obtain ⟨v, ⟨⟩, hfound⟩ := htext text h
    exact hfound

/-- The images of a run are the ones that are named. -/
theorem images_named (hsettles : Settles options g) (hc : Configured g env c) :
    c.cpuImage = namedImage options env .cpu ∧ c.gpuImage = namedImage options env .gpu := by
  have hnamed : ∀ {named : Option String} {image standard : String},
      some image = named.or (some standard) → image = named.getD standard := by
    intro named image standard h
    cases named <;> exact Option.some.inj h
  have hcpu : g .cpuImage = textOf? options .cpuImage :=
    given_eq_textOf? (fun _ => hsettles.value_of_text) hsettles.none_of_text
  have hgpu : g .gpuImage = textOf? options .gpuImage :=
    given_eq_textOf? (fun _ => hsettles.value_of_text) hsettles.none_of_text
  constructor
  · exact hnamed (hcpu ▸ hc.value?_eq .cpuImage)
  · exact hnamed (hgpu ▸ hc.value?_eq .gpuImage)

/-- A number of seconds that is read from the options, if they give it, is the
one that they name. -/
theorem namesSeconds_of {found : Option UInt64} {standard n : UInt64}
    (hvalue : some n = (found.or none).or (some standard))
    (htext : ∀ text, textOf? options s = some text →
      ∃ m, Setting.secondsOf text = .ok m ∧ found = some m)
    (hnone : textOf? options s = none → found = none) : NamesSeconds options s standard n := by
  unfold NamesSeconds
  split
  · next h =>
    rw [hnone h] at hvalue
    exact Option.some.inj hvalue
  · next text h =>
    obtain ⟨m, hm, rfl⟩ := htext text h
    cases hvalue
    unfold Setting.secondsOf at hm
    split at hm
    · next hseconds =>
      cases hm
      exact seconds?_eq_some.1 hseconds
    · cases hm

/-- The delays of a run are the ones that are named. No variable has a part in
them. -/
theorem delays_named (hsettles : Settles options g) (hc : Configured g env c) :
    NamesSeconds options .conflictRequeueSecs 1 c.conflictRequeueSecs ∧
      NamesSeconds options .errorRequeueSecs 15 c.errorRequeueSecs :=
  ⟨namesSeconds_of (hc.value?_eq .conflictRequeueSecs) (fun _ => hsettles.value_of_text)
      hsettles.none_of_text,
    namesSeconds_of (hc.value?_eq .errorRequeueSecs) (fun _ => hsettles.value_of_text)
      hsettles.none_of_text⟩

end

end CommandLine

/-! ## What a run uses them for -/

open CommandLine

/-- The workload is served by one container that runs the image. -/
structure Workload.Runs (w : Workload) (image : String) (tolerations : Option (List Toleration))
    (resources : Option Resources) : Prop where
  container : ∃ spec pod container, w.spec = some spec ∧ spec.template.spec = some pod ∧
    pod.containers = [container] ∧ container.image = some image ∧
      container.resources = resources ∧ pod.tolerations = tolerations

theorem Desired.workload_of_flavor (t : PolicyTable) {x : Intent} {flavor : Flavor}
    (h : Flavor.ofSelector? x.spec.runtimeSelector = some flavor) :
    workload t x = .ok (workloadUnder x (t.entry flavor)) := by
  rw [workload, PolicyTable.resolve, h]
  rfl

/-- What a run does with its images and its delays. -/
structure Configuration.Serves (c : Configuration) (options : List GivenOption)
    (env : Environment) : Prop where
  /-- A pod of an intent that asks for no accelerator runs the image for CPUs. -/
  cpu : ∀ x : Intent, x.spec.runtime = none ∨ x.spec.runtime = some "" ∨
      x.spec.runtime = some "cpu" →
    ∃ w, Desired.workload c.setup.policies x = .ok w ∧
      w.Runs (namedImage options env .cpu) none none
  gpu : ∀ x : Intent, x.spec.runtime = some "gpu" →
    ∃ w, Desired.workload c.setup.policies x = .ok w ∧
      w.Runs (namedImage options env .gpu)
        (some [{ key := some "nvidia.com/gpu", operator := some "Exists",
                 effect := some "NoSchedule" }])
        (some { limits := some (.singleton "nvidia.com/gpu" "1") })
  cancelled : ∀ (r : Report ReconcileError) (i : Identity), r.top = .cancelled i →
    c.setup.delays.afterFailure r = .awaitChange
  conflict : ∃ n, NamesSeconds options .conflictRequeueSecs 1 n ∧
    ∀ r : Report ReconcileError, (∀ i, r.top ≠ .cancelled i) → r.MeetsConflict →
      c.setup.delays.afterFailure r = .requeue n
  error : ∃ n, NamesSeconds options .errorRequeueSecs 15 n ∧
    ∀ r : Report ReconcileError, (∀ i, r.top ≠ .cancelled i) → ¬ r.MeetsConflict →
      c.setup.delays.afterFailure r = .requeue n

/-- The words of a run, when they are these options. -/
def AreOptions (words : List String) (options : List GivenOption) : Prop :=
  ∃ last, words = "run" :: options.flatMap (·.words) ++ last ∧ (last = [] ∨ last = ["--"])

theorem Configuration.serves {options : List GivenOption} {env : Environment} {g : Given}
    {c : Configuration} (hsettles : Settles options g) (hc : Configured g env c) :
    c.Serves options env := by
  obtain ⟨hcpu, hgpu⟩ := images_named hsettles hc
  obtain ⟨hconflict, herror⟩ := delays_named hsettles hc
  constructor
  case cpu =>
    intro x hx
    have hselector : Flavor.ofSelector? x.spec.runtimeSelector = some .cpu := by
      unfold IntentSpec.runtimeSelector
      rcases hx with hx | hx | hx <;> rw [hx] <;> rfl
    refine ⟨_, Desired.workload_of_flavor _ hselector, ?_⟩
    rw [← hcpu]
    exact ⟨_, _, _, rfl, rfl, rfl, rfl, rfl, rfl⟩
  case gpu =>
    intro x hx
    have hselector : Flavor.ofSelector? x.spec.runtimeSelector = some .gpu := by
      unfold IntentSpec.runtimeSelector
      rw [hx]
      rfl
    refine ⟨_, Desired.workload_of_flavor _ hselector, ?_⟩
    rw [← hgpu]
    exact ⟨_, _, _, rfl, rfl, rfl, rfl, rfl, rfl⟩
  case cancelled =>
    intro r i hr
    exact if_pos (Report.isCancelled_iff.2 ⟨i, hr⟩)
  case conflict =>
    refine ⟨_, hconflict, fun r hr hmeets => ?_⟩
    have hcancelled : ¬ r.isCancelled = true := fun h =>
      (Report.isCancelled_iff.1 h).elim hr
    exact (if_neg hcancelled).trans (if_pos (Report.isConflict_iff.2 hmeets))
  case error =>
    refine ⟨_, herror, fun r hr hmeets => ?_⟩
    have hcancelled : ¬ r.isCancelled = true := fun h =>
      (Report.isCancelled_iff.1 h).elim hr
    exact (if_neg hcancelled).trans (if_neg fun h => hmeets (Report.isConflict_iff.1 h))

/-- A command line that asks for a run is made of options, in one way only and
each given once, and the run does with its images and delays what they are for. -/
theorem the_settings_of_a_run_reach_their_places {words : List String} {env : Environment}
    {c : Configuration} (h : CommandLine.read words env = .ok (.run c)) :
    (∃ options, AreOptions words options ∧ (options.map (·.setting)).Nodup) ∧
      ∀ options, AreOptions words options → c.Serves options env := by
  obtain ⟨options, last, g, hwords, hlast, hsettles, hc⟩ := read_eq_run h
  refine ⟨⟨options, ⟨last, hwords, hlast⟩, hsettles.once⟩, ?_⟩
  rintro options' ⟨last', hwords', hlast'⟩
  have hsame := (List.cons.inj (hwords'.symm.trans hwords)).2
  rw [options_of_words hlast' hlast hsame]
  exact Configuration.serves hsettles hc

/-- Options for images that are named after each other's flavors, and for the
longest of all delays. -/
def crossed : List GivenOption :=
  [⟨.gpuImage, "cpu", false⟩, ⟨.errorRequeueSecs, "18446744073709551615", true⟩,
    ⟨.cpuImage, "gpu", true⟩]

/-- Each image serves its own flavor, whatever it is called, and no delay is
cut short. -/
theorem images_and_delays_are_not_mixed_up :
    ∃ c, CommandLine.read ["run", "--gpu-image", "cpu",
        "--error-requeue-secs=18446744073709551615", "--cpu-image=gpu"]
        (fun name => if name = "MODEL_OPERATOR_CPU_IMAGE" then some "cpu:2" else none) =
          .ok (.run c) ∧
      (∃ w, Desired.workload c.setup.policies
          { metadata := {}, spec := { modelName := "llama", runtime := some "cpu" } } = .ok w ∧
        w.Runs "gpu" none none) ∧
      c.setup.delays.afterFailure (.of (.childLookup .workload ⟨"models", "llama"⟩)) =
        .requeue 18446744073709551615 := by
  let c : Configuration :=
    { gpuImage := "cpu", errorRequeueSecs := 18446744073709551615, cpuImage := "gpu" }
  have hread : CommandLine.read ["run", "--gpu-image", "cpu",
      "--error-requeue-secs=18446744073709551615", "--cpu-image=gpu"]
      (fun name => if name = "MODEL_OPERATOR_CPU_IMAGE" then some "cpu:2" else none) =
        .ok (.run c) := rfl
  obtain ⟨-, hserves⟩ := the_settings_of_a_run_reach_their_places hread
  have h := hserves crossed ⟨[], rfl, .inl rfl⟩
  obtain ⟨n, ⟨digits, htext, hdigits⟩, herror⟩ := h.error
  have hn : n = 18446744073709551615 := by
    apply UInt64.toNat_inj.1
    rcases htext with rfl | htext
    · exact hdigits.value.symm
    · cases htext
  have hmeets : ¬ (Report.of (.childLookup .workload ⟨"models", "llama"⟩)).MeetsConflict :=
    fun hmeets => absurd (Report.isConflict_iff.2 hmeets) (by decide)
  exact ⟨c, hread, h.cpu _ (.inr (.inr rfl)), hn ▸ herror _ nofun hmeets⟩

end ServingOperator
