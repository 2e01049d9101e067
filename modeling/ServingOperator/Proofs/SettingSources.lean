-- Where the settings of a run come from. A command line that is made of the
-- values of some settings is read as it was written: each of them is taken
-- from its own option. Each other setting is taken from its own variable, and
-- has its default without one. So the options have no order, and no setting
-- has a part in the value of another one.
import ServingOperator.Proofs.OptionWords

namespace ServingOperator

/-! ## Words that name a setting -/

namespace Text

variable {sep : Char}

theorem cutAt_append_cons {before : List Char} (h : sep ∉ before) (after : List Char) :
    cutAt sep (before ++ sep :: after) = (before, some after) := by
  induction before with
  | nil => simp [cutAt]
  | cons c rest ih =>
    rw [List.mem_cons, not_or] at h
    simp [cutAt, Ne.symm h.1, ih h.2]

theorem cutAt_of_not_mem {cs : List Char} (h : sep ∉ cs) : cutAt sep cs = (cs, none) := by
  induction cs with
  | nil => rfl
  | cons c rest ih =>
    rw [List.mem_cons, not_or] at h
    simp [cutAt, Ne.symm h.1, ih h.2]

end Text

namespace Setting

theorem ofOption?_option (s : Setting) : ofOption? s.option = some s := by cases s <;> decide

theorem option_ne_help (s : Setting) : s.option ≠ "help" := by cases s <;> decide

theorem assign_not_mem_option (s : Setting) : '=' ∉ s.option.toList := by cases s <;> decide

end Setting

namespace CommandLine.Word

/-- A word that starts with the option of a setting is read as an option. -/
theorem ofString_option (s : Setting) {w : String} (after : List Char)
    (h : w.toList = '-' :: '-' :: (s.option.toList ++ after)) :
    ofString w =
      match Text.cutAt '=' (s.option.toList ++ after) with
      | (name, value) =>
        if String.ofList name = "help" then if value.isNone then .help else .helpWith
        else
          match Setting.ofOption? (String.ofList name), value with
          | some s, some text => .assigned s (String.ofList text)
          | some s, none => .named s
          | none, _ => .unknown := by
  -- without a name it would be the separator
  obtain ⟨c, cs, hname⟩ : ∃ c cs, s.option.toList = c :: cs := by cases s <;> exact ⟨_, _, rfl⟩
  rw [hname, List.cons_append] at h ⊢
  rw [ofString, h]
  rfl

theorem ofString_assigned (s : Setting) (text : String) :
    ofString ("--" ++ s.option ++ "=" ++ text) = .assigned s text := by
  rw [ofString_option s ('=' :: text.toList) (by simp),
    Text.cutAt_append_cons s.assign_not_mem_option]
  simp [s.option_ne_help, s.ofOption?_option]

theorem ofString_named (s : Setting) : ofString ("--" ++ s.option) = .named s := by
  rw [ofString_option s [] (by simp), List.append_nil,
    Text.cutAt_of_not_mem s.assign_not_mem_option]
  simp [s.option_ne_help, s.ofOption?_option]

theorem ofString_plain {text : String} (h : text.toList.head? ≠ some '-') :
    ofString text = .plain text := by
  unfold ofString
  split
  case h_5 => rfl
  all_goals
    next ht => exact absurd (congrArg List.head? ht) h

end CommandLine.Word

/-! ## Options that can be read -/

namespace CommandLine

/-- The text of an option is a value, and in a word of its own it is not taken
for an option. -/
structure GivenOption.Readable (o : GivenOption) : Prop where
  value : ∃ v, o.setting.read o.text = .ok v
  apart : o.joined = false → o.text.toList.head? ≠ some '-'

namespace Reading

variable {r r₀ : Reading} {before options : List GivenOption}

/-- A setting that is new is taken up. -/
theorem take_eq_ok {s : Setting} {text : String} {v : s.Value} (hnew : r.given s = none)
    (hv : s.read text = .ok v) :
    r.take s text = .ok { r with given := r.given.set s v } := by
  simp [take, hnew, hv]

/-- An option for a setting that is new is read, in one word or in two. In two
it waits to be taken up, so what is said is what the reading settles to. -/
theorem words_option {o : GivenOption} {v : o.setting.Value} (hr : r.settle = .ok r₀)
    (hnone : r₀.pending = none) (hnew : r₀.given o.setting = none) (ho : o.Readable)
    (hv : o.setting.read o.text = .ok v) :
    ∃ r' : Reading, r'.settle = .ok { r₀ with given := r₀.given.set o.setting v } ∧
      ∀ rest, r.words (o.words ++ rest) = r'.words rest := by
  obtain ⟨s, text, joined⟩ := o
  obtain ⟨given, pending⟩ := r₀
  cases hnone
  have htake := take_eq_ok hnew hv
  cases joined with
  | true =>
    refine ⟨{ given := given.set s v }, rfl, fun rest => ?_⟩
    simp only [GivenOption.words, if_true, List.singleton_append, words, Word.ofString_assigned,
      hr, Except.bind, htake]
  | false =>
    refine ⟨{ given, pending := some (s, some text) }, htake, fun rest => ?_⟩
    simp only [GivenOption.words, Bool.false_eq_true, if_false, List.cons_append, List.nil_append,
      words, Word.ofString_named, Word.ofString_plain (ho.apart rfl), hr, Except.bind]

/-- Options for different settings are read, whatever their order. -/
theorem words_options (hr : r.settle = .ok r₀) (hnone : r₀.pending = none)
    (hsettles : Settles before r₀.given) (honce : ((before ++ options).map (·.setting)).Nodup)
    (hreadable : ∀ o ∈ options, o.Readable) :
    ∃ g, r.words (options.flatMap (·.words)) = .ok g ∧ Settles (before ++ options) g := by
  induction options generalizing r r₀ before with
  | nil =>
    refine ⟨r₀.given, ?_, by simpa using hsettles⟩
    simp [words, hr, Except.map]
  | cons o rest ih =>
    obtain ⟨ho, hrest⟩ := List.forall_mem_cons.1 hreadable
    obtain ⟨v, hv⟩ := ho.value
    have hnew : r₀.given o.setting = none := by
      refine hsettles.only _ fun o' ho' hs => ?_
      rw [List.map_append, List.nodup_append] at honce
      exact honce.2.2 _ (List.mem_map_of_mem ho') _ (List.mem_map_of_mem List.mem_cons_self) hs
    obtain ⟨r', hr', hstep⟩ := words_option hr hnone hnew ho hv
    rw [← List.singleton_append, ← List.append_assoc] at honce ⊢
    obtain ⟨g, hwords, hg⟩ := ih hr' hnone (hsettles.set hnew hv o.joined) honce hrest
    exact ⟨g, (hstep _).trans hwords, hg⟩

end Reading

end CommandLine

/-! ## Values and where they come from -/

/-- The value of a setting in a configuration, if it has one. -/
def Configuration.value? (c : Configuration) : (s : Setting) → Option s.Value
  | .kubeconfig => c.kubeconfig
  | .ns => c.ns
  | .cpuImage => some c.cpuImage
  | .gpuImage => some c.gpuImage
  | .conflictRequeueSecs => some c.conflictRequeueSecs
  | .errorRequeueSecs => some c.errorRequeueSecs
  | .logFile => c.logFile

namespace Setting

/-- The text of a value. Seconds are written in decimal digits. -/
def written : (s : Setting) → s.Value → String
  | conflictRequeueSecs, n => toString n.toNat
  | errorRequeueSecs, n => toString n.toNat
  | kubeconfig, text => text
  | ns, text => text
  | cpuImage, text => text
  | gpuImage, text => text
  | logFile, text => text

/-- The value in the variable of a setting, if it has one and this is set. -/
def inEnvironment? (env : Environment) : (s : Setting) → Option s.Value
  | kubeconfig => env "KUBECONFIG"
  | ns => env "WATCH_NAMESPACE"
  | cpuImage => env "MODEL_OPERATOR_CPU_IMAGE"
  | gpuImage => env "MODEL_OPERATOR_GPU_IMAGE"
  | conflictRequeueSecs => none
  | errorRequeueSecs => none
  | logFile => env "MODEL_OPERATOR_LOG_FILE"

/-- The value of a setting that nothing is said about. -/
def standard? : (s : Setting) → Option s.Value
  | kubeconfig => none
  | ns => none
  | cpuImage => some "patnaikshekhar/vllm-cpu:1"
  | gpuImage => some "vllm/vllm-openai:latest"
  | conflictRequeueSecs => some (1 : UInt64)
  | errorRequeueSecs => some (15 : UInt64)
  | logFile => none

end Setting

/-! ## Numbers of seconds -/

/-- The digits are those of a number. -/
structure DigitsOf (n : UInt64) (digits : List Char) : Prop where
  ne_nil : digits ≠ []
  digit : ∀ c ∈ digits, c.isDigit = true
  value : Nat.ofDigitChars 10 digits 0 = n.toNat

theorem digitsOf_toDigits (n : UInt64) : DigitsOf n (Nat.toDigits 10 n.toNat) :=
  ⟨Nat.toDigits_ne_nil, fun _ hc => Nat.isDigit_of_mem_toDigits (by decide) (by decide) hc,
    Nat.ofDigitChars_ten_toDigits⟩

theorem DigitsOf.head {n : UInt64} {digits : List Char} (h : DigitsOf n digits) :
    digits.head? ≠ some '+' := by
  intro hhead
  have hplus := h.digit '+' (List.mem_of_mem_head? hhead)
  revert hplus
  decide

/-- The number of 64 bits that has these digits. -/
def numberOf? (digits : List Char) : Option UInt64 :=
  let n := Nat.ofDigitChars 10 digits 0
  if digits ≠ [] ∧ digits.all Char.isDigit ∧ n < UInt64.size then some (UInt64.ofNat n) else none

theorem numberOf?_eq_some {digits : List Char} {n : UInt64} :
    numberOf? digits = some n ↔ DigitsOf n digits := by
  constructor
  · intro h
    obtain ⟨⟨hne, hall, hlt⟩, h⟩ := Option.ite_none_right_eq_some.1 h
    cases h
    exact ⟨hne, List.all_eq_true.1 hall, (UInt64.toNat_ofNat_of_lt' hlt).symm⟩
  · rintro ⟨hne, hdigit, hvalue⟩
    simp only [numberOf?, hvalue]
    rw [if_pos ⟨hne, List.all_eq_true.2 hdigit, n.toNat_lt⟩, UInt64.ofNat_toNat]

theorem seconds?_eq (cs : List Char) :
    seconds? cs = numberOf? (match cs with | '+' :: rest => rest | rest => rest) := rfl

theorem seconds?_of_head {cs : List Char} (h : cs.head? ≠ some '+') :
    seconds? cs = numberOf? cs := by
  rw [seconds?_eq]
  split
  · exact absurd rfl h
  · rfl

/-- A text stands for a number just if it has the digits of this number,
perhaps after a plus sign. -/
theorem seconds?_eq_some {cs : List Char} {n : UInt64} :
    seconds? cs = some n ↔ ∃ digits, (cs = digits ∨ cs = '+' :: digits) ∧ DigitsOf n digits := by
  constructor
  · intro h
    by_cases hhead : cs.head? = some '+'
    · obtain ⟨rest, rfl⟩ := List.head?_eq_some_iff.1 hhead
      exact ⟨rest, .inr rfl, numberOf?_eq_some.1 h⟩
    · rw [seconds?_of_head hhead, numberOf?_eq_some] at h
      exact ⟨cs, .inl rfl, h⟩
  · rintro ⟨digits, rfl | rfl, h⟩
    · rw [seconds?_of_head h.head]
      exact numberOf?_eq_some.2 h
    · exact numberOf?_eq_some.2 h

theorem seconds?_toString (n : UInt64) : seconds? (toString n.toNat).toList = some n := by
  have htext : (toString n.toNat).toList = Nat.toDigits 10 n.toNat := by
    simp [toString, Nat.repr]
  rw [htext, seconds?_eq_some]
  exact ⟨_, .inl rfl, digitsOf_toDigits n⟩

/-! ## Where a value comes from -/

namespace Setting

variable {g : Given} {env : Environment}

/-- A value is read from its text, if it is not an empty path. -/
theorem read_written {a : Configuration} (hkube : a.kubeconfig ≠ some "")
    (hlog : a.logFile ≠ some "") {s : Setting} {v : s.Value} (hv : a.value? s = some v) :
    s.read (s.written v) = .ok v := by
  cases s with
  | kubeconfig =>
    have hne : v ≠ "" := fun h => hkube (hv.trans (congrArg some h))
    exact if_neg hne
  | logFile =>
    have hne : v ≠ "" := fun h => hlog (hv.trans (congrArg some h))
    exact if_neg hne
  | conflictRequeueSecs | errorRequeueSecs =>
    simp only [read, secondsOf, written, seconds?_toString]
  | ns | cpuImage | gpuImage => rfl

/-- What the variable of a setting holds, if it is a value. -/
theorem inEnvironment?_of_read {s : Setting} {text : String} {v : s.Value}
    (h : s.envName?.bind env = some text) (hv : s.read text = .ok v) :
    s.inEnvironment? env = some v := by
  cases s with
  | conflictRequeueSecs | errorRequeueSecs => cases h
  | ns | cpuImage | gpuImage =>
    cases hv
    exact h
  | kubeconfig | logFile =>
    simp only [read, pathOf] at hv
    split at hv
    · cases hv
    · cases hv
      exact h

theorem inEnvironment?_of_none {s : Setting} (h : s.envName?.bind env = none) :
    s.inEnvironment? env = none := by
  cases s with
  | conflictRequeueSecs | errorRequeueSecs => rfl
  | _ => exact h

/-- A setting that is not given has the value of its own variable. -/
theorem eq_of_fallback {s : Setting} {v : Option s.Value} (h : fallback g env s = .ok v) :
    v = (g s).or (s.inEnvironment? env) := by
  unfold fallback at h
  split at h
  · next given hg =>
    cases h
    rw [hg]
    rfl
  · next text hg henv =>
    obtain ⟨value, hvalue, rfl⟩ := CommandLine.map_eq_ok.1 h
    rw [hg, inEnvironment?_of_read henv hvalue]
    rfl
  · next hg henv =>
    cases h
    rw [hg, inEnvironment?_of_none henv]
    rfl

/-- A path is left to a variable that is empty. -/
structure LeftEmpty (g : Given) (env : Environment) (s : Setting) : Prop where
  path : s = .kubeconfig ∨ s = .logFile
  not_given : g s = none
  empty : s.envName?.bind env = some ""

/-- A text in a variable is a value, unless it is an empty path. -/
theorem exists_read {s : Setting} {text : String} (h : s.envName?.bind env = some text)
    (hpath : s = .kubeconfig ∨ s = .logFile → text ≠ "") : ∃ v, s.read text = .ok v := by
  cases s with
  | conflictRequeueSecs | errorRequeueSecs => cases h
  | ns | cpuImage | gpuImage => exact ⟨text, rfl⟩
  | kubeconfig | logFile => exact ⟨text, if_neg (hpath (by simp))⟩

theorem fallback_eq {s : Setting} (h : ¬ LeftEmpty g env s) :
    fallback g env s = .ok ((g s).or (s.inEnvironment? env)) := by
  cases hfallback : fallback g env s with
  | ok v => rw [eq_of_fallback hfallback]
  | error e =>
    exfalso
    unfold fallback at hfallback
    split at hfallback
    · cases hfallback
    · next text hg henv =>
      obtain ⟨v, hv⟩ := exists_read henv fun hpath htext => h ⟨hpath, hg, htext ▸ henv⟩
      rw [hv] at hfallback
      cases hfallback
    · cases hfallback

theorem LeftEmpty.fallback_eq {s : Setting} (h : LeftEmpty g env s) :
    fallback g env s = .error .empty := by
  simp only [fallback, h.not_given, h.empty]
  rcases h.path with rfl | rfl <;> rfl

end Setting

namespace Configuration

variable {g : Given} {env : Environment}

/-- The settings make a configuration unless a path is left to a variable that
is empty. -/
theorem exists_ofGiven (h : ∀ s, ¬ Setting.LeftEmpty g env s) : ∃ c, ofGiven g env = .ok c := by
  simp only [ofGiven, Setting.fallback_eq (h _)]
  exact ⟨_, rfl⟩

theorem ofGiven_empty {s : Setting} (h : Setting.LeftEmpty g env s) :
    ofGiven g env = .error .empty := by
  by_cases hkube : Setting.LeftEmpty g env .kubeconfig
  · simp only [ofGiven, hkube.fallback_eq]
    rfl
  · have hlog : Setting.LeftEmpty g env .logFile := by
      rcases h.path with rfl | rfl
      · exact absurd h hkube
      · exact h
    have hother : ∀ s, s ≠ .kubeconfig → s ≠ .logFile → ¬ Setting.LeftEmpty g env s :=
      fun s hs hs' h => h.path.elim hs hs'
    simp only [ofGiven, Setting.fallback_eq hkube, hlog.fallback_eq,
      Setting.fallback_eq (hother .ns (by decide) (by decide)),
      Setting.fallback_eq (hother .cpuImage (by decide) (by decide)),
      Setting.fallback_eq (hother .gpuImage (by decide) (by decide)),
      Setting.fallback_eq (hother .conflictRequeueSecs (by decide) (by decide)),
      Setting.fallback_eq (hother .errorRequeueSecs (by decide) (by decide))]
    rfl

end Configuration

namespace CommandLine

variable {a : Configuration} {env : Environment}

theorem Configured.exists_fallback {g : Given} {c : Configuration} (h : Configured g env c)
    (s : Setting) :
    ∃ found, s.fallback g env = .ok found ∧ c.value? s = found.or s.standard? := by
  have hstandard : ∀ {α : Type} (found : Option α) (standard : α),
      some (found.getD standard) = found.or (some standard) := by
    intro α found standard
    cases found <;> rfl
  cases s with
  | kubeconfig => exact ⟨_, h.kubeconfig, Option.or_none.symm⟩
  | ns => exact ⟨_, h.ns, Option.or_none.symm⟩
  | logFile => exact ⟨_, h.logFile, Option.or_none.symm⟩
  | cpuImage =>
    obtain ⟨found, hfound, hc⟩ := h.cpuImage
    exact ⟨found, hfound, (congrArg some hc).trans (hstandard _ _)⟩
  | gpuImage =>
    obtain ⟨found, hfound, hc⟩ := h.gpuImage
    exact ⟨found, hfound, (congrArg some hc).trans (hstandard _ _)⟩
  | conflictRequeueSecs =>
    obtain ⟨found, hfound, hc⟩ := h.conflictRequeueSecs
    exact ⟨found, hfound, (congrArg some hc).trans (hstandard _ _)⟩
  | errorRequeueSecs =>
    obtain ⟨found, hfound, hc⟩ := h.errorRequeueSecs
    exact ⟨found, hfound, (congrArg some hc).trans (hstandard _ _)⟩

/-- A setting of a run has the value given for it, else the one in its
variable, else its default. -/
theorem Configured.value?_eq {g : Given} {c : Configuration} (h : Configured g env c)
    (s : Setting) : c.value? s = ((g s).or (s.inEnvironment? env)).or s.standard? := by
  obtain ⟨found, hfound, hvalue⟩ := h.exists_fallback s
  rw [hvalue, Setting.eq_of_fallback hfound]

/-! ## Command lines that are written for a configuration -/

/-- Options for some settings of `a`, each given once, with its value in the
same word or in the next one. A value that starts like an option has to be in
the same word. -/
structure Gives (a : Configuration) (options : List GivenOption) : Prop where
  once : (options.map (·.setting)).Nodup
  text : ∀ o ∈ options, ∃ v, a.value? o.setting = some v ∧ o.text = o.setting.written v
  apart : ∀ o ∈ options, o.joined = false → o.text.toList.head? ≠ some '-'

/-- The command line of a run with these options. -/
def runWords (options : List GivenOption) : List String := "run" :: options.flatMap (·.words)

/-- The options give the setting. -/
def Names (options : List GivenOption) (s : Setting) : Prop := ∃ o ∈ options, o.setting = s

instance (options : List GivenOption) : DecidablePred (Names options) :=
  fun s => inferInstanceAs (Decidable (∃ o ∈ options, o.setting = s))

/-- The settings of `a` that the options give. -/
def namedOf (a : Configuration) (options : List GivenOption) : Given :=
  fun s => if Names options s then a.value? s else none

/-- A path that the options do not give has an empty variable. -/
def EmptyPath (options : List GivenOption) (env : Environment) : Prop :=
  (¬ Names options .kubeconfig ∧ env "KUBECONFIG" = some "") ∨
    (¬ Names options .logFile ∧ env "MODEL_OPERATOR_LOG_FILE" = some "")

instance (options : List GivenOption) (env : Environment) : Decidable (EmptyPath options env) :=
  inferInstanceAs (Decidable (_ ∨ _))

section

variable {options : List GivenOption} (hkube : a.kubeconfig ≠ some "") (hlog : a.logFile ≠ some "")
  (h : Gives a options)
include hkube hlog h

theorem Gives.readable : ∀ o ∈ options, o.Readable := by
  intro o ho
  obtain ⟨v, hv, htext⟩ := h.text o ho
  exact ⟨⟨v, htext ▸ Setting.read_written hkube hlog hv⟩, h.apart o ho⟩

theorem Gives.words_eq :
    Reading.words {} (options.flatMap (·.words)) = .ok (namedOf a options) := by
  obtain ⟨g, hwords, hsettles⟩ := Reading.words_options (r := {}) rfl rfl settles_nothing h.once
    (h.readable hkube hlog)
  rw [hwords]
  congr 1
  funext s
  by_cases hs : Names options s
  · obtain ⟨o, ho, rfl⟩ := hs
    obtain ⟨v, hv, hg⟩ := hsettles.value o ho
    obtain ⟨v', hv', htext⟩ := h.text o ho
    rw [htext, Setting.read_written hkube hlog hv'] at hv
    cases hv
    rw [hg, namedOf, if_pos ⟨o, ho, rfl⟩, hv']
  · rw [namedOf, if_neg hs]
    exact hsettles.only s fun o ho hos => hs ⟨o, ho, hos⟩

theorem Gives.read_eq :
    read (runWords options) env =
      match Configuration.ofGiven (namedOf a options) env with
      | .ok c => .ok (.run c)
      | .error e => .error (.badValue e) := by
  have hread : read (runWords options) env = readRun (options.flatMap (·.words)) env := rfl
  rw [hread, readRun, h.words_eq hkube hlog]
  rfl

end

section

variable {options options' : List GivenOption} {s : Setting}

theorem Gives.exists_value (h : Gives a options) (hs : Names options s) :
    ∃ v, a.value? s = some v := by
  obtain ⟨o, ho, rfl⟩ := hs
  obtain ⟨v, hv, -⟩ := h.text o ho
  exact ⟨v, hv⟩

theorem Gives.namedOf_eq_none (h : Gives a options) :
    namedOf a options s = none ↔ ¬ Names options s := by
  by_cases hs : Names options s
  · obtain ⟨v, hv⟩ := h.exists_value hs
    simp [namedOf, hs, hv]
  · simp [namedOf, hs]

theorem Gives.leftEmpty_iff (h : Gives a options) :
    (∃ s, Setting.LeftEmpty (namedOf a options) env s) ↔ EmptyPath options env := by
  constructor
  · rintro ⟨_, ⟨rfl | rfl, hnew, hempty⟩⟩
    · exact .inl ⟨h.namedOf_eq_none.1 hnew, hempty⟩
    · exact .inr ⟨h.namedOf_eq_none.1 hnew, hempty⟩
  · rintro (⟨hs, hempty⟩ | ⟨hs, hempty⟩)
    · exact ⟨.kubeconfig, .inl rfl, h.namedOf_eq_none.2 hs, hempty⟩
    · exact ⟨.logFile, .inr rfl, h.namedOf_eq_none.2 hs, hempty⟩

theorem namedOf_congr (h : ∀ s, Names options s ↔ Names options' s) :
    namedOf a options = namedOf a options' :=
  funext fun s => by simp only [namedOf, h s]

end

/-! ## What is read -/

/-- The settings of `a` that the options give are read, and nothing but these
and the environment has a part in the run. -/
structure ReadAsWritten (a : Configuration) (options : List GivenOption) (env : Environment) :
    Prop where
  /-- There is a run unless an empty variable stands for a path. -/
  accepted : ¬ EmptyPath options env → ∃ c, read (runWords options) env = .ok (.run c)
  refused : EmptyPath options env → read (runWords options) env = .error (.badValue .empty)
  /-- What is given has the value it has in `a`, and what is not given has the
  value of its variable, or its default. -/
  value : ∀ c, read (runWords options) env = .ok (.run c) → ∀ s, c.value? s =
    if Names options s then a.value? s else (s.inEnvironment? env).or s.standard?
  /-- The same settings can be given in another order, and be spelled in
  another way. -/
  order : ∀ options', Gives a options' → (∀ s, Names options s ↔ Names options' s) →
    read (runWords options') env = read (runWords options) env
  /-- A setting has the same value in another run if it has the same option
  and the same variable there. -/
  apart : ∀ a' options' env', a'.kubeconfig ≠ some "" → a'.logFile ≠ some "" →
    Gives a' options' → ∀ c c', read (runWords options) env = .ok (.run c) →
      read (runWords options') env' = .ok (.run c') → ∀ s,
        (Names options s ↔ Names options' s) → (Names options s → a.value? s = a'.value? s) →
          s.inEnvironment? env = s.inEnvironment? env' → c.value? s = c'.value? s

theorem Gives.value?_eq (hkube : a.kubeconfig ≠ some "") (hlog : a.logFile ≠ some "")
    {options : List GivenOption} (h : Gives a options) {c : Configuration}
    (hc : read (runWords options) env = .ok (.run c)) (s : Setting) :
    c.value? s = if Names options s then a.value? s
      else (s.inEnvironment? env).or s.standard? := by
  rw [h.read_eq hkube hlog] at hc
  split at hc
  · next c' hconfigured =>
    cases hc
    rw [(configured_of_ofGiven hconfigured).value?_eq]
    by_cases hs : Names options s
    · obtain ⟨v, hv⟩ := h.exists_value hs
      rw [if_pos hs, namedOf, if_pos hs, hv]
      rfl
    · rw [if_neg hs, h.namedOf_eq_none.2 hs]
      rfl
  · cases hc

/-- Options in any order, each in one word or in two, are read as the values
they were written for, and the settings they leave out are read from their own
variables or have their defaults. -/
theorem options_are_read_as_they_were_written (a : Configuration) (hkube : a.kubeconfig ≠ some "")
    (hlog : a.logFile ≠ some "") (options : List GivenOption) (h : Gives a options)
    (env : Environment) : ReadAsWritten a options env := by
  constructor
  case accepted =>
    intro hpath
    obtain ⟨c, hc⟩ := Configuration.exists_ofGiven fun s hs => hpath (h.leftEmpty_iff.1 ⟨s, hs⟩)
    exact ⟨c, by rw [h.read_eq hkube hlog, hc]⟩
  case refused =>
    intro hpath
    obtain ⟨s, hs⟩ := h.leftEmpty_iff.2 hpath
    rw [h.read_eq hkube hlog, Configuration.ofGiven_empty hs]
  case value => exact fun c hc => h.value?_eq hkube hlog hc
  case order =>
    intro options' h' hnames
    rw [h.read_eq hkube hlog, h'.read_eq hkube hlog, namedOf_congr hnames]
  case apart =>
    intro a' options' env' hkube' hlog' h' c c' hc hc' s hnames hvalue henv
    rw [h.value?_eq hkube hlog hc, h'.value?_eq hkube' hlog' hc', henv]
    by_cases hs : Names options s
    · rw [if_pos hs, if_pos (hnames.1 hs), hvalue hs]
    · rw [if_neg hs, if_neg fun hs' => hs (hnames.2 hs')]

/-- An image that starts like an option, an empty namespace and the longest of
all delays. -/
def awkward : Configuration :=
  { ns := some "", cpuImage := "-f=1 2", conflictRequeueSecs := 18446744073709551615 }

def awkwardOptions : List GivenOption :=
  [⟨.conflictRequeueSecs, "18446744073709551615", false⟩, ⟨.cpuImage, "-f=1 2", true⟩,
    ⟨.ns, "", false⟩]

theorem gives_awkward : Gives awkward awkwardOptions := by
  constructor
  case once => decide
  case text =>
    intro o ho
    simp only [awkwardOptions, List.mem_cons, List.not_mem_nil, or_false] at ho
    rcases ho with rfl | rfl | rfl <;> exact ⟨_, rfl, rfl⟩
  case apart => decide

/-- What is given is read to the letter, and what is left out is read from the
environment. -/
theorem awkward_values_are_read :
    let env : Environment := fun name =>
      if name = "WATCH_NAMESPACE" then some "models"
      else if name = "MODEL_OPERATOR_GPU_IMAGE" then some "gpu:2" else none
    read ["run", "--conflict-requeue-secs", "18446744073709551615", "--cpu-image=-f=1 2",
        "--namespace", ""] env = .ok (.run
      { kubeconfig := none, ns := some "", cpuImage := "-f=1 2", gpuImage := "gpu:2"
        conflictRequeueSecs := 18446744073709551615, errorRequeueSecs := 15
        logFile := none }) := by
  intro env
  have h := options_are_read_as_they_were_written awkward nofun nofun awkwardOptions
    gives_awkward env
  obtain ⟨⟨kubeconfig, ns, cpuImage, gpuImage, conflictRequeueSecs, errorRequeueSecs, logFile⟩,
    hc⟩ := h.accepted (by decide)
  have hvalue := h.value _ hc
  cases (hvalue .kubeconfig : kubeconfig = none)
  cases (hvalue .ns : ns = some "")
  cases (hvalue .cpuImage : some cpuImage = some "-f=1 2")
  cases (hvalue .gpuImage : some gpuImage = some "gpu:2")
  cases (hvalue .conflictRequeueSecs : some conflictRequeueSecs = some 18446744073709551615)
  cases (hvalue .errorRequeueSecs : some errorRequeueSecs = some 15)
  cases (hvalue .logFile : logFile = none)
  exact hc

end CommandLine

end ServingOperator
