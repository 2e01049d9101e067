-- The words of a command line. If the settings of a run can be read, the
-- words are options, one after the other, each with its text in the same
-- word or in the next one, and no setting is given twice. So each setting
-- has the value of its option, if there is one.
import ServingOperator.Configuration.CommandLine

namespace ServingOperator.CommandLine

/-! ## Failures in between -/

section

variable {ε α β : Type} {x : Except ε α} {b : β}

theorem bind_eq_ok {f : α → Except ε β} :
    x.bind f = .ok b ↔ ∃ a, x = .ok a ∧ f a = .ok b := by
  cases x <;> simp [Except.bind]

theorem map_eq_ok {f : α → β} : x.map f = .ok b ↔ ∃ a, x = .ok a ∧ f a = b := by
  cases x <;> simp [Except.map]

end

/-! ## Words -/

namespace Word

/-- How a word is spelled that is an option or a value. -/
def spelling? : Word → Option String
  | separator => some "--"
  | assigned s text => some ("--" ++ s.option ++ "=" ++ text)
  | named s => some ("--" ++ s.option)
  | plain text => some text
  | help | helpWith | unknown => none

theorem option_of_ofOption? {name : String} {s : Setting} (h : Setting.ofOption? name = some s) :
    s.option = name := by
  have hfound := List.find?_some h
  simpa using hfound

/-- A word reads as it is spelled. -/
theorem eq_of_spelling? {w x : String} (h : (ofString w).spelling? = some x) : x = w := by
  unfold ofString at h
  split at h
  · next hw =>
    cases h
    exact String.toList_injective hw.symm
  · next body _ hw =>
    have hbody := Text.cutAt_append '=' body
    generalize Text.cutAt '=' body = cut at h hbody
    obtain ⟨name, value⟩ := cut
    simp only at h hbody
    apply String.toList_injective
    rw [hw, hbody]
    split at h
    · split at h <;> cases h
    · split at h
      · next s text hs =>
        cases h
        simp [option_of_ofOption? hs]
      · next s hs =>
        cases h
        simp [option_of_ofOption? hs]
      · cases h
  · cases h
  · cases h
  · exact (Option.some.inj h).symm

end Word

/-! ## Options -/

/-- An option with its text, in one word or in two. -/
structure GivenOption where
  setting : Setting
  text : String
  joined : Bool

def GivenOption.words (o : GivenOption) : List String :=
  if o.joined then ["--" ++ o.setting.option ++ "=" ++ o.text]
  else ["--" ++ o.setting.option, o.text]

/-- The settings have the values that the options give, and no others. No
setting is given twice. -/
structure Settles (options : List GivenOption) (g : Given) : Prop where
  once : (options.map (·.setting)).Nodup
  value : ∀ o ∈ options, ∃ v, o.setting.read o.text = .ok v ∧ g o.setting = some v
  only : ∀ s, (∀ o ∈ options, o.setting ≠ s) → g s = none

theorem settles_nothing : Settles [] .nothing :=
  ⟨List.nodup_nil, fun _ h => (nomatch h), fun _ _ => rfl⟩

theorem set_self (g : Given) (s : Setting) (v : s.Value) : g.set s v s = some v := by
  simp [Given.set]

theorem set_ne (g : Given) {s t : Setting} (v : s.Value) (h : s ≠ t) : g.set s v t = g t := by
  simp [Given.set, h]

/-- A setting has the value that its option gives. -/
theorem Settles.eq_read {options : List GivenOption} {g : Given} (h : Settles options g)
    (s : Setting) :
    g s = (options.find? (·.setting = s)).bind fun o => (s.read o.text).toOption := by
  cases hfind : options.find? (·.setting = s) with
  | none =>
    exact h.only s fun o ho => by simpa using List.find?_eq_none.1 hfind o ho
  | some o =>
    obtain ⟨v, hv, hg⟩ := h.value o (List.mem_of_find?_eq_some hfind)
    have hs : o.setting = s := by simpa using List.find?_some hfind
    subst hs
    rw [hg, Option.bind_some, hv]
    rfl

/-- One more option gives one more setting. -/
theorem Settles.set {options : List GivenOption} {g : Given} (h : Settles options g)
    {s : Setting} (hnew : g s = none) {text : String} {v : s.Value} (hv : s.read text = .ok v)
    (joined : Bool) : Settles (options ++ [⟨s, text, joined⟩]) (g.set s v) := by
  have hfresh : ∀ o ∈ options, o.setting ≠ s := by
    rintro o ho rfl
    obtain ⟨v', _, hg⟩ := h.value o ho
    rw [hnew] at hg
    cases hg
  constructor
  case once =>
    rw [List.map_append, List.nodup_append]
    refine ⟨h.once, by simp, fun t ht t' ht' => ?_⟩
    obtain ⟨o, ho, rfl⟩ := List.mem_map.1 ht
    rw [List.mem_singleton.1 ht']
    exact hfresh o ho
  case value =>
    intro o ho
    rcases List.mem_append.1 ho with ho | ho
    · obtain ⟨v', hv', hg⟩ := h.value o ho
      exact ⟨v', hv', (set_ne g v (hfresh o ho).symm).trans hg⟩
    · cases List.mem_singleton.1 ho
      exact ⟨v, hv, set_self g s v⟩
  case only =>
    intro t ht
    have hne : s ≠ t := ht _ (List.mem_append_right _ (List.mem_singleton_self _))
    rw [set_ne g v hne]
    exact h.only t fun o ho => ht o (List.mem_append_left _ ho)

/-! ## Reading -/

namespace Reading

variable {r r' : Reading} {before : List GivenOption} {g : Given}

/-- The words of the option named last, if it was not taken up yet. -/
def pendingWords (r : Reading) : List String :=
  match r.pending with
  | none => []
  | some (s, none) => ["--" ++ s.option]
  | some (s, some text) => ["--" ++ s.option, text]

/-- A setting that is taken up is new. -/
theorem take_settles {s : Setting} {text : String} (h : r.take s text = .ok r')
    (hr : Settles before r.given) (joined : Bool) :
    Settles (before ++ [⟨s, text, joined⟩]) r'.given ∧ r'.pending = r.pending := by
  unfold take at h
  split at h
  · cases h
  · next hnew =>
    split at h
    · next v hv =>
      cases h
      exact ⟨hr.set (by simpa using hnew) hv joined, rfl⟩
    · cases h

theorem settle_settles (h : r.settle = .ok r') (hr : Settles before r.given) :
    ∃ options : List GivenOption, r.pendingWords = options.flatMap (·.words) ∧
      Settles (before ++ options) r'.given ∧ r'.pending = none := by
  unfold settle at h
  split at h
  · next hpending =>
    cases h
    refine ⟨[], ?_, by simpa using hr, hpending⟩
    rw [pendingWords, hpending]
    rfl
  · cases h
  · next s text hpending =>
    obtain ⟨hsettles, hnone⟩ := take_settles h hr false
    refine ⟨[⟨s, text, false⟩], ?_, hsettles, hnone⟩
    rw [pendingWords, hpending]
    rfl

/-- The words that can be read are options, perhaps with two hyphens at the
end. -/
theorem words_settles {ws : List String} (h : r.words ws = .ok g)
    (hr : Settles before r.given) :
    ∃ (options : List GivenOption) (last : List String),
      r.pendingWords ++ ws = options.flatMap (·.words) ++ last ∧ (last = [] ∨ last = ["--"]) ∧
        Settles (before ++ options) g := by
  induction ws generalizing r before with
  | nil =>
    obtain ⟨r', hsettle, rfl⟩ := map_eq_ok.1 h
    obtain ⟨options, hwords, hsettles, _⟩ := settle_settles hsettle hr
    exact ⟨options, [], by rw [hwords], .inl rfl, hsettles⟩
  | cons w rest ih =>
    have hspelling := fun x => Word.eq_of_spelling? (w := w) (x := x)
    simp only [words] at h
    generalize Word.ofString w = word at h hspelling
    cases word with
    | separator =>
      cases hspelling _ rfl
      simp only at h
      split at h
      · next hrest =>
        obtain ⟨r', hsettle, rfl⟩ := map_eq_ok.1 h
        obtain ⟨options, hwords, hsettles, _⟩ := settle_settles hsettle hr
        exact ⟨options, ["--"], by rw [hwords, hrest], .inr rfl, hsettles⟩
      · cases h
    | assigned s text =>
      cases hspelling _ rfl
      obtain ⟨r', hsettle, h⟩ := bind_eq_ok.1 h
      obtain ⟨r'', htake, h⟩ := bind_eq_ok.1 h
      obtain ⟨options, hwords, hsettles, hpending⟩ := settle_settles hsettle hr
      obtain ⟨hsettles, hpending'⟩ := take_settles htake hsettles true
      obtain ⟨options', last, hwords', hlast, hsettles⟩ := ih h hsettles
      have hnone : r''.pendingWords = [] := by simp [pendingWords, hpending', hpending]
      rw [hnone, List.nil_append] at hwords'
      refine ⟨options ++ ⟨s, text, true⟩ :: options', last, ?_, hlast, by simpa using hsettles⟩
      rw [hwords, hwords']
      simp [GivenOption.words]
    | named s =>
      cases hspelling _ rfl
      obtain ⟨r', hsettle, h⟩ := bind_eq_ok.1 h
      obtain ⟨options, hwords, hsettles, _⟩ := settle_settles hsettle hr
      obtain ⟨options', last, hwords', hlast, hsettles⟩ := ih h hsettles
      refine ⟨options ++ options', last, ?_, hlast, by simpa using hsettles⟩
      rw [hwords, List.flatMap_append, List.append_assoc, ← hwords']
      rfl
    | plain text =>
      cases hspelling _ rfl
      simp only at h
      split at h
      · next s hpending =>
        obtain ⟨options, last, hwords, hlast, hsettles⟩ := ih h hr
        refine ⟨options, last, ?_, hlast, hsettles⟩
        rw [← hwords]
        simp [pendingWords, hpending]
      · cases h
    | help =>
      obtain ⟨_, _, h⟩ := bind_eq_ok.1 h
      cases h
    | helpWith | unknown => cases h

end Reading

/-! ## The command line of a run -/

/-- Each setting of a configuration is the one given, else comes from the
environment, and else has its default if there is one. -/
structure Configured (g : Given) (env : Environment) (c : Configuration) : Prop where
  kubeconfig : Setting.fallback g env .kubeconfig = .ok c.kubeconfig
  ns : Setting.fallback g env .ns = .ok c.ns
  cpuImage : ∃ v, Setting.fallback g env .cpuImage = .ok v ∧
    c.cpuImage = v.getD PolicyTable.cpuImage
  gpuImage : ∃ v, Setting.fallback g env .gpuImage = .ok v ∧
    c.gpuImage = v.getD PolicyTable.gpuImage
  conflictRequeueSecs : ∃ v, Setting.fallback g env .conflictRequeueSecs = .ok v ∧
    c.conflictRequeueSecs = v.getD 1
  errorRequeueSecs : ∃ v, Setting.fallback g env .errorRequeueSecs = .ok v ∧
    c.errorRequeueSecs = v.getD 15
  logFile : Setting.fallback g env .logFile = .ok c.logFile

theorem configured_of_ofGiven {g : Given} {env : Environment} {c : Configuration}
    (h : Configuration.ofGiven g env = .ok c) : Configured g env c := by
  unfold Configuration.ofGiven at h
  obtain ⟨kubeconfig, hkubeconfig, h⟩ := bind_eq_ok.1 h
  obtain ⟨ns, hns, h⟩ := bind_eq_ok.1 h
  obtain ⟨cpuImage, hcpuImage, h⟩ := bind_eq_ok.1 h
  obtain ⟨gpuImage, hgpuImage, h⟩ := bind_eq_ok.1 h
  obtain ⟨conflictRequeueSecs, hconflict, h⟩ := bind_eq_ok.1 h
  obtain ⟨errorRequeueSecs, herror, h⟩ := bind_eq_ok.1 h
  obtain ⟨logFile, hlogFile, h⟩ := bind_eq_ok.1 h
  cases h
  exact ⟨hkubeconfig, hns, ⟨_, hcpuImage, rfl⟩, ⟨_, hgpuImage, rfl⟩, ⟨_, hconflict, rfl⟩,
    ⟨_, herror, rfl⟩, hlogFile⟩

theorem readCrd_ne_run (words : List String) (c : Configuration) :
    readCrd words ≠ .ok (.run c) := by
  intro h
  unfold readCrd at h
  split at h
  · cases h
  · split at h
    · split at h <;> cases h
    all_goals cases h

/-- A command line that asks for a run is `run` and options, and the run is
configured by them and by the environment. -/
theorem read_eq_run {words : List String} {env : Environment} {c : Configuration}
    (h : read words env = .ok (.run c)) :
    ∃ (options : List GivenOption) (last : List String) (g : Given),
      words = "run" :: options.flatMap (·.words) ++ last ∧ (last = [] ∨ last = ["--"]) ∧
        Settles options g ∧ Configured g env c := by
  unfold read at h
  split at h
  case h_4 rest =>
    obtain ⟨g, hread, h⟩ := bind_eq_ok.1 h
    obtain ⟨options, last, hwords, hlast, hsettles⟩ := Reading.words_settles hread settles_nothing
    split at h
    · next c' hc =>
      cases h
      exact ⟨options, last, g, congrArg ("run" :: ·) hwords, hlast, hsettles,
        configured_of_ofGiven hc⟩
    · cases h
  case h_5 rest => exact absurd h (readCrd_ne_run rest c)
  all_goals cases h

end ServingOperator.CommandLine
