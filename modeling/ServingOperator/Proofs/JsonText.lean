-- The laws of JSON text. What is written is read back, if it is plain: no
-- floating-point numbers, and of the integers only those that 64 bits hold.
-- The reader goes by fuel and by depth, and the length of the text is enough
-- of both.
import Mathlib.Tactic.SplitIfs
import ServingOperator.Json.Reader
import ServingOperator.Json.Writer

namespace ServingOperator.Json

/-- A value with nothing in it that is read differently from how it is
written. -/
inductive Plain : Json → Prop
  | null : Plain .null
  | bool (b : Bool) : Plain (.bool b)
  | int {n : Int} (hlow : -0x8000000000000000 ≤ n) (hhigh : n < 0x10000000000000000) :
    Plain (.int n)
  | str (s : String) : Plain (.str s)
  | arr {items : List Json} (h : ∀ v ∈ items, Plain v) : Plain (.arr items)
  | obj {fields : List (String × Json)} (h : ∀ f ∈ fields, Plain f.2) : Plain (.obj fields)

theorem Plain.of_arr {vs : List Json} (h : Plain (.arr vs)) : ∀ v ∈ vs, Plain v := by
  cases h with
  | arr h => exact h

namespace Reader

open Number (digitsValue spanDigits)

/-! ## Strings -/

theorem hexValue_hexDigit : ∀ n < 16, hexValue (hexDigit n) = some n := by decide

/-- A control character comes back from its number. -/
theorem hex4_hexDigit {n : Nat} (h : n < 0x20) :
    hex4 '0' '0' (hexDigit (n / 16)) (hexDigit (n % 16)) = some n := by
  have hzero : hexValue '0' = some 0 := by decide
  simp only [hex4, hzero, hexValue_hexDigit (n / 16) (by omega),
    hexValue_hexDigit (n % 16) (by omega), bind, Option.bind]
  rw [show ((0 * 16 + 0) * 16 + n / 16) * 16 + n % 16 = n by omega]

/-- The three ways to write a character: by an escape of its own, by its
number, or as it is. -/
theorem escaped_cases (c : Char) :
    (∃ e, escaped c = ['\\', e] ∧ e ≠ 'u' ∧ simpleEscape e = some c) ∨
      (c.toNat < 0x20 ∧ escaped c =
        ['\\', 'u', '0', '0', hexDigit (c.toNat / 16), hexDigit (c.toNat % 16)]) ∨
      (escaped c = [c] ∧ c ≠ '"' ∧ c ≠ '\\' ∧ ¬ c.toNat < 0x20) := by
  unfold escaped
  split_ifs with hquote hslash hback hfeed hline hreturn htab hcontrol
  case pos | pos | pos | pos | pos | pos | pos => exact .inl ⟨_, rfl, by decide, by subst c; rfl⟩
  case pos => exact .inr (.inl ⟨hcontrol, rfl⟩)
  case neg => exact .inr (.inr ⟨rfl, hquote, hslash, hcontrol⟩)

/-- A character comes back from however it is written. -/
theorem stringChars_escaped (c : Char) (acc : List Char) (rest : Rest) :
    stringChars (some acc) (escaped c ++ rest) = stringChars (some (c :: acc)) rest := by
  rcases escaped_cases c with ⟨e, hescaped, hu, he⟩ | ⟨hcontrol, hescaped⟩ | ⟨hescaped, hq, hs, hc⟩
  · rw [hescaped, List.cons_append, List.cons_append, List.nil_append,
      stringChars.eq_3 _ _ _ fun _ _ _ _ _ h _ => hu h, he]
    rfl
  · rw [hescaped]
    simp only [List.cons_append, List.nil_append]
    rw [stringChars.eq_2, hex4_hexDigit hcontrol]
    simp only [Option.map_some, Char.ofNat_toNat]
    rw [if_neg (by omega), if_neg (by omega)]
  · rw [hescaped, List.cons_append, List.nil_append,
      stringChars.eq_4 _ _ _ hq (fun _ _ _ _ _ h _ => hs h) (fun _ _ h _ => hs h), if_neg hc]
    rfl

/-- A string comes back from its text. -/
theorem string_stringText (s : String) (rest : Rest) :
    string (s.toList.flatMap escaped ++ '"' :: rest) = some (some s, rest) := by
  have hchars : ∀ cs acc : List Char, stringChars (some acc) (cs.flatMap escaped ++ '"' :: rest) =
      some (some (cs.reverse ++ acc), rest) := by
    intro cs
    induction cs with
    | nil => exact fun acc => stringChars.eq_1 _ _
    | cons c cs ih =>
      intro acc
      rw [List.flatMap_cons, List.append_assoc, stringChars_escaped, ih]
      simp
  simp [string, hchars]

/-! ## Numbers -/

/-- The text goes on with nothing that a number could go on with. -/
def EndsNumber (rest : Rest) : Prop :=
  ∀ c ∈ rest.head?, c.isDigit = false ∧ c ≠ '.' ∧ c ≠ 'e' ∧ c ≠ 'E'

theorem head?_toDigits {n : Nat} (h : 0 < n) : (Nat.toDigits 10 n).head? ≠ some '0' := by
  induction n using Nat.strongRecOn with
  | ind n ih =>
    rw [Nat.toDigits_eq_if (by decide)]
    split
    case isTrue hlt =>
      have hall : ∀ n < 10, 0 < n → [Nat.digitChar n].head? ≠ some '0' := by decide
      exact hall n hlt h
    case isFalse hge =>
      have hhead := ih (n / 10) (by omega) (by omega)
      obtain ⟨d, ds, hdigits⟩ :=
        List.exists_cons_of_ne_nil (Nat.toDigits_ne_nil (n := n / 10) (b := 10))
      rw [hdigits] at hhead ⊢
      exact hhead

theorem spanDigits_toDigits (n : Nat) {rest : Rest} (h : EndsNumber rest) :
    spanDigits (Nat.toDigits 10 n ++ rest) = (Nat.toDigits 10 n, rest) := by
  have hdigits : ∀ c ∈ Nat.toDigits 10 n, c.isDigit = true :=
    fun c hc => Nat.isDigit_of_mem_toDigits (by decide) (by decide) hc
  have hrest : rest.takeWhile Char.isDigit = [] ∧ rest.dropWhile Char.isDigit = rest := by
    cases rest with
    | nil => exact ⟨rfl, rfl⟩
    | cons c cs =>
      obtain ⟨hc, _⟩ := h c rfl
      simp [hc]
  rw [spanDigits, List.takeWhile_append_of_pos hdigits, List.dropWhile_append_of_pos hdigits,
    hrest.1, hrest.2, List.append_nil]

theorem fraction_of_endsNumber {rest : Rest} (h : EndsNumber rest) :
    fraction rest = some ([], rest) := by
  unfold fraction
  split
  · exact absurd rfl (h '.' rfl).2.1
  · rfl

theorem exponent_of_endsNumber {rest : Rest} (h : EndsNumber rest) :
    exponent rest = some (none, rest) := by
  unfold exponent
  split
  · exact absurd rfl (h 'e' rfl).2.2.1
  · exact absurd rfl (h 'E' rfl).2.2.2
  · rfl

theorem no_leading_zero (n : Nat) :
    ¬ ((Nat.toDigits 10 n).head? = some '0' ∧ 1 < (Nat.toDigits 10 n).length) := by
  rintro ⟨hhead, hlength⟩
  rcases Nat.eq_zero_or_pos n with rfl | hpos
  · simp at hlength
  · exact head?_toDigits hpos hhead

theorem number_toDigits (n : Nat) {rest : Rest} (h : EndsNumber rest) :
    number (Nat.toDigits 10 n ++ rest) =
      some (numberValue false (Nat.toDigits 10 n) [] none, rest) := by
  have hsign : ∀ r, Nat.toDigits 10 n ++ rest ≠ '-' :: r := by
    intro r heq
    obtain ⟨d, ds, hdigits⟩ := List.exists_cons_of_ne_nil (Nat.toDigits_ne_nil (n := n) (b := 10))
    have hd : d.isDigit = true :=
      Nat.isDigit_of_mem_toDigits (b := 10) (n := n) (by decide) (by decide) (by simp [hdigits])
    rw [hdigits] at heq
    obtain rfl := (List.cons.inj heq).1
    exact absurd hd (by decide)
  unfold number
  split
  next negative cs heq =>
  split at heq
  · next r hcs => exact absurd hcs (hsign r)
  · cases heq
    simpa [spanDigits_toDigits n h, fraction_of_endsNumber h, exponent_of_endsNumber h]
      using no_leading_zero n

theorem number_minus (n : Nat) {rest : Rest} (h : EndsNumber rest) :
    number ('-' :: (Nat.toDigits 10 n ++ rest)) =
      some (numberValue true (Nat.toDigits 10 n) [] none, rest) := by
  simpa [number, spanDigits_toDigits n h, fraction_of_endsNumber h, exponent_of_endsNumber h]
    using no_leading_zero n

/-- An integer comes back from its text. -/
theorem number_intText {n : Int} (hlow : -0x8000000000000000 ≤ n) (hhigh : n < 0x10000000000000000)
    {rest : Rest} (h : EndsNumber rest) : number (intText n ++ rest) = some (.int n, rest) := by
  have hvalue : digitsValue (Nat.toDigits 10 n.natAbs) = n.natAbs :=
    Nat.ofDigitChars_toDigits (by decide) (by decide)
  unfold intText
  split
  case isTrue hneg =>
    have habs : -(n.natAbs : Int) = n := by omega
    have hzero : n.natAbs ≠ 0 := by omega
    have hfits : n.natAbs ≤ Nat.pow 2 63 := by simp only [Nat.pow_eq]; omega
    rw [List.cons_append, number_minus _ h, numberValue, hvalue]
    simp only [if_true, ne_eq, hzero, not_false_eq_true, hfits, habs, and_self]
  case isFalse hpos =>
    have habs : (n.natAbs : Int) = n := by omega
    have hfits : n.natAbs < Nat.pow 2 64 := by simp only [Nat.pow_eq]; omega
    rw [number_toDigits _ h, numberValue, hvalue]
    simp only [if_false, Bool.false_eq_true, hfits, habs, and_self, if_true]

/-! ## Values -/

/-- What is written for the value is read as the value, with enough fuel and
depth. -/
def Returns (v : Json) : Prop :=
  ∀ (fuel depth : Nat) (rest : Rest), 2 * v.toChars.length ≤ fuel → v.toChars.length ≤ depth →
    EndsNumber rest → value fuel depth (v.toChars ++ rest) = some (v, rest)

theorem skipBlanks_cons {c : Char} (h : isBlank c = false) (cs : Rest) :
    skipBlanks (c :: cs) = c :: cs := by
  simp [skipBlanks, h]

theorem endsNumber_cons {c : Char} (h : c.isDigit = false ∧ c ≠ '.' ∧ c ≠ 'e' ∧ c ≠ 'E')
    (cs : Rest) : EndsNumber (c :: cs) := by
  intro d hd
  cases hd
  exact h

theorem toChars_ne_nil {v : Json} (h : Plain v) : v.toChars ≠ [] := by
  cases h with
  | bool b => cases b <;> simp [toChars]
  | @int n => by_cases hn : n < 0 <;> simp [toChars, intText, hn, Nat.toDigits_ne_nil]
  | null | str | arr | obj => simp [toChars, stringText]

theorem exists_fuel {v : Json} (h : Plain v) {fuel : Nat} (hfuel : 2 * v.toChars.length ≤ fuel) :
    ∃ m, fuel = m + 1 := by
  have hlength := List.length_pos_iff.2 (toChars_ne_nil h)
  exact ⟨fuel - 1, by omega⟩

theorem returns_null : Returns .null := by
  intro fuel depth rest hfuel _ _
  obtain ⟨fuel, rfl⟩ := exists_fuel .null hfuel
  simp [toChars, value, skipBlanks, isBlank, keyword?]

theorem returns_bool (b : Bool) : Returns (.bool b) := by
  intro fuel depth rest hfuel _ _
  obtain ⟨fuel, rfl⟩ := exists_fuel (.bool b) hfuel
  cases b <;> simp [toChars, value, skipBlanks, isBlank, keyword?]

theorem returns_str (s : String) : Returns (.str s) := by
  intro fuel depth rest hfuel _ _
  obtain ⟨fuel, rfl⟩ := exists_fuel (.str s) hfuel
  have hstring := string_stringText s rest
  simp [toChars, stringText, value, skipBlanks, isBlank, hstring]

theorem ne_of_number {c d : Char} (h : c.isDigit = true ∨ c = '-') (hdigit : d.isDigit = false)
    (hminus : d ≠ '-') : c ≠ d := by
  rintro rfl
  rcases h with h | h
  · rw [h] at hdigit
    cases hdigit
  · exact hminus h

theorem isBlank_of_number {c : Char} (h : c.isDigit = true ∨ c = '-') : isBlank c = false := by
  simp [isBlank, ne_of_number h (d := ' ') (by decide) (by decide),
    ne_of_number h (d := '\n') (by decide) (by decide),
    ne_of_number h (d := '\t') (by decide) (by decide),
    ne_of_number h (d := '\r') (by decide) (by decide)]

/-- A value that starts as a number does is a number. -/
theorem value_number {c : Char} (h : c.isDigit = true ∨ c = '-') (fuel depth : Nat) (cs : Rest) :
    value (fuel + 1) depth (c :: cs) = number (c :: cs) := by
  rw [value.eq_2, skipBlanks_cons (isBlank_of_number h)]
  split
  case h_7 => rfl
  all_goals
    next heq => exact absurd (List.cons.inj heq).1 (ne_of_number h (by decide) (by decide))

theorem intText_cons (n : Int) : ∃ c cs, intText n = c :: cs ∧ (c.isDigit = true ∨ c = '-') := by
  unfold intText
  split
  · exact ⟨'-', _, rfl, .inr rfl⟩
  · obtain ⟨d, ds, hdigits⟩ :=
      List.exists_cons_of_ne_nil (Nat.toDigits_ne_nil (n := n.natAbs) (b := 10))
    refine ⟨d, ds, hdigits, .inl ?_⟩
    exact Nat.isDigit_of_mem_toDigits (b := 10) (n := n.natAbs) (by decide) (by decide)
      (by simp [hdigits])

theorem returns_int {n : Int} (hlow : -0x8000000000000000 ≤ n) (hhigh : n < 0x10000000000000000) :
    Returns (.int n) := by
  intro fuel depth rest hfuel _ hrest
  obtain ⟨fuel, rfl⟩ := exists_fuel (.int hlow hhigh) hfuel
  have hnumber := number_intText hlow hhigh hrest
  obtain ⟨c, cs, htext, hc⟩ := intText_cons n
  rw [toChars, htext, List.cons_append, value_number hc, ← List.cons_append, ← htext, hnumber]

/-! ## Arrays and objects -/

theorem endsNumber_comma (cs : Rest) : EndsNumber (',' :: cs) := endsNumber_cons (by decide) cs

/-- The items of an array come back one after the other. -/
theorem items_itemsText {vs : List Json} (hne : vs ≠ []) (hvs : ∀ v ∈ vs, Returns v)
    (fuel depth : Nat) (acc : List Json) (rest : Rest)
    (hfuel : 2 * (itemsText vs).length + 1 ≤ fuel) (hdepth : (itemsText vs).length ≤ depth) :
    items fuel depth (itemsText vs ++ ']' :: rest) acc = some (acc.reverse ++ vs, rest) := by
  induction vs generalizing fuel acc with
  | nil => exact absurd rfl hne
  | cons v vs ih =>
    obtain ⟨fuel, rfl⟩ : ∃ m, fuel = m + 1 := ⟨fuel - 1, by omega⟩
    have hv := hvs v List.mem_cons_self
    cases vs with
    | nil =>
      have hend : EndsNumber (']' :: rest) := endsNumber_cons (by decide) rest
      have hvalue := hv fuel depth (']' :: rest) (by simp [itemsText] at hfuel; omega)
        (by simpa [itemsText] using hdepth) hend
      rw [itemsText, items.eq_2, hvalue]
      simp [skipBlanks_cons (c := ']') (by decide)]
    | cons w vs =>
      rw [itemsText, List.length_append, List.length_cons] at hfuel hdepth
      have hvalue := hv fuel depth (',' :: (itemsText (w :: vs) ++ ']' :: rest)) (by omega)
        (by omega) (endsNumber_comma _)
      rw [itemsText, List.append_assoc, List.cons_append, items.eq_2, hvalue]
      simp only [skipBlanks_cons (c := ',') (by decide)]
      rw [ih (List.cons_ne_nil w vs) (fun x hx => hvs x (.tail _ hx)) fuel (v :: acc) (by omega)
        (by omega)]
      simp

/-- One field comes back, and what follows it is read on. -/
theorem fields_field {k : String} {v : Json} (hv : Returns v) (fuel depth : Nat)
    (acc : List (String × Json)) (rest : Rest) (hfuel : 2 * v.toChars.length ≤ fuel)
    (hdepth : v.toChars.length ≤ depth) (hend : EndsNumber rest) :
    fields (fuel + 1) depth (stringText k ++ ':' :: (v.toChars ++ rest)) (some acc) =
      match skipBlanks rest with
      | ',' :: rest => fields fuel depth rest (some ((k, v) :: acc))
      | '\x7d' :: rest => some (some ((k, v) :: acc).reverse, rest)
      | _ => none := by
  have hstring := string_stringText k (':' :: (v.toChars ++ rest))
  have hvalue := hv fuel depth rest hfuel hdepth hend
  simp only [stringText, List.cons_append, List.append_assoc, List.nil_append, fields.eq_2,
    skipBlanks_cons (c := '"') (by decide), hstring, skipBlanks_cons (c := ':') (by decide), hvalue]
  rfl

/-- The fields of an object come back one after the other. -/
theorem fields_fieldsText {fs : List (String × Json)} (hne : fs ≠ [])
    (hfs : ∀ f ∈ fs, Returns f.2) (fuel depth : Nat) (acc : List (String × Json)) (rest : Rest)
    (hfuel : 2 * (fieldsText fs).length + 1 ≤ fuel) (hdepth : (fieldsText fs).length ≤ depth) :
    fields fuel depth (fieldsText fs ++ '\x7d' :: rest) (some acc) =
      some (some (acc.reverse ++ fs), rest) := by
  induction fs generalizing fuel acc with
  | nil => exact absurd rfl hne
  | cons f fs ih =>
    obtain ⟨k, v⟩ := f
    obtain ⟨fuel, rfl⟩ : ∃ m, fuel = m + 1 := ⟨fuel - 1, by omega⟩
    have hv : Returns v := hfs (k, v) List.mem_cons_self
    cases fs with
    | nil =>
      rw [fieldsText, List.length_append, List.length_cons] at hfuel hdepth
      rw [fieldsText, List.append_assoc, List.cons_append,
        fields_field hv fuel depth acc _ (by omega) (by omega) (endsNumber_cons (by decide) rest)]
      simp [skipBlanks_cons (c := '\x7d') (by decide)]
    | cons g fs =>
      rw [fieldsText, List.length_append, List.length_append, List.length_cons,
        List.length_cons] at hfuel hdepth
      rw [fieldsText, List.append_assoc, List.append_assoc, List.cons_append, List.cons_append,
        fields_field hv fuel depth acc _ (by omega) (by omega) (endsNumber_comma _)]
      simp only [skipBlanks_cons (c := ',') (by decide)]
      rw [ih (List.cons_ne_nil g fs) (fun x hx => hfs x (.tail _ hx)) fuel ((k, v) :: acc)
        (by omega) (by omega)]
      simp

/-- No plain value starts as a blank or as the end of an array. -/
theorem toChars_cons {v : Json} (h : Plain v) :
    ∃ c cs, v.toChars = c :: cs ∧ isBlank c = false ∧ c ≠ ']' := by
  cases h with
  | null => exact ⟨'n', _, rfl, by decide, by decide⟩
  | bool b =>
    cases b with
    | true => exact ⟨'t', _, rfl, by decide, by decide⟩
    | false => exact ⟨'f', _, rfl, by decide, by decide⟩
  | @int n =>
    obtain ⟨c, cs, htext, hc⟩ := intText_cons n
    exact ⟨c, cs, htext, isBlank_of_number hc, ne_of_number hc (by decide) (by decide)⟩
  | str s => exact ⟨'"', _, rfl, by decide, by decide⟩
  | arr => exact ⟨'[', _, rfl, by decide, by decide⟩
  | obj => exact ⟨'\x7b', _, rfl, by decide, by decide⟩

theorem itemsText_cons {v : Json} (vs : List Json) (h : Plain v) :
    ∃ c cs, itemsText (v :: vs) = c :: cs ∧ isBlank c = false ∧ c ≠ ']' := by
  obtain ⟨c, cs, htext, hblank, hclose⟩ := toChars_cons h
  cases vs with
  | nil => exact ⟨c, cs, htext, hblank, hclose⟩
  | cons w vs => exact ⟨c, _, by rw [itemsText, htext]; rfl, hblank, hclose⟩

theorem fieldsText_cons (f : String × Json) (fs : List (String × Json)) :
    ∃ cs, fieldsText (f :: fs) = '"' :: cs := by
  cases fs with
  | nil => exact ⟨_, rfl⟩
  | cons g fs => exact ⟨_, rfl⟩

theorem returns_arr {vs : List Json} (hplain : Plain (.arr vs)) (hvs : ∀ v ∈ vs, Returns v) :
    Returns (.arr vs) := by
  intro fuel depth rest hfuel hdepth _
  obtain ⟨fuel, rfl⟩ := exists_fuel hplain hfuel
  simp only [toChars, List.length_append, List.length_cons, List.length_nil] at hfuel hdepth
  obtain ⟨depth, rfl⟩ : ∃ m, depth = m + 1 := ⟨depth - 1, by omega⟩
  cases vs with
  | nil => simp [toChars, itemsText, value, skipBlanks, isBlank]
  | cons v vs =>
    have hitems := items_itemsText (List.cons_ne_nil v vs) hvs fuel depth [] rest (by omega)
      (by omega)
    obtain ⟨c, cs, htext, hblank, hclose⟩ := itemsText_cons vs (hplain.of_arr v List.mem_cons_self)
    rw [htext, List.cons_append] at hitems
    rw [toChars, htext, List.cons_append, List.cons_append, List.append_assoc, value.eq_2,
      skipBlanks_cons (by decide)]
    simp only [List.cons_append, List.nil_append, skipBlanks_cons hblank]
    split
    · next heq => exact absurd (List.cons.inj heq).1 hclose
    · rw [hitems]
      rfl

theorem returns_obj {fs : List (String × Json)} (hplain : Plain (.obj fs))
    (hfs : ∀ f ∈ fs, Returns f.2) : Returns (.obj fs) := by
  intro fuel depth rest hfuel hdepth _
  obtain ⟨fuel, rfl⟩ := exists_fuel hplain hfuel
  simp only [toChars, List.length_append, List.length_cons, List.length_nil] at hfuel hdepth
  obtain ⟨depth, rfl⟩ : ∃ m, depth = m + 1 := ⟨depth - 1, by omega⟩
  cases fs with
  | nil => simp [toChars, fieldsText, value, skipBlanks, isBlank]
  | cons f fs =>
    have hfields := fields_fieldsText (List.cons_ne_nil f fs) hfs fuel depth [] rest (by omega)
      (by omega)
    obtain ⟨cs, htext⟩ := fieldsText_cons f fs
    rw [htext, List.cons_append] at hfields
    rw [toChars, htext, List.cons_append, List.cons_append, List.append_assoc, value.eq_2,
      skipBlanks_cons (by decide)]
    simp only [List.cons_append, List.nil_append, skipBlanks_cons (c := '"') (by decide)]
    split
    · next heq => exact absurd (List.cons.inj heq).1 (by decide)
    · rw [hfields]
      rfl

theorem returns {v : Json} (h : Plain v) : Returns v := by
  induction h with
  | null => exact returns_null
  | bool b => exact returns_bool b
  | int hlow hhigh => exact returns_int hlow hhigh
  | str s => exact returns_str s
  | arr h ih => exact returns_arr (.arr h) ih
  | obj h ih => exact returns_obj (.obj h) ih

end Reader

/-- A plain value is read back from its text. -/
theorem ofLooseString?_toText {v : Json} (h : Plain v) : ofLooseString? v.toText = some v := by
  have hvalue := Reader.returns h (2 * v.toChars.length + 2) v.toChars.length []
    (by omega) (by omega) nofun
  rw [List.append_nil] at hvalue
  simp [ofLooseString?, toText, ofChars?, hvalue, Reader.skipBlanks]

end ServingOperator.Json
