-- The laws of text between quotation marks. Each character comes back from what is shown of
-- it, whatever follows, so no two texts are shown alike. What leaves no mark on a page is
-- shown by number, so nothing between the marks breaks a line or stays unseen.
import Mathlib.Data.List.TakeWhile
import Mathlib.Tactic.SplitIfs
import ServingOperator.Proofs.JsonText
import ServingOperator.Text.Quoted

namespace ServingOperator.Text

/-! ## Characters that are seen -/

/-- A control character, below the space or from the delete character on. -/
def Control (c : Char) : Prop := c.toNat < 0x20 ∨ (0x7f ≤ c.toNat ∧ c.toNat < 0xa0)

/-- A character that ends a line: the feeds of lines and pages, the return, the next line, and
the separators of lines and paragraphs. -/
def BreaksLine (c : Char) : Prop := c.toNat ∈ [0xa, 0xb, 0xc, 0xd, 0x85, 0x2028, 0x2029]

theorem unprintable_of_control {c : Char} (h : Control c) : unprintable c = true := by
  rcases h with hlow | ⟨hdelete, hhigh⟩
  · exact unprintable_of_lt_space hlow
  · exact unprintable_of_delete hdelete hhigh

theorem unprintable_of_breaksLine {c : Char} (h : BreaksLine c) : unprintable c = true := by
  have hcases : Control c ∨ (0x2028 ≤ c.toNat ∧ c.toNat ≤ 0x2029) := by
    simp only [BreaksLine, List.mem_cons, List.not_mem_nil, or_false] at h
    unfold Control
    omega
  rcases hcases with hcontrol | ⟨hline, hparagraph⟩
  · exact unprintable_of_control hcontrol
  · exact unprintable_of_mem (r := (0x2028, 0x202f)) (by decide +kernel) hline (by omega)

/-- The plain characters are not in the table. -/
theorem printable_of_plain {c : Char} (hlow : 0x20 ≤ c.toNat) (hhigh : c.toNat < 0x7f) :
    unprintable c = false := by
  have hranges : ∀ r ∈ unprintableRanges, r.2 < 0x20 ∨ 0x7f ≤ r.1 := by decide +kernel
  rw [unprintable, List.any_eq_false]
  intro r hr
  have := hranges r hr
  simp only [Bool.and_eq_true, decide_eq_true_eq]
  omega

/-! ## Characters by number -/

theorem exists_digitChar_of_mem_toDigits {n : Nat} {d : Char} (h : d ∈ Nat.toDigits 16 n) :
    ∃ m < 16, Nat.digitChar m = d := by
  induction n using Nat.strongRecOn with
  | _ n ih =>
    rw [Nat.toDigits_eq_if (by decide)] at h
    split_ifs at h with hn
    · exact ⟨n, hn, (List.mem_singleton.1 h).symm⟩
    · rcases List.mem_append.1 h with hfront | hlast
      · exact ih _ (Nat.div_lt_self (by omega) (by decide)) hfront
      · exact ⟨n % 16, Nat.mod_lt n (by decide), (List.mem_singleton.1 hlast).symm⟩

/-- The number that hexadecimal digits stand for. -/
def hexNumber? (ds : List Char) : Option Nat :=
  ds.foldlM (fun n d => (Json.Reader.hexValue d).map (16 * n + ·)) 0

theorem hexNumber?_toDigits (n : Nat) : hexNumber? (Nat.toDigits 16 n) = some n := by
  have hvalue : ∀ m < 16, Json.Reader.hexValue (Nat.digitChar m) = some m :=
    Json.Reader.hexValue_hexDigit
  induction n using Nat.strongRecOn with
  | _ n ih =>
    rw [Nat.toDigits_eq_if (by decide)]
    split_ifs with hn
    · simp [hexNumber?, hvalue n hn]
    · have hfront := ih (n / 16) (Nat.div_lt_self (by omega) (by decide))
      have hlast := hvalue (n % 16) (Nat.mod_lt n (by decide))
      unfold hexNumber? at hfront ⊢
      rw [List.foldlM_append, hfront]
      simp [hlast, Nat.div_add_mod]

/-! ## Reading what is shown -/

/-- The first character of a text, read from what is shown of the text up to its closing mark,
and what is left to read. -/
def readShown : List Char → Option (Char × List Char)
  | '\\' :: '0' :: rest => some ('\x00', rest)
  | '\\' :: 't' :: rest => some ('\t', rest)
  | '\\' :: 'n' :: rest => some ('\n', rest)
  | '\\' :: 'r' :: rest => some ('\r', rest)
  | '\\' :: '"' :: rest => some ('"', rest)
  | '\\' :: '\\' :: rest => some ('\\', rest)
  | '\\' :: 'u' :: '\x7b' :: rest =>
    (hexNumber? (rest.takeWhile (· ≠ '\x7d'))).map fun n =>
      (Char.ofNat n, (rest.dropWhile (· ≠ '\x7d')).tail)
  | '\\' :: _ => none
  | '"' :: _ => none
  | c :: rest => some (c, rest)
  | [] => none

theorem readShown_numbered (c : Char) (rest : List Char) :
    readShown (numbered c ++ rest) = some (c, rest) := by
  have hbrace : ∀ m < 16, Nat.digitChar m ≠ '\x7d' := by decide
  have hdigits : ∀ d ∈ Nat.toDigits 16 c.toNat, decide (d ≠ '\x7d') = true := by
    intro d hd
    obtain ⟨m, hm, rfl⟩ := exists_digitChar_of_mem_toDigits hd
    exact decide_eq_true (hbrace m hm)
  have htext : numbered c ++ rest =
      '\\' :: 'u' :: '\x7b' :: (Nat.toDigits 16 c.toNat ++ '\x7d' :: rest) := by
    simp [numbered]
  rw [htext, readShown, List.takeWhile_append_of_pos hdigits, List.dropWhile_append_of_pos hdigits]
  simp [hexNumber?_toDigits]

/-- A character comes back from what is shown of it. -/
theorem readShown_quotedChar (c : Char) (rest : List Char) :
    readShown (quotedChar c ++ rest) = some (c, rest) := by
  unfold quotedChar
  split_ifs with hnull htab hfeed hreturn hquote hslash hseen
  case pos | pos | pos | pos | pos | pos => subst c; rfl
  case pos => exact readShown_numbered c rest
  case neg => simp [readShown, hslash]

/-- A quoted text is told from what follows it: the closing mark is the first that is not shown
as a character. -/
theorem quotedChars_append_inj {as bs rest rest' : List Char}
    (h : quotedChars as ++ rest = quotedChars bs ++ rest') : as = bs ∧ rest = rest' := by
  have hread : ∀ (c : Char) (cs rest : List Char),
      readShown ((c :: cs).flatMap quotedChar ++ '"' :: rest) =
        some (c, cs.flatMap quotedChar ++ '"' :: rest) := by
    intro c cs rest
    rw [List.flatMap_cons, List.append_assoc, readShown_quotedChar]
  have hclosed : ∀ rest : List Char, readShown ('"' :: rest) = none := fun rest => rfl
  have hinner : as.flatMap quotedChar ++ '"' :: rest = bs.flatMap quotedChar ++ '"' :: rest' := by
    simpa [quotedChars] using h
  clear h
  induction as generalizing bs with
  | nil =>
    cases bs with
    | nil => exact ⟨rfl, (List.cons.inj hinner).2⟩
    | cons b bs =>
      have hboth := congrArg readShown hinner
      rw [hread] at hboth
      cases (hclosed rest).symm.trans hboth
  | cons a as ih =>
    have hboth := congrArg readShown hinner
    rw [hread] at hboth
    cases bs with
    | nil => cases hboth.trans (hclosed rest')
    | cons b bs =>
      rw [hread] at hboth
      obtain ⟨rfl, hrest⟩ := Prod.mk.inj (Option.some.inj hboth)
      obtain ⟨rfl, rfl⟩ := ih hrest
      exact ⟨rfl, rfl⟩

/-- No two texts are shown alike. -/
theorem quoted_inj {s t : String} : quoted s = quoted t ↔ s = t := by
  refine ⟨fun h => ?_, congrArg quoted⟩
  have hchars : quotedChars s.toList = quotedChars t.toList := String.ofList_injective h
  exact String.toList_inj.1 (quotedChars_append_inj (congrArg (· ++ []) hchars)).1

theorem getLast?_quoted (s : String) : (quoted s).toList.getLast? = some '"' := by
  rw [quoted, String.toList_ofList, quotedChars, List.getLast?_append]
  rfl

/-! ## Everything is seen -/

theorem printable_of_mem_numbered {c d : Char} (h : d ∈ numbered c) : unprintable d = false := by
  have hplain : 0x20 ≤ d.toNat ∧ d.toNat < 0x7f := by
    have hmark : ∀ d ∈ ['\\', 'u', '\x7b', '\x7d'], 0x20 ≤ d.toNat ∧ d.toNat < 0x7f := by simp
    have hdigit : ∀ m < 16, 0x20 ≤ (Nat.digitChar m).toNat ∧ (Nat.digitChar m).toNat < 0x7f := by
      decide
    simp only [numbered, List.mem_append, or_assoc] at h
    rcases h with hfront | hdigits | hback
    · exact hmark d (List.mem_append_left ['\x7d'] hfront)
    · obtain ⟨m, hm, rfl⟩ := exists_digitChar_of_mem_toDigits hdigits
      exact hdigit m hm
    · exact hmark d (List.mem_append_right ['\\', 'u', '\x7b'] hback)
  exact printable_of_plain hplain.1 hplain.2

theorem printable_of_mem_quotedChar {c d : Char} (h : d ∈ quotedChar c) : unprintable d = false := by
  have hshort : ∀ e ∈ ['0', 't', 'n', 'r', '"', '\\'], d ∈ ['\\', e] → unprintable d = false := by
    have hplain : ∀ e ∈ ['0', 't', 'n', 'r', '"', '\\'], ∀ d ∈ ['\\', e],
        0x20 ≤ d.toNat ∧ d.toNat < 0x7f := by simp
    intro e he hd
    exact printable_of_plain (hplain e he d hd).1 (hplain e he d hd).2
  unfold quotedChar at h
  split_ifs at h with hnull htab hfeed hreturn hquote hslash hunseen
  case pos | pos | pos | pos | pos | pos => exact hshort _ (by decide) h
  case pos => exact printable_of_mem_numbered h
  case neg => rw [List.mem_singleton.1 h, Bool.eq_false_iff.2 hunseen]

/-- Between quotation marks every character leaves a mark. -/
theorem printable_of_mem_quoted {s : String} {d : Char} (h : d ∈ (quoted s).toList) :
    unprintable d = false := by
  have hmark : unprintable '"' = false := printable_of_plain (by decide) (by decide)
  simp only [quoted, quotedChars, String.toList_ofList, List.mem_cons, List.mem_append,
    List.mem_flatMap, List.cons_append, List.not_mem_nil, or_false] at h
  rcases h with rfl | ⟨c, -, hd⟩ | rfl
  · exact hmark
  · exact printable_of_mem_quotedChar hd
  · exact hmark

/-! ## Lines -/

theorem dropReturn_sublist (cs : List Char) : (dropReturn cs).Sublist cs := by
  unfold dropReturn
  split_ifs
  · exact List.dropLast_sublist cs
  · exact List.Sublist.refl cs

theorem dropReturn_eq_self_iff {cs : List Char} :
    dropReturn cs = cs ↔ cs.getLast? ≠ some '\r' := by
  unfold dropReturn
  split_ifs with hreturn
  · refine iff_of_false (fun h => ?_) fun hne => hne hreturn
    have hlength := congrArg List.length h
    have hpos : 0 < cs.length := List.length_pos_iff.2 (by rintro rfl; cases hreturn)
    rw [List.length_dropLast] at hlength
    omega
  · exact iff_of_true rfl hreturn

theorem feed_not_mem_firstLine (s : String) : '\n' ∉ (firstLine s).toList := by
  intro h
  have hline : '\n' ∈ s.toList.takeWhile (· ≠ '\n') := by
    simp only [firstLine, String.toList_ofList] at h
    split_ifs at h
    · exact (dropReturn_sublist _).subset h
    · exact h
  have hother := List.mem_takeWhile_imp hline
  simp at hother

theorem firstLine_eq_self_iff {s : String} : firstLine s = s ↔ '\n' ∉ s.toList := by
  refine ⟨fun h => h ▸ feed_not_mem_firstLine s, fun h => ?_⟩
  have hline : s.toList.takeWhile (· ≠ '\n') = s.toList := by
    rw [List.takeWhile_eq_self_iff]
    exact fun c hc => decide_eq_true fun hfeed => h (hfeed ▸ hc)
  rw [firstLine, hline, if_neg (Nat.lt_irrefl _), String.ofList_toList]

/-- A text heads a report as it is if it is one line that does not end in a return. -/
theorem heading_eq_self_iff {s : String} :
    heading s = s ↔ '\n' ∉ s.toList ∧ s.toList.getLast? ≠ some '\r' := by
  constructor
  · intro h
    have hfeed : '\n' ∉ s.toList := by
      intro hmem
      rw [← h, heading, String.toList_ofList] at hmem
      exact feed_not_mem_firstLine s ((dropReturn_sublist _).subset hmem)
    rw [heading, firstLine_eq_self_iff.2 hfeed] at h
    refine ⟨hfeed, dropReturn_eq_self_iff.1 (String.ofList_injective ?_)⟩
    rw [h, String.ofList_toList]
  · rintro ⟨hfeed, hreturn⟩
    rw [heading, firstLine_eq_self_iff.2 hfeed, dropReturn_eq_self_iff.2 hreturn,
      String.ofList_toList]

end ServingOperator.Text
