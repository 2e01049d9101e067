-- The laws of cutting text at a byte. A cut leaves a prefix of the text, as long as it is asked to
-- be, or the whole text where there is no more of it. The one thing that can be in its way is a
-- character that lies across it. The bytes before a cut tell all of this, whatever follows them.
import ServingOperator.Text.Bytes

namespace ServingOperator.Text

/-! ## The length in bytes -/

theorem byteLength_nil : byteLength [] = 0 := rfl

theorem byteLength_append (a b : List Char) :
    byteLength (a ++ b) = byteLength a + byteLength b := by
  have hstart : ∀ (cs : List Char) (n : Nat),
      cs.foldl (fun n c => n + c.utf8Size) n = n + byteLength cs := by
    intro cs
    induction cs with
    | nil => exact fun n => rfl
    | cons c cs ih =>
      intro n
      have hcons : byteLength (c :: cs) = 0 + c.utf8Size + byteLength cs := ih _
      rw [List.foldl_cons, ih, hcons]
      omega
  rw [byteLength, List.foldl_append, hstart]
  rfl

theorem byteLength_cons (c : Char) (cs : List Char) :
    byteLength (c :: cs) = c.utf8Size + byteLength cs := by
  have happend := byteLength_append [c] cs
  have hone : byteLength [c] = c.utf8Size := by simp [byteLength]
  rwa [hone] at happend

theorem length_le_byteLength (cs : List Char) : cs.length ≤ byteLength cs := by
  induction cs with
  | nil => exact Nat.le_refl _
  | cons c cs ih =>
    have hsize := c.utf8Size_pos
    rw [byteLength_cons, List.length_cons]
    omega

/-- The length in bytes is that of the UTF-8 form. -/
theorem byteLength_eq_size (cs : List Char) : byteLength cs = cs.utf8Encode.size := by
  induction cs with
  | nil => rw [byteLength_nil, List.utf8Encode_nil, ByteArray.size_empty]
  | cons c cs ih =>
    rw [byteLength_cons, List.utf8Encode_cons, ByteArray.size_append, ih,
      List.utf8Encode_singleton, List.size_toByteArray, String.length_utf8EncodeChar]

theorem byteLength_toList (s : String) : byteLength s.toList = s.utf8ByteSize := by
  rw [byteLength_eq_size, String.utf8Encode_toList]
  rfl

/-! ## Characters across a cut -/

/-- A character of the text begins before byte `n` and ends after it, so that this byte lies inside
the character. -/
def Inside (n : Nat) (cs : List Char) : Prop :=
  ∃ before c after, cs = before ++ c :: after ∧
    byteLength before < n ∧ n < byteLength before + c.utf8Size

theorem not_inside_nil (n : Nat) : ¬Inside n [] := by
  rintro ⟨before, c, after, hcs, -⟩
  simp at hcs

/-- The character is the first one or one of the others. -/
theorem inside_cons {n : Nat} {c : Char} {cs : List Char} :
    Inside n (c :: cs) ↔ (0 < n ∧ n < c.utf8Size) ∨ Inside (n - c.utf8Size) cs := by
  constructor
  · rintro ⟨before, d, after, hcs, hfrom, hto⟩
    cases before with
    | nil =>
      obtain ⟨rfl, rfl⟩ := List.cons.inj hcs
      rw [byteLength_nil] at hfrom hto
      left
      omega
    | cons e before =>
      obtain ⟨rfl, hrest⟩ := List.cons.inj hcs
      rw [byteLength_cons] at hfrom hto
      right
      refine ⟨before, d, after, hrest, ?_, ?_⟩
      all_goals omega
  · rintro (⟨hfrom, hto⟩ | ⟨before, d, after, rfl, hfrom, hto⟩)
    · refine ⟨[], c, cs, rfl, ?_, ?_⟩
      all_goals
        rw [byteLength_nil]
        omega
    · refine ⟨c :: before, d, after, rfl, ?_, ?_⟩
      all_goals
        rw [byteLength_cons]
        omega

theorem Inside.lt_byteLength {n : Nat} {cs : List Char} (h : Inside n cs) : n < byteLength cs := by
  obtain ⟨before, c, after, rfl, -, hto⟩ := h
  rw [byteLength_append, byteLength_cons]
  omega

/-- No cut falls inside a character that has one byte only. -/
theorem not_inside_of_utf8Size {n : Nat} {cs : List Char} (h : ∀ c ∈ cs, c.utf8Size = 1) :
    ¬Inside n cs := by
  rintro ⟨before, c, after, rfl, hfrom, hto⟩
  have hone := h c (by simp)
  omega

/-! ## Cuts -/

theorem takeBytes?_eq_none_iff {n : Nat} {cs : List Char} :
    takeBytes? n cs = none ↔ Inside n cs := by
  -- A first character that fits is taken off the text and off the bytes alike, so none lies across
  -- the cut but one that does so in the rest.
  fun_induction takeBytes? n cs with
  | case1 n => simp [not_inside_nil]
  | case2 c cs =>
    have hzero : ¬Inside 0 (c :: cs) := by
      rintro ⟨before, d, after, -, hfrom, -⟩
      omega
    simp [hzero]
  | case3 n c cs hfits ih =>
    have hfirst : ¬(0 < n + 1 ∧ n + 1 < c.utf8Size) := by omega
    rw [Option.map_eq_none_iff, ih, inside_cons, or_iff_right hfirst]
  | case4 n c cs hfits =>
    have hfirst : 0 < n + 1 ∧ n + 1 < c.utf8Size := by omega
    simp [inside_cons, hfirst]

/-- A cut leaves the prefix that has as many bytes as were asked for, or as there are. -/
theorem takeBytes?_eq_some_iff {n : Nat} {cs ds : List Char} :
    takeBytes? n cs = some ds ↔ ds <+: cs ∧ byteLength ds = min n (byteLength cs) := by
  have hnil := byteLength_nil
  fun_induction takeBytes? n cs generalizing ds with
  | case1 n =>
    constructor
    · rintro ⟨⟩
      simp [hnil]
    · rintro ⟨hfront, -⟩
      rw [List.prefix_nil.1 hfront]
  | case2 c cs =>
    constructor
    · rintro ⟨⟩
      simp [hnil]
    · rintro ⟨-, hlength⟩
      have hle := length_le_byteLength ds
      rw [List.length_eq_zero_iff.1 (by omega : ds.length = 0)]
  | case3 n c cs hfits ih =>
    have hsize := c.utf8Size_pos
    rw [Option.map_eq_some_iff, byteLength_cons]
    constructor
    · rintro ⟨es, hes, rfl⟩
      obtain ⟨hfront, hlength⟩ := ih.1 hes
      refine ⟨(List.prefix_cons_inj c).2 hfront, ?_⟩
      rw [byteLength_cons]
      omega
    · rintro ⟨hfront, hlength⟩
      cases ds with
      | nil => omega
      | cons d es =>
        obtain ⟨rfl, hes⟩ := List.cons_prefix_cons.1 hfront
        rw [byteLength_cons] at hlength
        exact ⟨es, ih.2 ⟨hes, by omega⟩, rfl⟩
  | case4 n c cs hfits =>
    -- A prefix of the asked length would begin with a character that is longer than it.
    rw [byteLength_cons]
    constructor
    · rintro ⟨⟩
    · rintro ⟨hfront, hlength⟩
      cases ds with
      | nil => omega
      | cons d es =>
        obtain ⟨rfl, -⟩ := List.cons_prefix_cons.1 hfront
        rw [byteLength_cons] at hlength
        omega

/-- A cut parts the text in two, the first of which has that many bytes. -/
theorem map_takeBytes?_eq_some_iff {n : Nat} {s front : String} :
    (takeBytes? n s.toList).map String.ofList = some front ↔
      (∃ rest, front ++ rest = s) ∧ front.utf8ByteSize = min n s.utf8ByteSize := by
  rw [Option.map_eq_some_iff, ← byteLength_toList, ← byteLength_toList]
  constructor
  · rintro ⟨ds, hcut, rfl⟩
    obtain ⟨⟨rest, hrest⟩, hlength⟩ := takeBytes?_eq_some_iff.1 hcut
    rw [String.toList_ofList]
    refine ⟨⟨String.ofList rest, ?_⟩, hlength⟩
    rw [← String.ofList_append, hrest, String.ofList_toList]
  · rintro ⟨⟨rest, rfl⟩, hlength⟩
    refine ⟨front.toList, ?_, String.ofList_toList⟩
    rw [takeBytes?_eq_some_iff]
    refine ⟨?_, hlength⟩
    rw [String.toList_append]
    exact List.prefix_append _ _

/-! ## The bytes before a cut -/

theorem extract_append_eq_left_iff {a b : ByteArray} {n : Nat} :
    (a ++ b).extract 0 n = a ↔ a.size = min n (a ++ b).size := by
  constructor
  · intro h
    have hsize := congrArg ByteArray.size h
    rw [ByteArray.size_extract] at hsize
    omega
  · intro hsize
    rw [ByteArray.size_append] at hsize
    have hleft : a.extract 0 n = a := by
      rw [← Nat.max_eq_left (by omega : a.size ≤ n), ByteArray.extract_zero_max_size]
    have hright : b.extract (0 - a.size) (n - a.size) = .empty := by
      rw [ByteArray.extract_eq_empty_iff]
      omega
    rw [ByteArray.extract_append, hleft, hright, ByteArray.append_empty]

/-- A cut leaves the text of the first bytes. -/
theorem takeBytes?_eq_some_iff_extract {n : Nat} {cs ds : List Char} :
    takeBytes? n cs = some ds ↔ cs.utf8Encode.extract 0 n = ds.utf8Encode := by
  rw [takeBytes?_eq_some_iff, byteLength_eq_size, byteLength_eq_size]
  constructor
  · rintro ⟨⟨rest, rfl⟩, hsize⟩
    rw [List.utf8Encode_append] at hsize ⊢
    exact extract_append_eq_left_iff.2 hsize
  · intro hbytes
    -- No other text has these bytes, so what they spell is what the text begins with.
    have hall : ds.utf8Encode ++ cs.utf8Encode.extract n cs.utf8Encode.size = cs.utf8Encode := by
      rw [← hbytes, ByteArray.extract_append_extract, Nat.zero_min, ByteArray.extract_zero_max_size]
    refine ⟨List.isPrefix_of_utf8Encode_append_eq_utf8Encode _ hall, ?_⟩
    rw [← hbytes, ByteArray.size_extract, Nat.sub_zero]

/-- Texts that begin with the same bytes are cut alike. -/
theorem takeBytes?_congr {n : Nat} {cs cs' : List Char}
    (h : cs.utf8Encode.extract 0 n = cs'.utf8Encode.extract 0 n) :
    takeBytes? n cs = takeBytes? n cs' := by
  apply Option.ext
  intro ds
  rw [takeBytes?_eq_some_iff_extract, takeBytes?_eq_some_iff_extract, h]

theorem extract_eq_empty_iff {n : Nat} {s : String} (hn : 0 < n) :
    s.toUTF8.extract 0 n = .empty ↔ s = "" := by
  rw [ByteArray.extract_eq_empty_iff, ← String.utf8ByteSize_eq_zero_iff]
  change min n s.utf8ByteSize ≤ 0 ↔ s.utf8ByteSize = 0
  omega

/-! ## Places between characters -/

/-- A byte lies inside a character if the text goes on there and no character begins there. -/
theorem inside_iff_not_isValid {n : Nat} {s : String} :
    Inside n s.toList ↔ n < s.utf8ByteSize ∧ ¬(⟨n⟩ : String.Pos.Raw).IsValid s := by
  constructor
  · intro hinside
    refine ⟨byteLength_toList s ▸ hinside.lt_byteLength, ?_⟩
    intro hvalid
    obtain ⟨ds, hds⟩ := hvalid.isValidUTF8_extract_zero
    rw [← String.utf8Encode_toList] at hds
    have hcut := takeBytes?_eq_some_iff_extract.2 hds
    rw [takeBytes?_eq_none_iff.2 hinside] at hcut
    cases hcut
  · rintro ⟨hlt, hinvalid⟩
    rw [← takeBytes?_eq_none_iff, Option.eq_none_iff_forall_ne_some]
    intro ds hcut
    apply hinvalid
    have hds := takeBytes?_eq_some_iff_extract.1 hcut
    rw [String.utf8Encode_toList] at hds
    rw [String.Pos.Raw.isValid_iff_isValidUTF8_extract_zero]
    exact ⟨Nat.le_of_lt hlt, ds, hds⟩

/-- The bytes themselves tell: no character begins with such a byte. -/
theorem inside_iff_byte {n : Nat} {s : String} :
    Inside n s.toList ↔ ∃ h : n < s.toByteArray.size, ¬s.toByteArray[n].IsUTF8FirstByte := by
  rw [inside_iff_not_isValid, String.Pos.Raw.isValid_iff_isUTF8FirstByte]
  constructor
  · rintro ⟨hlt, hinvalid⟩
    exact ⟨hlt, fun hfirst => hinvalid (.inr ⟨hlt, hfirst⟩)⟩
  · rintro ⟨hlt, hother⟩
    refine ⟨hlt, ?_⟩
    rintro (hend | ⟨_, hfirst⟩)
    · have hsize : n = s.toByteArray.size := congrArg String.Pos.Raw.byteIdx hend
      omega
    · exact hother hfirst

end ServingOperator.Text
