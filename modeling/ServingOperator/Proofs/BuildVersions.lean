-- The law of the versions of builds. A version names the image and the commit, the latter by its
-- first eight bytes, and says at its end whether files were changed since. A build has no version
-- just if a character of its commit lies across the end of these bytes.
import ServingOperator.Proofs.TextBytes
import ServingOperator.Version

namespace ServingOperator.Build

variable {b : Build}

/-- How a version names a commit: by its first eight bytes, or by all of them if there are no more.
For a commit that is not known there is a word. -/
inductive Shortened : Option String → String → Prop
  | unset : Shortened none "unknown"
  | empty : Shortened (some "") "unknown"
  | cut {sha short rest : String} (hne : sha ≠ "") (hrest : short ++ rest = sha)
      (hsize : short.utf8ByteSize = min 8 sha.utf8ByteSize) : Shortened (some sha) short

/-- How a version ends. The text `true`, and no other one, says that files were changed. -/
inductive Marked : Option String → String → Prop
  | changed : Marked (some "true") "-dirty"
  | unchanged {dirty : Option String} (h : dirty ≠ some "true") : Marked dirty ""

/-! ## The commit in short -/

theorem shortSha?_of_none (h : b.sha = none) : b.shortSha? = some "unknown" := by
  unfold shortSha?
  rw [h]

theorem shortSha?_of_some {sha : String} (h : b.sha = some sha) :
    b.shortSha? =
      if sha = "" then some "unknown" else (Text.takeBytes? 8 sha.toList).map String.ofList := by
  unfold shortSha?
  rw [h]
  by_cases hempty : sha = ""
  · subst hempty
    rfl
  · simp [hempty, shaBytes]

theorem shortSha?_eq_some_iff {short : String} :
    b.shortSha? = some short ↔ Shortened b.sha short := by
  cases hsha : b.sha with
  | none =>
    rw [shortSha?_of_none hsha]
    constructor
    · rintro ⟨⟩
      exact .unset
    · rintro ⟨⟩
      rfl
  | some sha =>
    rw [shortSha?_of_some hsha]
    by_cases hempty : sha = ""
    · subst hempty
      rw [if_pos rfl]
      constructor
      · rintro ⟨⟩
        exact .empty
      · intro h
        cases h with
        | empty => rfl
        | cut hne => exact absurd rfl hne
    · rw [if_neg hempty, Text.map_takeBytes?_eq_some_iff]
      constructor
      · rintro ⟨⟨rest, hrest⟩, hsize⟩
        exact .cut hempty hrest hsize
      · intro h
        cases h with
        | empty => exact absurd rfl hempty
        | cut _ hrest hsize => exact ⟨⟨_, hrest⟩, hsize⟩

theorem shortSha?_eq_none_iff :
    b.shortSha? = none ↔ ∃ sha, b.sha = some sha ∧ Text.Inside 8 sha.toList := by
  cases hsha : b.sha with
  | none => simp [shortSha?_of_none hsha]
  | some sha =>
    rw [shortSha?_of_some hsha]
    by_cases hempty : sha = ""
    · subst hempty
      simp [Text.not_inside_nil]
    · simp [hempty, Text.takeBytes?_eq_none_iff]

/-! ## Versions -/

theorem version?_eq_none_iff :
    b.version? = none ↔ ∃ sha, b.sha = some sha ∧ Text.Inside 8 sha.toList := by
  rw [version?, Option.map_eq_none_iff, shortSha?_eq_none_iff]

theorem version?_eq_some_iff {v : String} :
    b.version? = some v ↔ ∃ short mark, Shortened b.sha short ∧ Marked b.dirty mark ∧
      v = b.image ++ "-" ++ short ++ mark := by
  unfold version?
  rw [Option.map_eq_some_iff]
  constructor
  · rintro ⟨short, hshort, rfl⟩
    rw [shortSha?_eq_some_iff] at hshort
    by_cases hdirty : b.dirty = some "true"
    · rw [if_pos hdirty]
      exact ⟨short, _, hshort, hdirty ▸ .changed, rfl⟩
    · rw [if_neg hdirty]
      exact ⟨short, _, hshort, .unchanged hdirty, rfl⟩
  · rintro ⟨short, mark, hshort, hmark, rfl⟩
    refine ⟨short, shortSha?_eq_some_iff.2 hshort, ?_⟩
    generalize b.dirty = dirty at hmark
    cases hmark with
    | changed => rfl
    | unchanged h => rw [if_neg h]

theorem isSome_version?_iff {sha : String} (hsha : b.sha = some sha) :
    b.version?.isSome ↔ ¬Text.Inside 8 sha.toList := by
  rw [← Option.ne_none_iff_isSome, ne_eq, version?_eq_none_iff, hsha]
  simp

/-- The first bytes of a commit decide how it is named. -/
theorem shortSha?_congr {sha sha' : String}
    (h : sha.toUTF8.extract 0 8 = sha'.toUTF8.extract 0 8) :
    { b with sha := some sha }.shortSha? = { b with sha := some sha' }.shortSha? := by
  -- A word stands for an empty commit, so the cut alone does not decide.
  have hempty : sha = "" ↔ sha' = "" := by
    rw [← Text.extract_eq_empty_iff (n := 8) (by decide), h, Text.extract_eq_empty_iff (by decide)]
  have hcut : Text.takeBytes? 8 sha.toList = Text.takeBytes? 8 sha'.toList := by
    apply Text.takeBytes?_congr
    rw [String.utf8Encode_toList, String.utf8Encode_toList]
    exact h
  rw [shortSha?_of_some rfl, shortSha?_of_some rfl, hcut]
  simp only [hempty]

/-! ## The law -/

/-- What becomes of the version of a build. -/
structure Versioned (b : Build) : Prop where
  /-- A build has no version just if its commit has more than eight bytes and the next one lies
  inside a character. -/
  missing : b.version? = none ↔
    ∃ sha, b.sha = some sha ∧ 8 < sha.utf8ByteSize ∧ Text.Inside 8 sha.toList
  /-- That byte alone tells, for no character begins with it. -/
  missing_byte : b.version? = none ↔
    ∃ sha, b.sha = some sha ∧ ∃ h : 8 < sha.toUTF8.size, ¬sha.toUTF8[8].IsUTF8FirstByte
  version : ∀ v, b.version? = some v ↔ ∃ short mark, Shortened b.sha short ∧
    Marked b.dirty mark ∧ v = b.image ++ "-" ++ short ++ mark
  /-- There is a version if a character of the commit ends with its first eight bytes. -/
  boundary : ∀ sha, b.sha = some sha → (⟨8⟩ : String.Pos.Raw).IsValid sha → b.version?.isSome
  ascii : ∀ sha, b.sha = some sha → (∀ c ∈ sha.toList, c.toNat < 0x80) → b.version?.isSome
  /-- What follows these bytes makes no difference. -/
  alike : ∀ sha sha' : String, sha.toUTF8.extract 0 8 = sha'.toUTF8.extract 0 8 →
    { b with sha := some sha }.version? = { b with sha := some sha' }.version?

/-- A version names its commit by the first bytes of it, and is missing just where they end inside
a character. -/
theorem a_version_is_cut_between_characters (b : Build) : Versioned b where
  missing := by
    rw [version?_eq_none_iff]
    constructor
    · rintro ⟨sha, hsha, hinside⟩
      exact ⟨sha, hsha, (Text.inside_iff_not_isValid.1 hinside).1, hinside⟩
    · rintro ⟨sha, hsha, -, hinside⟩
      exact ⟨sha, hsha, hinside⟩
  missing_byte := by
    rw [version?_eq_none_iff]
    simp only [Text.inside_iff_byte, String.toUTF8_eq_toByteArray]
  version _ := version?_eq_some_iff
  boundary sha hsha hvalid := by
    rw [isSome_version?_iff hsha, Text.inside_iff_not_isValid]
    exact fun h => h.2 hvalid
  ascii sha hsha hascii := by
    rw [isSome_version?_iff hsha]
    apply Text.not_inside_of_utf8Size
    intro c hc
    rw [Char.utf8Size_eq_one_iff, UInt32.le_iff_toNat_le]
    exact Nat.le_of_lt_succ (hascii c hc)
  alike sha sha' h := by
    unfold version?
    rw [shortSha?_congr h]

/-- The eighth byte of a commit may be the last one of a character but not the first of two. -/
theorem a_character_ends_at_the_cut_or_lies_across_it :
    let ended : Build := ⟨"latest", some "012345é89", some "true"⟩
    let across : Build := ⟨"latest", some "0123456é9", none⟩
    (⟨8⟩ : String.Pos.Raw).IsValid "012345é89" ∧ ended.version?.isSome ∧
      ended.version? = some "latest-012345é-dirty" ∧
      { ended with sha := some "012345éabc" }.version? = ended.version? ∧
      across.version? = none := by
  intro ended across
  have hended := a_version_is_cut_between_characters ended
  have hvalid : (⟨8⟩ : String.Pos.Raw).IsValid "012345é89" := by
    rw [String.Pos.Raw.isValid_iff_exists_append]
    exact ⟨"012345é", "89", by decide, by decide⟩
  have hbytes : "012345éabc".toUTF8.extract 0 8 = "012345é89".toUTF8.extract 0 8 := by decide
  refine ⟨hvalid, hended.boundary _ rfl hvalid, ?_, hended.alike _ _ hbytes, ?_⟩
  · have hrest : "012345é" ++ "89" = "012345é89" := by decide
    have hcut : Shortened ended.sha "012345é" := .cut (by decide) hrest (by decide)
    exact (hended.version _).2 ⟨_, _, hcut, .changed, by decide⟩
  · have hinside : Text.Inside 8 "0123456é9".toList :=
      ⟨"0123456".toList, 'é', ['9'], by decide, by decide, by decide⟩
    exact (a_version_is_cut_between_characters across).missing.2
      ⟨_, rfl, by decide, hinside⟩

end ServingOperator.Build
