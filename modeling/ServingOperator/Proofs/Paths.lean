-- The laws of paths. The segments of a path that say nothing are passed over, so a path has
-- either no steps but its start, or a last segment that says something. The name, the parent
-- and the steps of the path are told by that segment and what stands before it.
import Mathlib.Data.List.DropRight
import Mathlib.Tactic.SplitIfs
import ServingOperator.Text.Path

namespace ServingOperator.Text

/-- What the start of a path is as a segment. -/
def Lead.pieces : Lead → List (List Char)
  | root => [[]]
  | here => [['.']]
  | bare => []

/-- What the start of a path is as a step. -/
def Lead.steps : Lead → List Component
  | root => [.root]
  | here => [.here]
  | bare => []

namespace Path

/-! ## Segments -/

section

variable {segments above tail : List (List Char)} {segment last : List Char}

theorem silent_iff : silent segment = true ↔ segment = [] ∨ segment = ['.'] := by
  simp [silent]

theorem step?_eq_none_iff : step? segment = none ↔ silent segment = true := by
  unfold step?
  split_ifs <;> simp_all

/-- The segments end in `last`, but for what says nothing. -/
def Ends (segments : List (List Char)) (last : List Char) : Prop :=
  ∃ above tail, segments = above ++ last :: tail ∧ ∀ s ∈ tail, silent s = true

theorem Ends.no_slash {cs : List Char} (h : Ends (Text.pieces '/' cs) last) : '/' ∉ last := by
  obtain ⟨above, tail, hpieces, -⟩ := h
  have hpiece : last ∈ Text.pieces '/' cs := by
    rw [hpieces]
    exact List.mem_append_right above List.mem_cons_self
  exact not_mem_of_mem_pieces hpiece

/-- No segment says anything, or the last one that does is there. -/
theorem silent_or_ends (segments : List (List Char)) :
    (∀ s ∈ segments, silent s = true) ∨ ∃ last, silent last = false ∧ Ends segments last := by
  induction segments with
  | nil => exact .inl nofun
  | cons s rest ih =>
    rcases ih with hrest | ⟨last, hlast, above, tail, rfl, htail⟩
    · cases hs : silent s with
      | true => exact .inl (List.forall_mem_cons.2 ⟨hs, hrest⟩)
      | false => exact .inr ⟨s, hs, [], rest, rfl, hrest⟩
    · exact .inr ⟨last, hlast, s :: above, tail, rfl, htail⟩

theorem trimEnd_of_silent (h : ∀ s ∈ segments, silent s = true) : trimEnd segments = [] :=
  List.rdropWhile_eq_nil_iff.2 h

theorem trimEnd_of_ends (hlast : silent last = false) (htail : ∀ s ∈ tail, silent s = true) :
    trimEnd (above ++ last :: tail) = above ++ [last] := by
  have hkept : ¬ silent last = true := Bool.eq_false_iff.1 hlast
  induction tail using List.reverseRecOn with
  | nil => exact List.rdropWhile_concat_neg _ _ _ hkept
  | append_singleton tail s ih =>
    have hs := htail s (by simp)
    rw [← List.cons_append, ← List.append_assoc]
    exact (List.rdropWhile_concat_pos _ _ _ hs).trans
      (ih fun t ht => htail t (List.mem_append_left [s] ht))

/-- What is trimmed off says nothing. -/
theorem exists_trimmed (segments : List (List Char)) :
    ∃ tail, segments = trimEnd segments ++ tail ∧ ∀ s ∈ tail, silent s = true :=
  ⟨_, List.rdropWhile_append_rtakeWhile.symm, fun _ => List.mem_rtakeWhile_imp⟩

theorem filterMap_step?_of_silent (h : ∀ s ∈ segments, silent s = true) :
    segments.filterMap step? = [] :=
  List.filterMap_eq_nil_iff.2 fun s hs => step?_eq_none_iff.2 (h s hs)

theorem filterMap_step?_trimEnd (segments : List (List Char)) :
    (trimEnd segments).filterMap step? = segments.filterMap step? := by
  obtain ⟨tail, hsegments, htail⟩ := exists_trimmed segments
  conv_rhs => rw [hsegments, List.filterMap_append, filterMap_step?_of_silent htail,
    List.append_nil]

end

/-! ## Text -/

section

variable {cs : List Char}

theorem components_eq (p : Path) : p.components = p.lead.steps ++ p.segments.filterMap step? := by
  obtain ⟨lead, segments⟩ := p
  cases lead <;> rfl

/-- The start of a path and its segments are the pieces between its slashes. -/
theorem pieces_eq (cs : List Char) :
    Text.pieces '/' cs = (ofChars cs).lead.pieces ++ (ofChars cs).segments := by
  unfold ofChars
  split
  · next h => exact h
  · next h => exact h
  · rfl

/-- A path whose text says where it starts. -/
structure Plain (p : Path) : Prop where
  no_slash : ∀ s ∈ p.segments, '/' ∉ s
  bare : p.lead = .bare → ∀ s ∈ p.segments.head?, silent s = false

theorem plain_ofChars (hcs : cs ≠ []) : (ofChars cs).Plain where
  no_slash s hs := by
    have hpiece : s ∈ Text.pieces '/' cs := by
      rw [pieces_eq]
      exact List.mem_append_right _ hs
    exact not_mem_of_mem_pieces hpiece
  bare hlead s hs := by
    have hpieces : Text.pieces '/' cs = (ofChars cs).segments := by
      rw [pieces_eq, hlead]
      rfl
    obtain ⟨rest, hrest⟩ : ∃ rest, Text.pieces '/' cs = s :: rest := by
      obtain ⟨rest, hrest⟩ := List.head?_eq_some_iff.1 hs
      exact ⟨rest, hpieces.trans hrest⟩
    rw [Bool.eq_false_iff, ne_eq, silent_iff]
    rintro (rfl | rfl)
    · cases rest with
      | nil => exact hcs (eq_nil_of_pieces hrest)
      | cons q rest =>
        rw [ofChars, hrest] at hlead
        cases hlead
    · rw [ofChars, hrest] at hlead
      cases hlead

/-- A path that starts with a segment that says something starts at no other place. -/
theorem ofChars_eq_bare {p : List Char} {rest : List (List Char)}
    (hpieces : Text.pieces '/' cs = p :: rest) (hp : silent p = false) :
    ofChars cs = ⟨.bare, p :: rest⟩ := by
  unfold ofChars
  rw [hpieces]
  split
  · next h =>
    rw [(List.cons.inj h).1] at hp
    cases hp
  · next h =>
    rw [(List.cons.inj h).1] at hp
    cases hp
  · rfl

/-- What is written after a slash is more segments. -/
theorem ofChars_append (hcs : cs ≠ []) (ds : List Char) :
    ofChars (cs ++ '/' :: ds) =
      ⟨(ofChars cs).lead, (ofChars cs).segments ++ Text.pieces '/' ds⟩ := by
  have happend := pieces_append '/' cs ds
  obtain ⟨p, rest, hpieces⟩ := List.exists_cons_of_ne_nil (pieces_ne_nil '/' cs)
  rw [hpieces] at happend
  cases hp : silent p with
  | false =>
    rw [ofChars_eq_bare happend hp, ofChars_eq_bare hpieces hp]
    rfl
  | true =>
    rcases silent_iff.1 hp with rfl | rfl
    · cases rest with
      | nil => exact absurd (eq_nil_of_pieces hpieces) hcs
      | cons q rest =>
        rw [ofChars, ofChars, happend, hpieces]
        rfl
    · rw [ofChars, ofChars, happend, hpieces]
      rfl

/-- The steps of a path that goes on after a slash. -/
theorem components_append (hcs : cs ≠ []) (ds : List Char) :
    (ofChars (cs ++ '/' :: ds)).components =
      (ofChars cs).components ++ (Text.pieces '/' ds).filterMap step? := by
  rw [ofChars_append hcs, components_eq, components_eq, List.filterMap_append, List.append_assoc]

/-- A slash at the end names no step, and what is written after it names its own ones. -/
theorem components_after_slash (cs ds : List Char) :
    (ofChars (cs ++ '/' :: ds)).components =
      (ofChars (cs ++ ['/'])).components ++ (Text.pieces '/' ds).filterMap step? := by
  by_cases hcs : cs = []
  · subst hcs
    have hpieces : Text.pieces '/' ('/' :: ds) = [] :: Text.pieces '/' ds := rfl
    cases hds : Text.pieces '/' ds with
    | nil => exact absurd hds (pieces_ne_nil '/' ds)
    | cons p rest =>
      rw [List.nil_append, ofChars, hpieces, hds]
      rfl
  · rw [components_append hcs, components_append hcs]
    exact congrArg (· ++ _) (List.append_nil _).symm

theorem Plain.pieces_joined {p : Path} (h : p.Plain) (hne : p.segments ≠ []) :
    Text.pieces '/' (joined '/' p.segments) = p.segments := Text.pieces_joined hne h.no_slash

/-- The text of a plain path has its steps. -/
theorem components_ofChars_toChars {p : Path} (h : p.Plain) :
    (ofChars p.toChars).components = p.components := by
  have hjoined := h.pieces_joined
  obtain ⟨lead, segments⟩ := p
  cases segments with
  | nil => cases lead <;> rfl
  | cons s rest =>
    have hpieces := hjoined (List.cons_ne_nil s rest)
    cases lead with
    | root =>
      have htext : ofChars ('/' :: joined '/' (s :: rest)) = ⟨.root, s :: rest⟩ := by
        rw [ofChars, ← List.nil_append ('/' :: _), pieces_append, hpieces]
        rfl
      exact congrArg components htext
    | here =>
      have hgoes := components_append (List.cons_ne_nil '.' []) (joined '/' (s :: rest))
      rw [hpieces] at hgoes
      exact hgoes
    | bare =>
      have hs : silent s = false := h.bare rfl s rfl
      exact congrArg components (ofChars_eq_bare hpieces hs)

theorem toChars_eq_nil_iff {p : Path} (h : p.Plain) : p.toChars = [] ↔ p = ⟨.bare, []⟩ := by
  refine ⟨fun hp => ?_, fun hp => hp ▸ rfl⟩
  have hpieces := h.pieces_joined
  obtain ⟨lead, segments⟩ := p
  cases segments with
  | nil => cases lead <;> first | rfl | cases hp
  | cons s rest =>
    cases lead with
    | root | here => cases hp
    | bare =>
      have hs : silent s = false := h.bare rfl s rfl
      have hjoined : joined '/' (s :: rest) = [] := hp
      have hone := hpieces (List.cons_ne_nil s rest)
      rw [hjoined] at hone
      obtain rfl : [] = s := (List.cons.inj hone).1
      cases hs

end

/-! ## The last segment -/

section

variable {lead : Lead} {above tail : List (List Char)} {last n : List Char}

/-- The step that is named by a segment that says something. -/
theorem step?_of_not_silent (h : silent last = false) :
    step? last = some (if last = ['.', '.'] then .up else .name last) := by
  rw [step?, h, if_neg Bool.false_ne_true, apply_ite some]

theorem components_of_ends (hlast : silent last = false) (htail : ∀ s ∈ tail, silent s = true) :
    components ⟨lead, above ++ last :: tail⟩ =
      components ⟨lead, above⟩ ++ [if last = ['.', '.'] then .up else .name last] := by
  rw [components_eq, components_eq, List.filterMap_append, List.filterMap_cons,
    step?_of_not_silent hlast, filterMap_step?_of_silent htail, List.append_assoc]

theorem fileName?_of_silent {segments : List (List Char)} (h : ∀ s ∈ segments, silent s = true) :
    fileName? ⟨lead, segments⟩ = none := by
  rw [fileName?, trimEnd_of_silent h]
  rfl

theorem fileName?_of_ends (hlast : silent last = false) (htail : ∀ s ∈ tail, silent s = true) :
    fileName? ⟨lead, above ++ last :: tail⟩ = if last = ['.', '.'] then none else some last := by
  rw [fileName?, trimEnd_of_ends hlast htail, List.getLast?_concat]

theorem parent?_of_ends (hlast : silent last = false) (htail : ∀ s ∈ tail, silent s = true) :
    parent? ⟨lead, above ++ last :: tail⟩ = some ⟨lead, trimEnd above⟩ := by
  rw [parent?, trimEnd_of_ends hlast htail, List.getLast?_concat, List.dropLast_concat]

/-- The name that a path ends in is its last step, if that is a name. -/
theorem fileName?_eq_some_iff {p : Path} :
    p.fileName? = some n ↔ p.components.getLast? = some (.name n) := by
  obtain ⟨lead, segments⟩ := p
  rcases silent_or_ends segments with hsilent | ⟨last, hlast, above, tail, rfl, htail⟩
  · rw [fileName?_of_silent hsilent, components_eq, filterMap_step?_of_silent hsilent]
    cases lead <;> simp [Lead.steps]
  · rw [fileName?_of_ends hlast htail, components_of_ends hlast htail, List.getLast?_concat]
    split_ifs <;> simp

theorem silent_of_mem_lead {segment : List Char} (h : segment ∈ lead.pieces) :
    silent segment = true := by
  cases lead with
  | root | here => rw [List.mem_singleton.1 h]; rfl
  | bare => cases h

/-- The start of a path says nothing as a segment, so the path ends as its segments do. -/
theorem ends_pieces_iff {cs : List Char} (hlast : silent last = false) :
    Ends (Text.pieces '/' cs) last ↔ Ends (ofChars cs).segments last := by
  rw [pieces_eq]
  constructor
  · rintro ⟨above, tail, h, htail⟩
    rcases List.append_eq_append_iff.1 h with ⟨rest, hfront, hback⟩ | ⟨rest, hfront, hback⟩
    · exact ⟨rest, tail, hback, htail⟩
    · cases rest with
      | nil => exact ⟨[], tail, hback.symm, htail⟩
      | cons s rest =>
        have hs := silent_of_mem_lead (hfront ▸ List.mem_append_right above List.mem_cons_self)
        rw [← (List.cons.inj hback).1, hlast] at hs
        cases hs
  · rintro ⟨above, tail, h, htail⟩
    exact ⟨(ofChars cs).lead.pieces ++ above, tail, by rw [h, List.append_assoc], htail⟩

/-- A path ends in no name if it has no segment that says anything, or if it ends in `..`. -/
theorem fileName?_ofChars_eq_none_iff {cs : List Char} :
    (ofChars cs).fileName? = none ↔
      (∀ s ∈ Text.pieces '/' cs, silent s = true) ∨ Ends (Text.pieces '/' cs) ['.', '.'] := by
  have hup : silent ['.', '.'] = false := by decide
  rw [ends_pieces_iff hup, pieces_eq, List.forall_mem_append,
    and_iff_right fun _ => silent_of_mem_lead]
  obtain ⟨lead, segments⟩ := ofChars cs
  constructor
  · intro h
    rcases silent_or_ends segments with hsilent | ⟨last, hlast, above, tail, rfl, htail⟩
    · exact .inl hsilent
    · rw [fileName?_of_ends hlast htail] at h
      split_ifs at h with hlast
      exact .inr ⟨above, tail, by rw [hlast], htail⟩
  · rintro (hsilent | ⟨above, tail, rfl, htail⟩)
    · exact fileName?_of_silent hsilent
    · rw [fileName?_of_ends hup htail, if_pos rfl]

/-- The name of a path is its last segment that says something. -/
theorem segments_of_fileName? {p : Path} (h : p.fileName? = some n) :
    ∃ above tail, p.segments = above ++ n :: tail ∧ (∀ s ∈ tail, silent s = true) ∧
      silent n = false ∧ n ≠ ['.', '.'] := by
  obtain ⟨lead, segments⟩ := p
  rcases silent_or_ends segments with hsilent | ⟨last, hlast, above, tail, rfl, htail⟩
  · rw [fileName?_of_silent hsilent] at h
    cases h
  · rw [fileName?_of_ends hlast htail] at h
    split_ifs at h with hup
    cases h
    exact ⟨above, tail, rfl, htail, hlast, hup⟩

/-- A path that ends in a name is that name in its parent. -/
theorem exists_parent {path : String} (h : (ofString path).fileName? = some n) :
    ∃ parent, (ofString path).parent? = some parent ∧ parent.Plain ∧
      (ofString path).components = parent.components ++ [.name n] := by
  have hplain : (ofString path).Plain := by
    refine plain_ofChars fun hempty => ?_
    rw [ofString, hempty] at h
    cases h
  obtain ⟨above, tail, hsegments, htail, hn, hup⟩ := segments_of_fileName? h
  have hpath : ofString path = ⟨(ofString path).lead, above ++ n :: tail⟩ := by rw [← hsegments]
  obtain ⟨rest, habove, -⟩ := exists_trimmed above
  refine ⟨_, hpath ▸ parent?_of_ends hn htail, ⟨fun s hs => ?_, fun hlead s hs => ?_⟩, ?_⟩
  · refine hplain.no_slash s ?_
    rw [hsegments, habove]
    exact List.mem_append_left _ (List.mem_append_left rest hs)
  · refine hplain.bare hlead s ?_
    rw [hsegments, habove, List.append_assoc, List.head?_append]
    exact Option.or_eq_some_iff.2 (.inl hs)
  · rw [hpath, components_of_ends hn htail, if_neg hup, components_eq, components_eq,
      filterMap_step?_trimEnd]

end

/-! ## Going on from a path -/

/-- A name in a directory. The slash between them may stand there already. -/
def within (directory name : String) : String :=
  if directory = "" ∨ directory.toList.getLast? = some '/' then directory ++ name
  else directory ++ "/" ++ name

section

variable {directory name : String}

theorem filterMap_step?_of_name (hslash : '/' ∉ name.toList) (hname : silent name.toList = false)
    (hup : name ≠ "..") :
    (Text.pieces '/' name.toList).filterMap step? = [.name name.toList] := by
  have hnot : name.toList ≠ ['.', '.'] := fun h => hup (String.toList_inj.1 h)
  rw [pieces_of_not_mem hslash, List.filterMap_cons, step?_of_not_silent hname, if_neg hnot]
  rfl

/-- A name after a slash is one step more. -/
theorem components_slash (hdirectory : directory ≠ "") (hslash : '/' ∉ name.toList)
    (hname : silent name.toList = false) (hup : name ≠ "..") :
    (ofString (directory ++ "/" ++ name)).components =
      (ofString directory).components ++ [.name name.toList] := by
  have hchars : directory.toList ≠ [] := fun h => hdirectory (String.toList_eq_nil_iff.1 h)
  have htext : (directory ++ "/" ++ name).toList = directory.toList ++ '/' :: name.toList := by
    simp
  rw [ofString, htext, components_append hchars, filterMap_step?_of_name hslash hname hup]
  rfl

theorem components_within (hdirectory : directory ≠ "") (hslash : '/' ∉ name.toList)
    (hname : silent name.toList = false) (hup : name ≠ "..") :
    (ofString (within directory name)).components =
      (ofString directory).components ++ [.name name.toList] := by
  unfold within
  split_ifs with hend
  · obtain ⟨front, hfront⟩ := List.getLast?_eq_some_iff.1 (hend.resolve_left hdirectory)
    have htext : (directory ++ name).toList = front ++ '/' :: name.toList := by
      simp [hfront]
    rw [ofString, htext, components_after_slash, filterMap_step?_of_name hslash hname hup, ofString,
      hfront]
  · exact components_slash hdirectory hslash hname hup

end

end Path

end ServingOperator.Text
