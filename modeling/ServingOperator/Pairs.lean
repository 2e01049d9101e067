-- Lists of pairs in rising order of their keys, and maps from text to
-- text kept as such lists. Two maps with the same pairs are the same map,
-- however they were built.

namespace ServingOperator

/-- Each key comes before every later one. -/
def Rising {α : Type} (l : List (String × α)) : Prop := l.Pairwise (fun a b => a.1 < b.1)

namespace Pairs

variable {α : Type}

/-- Puts a pair in its place in a rising list. A pair of the same key gives
way. -/
def insert (key : String) (value : α) : List (String × α) → List (String × α)
  | [] => [(key, value)]
  | (k, v) :: rest =>
    if key < k then (key, value) :: (k, v) :: rest
    else if key = k then (key, value) :: rest
    else (k, v) :: insert key value rest

theorem mem_insert {key : String} {value : α} {l : List (String × α)} {p : String × α}
    (h : p ∈ insert key value l) : p = (key, value) ∨ p ∈ l := by
  induction l with
  | nil => simpa [insert] using h
  | cons q rest ih =>
    simp only [insert] at h
    split at h
    · simpa using h
    · split at h
      · rcases List.mem_cons.1 h with h | h
        · exact .inl h
        · exact .inr (.tail _ h)
      · rcases List.mem_cons.1 h with h | h
        · exact .inr (h ▸ .head _)
        · exact (ih h).imp id (.tail _)

theorem rising_insert {key : String} {value : α} {l : List (String × α)} (h : Rising l) :
    Rising (insert key value l) := by
  induction l with
  | nil => simp [insert, Rising]
  | cons q rest ih =>
    obtain ⟨hq, hrest⟩ := List.pairwise_cons.1 h
    simp only [insert]
    split
    · next hlt =>
      refine List.pairwise_cons.2 ⟨fun p hp => ?_, h⟩
      rcases List.mem_cons.1 hp with rfl | hp
      · exact hlt
      · exact String.lt_trans hlt (hq p hp)
    · split
      · next heq => subst heq; exact List.pairwise_cons.2 ⟨hq, hrest⟩
      · next hlt hne =>
        refine List.pairwise_cons.2 ⟨fun p hp => ?_, ih hrest⟩
        rcases mem_insert hp with rfl | hp
        · rcases Classical.em (q.1 < key) with h | h
          · exact h
          · exact absurd (String.le_antisymm (String.not_lt.1 h) (String.not_lt.1 hlt)) hne
        · exact hq p hp

/-- A key greater than every key of the list goes to the end. -/
theorem insert_of_all_lt {key : String} {value : α} {l : List (String × α)}
    (h : ∀ p ∈ l, p.1 < key) : insert key value l = l ++ [(key, value)] := by
  induction l with
  | nil => rfl
  | cons q rest ih =>
    have hq : q.1 < key := h q (.head _)
    have h1 : ¬ key < q.1 := fun h2 => String.lt_irrefl _ (String.lt_trans hq h2)
    have h2 : ¬ key = q.1 := fun h2 => String.lt_irrefl _ (h2 ▸ hq)
    simp [insert, h1, h2, ih fun p hp => h p (.tail _ hp)]

end Pairs

/-! ## Maps -/

/-- A map from text to text, as labels and node selectors are. -/
structure TextMap where
  entries : List (String × String)
  rising : Rising entries
  deriving DecidableEq

namespace TextMap

def empty : TextMap := ⟨[], .nil⟩

def insert (m : TextMap) (key value : String) : TextMap :=
  ⟨Pairs.insert key value m.entries, Pairs.rising_insert m.rising⟩

def singleton (key value : String) : TextMap := empty.insert key value

def get? (m : TextMap) (key : String) : Option String := m.entries.lookup key

def isEmpty (m : TextMap) : Bool := m.entries.isEmpty

instance : Inhabited TextMap := ⟨empty⟩

instance : Repr TextMap := ⟨fun m => reprPrec m.entries⟩

/-- Every entry of `m` is an entry of `other`. -/
def Within (m other : TextMap) : Prop := ∀ p ∈ m.entries, p ∈ other.entries

end TextMap

end ServingOperator
