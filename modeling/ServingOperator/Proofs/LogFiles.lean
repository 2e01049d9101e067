-- The law of the log files. The name that a path ends in is what the names of the files start
-- with, and the rest of the path leads to them. The two are taken from the path apart, and
-- together they lead to where the path leads.
import ServingOperator.Logging.Setup
import ServingOperator.Proofs.Paths

namespace ServingOperator.Logging

open Text (Path)

/-- A path that ends in no name: its last component is the root, a leading `.` or `..`, or it has
no component at all. -/
def Nameless (path : String) : Prop :=
  ∀ n, (Path.ofString path).components.getLast? ≠ some (.name n)

/-- Two paths with the same components, but for a `.` that the first one starts with. -/
def SamePlace (path path' : String) : Prop :=
  (Path.ofString path).components = (Path.ofString path').components ∨
    (Path.ofString path).components = .here :: (Path.ofString path').components

namespace RollingFile

variable {path : String} {f : RollingFile}

/-- The files by a path are where the path says. -/
structure LandsAt (path : String) (f : RollingFile) : Prop where
  /-- The last component of the path is what the names of the files start with. -/
  last : (Path.ofString path).components.getLast? = some (.name f.stem.toList)
  segment : Path.Ends (Text.pieces '/' path.toList) f.stem.toList
  stem : f.stem ≠ "" ∧ '/' ∉ f.stem.toList ∧ f.stem ≠ "." ∧ f.stem ≠ ".."
  directory : f.directory ≠ ""
  place : SamePlace (Path.within f.directory f.stem) path
  /-- The file for a day differs from that in nothing but its name. -/
  daily : ∀ date, '/' ∉ date.toList → (Path.ofString (f.pathOn date)).components =
    (Path.ofString f.directory).components ++ [.name (f.stem ++ "." ++ date).toList]

/-! ## Directories -/

theorem directoryOf_ne_empty (p : Path) : directoryOf p ≠ "" := by
  unfold directoryOf
  split
  · split_ifs with h
    · decide
    · exact h
  · decide

/-- The directory is the parent, but an empty parent is written as `.`. -/
theorem components_directoryOf {p parent : Path} (h : p.parent? = some parent)
    (hplain : parent.Plain) :
    (Path.ofString (directoryOf p)).components = parent.components ∨
      (Path.ofString (directoryOf p)).components = .here :: parent.components := by
  simp only [directoryOf, h]
  split_ifs with hempty
  · have hchars : parent.toChars = [] := by
      rw [← String.toList_ofList (l := parent.toChars)]
      exact String.toList_eq_nil_iff.2 hempty
    obtain rfl := (Path.toChars_eq_nil_iff hplain).1 hchars
    have hhere : (Path.ofString ".").components = [.here] := by decide
    exact .inr hhere
  · left
    rw [Path.ofString, Path.toString, String.toList_ofList]
    exact Path.components_ofChars_toChars hplain

theorem ofPath?_eq_error_iff {e : LogFailure} :
    ofPath? path = .error e ↔ e = .noFileName path ∧ (Path.ofString path).fileName? = none := by
  cases hn : (Path.ofString path).fileName? <;> simp [ofPath?, hn, eq_comm]

theorem ofPath?_eq_ok_iff : ofPath? path = .ok f ↔
    (Path.ofString path).fileName? = some f.stem.toList ∧
      f.directory = directoryOf (Path.ofString path) := by
  obtain ⟨directory, stem⟩ := f
  cases hn : (Path.ofString path).fileName? with
  | none => simp [ofPath?, hn]
  | some n =>
    simp only [ofPath?, hn, Except.ok.injEq, mk.injEq, Option.some.injEq]
    rw [and_comm, eq_comm (b := directory), ← String.toList_inj, String.toList_ofList]

theorem nameless_iff : Nameless path ↔ (Path.ofString path).fileName? = none := by
  rw [Option.eq_none_iff_forall_ne_some]
  exact forall_congr' fun n => not_congr Path.fileName?_eq_some_iff.symm

/-- With a date after it, a name is a name still. -/
theorem says_dated {stem : String} (hstem : Path.silent stem.toList = false) (date : String) :
    Path.silent (stem ++ "." ++ date).toList = false ∧ stem ++ "." ++ date ≠ ".." := by
  have htext : (stem ++ "." ++ date).toList = stem.toList ++ '.' :: date.toList := by simp
  rw [← String.toList_inj.ne, htext]
  rcases hchars : stem.toList with _ | ⟨c, _ | ⟨d, cs⟩⟩
  · rw [hchars] at hstem
    cases hstem
  · have hdot : c ≠ '.' := by
      rintro rfl
      rw [hchars] at hstem
      cases hstem
    simp [Path.silent, hdot]
  · simp [Path.silent]

theorem landsAt_of_ofPath? (h : ofPath? path = .ok f) : LandsAt path f := by
  obtain ⟨hstem, hf⟩ := ofPath?_eq_ok_iff.1 h
  obtain ⟨parent, hparent, hplain, hcomponents⟩ := Path.exists_parent hstem
  obtain ⟨above, tail, hsegments, htail, hsays, hup⟩ := Path.segments_of_fileName? hstem
  have hends : Path.Ends (Text.pieces '/' path.toList) f.stem.toList :=
    (Path.ends_pieces_iff hsays).2 ⟨above, tail, hsegments, htail⟩
  have hslash := hends.no_slash
  have hne : f.stem ≠ ".." := fun h => hup (by simp [h])
  have hdirectory : f.directory ≠ "" := hf ▸ directoryOf_ne_empty _
  constructor
  case last => rw [hcomponents, List.getLast?_concat]
  case segment => exact hends
  case stem =>
    refine ⟨fun h => ?_, hslash, fun h => ?_, hne⟩
    all_goals
      rw [h] at hsays
      exact absurd hsays (by decide)
  case directory => exact hdirectory
  case place =>
    rw [SamePlace, Path.components_within hdirectory hslash hsays hne, hcomponents, hf]
    rcases components_directoryOf hparent hplain with hsame | hhere
    · rw [hsame]
      exact .inl rfl
    · rw [hhere]
      exact .inr rfl
  case daily =>
    intro date hdate
    obtain ⟨hdated, hdots⟩ := says_dated hsays date
    have htext : f.pathOn date = f.directory ++ "/" ++ (f.stem ++ "." ++ date) := by
      simp only [pathOn, String.append_assoc]
    rw [htext, Path.components_slash hdirectory (by simp [hslash, hdate]) hdated hdots]

theorem file_of_openFile {canOpen : RollingFile → Bool} {file : Option RollingFile}
    (h : openFile canOpen (some path) = .ok file) : ∃ f, file = some f ∧ ofPath? path = .ok f := by
  cases hf : ofPath? path with
  | error e =>
    simp only [openFile, hf] at h
    cases h
  | ok f =>
    have hopened : (if canOpen f then .ok (some f) else .error (.noDirectory f.directory)) =
        (.ok file : Except LogFailure (Option RollingFile)) := by
      rw [← h, openFile, hf]
      rfl
    split_ifs at hopened
    cases hopened
    exact ⟨f, rfl, rfl⟩

theorem file_of_setUp {current : Option Log} {canOpen : RollingFile → Bool} {filter : String}
    {log : Log} (h : setUp current canOpen filter (some path) = .ok log) :
    ∃ f, log.file = some f ∧ ofPath? path = .ok f := by
  unfold setUp at h
  split at h
  · cases h
  · cases hfile : openFile canOpen (some path) with
    | error e =>
      rw [hfile] at h
      cases h
    | ok file =>
      rw [hfile] at h
      cases current with
      | some _ => cases h
      | none =>
        cases h
        exact file_of_openFile hfile

/-! ## The law -/

/-- What becomes of a path for the log. -/
structure Landing (path : String) : Prop where
  /-- A path is refused just if it ends in no name. -/
  refused : ∀ e, ofPath? path = .error e ↔ e = .noFileName path ∧ Nameless path
  nameless : Nameless path ↔ (∀ s ∈ Text.pieces '/' path.toList, s = [] ∨ s = ['.']) ∨
    Path.Ends (Text.pieces '/' path.toList) ['.', '.']
  lands : ∀ f, ofPath? path = .ok f → LandsAt path f
  /-- A log that is set up with a path has the files of that path. -/
  set_up : ∀ current canOpen filter log, setUp current canOpen filter (some path) = .ok log →
    ∃ f, log.file = some f ∧ LandsAt path f

/-- The log file is where its path says, and a path that ends in no name says nothing. -/
theorem the_log_file_is_where_its_path_says (path : String) : Landing path where
  refused e := by rw [ofPath?_eq_error_iff, nameless_iff]
  nameless := by
    simp only [nameless_iff, ← Path.silent_iff]
    exact Path.fileName?_ofChars_eq_none_iff
  lands f := landsAt_of_ofPath?
  set_up _ _ _ _ h := by
    obtain ⟨f, hfile, hf⟩ := file_of_setUp h
    exact ⟨f, hfile, landsAt_of_ofPath? hf⟩

/-- Slashes and dots that say nothing make no difference, and a step up in the middle is left for
the file system. -/
example : ofPath? "logs//../operator.log/./" = .ok ⟨"logs//..", "operator.log"⟩ ∧
    ofPath? "operator.log" = .ok ⟨".", "operator.log"⟩ ∧
    ofPath? "logs/.." = .error (.noFileName "logs/..") := by
  decide

end RollingFile

end ServingOperator.Logging
