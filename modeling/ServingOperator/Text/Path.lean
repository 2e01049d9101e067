-- Unix paths as text. A path is read as components: repeated slashes,
-- slashes at the end and `.` components other than a leading one say
-- nothing. The parent of a path keeps the spelling of the path up to the
-- end of its last component but one.
import ServingOperator.Text.Split

namespace ServingOperator.Text

/-- Where a path starts: at the root, at a leading `.`, or neither. -/
inductive Lead where
  | root
  | here
  | bare
  deriving DecidableEq, Repr

/-- A path cut at its slashes, less the lead. -/
structure Path where
  lead : Lead
  segments : List (List Char)
  deriving DecidableEq, Repr

/-- One step of a path. -/
inductive Component where
  | root
  | here
  | up
  | name (n : List Char)
  deriving DecidableEq, Repr

namespace Path

def ofChars (cs : List Char) : Path :=
  match pieces '/' cs with
  | [] :: rest@(_ :: _) => ⟨.root, rest⟩
  | ['.'] :: rest => ⟨.here, rest⟩
  | segments => ⟨.bare, segments⟩

def ofString (s : String) : Path := ofChars s.toList

/-- An empty segment and `.` name no step. -/
def silent (segment : List Char) : Bool := segment = [] || segment = ['.']

/-- The step that a segment names, if it names one. -/
def step? (segment : List Char) : Option Component :=
  if silent segment then none
  else if segment = ['.', '.'] then some .up
  else some (.name segment)

/-- The steps of a path, the first one first. -/
def components (p : Path) : List Component :=
  (match p.lead with
    | .root => [.root]
    | .here => [.here]
    | .bare => []) ++ p.segments.filterMap step?

/-- The segments without the silent ones at the end. -/
def trimEnd (segments : List (List Char)) : List (List Char) :=
  (segments.reverse.dropWhile silent).reverse

/-- The name that a path ends in. A path that ends at the root, at `.` or
in `..` ends in no name. -/
def fileName? (p : Path) : Option (List Char) :=
  match (trimEnd p.segments).getLast? with
  | some segment => if segment = ['.', '.'] then none else some segment
  | none => none

/-- The path without its last component. The root has no parent, and
neither has the empty path. -/
def parent? (p : Path) : Option Path :=
  match (trimEnd p.segments).dropLast, (trimEnd p.segments).getLast? with
  | above, some _ => some ⟨p.lead, trimEnd above⟩
  | _, none =>
    match p.lead with
    | .here => some ⟨.bare, []⟩
    | _ => none

/-- The text of a path. -/
def toChars (p : Path) : List Char :=
  match p.lead, p.segments with
  | .root, segments => '/' :: joined '/' segments
  | .here, [] => ['.']
  | .here, segments => '.' :: '/' :: joined '/' segments
  | .bare, segments => joined '/' segments

def toString (p : Path) : String := String.ofList p.toChars

/-- The names passed through from a starting point, when each step up takes
the last name back. -/
def resolved (p : Path) : List (List Char) :=
  p.components.foldl (fun names c =>
    match c with
    | .root => []
    | .here => names
    | .up => names.dropLast
    | .name n => names ++ [n]) []

end Path

end ServingOperator.Text
