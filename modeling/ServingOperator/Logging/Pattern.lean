-- Patterns of texts, as a directive can want them of a field. Only whether
-- a text is a pattern matters here: brackets have to be closed, and a sign of
-- repetition needs something to repeat. There are no classes of characters
-- by name, letters have a case, and words have no borders: a pattern that
-- asks for these is refused.
import ServingOperator.Number.Literal
import ServingOperator.Text.Alphanumeric

namespace ServingOperator.Logging.Pattern

/-! ## Characters after a backslash -/

def isHexDigit (c : Char) : Bool :=
  c.isDigit || ('a' ≤ c && c ≤ 'f') || ('A' ≤ c && c ≤ 'F')

def hexDigitValue (c : Char) : Nat :=
  if c.isDigit then c.toNat - '0'.toNat else (c.toLower.toNat - 'a'.toNat) + 10

/-- A character by a number of hexadecimal digits. -/
def numberedChar (digits : Nat) (cs : List Char) : Option (Char × List Char) :=
  let ds := cs.take digits
  let n := ds.foldl (fun n c => n * 16 + hexDigitValue c) 0
  if ds.length = digits ∧ ds.all isHexDigit ∧ n.isValidChar then
    some (Char.ofNat n, cs.drop digits)
  else none

/-- The characters that have a letter after the backslash. -/
def letterEscapes : List (Char × Char) :=
  [('a', '\x07'), ('f', '\x0c'), ('t', '\t'), ('n', '\n'), ('r', '\r'), ('v', '\x0b')]

/-- What a backslash makes of the text after it: a character, or `none` for
a place that has no characters. -/
def escape (cs : List Char) : Option (Option Char × List Char) :=
  match cs with
  | [] => none
  | 'x' :: rest => (numberedChar 2 rest).map fun (c, rest) => (some c, rest)
  | 'u' :: rest => (numberedChar 4 rest).map fun (c, rest) => (some c, rest)
  | 'U' :: rest => (numberedChar 8 rest).map fun (c, rest) => (some c, rest)
  | 'A' :: rest => some (none, rest)
  | 'z' :: rest => some (none, rest)
  | c :: rest =>
    match letterEscapes.lookup c with
    | some e => some (some e, rest)
    | none =>
      if c.toNat < 0x80 && !c.isAlphanum && c != '<' && c != '>' then some (some c, rest) else none

/-! ## Sets of characters in brackets -/

/-- The names of sets of ASCII characters. -/
def setNames : List String :=
  ["alnum", "alpha", "ascii", "blank", "cntrl", "digit", "graph", "lower", "print", "punct",
    "space", "upper", "word", "xdigit"]

/-- A named set after its opening bracket, as in `[:alpha:]`. -/
def namedSet? (cs : List Char) : Option (List Char) :=
  match cs with
  | ':' :: rest =>
    let rest := match rest with
      | '^' :: rest => rest
      | rest => rest
    setNames.findSome? fun name =>
      let word := name.toList ++ [':', ']']
      if word.isPrefixOf rest then some (rest.drop word.length) else none
  | _ => none

/-- A character of a set, or `none` if it is no character. -/
def setItem (cs : List Char) : Option (Option Char × List Char) :=
  match cs with
  | [] => none
  | '\\' :: rest => escape rest
  | c :: rest => some (some c, rest)

/-- A character of a set, or a range of them in rising order. -/
def setRange (cs : List Char) : Option (List Char) := do
  let (first, rest) ← setItem cs
  let first ← first
  match rest with
  | [] => none
  | '-' :: ']' :: _ => some rest
  | '-' :: '-' :: _ => some rest
  | '-' :: rest =>
    let (last, rest) ← setItem rest
    if first ≤ (← last) then some rest else none
  | rest => some rest

/-- What follows an opening bracket. Some characters stand for themselves
at the start of a set. -/
def setStart (cs : List Char) : List Char :=
  let rest := match cs with
    | '^' :: rest => rest
    | cs => cs
  match rest with
  | ']' :: rest => rest
  | rest => rest.dropWhile (· = '-')

/-- The rest of a text after `depth` sets that are inside each other. -/
def setRest (fuel depth : Nat) (cs : List Char) : Option (List Char) :=
  match fuel with
  | 0 => none
  | fuel + 1 =>
    match cs with
    | [] => none
    | ']' :: rest => if depth ≤ 1 then some rest else setRest fuel (depth - 1) rest
    | '[' :: rest =>
      match namedSet? rest with
      | some rest => setRest fuel depth rest
      | none => setRest fuel (depth + 1) (setStart rest)
    | '&' :: '&' :: rest => setRest fuel depth rest
    | '-' :: '-' :: rest => setRest fuel depth rest
    | '~' :: '~' :: rest => setRest fuel depth rest
    | cs => (setRange cs).bind (setRest fuel depth)

/-! ## Groups -/

/-- How a group starts. -/
inductive Group where
  | unnamed (rest : List Char)
  | named (name : List Char) (rest : List Char)
  /-- No group after all, but how to read what follows. -/
  | flags (rest : List Char)

/-- A name up to its closing bracket. -/
def groupName (cs : List Char) : Option Group :=
  let name := cs.takeWhile (· ≠ '>')
  let inName : Char → Bool := fun c =>
    c = '_' || c = '.' || c = '[' || c = ']' || Text.alphanumeric c
  match name, cs.drop name.length with
  | c :: _, '>' :: rest =>
    if (c = '_' || (Text.alphanumeric c && !c.isDigit)) && name.all inName then
      some (.named name rest)
    else none
  | _, _ => none

/-- The letters that say how to read what follows. None is given twice, and
a minus sign needs one after it. -/
def flagsValid (fs : List Char) : Bool :=
  let letters := fs.filter (· ≠ '-')
  fs ≠ [] && letters.all (['m', 's', 'U', 'u', 'R', 'x'].contains ·) && letters.Nodup &&
    fs.count '-' ≤ 1 && fs.getLast? ≠ some '-'

/-- A group after its opening bracket. -/
def group (cs : List Char) : Option Group :=
  match cs with
  | '?' :: 'P' :: '<' :: rest => groupName rest
  | '?' :: '<' :: rest => groupName rest
  | '?' :: ':' :: rest => some (.unnamed rest)
  | '?' :: rest =>
    let fs := rest.takeWhile fun c => c ≠ ')' && c ≠ ':'
    if flagsValid fs then
      match rest.drop fs.length with
      | ')' :: rest => some (.flags rest)
      | ':' :: rest => some (.unnamed rest)
      | _ => none
    else none
  | rest => some (.unnamed rest)

/-! ## Patterns -/

/-- Reads a pattern: `opened` groups are still open, `names` are taken, and
`repeats` says whether there is something to repeat. -/
def read (fuel opened : Nat) (names : List (List Char)) (repeats : Bool) (cs : List Char) : Bool :=
  match fuel with
  | 0 => false
  | fuel + 1 =>
    match cs with
    | [] => opened = 0
    | '(' :: rest =>
      match group rest with
      | some (.unnamed rest) => read fuel (opened + 1) names false rest
      | some (.named name rest) =>
        !names.contains name && read fuel (opened + 1) (name :: names) false rest
      | some (.flags rest) => read fuel opened names false rest
      | none => false
    | ')' :: rest => 0 < opened && read fuel (opened - 1) names true rest
    | '|' :: rest => read fuel opened names false rest
    | '\x7b' :: _ => false
    | '[' :: rest =>
      match setRest fuel 1 (setStart rest) with
      | some rest => read fuel opened names true rest
      | none => false
    | '\\' :: rest =>
      match escape rest with
      | some (_, rest) => read fuel opened names true rest
      | none => false
    | c :: rest =>
      if c = '*' || c = '+' || c = '?' then
        let rest := match rest with
          | '?' :: rest => rest
          | rest => rest
        repeats && read fuel opened names true rest
      else read fuel opened names true rest

/-- A text is a pattern. -/
def isPattern (cs : List Char) : Bool := read (2 * cs.length + 2) 0 [] false cs

/-- A word for a floating-point number, without a sign. -/
def isNumberWord (cs : List Char) : Bool :=
  (Number.decimal? cs).isSome ||
    ["inf", "infinity", "nan"].any fun w => cs.map Char.toLower = w.toList

/-- What a field can be wanted to have. Numbers and truth values are
patterns as well, except for a number with a plus sign. -/
def isValue (cs : List Char) : Bool :=
  match cs with
  | '+' :: rest => isNumberWord rest
  | cs => isPattern cs

end ServingOperator.Logging.Pattern
