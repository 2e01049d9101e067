-- Writing YAML text in block style. What a list holds stands no deeper than
-- the key of the list. A text is plain where that cannot be mistaken, and
-- between quotation marks elsewhere.
import ServingOperator.Json.Writer
import ServingOperator.Yaml.Line
import ServingOperator.Yaml.Scalar

namespace ServingOperator.Yaml

/-! ## Texts -/

/-- These cannot start a plain text. -/
def opensOther (c : Char) : Bool :=
  c ∈ ['#', ',', '[', ']', '\x7b', '\x7d', '&', '*', '!', '|', '>', '\x27', '"', '%', '@', '\x60']

/-- A hyphen, a question mark or a colon with nothing or a blank after it
starts something else, too. -/
def opensWithBlank : List Char → Bool
  | [c] => c ∈ ['-', '?', ':']
  | c :: d :: _ => c ∈ ['-', '?', ':'] && d = ' '
  | [] => false

/-- A colon before a blank, or a number sign after one, ends a plain text. -/
def interrupted : List Char → Bool
  | ':' :: ' ' :: _ => true
  | [':'] => true
  | ' ' :: '#' :: _ => true
  | _ :: cs => interrupted cs
  | [] => false

/-- The text stands as it is on one line. -/
def oneLine (cs : List Char) : Bool :=
  cs.all fun c => c ≠ '\n' && c ≠ '\r' && c ≠ '\t' && !Text.unprintable c

/-- The text can be written without quotation marks. -/
def plain (cs : List Char) : Bool :=
  isText cs && oneLine cs && !cs.head?.any opensOther && !opensWithBlank cs && !interrupted cs &&
    cs.head? ≠ some ' ' && cs.getLast? ≠ some ' ' &&
    cs.take 3 ≠ ['-', '-', '-'] && cs.take 3 ≠ ['.', '.', '.']

/-- The text between single quotation marks, each one in it doubled. -/
def singleQuoted (cs : List Char) : List Char :=
  '\x27' :: cs.flatMap (fun c => if c = '\x27' then ['\x27', '\x27'] else [c]) ++ ['\x27']

def textForm (s : String) : List Char :=
  if plain s.toList then s.toList
  else if oneLine s.toList then singleQuoted s.toList
  else Json.stringText s

/-! ## Values -/

/-- The form of a value that fits one line. -/
def inline? : Json → Option (List Char)
  | .str s => some (textForm s)
  | .arr [] => some ['[', ']']
  | .obj [] => some ['\x7b', '\x7d']
  | .arr _ => none
  | .obj _ => none
  | v => some v.toChars

/-- Puts the first line of an item after its hyphen. -/
def hyphened (indent : Nat) : List Line → List Line
  | [] => []
  | l :: rest => ⟨indent, '-' :: ' ' :: l.text⟩ :: rest

mutual

/-- The lines of a value that starts on a line of its own. -/
def lines (indent : Nat) : Json → List Line
  | .obj (f :: fields) => fieldLines indent (f :: fields)
  | .arr (v :: items) => itemLines indent (v :: items)
  | v => [⟨indent, (inline? v).getD []⟩]

/-- The lines of the fields of an object. -/
def fieldLines (indent : Nat) : List (String × Json) → List Line
  | [] => []
  | (key, v) :: rest =>
    (match inline? v, v with
      | some t, _ => [⟨indent, textForm key ++ ':' :: ' ' :: t⟩]
      | none, .arr _ => ⟨indent, textForm key ++ [':']⟩ :: lines indent v
      | none, _ => ⟨indent, textForm key ++ [':']⟩ :: lines (indent + 2) v) ++
    fieldLines indent rest

/-- The lines of the items of a list. -/
def itemLines (indent : Nat) : List Json → List Line
  | [] => []
  | v :: rest => hyphened indent (lines (indent + 2) v) ++ itemLines indent rest

end

/-- The text of a value. -/
def toText (v : Json) : String := String.ofList ((lines 0 v).flatMap Line.toChars)

end ServingOperator.Yaml
