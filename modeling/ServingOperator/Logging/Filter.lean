-- Filters of the log. A filter is written as directives with commas between
-- them. Each says up to which level lines are let through: from everywhere,
-- from a target, or with a field. The most special directive decides.
import ServingOperator.Logging.Level
import ServingOperator.Logging.Pattern
import ServingOperator.Text.Alphanumeric
import ServingOperator.Text.Blank
import ServingOperator.Text.Bytes
import ServingOperator.Text.Split

namespace ServingOperator.Logging

/-- A line of the log. -/
structure Line where
  level : Level
  target : String
  message : String
  fields : List (String × String) := []
  deriving DecidableEq, Repr

/-- The names of all fields of a line. The message is one of them. -/
def Line.fieldNames (l : Line) : List (List Char) :=
  "message".toList :: l.fields.map (·.1.toList)

/-- Lines whose target starts with `target`, and that have all of `fields`,
are let through up to a threshold. A directive that names a span, or wants
a field to have a value, is about spans and not about lines. -/
structure Directive where
  target : Option (List Char) := none
  spans : Bool := false
  fields : List (List Char) := []
  threshold : Threshold := .upTo .trace
  deriving DecidableEq, Repr

/-- Why a directive cannot be read. -/
inductive Misread where
  /-- The text is no directive. -/
  | malformed
  /-- A part of the directive starts or ends inside a character. -/
  | cut
  deriving DecidableEq, Repr

namespace Directive

/-! ## Reading -/

/-- What is being read of a directive, with the byte where it starts. -/
inductive Part where
  | start
  /-- A threshold, or a target. -/
  | subject (first : Nat)
  | span (first : Nat)
  | field (first : Nat)
  /-- What follows a field. -/
  | afterField
  /-- What follows a span. -/
  | afterSpan
  | level (first : Nat)
  deriving DecidableEq, Repr

/-- A character that a directive can start with, a bracket apart. -/
def opens (c : Char) : Bool := c = '-' || c = ':' || c = '_' || Text.alphanumeric c

/-- The part of a text between two bytes. -/
def slice (text : List Char) (first last : Nat) : Except Misread (List Char) :=
  match Text.bytesBetween? first last text with
  | some part => .ok part
  | none => .error .cut

/-- The directive with a field taken up, which is a name or a name with a
value. A value that is no word for a number has to be a pattern. -/
def withField (d : Directive) (part : List Char) : Except Misread Directive :=
  match Text.pieces '=' part with
  | [] => .error .malformed
  | [[]] => .error .malformed
  | [name] => .ok { d with fields := d.fields ++ [name] }
  | _ :: value :: _ =>
    if Pattern.isValue value then .ok { d with spans := true } else .error .malformed

/-- The directive with a threshold. Without any text it lets everything
through. -/
def withLevel (d : Directive) (text : List Char) : Except Misread Directive :=
  if text = [] then .ok { d with threshold := .upTo .trace }
  else
    match Threshold.ofChars? text with
    | some threshold => .ok { d with threshold }
    | none => .error .malformed

/-- One more character, which starts at a byte, is read. -/
def step (text : List Char) (d : Directive) (p : Part) (place : Nat) (c : Char) :
    Except Misread (Directive × Part) :=
  match p with
  | .start =>
    if c = '[' then .ok (d, .span (place + 1))
    else if opens c then .ok (d, .subject place)
    else .error .malformed
  | .subject first =>
    if c = '=' then do
      return ({ d with target := some (← slice text first place) }, .level (place + 1))
    else if c = '[' then do
      return ({ d with target := some (← slice text first place) }, .span (place + 1))
    else .ok (d, p)
  | .span first =>
    if c = ']' then do
      let _ ← slice text first place
      return ({ d with spans := true }, .afterSpan)
    else if c = '\x7b' then do
      let name ← slice text first place
      return ({ d with spans := name ≠ [] }, .field (place + 1))
    else .ok (d, p)
  | .field first =>
    if c = '\x7d' then do
      return (← d.withField (← slice text first place), .afterField)
    else .ok (d, p)
  | .afterField => if c = ']' then .ok (d, .afterSpan) else .error .malformed
  | .afterSpan => if c = '=' then .ok (d, .level (place + 1)) else .error .malformed
  | .level _ => .ok (d, p)

/-- The directive when all characters are read. A subject is a threshold
that holds everywhere if it can be one. -/
def finish (text : List Char) (d : Directive) : Part → Except Misread Directive
  | .subject first => do
    let subject ← slice text first (Text.byteLength text)
    match Threshold.ofChars? subject with
    | some threshold => return { d with threshold, target := none }
    | none => return { d with threshold := .upTo .trace, target := some subject }
  | .level first => do d.withLevel (← slice text first (Text.byteLength text))
  | .afterSpan => .ok d
  | _ => .error .malformed

/-- Reads the characters from a byte on. -/
def steps (text : List Char) (d : Directive) (p : Part) (place : Nat) :
    List Char → Except Misread Directive
  | [] => finish text d p
  | c :: cs =>
    match step text d p place c with
    | .ok (d, p) => steps text d p (place + c.utf8Size) cs
    | .error e => .error e

/-- Reads a directive. Blanks around it are passed over, and yet the bytes
of its parts are counted in the text as it stands. -/
def ofChars (text : List Char) : Except Misread Directive :=
  steps text {} .start 0 (Text.withoutBlankEnds text)

/-! ## Lines -/

/-- The directive is about a line. -/
def concerns (d : Directive) (l : Line) : Bool :=
  !d.spans && d.target.all (·.isPrefixOf l.target.toList) &&
    d.fields.all l.fieldNames.contains

/-- How special a directive is: first by the length of its target, then by
the number of its fields, and last by their names. -/
def compareSpecial (a b : Directive) : Ordering :=
  (compare (a.target.map Text.byteLength) (b.target.map Text.byteLength)).then <|
    (compare a.fields.length b.fields.length).then (compare a.fields b.fields)

end Directive

abbrev Filter := List Directive

namespace Filter

/-- Lets through what matters as much as information. -/
def standard : Filter := [{ threshold := .upTo .info }]

/-- Reads directives. Those that cannot be read are skipped, but none may
be cut inside a character. -/
def directives? : List (List Char) → Option Filter
  | [] => some []
  | text :: rest =>
    match Directive.ofChars text with
    | .ok d => (directives? rest).map (d :: ·)
    | .error .malformed => directives? rest
    | .error .cut => none

/-- Reads a filter. When it holds no directive the standard filter stands. -/
def ofString? (s : String) : Option Filter :=
  (directives? ((Text.pieces ',' s.toList).filter (· ≠ []))).map fun
    | [] => standard
    | ds => ds

/-- The more special of two directives. Of two alike the later one counts. -/
def moreSpecial (best : Option Directive) (d : Directive) : Option Directive :=
  match best with
  | none => some d
  | some b => if b.compareSpecial d = .gt then some b else some d

/-- The directive that decides about a line. -/
def decisive? (f : Filter) (l : Line) : Option Directive :=
  (f.filter (·.concerns l)).foldl moreSpecial none

/-- A line is let through. -/
def passes (f : Filter) (l : Line) : Bool :=
  (f.decisive? l).any (·.threshold.passes l.level)

end Filter

end ServingOperator.Logging
