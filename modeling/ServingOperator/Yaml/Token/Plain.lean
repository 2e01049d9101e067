-- Plain scalars: words without quotation marks, perhaps on several lines.
-- They go on as far as nothing stands in their way.
import ServingOperator.Yaml.Token.Folding

namespace ServingOperator.Yaml.Plain

/-- The characters that have a meaning of their own in flow style. -/
def isFlowIndicator (c : Char) : Bool :=
  c = ',' || c = '[' || c = ']' || c = '\x7b' || c = '\x7d'

/-- A plain scalar in flow style cannot hold a colon before this. -/
def refusedAfterColon (c : Char) : Bool := isFlowIndicator c || c = '?'

/-- The scalar ends here. -/
def atEnd (flow : Bool) : List Char → Bool
  | [] => true
  | ':' :: rest => endsWord rest
  | c :: _ => flow && isFlowIndicator c

/-- Neither the scalar nor anything else can go on here. -/
def atFault (flow : Bool) : List Char → Bool
  | ':' :: c :: _ => flow && refusedAfterColon c
  | _ => false

/-- The characters up to the next blank, or to the end of the scalar. -/
def readWord (fuel : Nat) (flow : Bool) (f : Folding) (c : Cursor) : Option (Folding × Cursor) :=
  match fuel with
  | 0 => none
  | fuel + 1 =>
    match c.rest with
    | [] => some (f, c)
    | x :: _ =>
      if isBlank x || isBreak x then some (f, c)
      else if atFault flow c.rest then none
      else if atEnd flow c.rest then some (f, c)
      else readWord fuel flow (f.push x) c.skip

/-- The words of a scalar whose lines stand at column `indent` or after it,
in flow style anywhere. -/
def readWords (fuel : Nat) (flow : Bool) (indent : Nat) (f : Folding) (c : Cursor) :
    Option (Folding × Cursor) :=
  match fuel with
  | 0 => none
  | fuel + 1 =>
    if c.atDocumentMarker || c.rest.head? = some '#' then some (f, c)
    else do
      let (f, c) ← readWord (fuel + 1) flow f c
      match c.rest with
      | [] => some (f, c)
      | x :: _ =>
        if isBlank x || isBreak x then
          let (f, c) ← f.skipSpace (fuel + 1) indent c
          if !flow && c.column < indent then some (f, c) else readWords fuel flow indent f c
        else some (f, c)

end ServingOperator.Yaml.Plain
