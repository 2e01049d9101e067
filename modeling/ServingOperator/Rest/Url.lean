-- Addresses of servers: a scheme, an authority and a path, or an authority
-- or a path alone.
import ServingOperator.Rest.Target

namespace ServingOperator.Rest

/-- A character that may stand in the scheme. -/
def allowedInScheme (c : Char) : Bool := c.isAlphanum || c ∈ ['+', '-', '.']

/-- The most characters a scheme may have. -/
def maxScheme : Nat := 64

/-- A character that may stand in the authority. -/
def allowedInAuthority (c : Char) : Bool :=
  c.isAlphanum || c ∈ ['!', '$', '&', '\x27', '(', ')', '*', '+', ',', '-', '.', ':', ';', '=', '@',
    '[', ']', '_', '~']

/-- What was seen of an authority: the colons, whether brackets were opened
and closed, and a percent sign. What stands before an at sign or between
brackets is forgotten. -/
structure AuthorityScan where
  colons : Nat := 0
  opened : Bool := false
  closed : Bool := false
  percent : Bool := false

/-- The most colons that may follow each other in an authority. -/
def maxColons : Nat := 8

def AuthorityScan.next (s : AuthorityScan) (c : Char) : Option AuthorityScan :=
  if c = ':' then if maxColons ≤ s.colons then none else some { s with colons := s.colons + 1 }
  else if c = '[' then if s.percent || s.opened then none else some { s with opened := true }
  else if c = ']' then
    if !s.opened || s.closed then none
    else some { s with closed := true, colons := 0, percent := false }
  else if c = '@' then some { s with colons := 0, percent := false }
  else if c = '%' then some { s with percent := true }
  else if allowedInAuthority c then some s
  else none

/-- An authority: a host, perhaps with a user before it and a port after it. -/
def isAuthority (cs : List Char) : Bool :=
  match cs.foldlM AuthorityScan.next {} with
  | none => false
  | some s => s.opened = s.closed && s.colons ≤ 1 && !s.percent && cs.getLast? ≠ some '@'

def endsAuthority (c : Char) : Bool := c = '/' || c = '?' || c = '#'

/-- What follows the scheme of an address that has one. -/
def afterScheme? (cs : List Char) : Option (List Char × List Char) :=
  match cs.dropWhile allowedInScheme with
  | ':' :: '/' :: '/' :: rest => some (cs.takeWhile allowedInScheme, rest)
  | _ => none

/-- The text is the address of a server. -/
def isUrl (cs : List Char) : Bool :=
  if maxTargetBytes < Text.byteLength cs then false
  else
    match cs with
    | [] => false
    | ['*'] => true
    | '/' :: _ => (Target.split? cs).isSome
    | _ =>
      match afterScheme? cs with
      | none => cs.all (fun c => !endsAuthority c) && isAuthority cs
      | some (scheme, rest) =>
        let authority := rest.takeWhile fun c => !endsAuthority c
        scheme.length ≤ maxScheme && authority ≠ [] && isAuthority authority &&
          (Target.split? (rest.drop authority.length)).isSome

end ServingOperator.Rest
