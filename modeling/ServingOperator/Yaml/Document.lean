-- Building documents from tokens.
import ServingOperator.Yaml.Node
import ServingOperator.Yaml.Token.Lexer

namespace ServingOperator.Yaml

/-- What is left of the tokens, and what is known of the document that is
being built. -/
structure Builder where
  tokens : List Token
  /-- What the handles of tags stand for. -/
  handles : List (List Char × List Char) := []
  /-- The numbers of the names of anchors. -/
  names : List (List Char × Nat) := []
  /-- The places of the numbers, the one given last first. -/
  places : List (Nat × Nat) := []
  /-- The nodes with anchors by their places. -/
  finished : List (Nat × Node) := []
  size : Nat := 0

/-- A step of building. It fails if the tokens make no document. -/
abbrev Build? (α : Type) := StateT Builder Option α

namespace Builder

def fault {α : Type} : Build? α := fun _ => none

/-- The next token. -/
def peek : Build? Token := do
  match (← get).tokens with
  | t :: _ => return t
  | [] => fault

/-- The next token is passed. -/
def drop : Build? Unit := modify fun b => { b with tokens := b.tokens.drop 1 }

/-- The next token is this one, and is passed. -/
def expect (t : Token) : Build? Unit := do
  if (← peek) = t then drop else fault

/-! ## Properties of nodes -/

/-- A node starts, or a collection ends. -/
def count : Build? Nat := modifyGet fun b => (b.size, { b with size := b.size + 1 })

/-- A node starts, perhaps with an anchor. The number of an anchor is the
count of names before it, so that a name that is used again makes way for
the next new name. -/
def start (anchor : Option (List Char)) : Build? Nat := do
  let place ← count
  match anchor with
  | none => return place
  | some name =>
    modify fun b =>
      let number := b.names.length
      let names :=
        if (b.names.lookup name).isSome then
          b.names.map fun n => if n.1 = name then (name, number) else n
        else b.names ++ [(name, number)]
      { b with names, places := (number, place) :: b.places }
    return place

/-- A node is complete. -/
def finish (anchor : Option (List Char)) (place : Nat) (n : Node) : Build? Node := do
  if anchor.isSome then modify fun b => { b with finished := (place, n) :: b.finished }
  return n

/-- A node of one piece. -/
def leaf (anchor : Option (List Char)) (n : Node) : Build? Node := do
  finish anchor (← start anchor) n

/-- Nothing where a node could stand. -/
def empty : Build? Node := leaf none .nothing

/-- The anchor and the tag before a node. -/
structure Properties where
  anchor : Option (List Char) := none
  tag : Option (List Char) := none

/-- A tag in full. -/
def tagOf (handle suffix : List Char) : Build? (List Char) := do
  if handle = [] then return suffix
  match (← get).handles.lookup handle with
  | some meaning => return meaning ++ suffix
  | none => fault

/-- Reads an anchor and a tag, in either order. -/
def properties : Build? Properties := do
  match ← peek with
  | .anchor name =>
    drop
    match ← peek with
    | .tag handle suffix =>
      drop
      return ⟨some name, some (← tagOf handle suffix)⟩
    | _ => return ⟨some name, none⟩
  | .tag handle suffix =>
    drop
    match ← peek with
    | .anchor name =>
      drop
      return ⟨some name, some (← tagOf handle suffix)⟩
    | _ => return ⟨none, some (← tagOf handle suffix)⟩
  | _ => return {}

/-- Properties without a node: it is empty. One of them at least is there. -/
def bare (p : Properties) : Build? Node :=
  if p.anchor.isSome || p.tag.isSome then leaf p.anchor (.scalar p.tag [] true) else fault

/-- The tag of a scalar. A mark alone says that the scalar is not special. -/
def scalarTag (tag : Option (List Char)) : Option (List Char) := tag.filter (· ≠ ['!'])

/-- A sequence, by the way to read its items. -/
def sequence (p : Properties) (items : Build? (List Node)) : Build? Node := do
  let place ← start p.anchor
  let items ← items
  let _ ← count
  finish p.anchor place (.sequence p.tag items)

/-- A mapping, by the way to read its entries. -/
def mapping (p : Properties) (entries : Build? (List (Node × Node))) : Build? Node := do
  let place ← start p.anchor
  let entries ← entries
  let _ ← count
  finish p.anchor place (.mapping p.tag entries)

/-! ## Nodes -/

/-- Nothing, if one of some tokens is next, and else what is read. -/
def orNothing (ends : Token → Bool) (read : Build? Node) : Build? Node := do
  if ends (← peek) then empty else read

/-- What stands after a colon, if there is one. -/
def valueOrNothing (ends : Token → Bool) (read : Build? Node) : Build? Node := do
  if (← peek) = .value then
    drop
    orNothing ends read
  else empty

def endsItem (t : Token) : Bool := t matches .blockEntry | .blockEnd

def endsIndentlessItem (t : Token) : Bool := t matches .blockEntry | .key | .value | .blockEnd

def endsEntry (t : Token) : Bool := t matches .key | .value | .blockEnd

def endsFlowKey (t : Token) : Bool := t matches .value | .flowEntry | .flowMappingEnd

def endsFlowValue (t : Token) : Bool := t matches .flowEntry | .flowMappingEnd

def endsPairKey (t : Token) : Bool := t matches .value | .flowEntry | .flowSequenceEnd

def endsPairValue (t : Token) : Bool := t matches .flowEntry | .flowSequenceEnd

mutual

/-- A node. In block style it may be a block collection, and where
`indentless` says so, a sequence whose items stand no deeper than the key
before it. `fuel` bounds the calls inside each other. -/
def node (fuel : Nat) (block indentless : Bool) : Build? Node :=
  match fuel with
  | 0 => fault
  | fuel + 1 => do
    match ← peek with
    | .reference name =>
      drop
      match (← get).names.lookup name with
      | some number => leaf none (.reference number)
      | none => fault
    | _ =>
      let p ← properties
      match ← peek with
      | .blockEntry => if indentless then sequence p (indentlessItems fuel) else bare p
      | .blockSequenceStart => if block then drop *> sequence p (blockItems fuel) else bare p
      | .blockMappingStart => if block then drop *> mapping p (blockEntries fuel) else bare p
      | .flowSequenceStart => drop *> sequence p (flowItems fuel true)
      | .flowMappingStart => drop *> mapping p (flowEntries fuel true)
      | .scalar text plain => drop *> leaf p.anchor (.scalar (scalarTag p.tag) text plain)
      | _ => bare p

/-- The items of a block sequence, up to and with its end. -/
def blockItems (fuel : Nat) : Build? (List Node) :=
  match fuel with
  | 0 => fault
  | fuel + 1 => do
    match ← peek with
    | .blockEntry =>
      drop
      let n ← orNothing endsItem (node fuel true false)
      return n :: (← blockItems fuel)
    | .blockEnd =>
      drop
      return []
    | _ => fault

/-- The items of a sequence that is indented no deeper than its key. -/
def indentlessItems (fuel : Nat) : Build? (List Node) :=
  match fuel with
  | 0 => fault
  | fuel + 1 => do
    match ← peek with
    | .blockEntry =>
      drop
      let n ← orNothing endsIndentlessItem (node fuel true false)
      return n :: (← indentlessItems fuel)
    | _ => return []

/-- The entries of a block mapping, up to and with its end. -/
def blockEntries (fuel : Nat) : Build? (List (Node × Node)) :=
  match fuel with
  | 0 => fault
  | fuel + 1 => do
    match ← peek with
    | .key =>
      drop
      let k ← orNothing endsEntry (node fuel true true)
      let v ← valueOrNothing endsEntry (node fuel true true)
      return (k, v) :: (← blockEntries fuel)
    | .blockEnd =>
      drop
      return []
    | _ => fault

/-- The items of a flow sequence, up to and with its bracket. An item can be
a key with a value, which is a mapping of its own. A missing key there
takes the token after it along. -/
def flowItems (fuel : Nat) (first : Bool) : Build? (List Node) :=
  match fuel with
  | 0 => fault
  | fuel + 1 => do
    if !first && (← peek) ≠ .flowSequenceEnd then expect .flowEntry
    match ← peek with
    | .flowSequenceEnd =>
      drop
      return []
    | .key =>
      drop
      let pair : Build? (List (Node × Node)) := do
        let k ← if endsPairKey (← peek) then drop *> empty else node fuel false false
        return [(k, ← valueOrNothing endsPairValue (node fuel false false))]
      let n ← mapping {} pair
      return n :: (← flowItems fuel false)
    | _ =>
      let n ← node fuel false false
      return n :: (← flowItems fuel false)

/-- The entries of a flow mapping, up to and with its brace. -/
def flowEntries (fuel : Nat) (first : Bool) : Build? (List (Node × Node)) :=
  match fuel with
  | 0 => fault
  | fuel + 1 => do
    if !first && (← peek) ≠ .flowMappingEnd then expect .flowEntry
    match ← peek with
    | .flowMappingEnd =>
      drop
      return []
    | .key =>
      drop
      let k ← orNothing endsFlowKey (node fuel false false)
      let v ← valueOrNothing endsFlowValue (node fuel false false)
      return (k, v) :: (← flowEntries fuel false)
    | _ =>
      let k ← node fuel false false
      let v ← empty
      return (k, v) :: (← flowEntries fuel false)

end

/-! ## Documents -/

/-- The handles that stand for something without being told. -/
def standardHandles : List (List Char × List Char) :=
  [(['!'], ['!']), (['!', '!'], "tag:yaml.org,2002:".toList)]

/-- Reads the directives of a document. Each is given once at most, and the
version is one that can be read. -/
def directives (fuel : Nat) (versioned : Bool) (handles : List (List Char × List Char)) :
    Build? (List (List Char × List Char)) :=
  match fuel with
  | 0 => fault
  | fuel + 1 => do
    match ← peek with
    | .versionDirective major minor =>
      drop
      if versioned || major ≠ 1 || (minor ≠ 1 && minor ≠ 2) then fault
      else directives fuel true handles
    | .tagDirective handle meaning =>
      drop
      if (handles.lookup handle).isSome then fault
      else directives fuel versioned (handles ++ [(handle, meaning)])
    | _ => return handles

/-- The tokens that cannot belong to the node of a document. -/
def endsDocument (t : Token) : Bool :=
  t matches .versionDirective _ _ | .tagDirective _ _ | .documentStart | .documentEnd | .streamEnd

/-- The node of a document, with nothing known from documents before it. -/
def document (handles : List (List Char × List Char)) (read : Build? Node) : Build? Document := do
  modify fun b => { tokens := b.tokens, handles := handles ++ standardHandles }
  let root ← read
  if (← peek) = .documentEnd then drop
  let b ← get
  let numbered := b.places.filterMap fun p => (b.finished.lookup p.2).map fun n => (p.1, n)
  return { root, numbered, size := b.size }

/-- The ends of documents are passed. -/
def skipEnds : Build? Unit :=
  modify fun b => { b with tokens := b.tokens.dropWhile (· = .documentEnd) }

/-- The documents of a text. All but the first one say where they start. -/
def documents (fuel : Nat) (first : Bool) : Build? (List Document) :=
  match fuel with
  | 0 => fault
  | fuel + 1 => do
    if !first then skipEnds
    let t ← peek
    if first && (t = .documentEnd || !endsDocument t) then
      let d ← document [] (node fuel true false)
      return d :: (← documents fuel false)
    else if t = .streamEnd then return []
    else
      let handles ← directives fuel false []
      expect .documentStart
      let d ← document handles (orNothing endsDocument (node fuel true false))
      return d :: (← documents fuel false)

end Builder

/-- The documents of a text. A text with none counts as a document that
holds nothing. -/
def Document.ofText? (cs : List Char) : Option (List Document) := do
  let tokens ← Token.ofText? cs
  let (documents, _) ← (Builder.documents (2 * tokens.length + 4) true).run { tokens }
  some (if documents.isEmpty then [{ root := .nothing }] else documents)

end ServingOperator.Yaml
