-- Cutting YAML text into tokens. What makes a word a key is the colon after
-- it, so wherever a key can start its place is remembered, and the token for
-- the key is put there once the colon is seen.
import ServingOperator.Yaml.Token.Block
import ServingOperator.Yaml.Token.Directive
import ServingOperator.Yaml.Token.Plain

namespace ServingOperator.Yaml

/-- A place where a key may have started. It has to be one if it stands
where the keys of a block mapping stand. -/
structure KeyStart where
  required : Bool
  /-- How many tokens stand before it. -/
  token : Nat
  index : Nat
  line : Nat
  column : Nat

/-- A text that is being cut into tokens. -/
structure Lexer where
  cursor : Cursor
  /-- The column of the block collection around, `none` outside all. -/
  indent : Option Nat := none
  /-- The columns around that, the inner ones first. -/
  outer : List (Option Nat) := []
  /-- Whether a key may start here. -/
  keyAllowed : Bool := true
  /-- Where the last key may have started, for the level of flow style that
  is open, and for those around it. -/
  keyStarts : List (Option KeyStart) := [none]
  tokens : Array Token := #[]
  ended : Bool := false

namespace Lexer

/-- The most characters that a key on one line may have. -/
def longestKey : Nat := 1024

/-- Flow style is open. -/
def inFlow (l : Lexer) : Bool := 1 < l.keyStarts.length

def push (l : Lexer) (t : Token) : Lexer := { l with tokens := l.tokens.push t }

def insert (l : Lexer) (place : Nat) (t : Token) : Lexer :=
  { l with tokens := l.tokens.insertIdxIfInBounds place t }

/-! ## Indentation -/

/-- Opens a block collection at a column that is deeper than what is
around. Its token is put before the token at `place`. -/
def openBlock (l : Lexer) (column : Nat) (place : Nat) (t : Token) : Lexer :=
  if l.inFlow || l.indent.any (column ≤ ·) then l
  else { l.insert place t with indent := some column, outer := l.indent :: l.outer }

/-- Closes the block collections that are deeper than a column, or all of
them. -/
def closeBlocks (column : Option Nat) (l : Lexer) : Lexer :=
  if l.inFlow then l else close l.outer { l with outer := [] }
where
  /-- Closes what is too deep, with `outer` around it. -/
  close (outer : List (Option Nat)) (l : Lexer) : Lexer :=
    match l.indent, outer with
    | none, outer => { l with outer }
    | some _, [] => l
    | some i, o :: outer =>
      if column.all (· < i) then close outer { l.push .blockEnd with indent := o }
      else { l with outer := o :: outer }

/-! ## Keys -/

/-- The place of the last key is given up. It may not be one that has to be
a key. -/
def dropKey (l : Lexer) : Option Lexer :=
  match l.keyStarts with
  | some k :: rest => if k.required then none else some { l with keyStarts := none :: rest }
  | _ => some l

/-- Remembers that a key may start here. -/
def saveKey (l : Lexer) : Option Lexer :=
  if l.keyAllowed then do
    let l ← l.dropKey
    let c := l.cursor
    let k : KeyStart :=
      { required := !l.inFlow && l.indent = some c.column, token := l.tokens.size,
        index := c.index, line := c.line, column := c.column }
    some { l with keyStarts := some k :: l.keyStarts.drop 1 }
  else some l

/-- A key ends on the line where it starts, and it is not too long. -/
def isStale (c : Cursor) (k : KeyStart) : Bool :=
  k.line < c.line || k.index + longestKey < c.index

/-- Gives up the places that are too far back. -/
def dropStaleKeys (l : Lexer) : Option Lexer := do
  let keyStarts ← l.keyStarts.mapM fun k =>
    match k with
    | none => some none
    | some k =>
      if isStale l.cursor k then if k.required then none else some none else some (some k)
  some { l with keyStarts }

/-! ## Tokens -/

/-- Blanks, comments and line breaks are passed. Tabs are not passed where
they would stand for indentation. -/
def skipSpace (fuel : Nat) (l : Lexer) : Lexer :=
  match fuel with
  | 0 => l
  | fuel + 1 =>
    let c := l.cursor
    let c := if c.column = 0 ∧ c.rest.head?.any isOrderMark then c.skip else c
    let tabs := l.inFlow || !l.keyAllowed
    let c := (c.skipWhile fun x => x = ' ' || (tabs && x = '\t')).skipComment
    let l := { l with cursor := c }
    match c.rest with
    | [] => l
    | x :: _ =>
      if isBreak x then
        skipSpace fuel { l with cursor := c.skipBreak.2, keyAllowed := l.keyAllowed || !l.inFlow }
      else l

/-- The end of the text. -/
def finish (l : Lexer) : Option Lexer := do
  let l ← (l.closeBlocks none).dropKey
  some { l.push .streamEnd with ended := true }

/-- A token of some characters, after which a key may start or not. -/
def mark (l : Lexer) (width : Nat) (t : Token) (keyAllowed : Bool) : Lexer :=
  { l.push t with cursor := l.cursor.skipMany width, keyAllowed }

/-- A directive. -/
def directive (fuel : Nat) (l : Lexer) : Option Lexer := do
  let l ← (l.closeBlocks none).dropKey
  let (t, cursor) ← Directive.read fuel l.cursor.skip
  some { l.push t with cursor, keyAllowed := false }

/-- The start or the end of a document. -/
def document (l : Lexer) (t : Token) : Option Lexer := do
  let l ← (l.closeBlocks none).dropKey
  some (l.mark 3 t false)

/-- The start of a flow collection. -/
def openFlow (l : Lexer) (t : Token) : Option Lexer := do
  let l ← l.saveKey
  some ({ l with keyStarts := none :: l.keyStarts }.mark 1 t true)

/-- The end of a flow collection. -/
def closeFlow (l : Lexer) (t : Token) : Option Lexer := do
  let l ← l.dropKey
  let keyStarts := if l.inFlow then l.keyStarts.drop 1 else l.keyStarts
  some ({ l with keyStarts }.mark 1 t false)

/-- A comma of a flow collection. -/
def flowEntry (l : Lexer) : Option Lexer := do
  let l ← l.dropKey
  some (l.mark 1 .flowEntry true)

/-- In block style an item, a key or a value of its own stands where a key
may start, and opens a collection if none is open there. -/
def inBlock (l : Lexer) (t : Token) : Option Lexer :=
  if l.inFlow then some l
  else if l.keyAllowed then some (l.openBlock l.cursor.column l.tokens.size t)
  else none

/-- The hyphen before an item. -/
def blockEntry (l : Lexer) : Option Lexer := do
  let l ← l.inBlock .blockSequenceStart
  let l ← l.dropKey
  some (l.mark 1 .blockEntry true)

/-- The question mark before a key. -/
def key (l : Lexer) : Option Lexer := do
  let l ← l.inBlock .blockMappingStart
  let l ← l.dropKey
  some (l.mark 1 .key (!l.inFlow))

/-- The colon before a value. If a key may have started before it, it is
a key now. -/
def value (l : Lexer) : Option Lexer :=
  match l.keyStarts with
  | some k :: rest =>
    let l := { l.insert k.token .key with keyStarts := none :: rest }
    let l := l.openBlock k.column k.token .blockMappingStart
    some (l.mark 1 .value false)
  | _ => do
    let l ← l.inBlock .blockMappingStart
    some (l.mark 1 .value (!l.inFlow))

/-- The characters that the name of an anchor can end before. -/
def endsName : List Char → Bool
  | [] => true
  | c :: _ => isBlank c || isBreak c || c ∈ ['?', ':', ',', ']', '\x7d', '%', '@', '\x60']

/-- An anchor, or a reference to one. -/
def anchor (l : Lexer) (token : List Char → Token) : Option Lexer := do
  let l ← l.saveKey
  let name := l.cursor.rest.drop 1 |>.takeWhile isWord
  let cursor := l.cursor.skipMany (name.length + 1)
  if name = [] ∨ !endsName cursor.rest then none
  some { l.push (token name) with cursor, keyAllowed := false }

def tag (fuel : Nat) (l : Lexer) : Option Lexer := do
  let l ← l.saveKey
  let (t, cursor) ← Tag.read fuel l.inFlow l.cursor
  some { l.push t with cursor, keyAllowed := false }

def blockScalar (fuel : Nat) (l : Lexer) (literal : Bool) : Option Lexer := do
  let l ← l.dropKey
  let (text, cursor) ← Block.read fuel literal l.indent l.cursor.skip
  some { l.push (.scalar text false) with cursor, keyAllowed := true }

def quotedScalar (fuel : Nat) (l : Lexer) (single : Bool) : Option Lexer := do
  let l ← l.saveKey
  let (text, cursor) ← Quoted.read fuel single {} l.cursor.skip
  some { l.push (.scalar text false) with cursor, keyAllowed := false }

/-- A plain scalar. After its last line a key may start. -/
def plainScalar (fuel : Nat) (l : Lexer) : Option Lexer := do
  let l ← l.saveKey
  let least := (l.indent.map (· + 1)).getD 0
  let (f, cursor) ← Plain.readWords fuel l.inFlow least {} l.cursor
  some { l.push (.scalar f.text.reverse true) with cursor, keyAllowed := f.broken }

/-- The characters that start something else than a plain scalar. -/
def isIndicator (c : Char) : Bool :=
  c ∈ ['-', '?', ':', ',', '[', ']', '\x7b', '\x7d', '#', '&', '*', '!', '|', '>', '\x27', '"', '%',
    '@', '\x60']

/-- A plain scalar starts here: with a character that means nothing else, or
with a hyphen, a question mark or a colon that something follows. -/
def startsPlain (flow : Bool) : List Char → Bool
  | [] => false
  | c :: rest =>
    (!isBlank c && !isBreak c && !isIndicator c) ||
      (c = '-' && !rest.head?.any isBlank) ||
      (!flow && (c = '?' || c = ':') && !endsWord rest)

/-- One more token, or all that belong to it. -/
def next (fuel : Nat) (l : Lexer) : Option Lexer := do
  let l ← (l.skipSpace fuel).dropStaleKeys
  let l := l.closeBlocks (some l.cursor.column)
  let c := l.cursor
  if c.column = 0 ∧ c.rest.head? = some '%' then l.directive fuel
  else if c.atMarker '-' then l.document .documentStart
  else if c.atMarker '.' then l.document .documentEnd
  else
    match c.rest with
    | [] => l.finish
    | '[' :: _ => l.openFlow .flowSequenceStart
    | '\x7b' :: _ => l.openFlow .flowMappingStart
    | ']' :: _ => l.closeFlow .flowSequenceEnd
    | '\x7d' :: _ => l.closeFlow .flowMappingEnd
    | ',' :: _ => l.flowEntry
    | '*' :: _ => l.anchor .reference
    | '&' :: _ => l.anchor .anchor
    | '!' :: _ => l.tag fuel
    | '\x27' :: _ => l.quotedScalar fuel true
    | '"' :: _ => l.quotedScalar fuel false
    | x :: rest =>
      if x = '-' && endsWord rest then l.blockEntry
      else if x = '?' && (l.inFlow || endsWord rest) then l.key
      else if x = ':' && (l.inFlow || endsWord rest) then l.value
      else if x = '|' && !l.inFlow then l.blockScalar fuel true
      else if x = '>' && !l.inFlow then l.blockScalar fuel false
      else if startsPlain l.inFlow c.rest then l.plainScalar fuel
      else none

/-- Reads to the end of the text. -/
def run (fuel : Nat) (l : Lexer) : Option Lexer :=
  match fuel with
  | 0 => none
  | fuel + 1 => if l.ended then some l else (l.next (fuel + 1)).bind (run fuel)

end Lexer

/-- The tokens of a text. A token takes a character at least, except for the
one at the end. -/
def Token.ofText? (cs : List Char) : Option (List Token) :=
  if cs.all isPrintable then
    (Lexer.run (cs.length + 3) { cursor := { rest := cs } }).map (·.tokens.toList)
  else none

end ServingOperator.Yaml
