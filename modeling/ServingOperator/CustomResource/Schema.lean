-- Schemas: which JSON values the API server lets in as parts of an object.
-- A schema is a value of its own, so that what it lets in can be told apart
-- from how it is written.
import ServingOperator.Json.Value

namespace ServingOperator

/-- What can be said about the values of any schema. -/
structure SchemaNotes where
  title : Option String := none
  description : Option String := none
  nullable : Bool := false
  deriving DecidableEq, Repr, Inhabited

inductive Schema where
  /-- A text, perhaps one of a few. -/
  | text (notes : SchemaNotes) (choices : Option (List String))
  /-- A whole number of 32 bits, perhaps not below a least one. -/
  | int32 (notes : SchemaNotes) (minimum : Option Nat)
  /-- An object with any keys. -/
  | map (notes : SchemaNotes) (values : Schema)
  /-- An object with these properties. It may have others, and lack those
  that are not required. -/
  | record (notes : SchemaNotes) (properties : List (String × Schema)) (required : List String)

namespace Schema

/-! ## What is let in -/

def notes : Schema → SchemaNotes
  | text n _ => n
  | int32 n _ => n
  | map n _ => n
  | record n _ _ => n

mutual

/-- The value is let in. -/
def admits : Schema → Json → Bool
  | text n choices, v =>
    match v with
    | .null => n.nullable
    | .str s => choices.all fun l => s ∈ l
    | _ => false
  | int32 n minimum, v =>
    match v with
    | .null => n.nullable
    | .int i =>
      decide (Int32.minValue.toInt ≤ i ∧ i ≤ Int32.maxValue.toInt) && minimum.all fun m => m ≤ i
    | _ => false
  | map n values, v =>
    match v with
    | .null => n.nullable
    | .obj fields => fields.all fun f => admits values f.2
    | _ => false
  | record n properties required, v =>
    match v with
    | .null => n.nullable
    | .obj fields =>
      required.all (fun k => fields.any (·.1 = k)) && admitsProperties properties fields
    | _ => false

/-- Each property that is there is let in. -/
def admitsProperties : List (String × Schema) → List (String × Json) → Bool
  | [], _ => true
  | (key, s) :: rest, fields =>
    (match fields.lookup key with
      | none => true
      | some v => admits s v) && admitsProperties rest fields

end

/-! ## JSON form -/

def textItems (l : List String) : Json := .arr (l.map .str)

/-- A natural number, written with a point. -/
def pointNumber (n : Nat) : Json := .float ((Binary64.ofDecimal? false ⟨n, 0⟩).getD (.zero false))

def described (n : SchemaNotes) : List (String × Json) :=
  (n.description.map fun d => [("description", Json.str d)]).getD []

def titled (n : SchemaNotes) : List (String × Json) :=
  (n.title.map fun t => [("title", Json.str t)]).getD []

def nullability (n : SchemaNotes) : List (String × Json) :=
  if n.nullable then [("nullable", .bool true)] else []

mutual

def encode : Schema → Json
  | text n choices =>
    .obj (described n ++ (choices.map fun l => [("enum", textItems l)]).getD [] ++
      nullability n ++ titled n ++ [("type", .str "string")])
  | int32 n minimum =>
    .obj (described n ++ [("format", .str "int32")] ++
      (minimum.map fun m => [("minimum", pointNumber m)]).getD [] ++
      nullability n ++ titled n ++ [("type", .str "integer")])
  | map n values =>
    .obj ([("additionalProperties", encode values)] ++ described n ++ nullability n ++ titled n ++
      [("type", .str "object")])
  | record n properties required =>
    .obj (described n ++ nullability n ++ [("properties", .obj (encodeProperties properties)),
      ("required", textItems required)] ++ titled n ++ [("type", .str "object")])

def encodeProperties : List (String × Schema) → List (String × Json)
  | [] => []
  | (key, s) :: rest => (key, encode s) :: encodeProperties rest

end

end Schema

end ServingOperator
