import TwinIsa.Json.Token

/-!
Reading JSON. `ofTokens?` puts tokens together one by one, with the arrays and objects that are
still open on a stack, and `parse?` reads a whole text. Nothing may follow the value, and no comma
may stand where an item or a field does not follow.
-/

namespace TwinIsa.Json

/-- An array or object that is still open, with what it holds so far, latest first. An object waits
for the value of its last name. -/
inductive Frame where
  | array (items : List Json)
  | object (fields : List (Option String × Json)) (name : Option String)

inductive Expectation where
  | value
  | firstItem
  | firstName
  | name
  | colon
  | separator
  | nothing (document : Json)

structure Builder where
  frames : List Frame
  expected : Expectation

def ofFields (fields : List (Option String × Json)) : Json :=
  match fields.mapM fun field => field.1.map (·, field.2) with
  | some fields => object fields
  | none => unreadable

namespace Builder

def complete (frames : List Frame) (value : Json) : Builder :=
  match frames with
  | [] => ⟨[], .nothing value⟩
  | .array items :: outer => ⟨.array (value :: items) :: outer, .separator⟩
  | .object fields name :: outer => ⟨.object ((name, value) :: fields) name :: outer, .separator⟩

def beginValue (frames : List Frame) : Token → Option Builder
  | .scalar value => some (complete frames value)
  | .string value => some (complete frames ((value.map text).getD unreadable))
  | .openArray => some ⟨.array [] :: frames, .firstItem⟩
  | .openObject => some ⟨.object [] none :: frames, .firstName⟩
  | _ => none

def beginField : List Frame → Token → Option Builder
  | .object fields _ :: outer, .string name => some ⟨.object fields name :: outer, .colon⟩
  | _, _ => none

def close : List Frame → Token → Option Builder
  | .array items :: outer, .closeArray => some (complete outer (.array items.reverse))
  | .object fields _ :: outer, .closeObject => some (complete outer (ofFields fields.reverse))
  | _, _ => none

def step (builder : Builder) (token : Token) : Option Builder :=
  match builder.expected with
  | .value => beginValue builder.frames token
  | .firstItem => (close builder.frames token).or (beginValue builder.frames token)
  | .firstName => (close builder.frames token).or (beginField builder.frames token)
  | .name => beginField builder.frames token
  | .colon =>
      match token with
      | .colon => some ⟨builder.frames, .value⟩
      | _ => none
  | .separator =>
      match token, builder.frames with
      | .comma, .array _ :: _ => some ⟨builder.frames, .value⟩
      | .comma, .object _ _ :: _ => some ⟨builder.frames, .name⟩
      | _, frames => close frames token
  | .nothing _ => none

end Builder

def ofTokens? (tokens : List Token) : Option Json := do
  let builder ← tokens.foldlM Builder.step ⟨[], .value⟩
  match builder.expected with
  | .nothing document => some document
  | _ => none

def parse? (document : String) : Option Json := do
  let tokens ← Scan.between.tokens? document.toList
  ofTokens? tokens

end TwinIsa.Json
