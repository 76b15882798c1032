/-!
JSON documents: the values that tables and settings are read from and that reports are written as.
Objects keep their fields in order, and a name may occur twice, so that whoever reads an object
decides what that means.
-/

namespace TwinIsa

/-- A JSON value. Numbers are told apart by their spelling: an integer has neither a fraction nor an
exponent and is not `-0`, and every other number is kept as it is spelled. -/
inductive Json where
  | null
  | boolean (value : Bool)
  | integer (value : Int)
  | real (literal : String)
  | text (value : String)
  | array (items : List Json)
  | object (fields : List (String × Json))
  /-- A string, or an object with the name of a field, whose escapes leave a surrogate without its
  partner. It spells no text, and may stand only where nothing reads it. -/
  | unreadable
  deriving Repr, Inhabited

namespace Json

def natural (value : Nat) : Json := integer value

def text? : Json → Option String
  | text value => some value
  | _ => none

def boolean? : Json → Option Bool
  | boolean value => some value
  | _ => none

def naturalUpTo? (greatest : Nat) : Json → Option Nat
  | integer (.ofNat value) => if value ≤ greatest then some value else none
  | _ => none

def items? : Json → Option (List Json)
  | array items => some items
  | _ => none

/-- One of a fixed set of names: the name itself, or an object that gives this name nothing. -/
def choice? : Json → Option String
  | text name => some name
  | object [(name, null)] => some name
  | _ => none

/-- The value of a field that occurs at most once: `none` if it occurs twice. -/
def field? (name : String) (fields : List (String × Json)) : Option (Option Json) :=
  match fields.filter (·.1 == name) with
  | [] => some none
  | [(_, value)] => some (some value)
  | _ => none

/-- The values of the named fields of a record, each as far as it is given. A record is an object,
in which names other than these are passed over, or an array of the values in the order of the
names. -/
def record? (names : List String) : Json → Option (List (Option Json))
  | object fields => names.mapM (field? · fields)
  | array items =>
      if items.length ≤ names.length then
        some (items.map some ++ List.replicate (names.length - items.length) none)
      else none
  | _ => none

example : record? ["a", "b"] (object [("b", null), ("c", null)]) = some [none, some null] := rfl

example : record? ["a"] (object [("a", null), ("a", null)]) = none := rfl

end Json

end TwinIsa
