/-!
# JSON values

The values of JSON documents.  A number is kept as it is written, so that a reader can tell an
integer from a fraction of the same value.  An object keeps the order and the repetitions of its
members.
-/

namespace FlightLink

/-- A number as it is written: sign, digits before the point, digits after it, and the exponent
with its sign. -/
structure Json.Number where
  negative : Bool
  whole : Nat
  fraction? : Option (List Char)
  exponent? : Option (List Char)
  deriving DecidableEq, Repr

namespace Json.Number

/-- The number as a natural number, if it is written as one. -/
def toNat? (n : Number) : Option Nat :=
  if !n.negative && n.fraction?.isNone && n.exponent?.isNone then some n.whole else none

/-- A natural number. -/
def ofNat (n : Nat) : Number := ⟨false, n, none, none⟩

end Json.Number

/-- A JSON value. -/
inductive Json where
  | null
  | bool (b : Bool)
  | number (n : Json.Number)
  | string (s : String)
  | array (items : List Json)
  | object (members : List (String × Json))
  deriving Repr, Inhabited

namespace Json

/-- A natural number as a value. -/
def nat (n : Nat) : Json := .number (.ofNat n)

/-- The members of an object under a name. -/
def membersNamed (name : String) : Json → List Json
  | object members => (members.filter (·.1 == name)).map (·.2)
  | _ => []

/-- The last member of an object under a name. -/
def get? (value : Json) (name : String) : Option Json :=
  (value.membersNamed name).getLast?

end Json

end FlightLink
