/-!
# JSON values

A JSON text as it is read: the fields of an object in their order, with the repeated ones. A number is an unsigned or a
negative integer or, with a fraction, an exponent or too many digits, the text of a float.
-/

inductive JsonNumber where
  | posInt (n : Nat)
  | negInt (n : Int)
  | float (text : String)
  deriving DecidableEq, Repr

inductive Json where
  | null
  | bool (b : Bool)
  | number (n : JsonNumber)
  | string (s : String)
  | array (values : List Json)
  | object (fields : List (String × Json))
  deriving Repr

namespace Json

/-- The value under a name in an object; of repeated ones the last. -/
def get (key : String) : Json → Option Json
  | object fields => (fields.reverse.find? fun field => field.1 = key).map Prod.snd
  | _ => none

def asU64 : Json → Option Nat
  | number (.posInt n) => some n
  | _ => none

end Json
