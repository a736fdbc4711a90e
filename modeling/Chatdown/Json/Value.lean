import Chatdown.Json.Binary64

/-!
# JSON values

The members of an object are kept in order, repeated keys included. Integers are those of 64 bits;
all other numbers are floating point.
-/

namespace Chatdown

inductive Json where
  | null
  | bool (value : Bool)
  | integer (value : Int)
  | float (negative : Bool) (magnitude : Json.Binary64)
  | string (value : Text)
  | array (elements : List Json)
  | object (members : List (Text × Json))
  deriving Repr

end Chatdown
