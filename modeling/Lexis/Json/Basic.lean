/-!
# JSON — values

The JSON values that a dump is made of: integers, texts, arrays, and objects with their fields in
order.
-/

namespace Lexis

/-- A JSON value. -/
inductive Json where
  | number (n : Int)
  | string (text : String)
  | array (items : List Json)
  | object (fields : List (String × Json))
  deriving Repr

end Lexis
