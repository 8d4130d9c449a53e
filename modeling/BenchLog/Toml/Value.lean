/-!
# TOML values

What a settings file holds once its tables are put together.
-/

namespace BenchLog.Toml

/-- A TOML value. Keys of a table are distinct. -/
inductive Value where
  | text (value : String)
  | integer (value : Int)
  | float (value : Float)
  | bool (value : Bool)
  /-- A date, a time or both, as it is written. -/
  | moment (written : String)
  | array (items : List Value)
  | table (members : List (String × Value))

namespace Value

/-- The text, if it is one. -/
def text? : Value → Option String
  | .text value => some value
  | _ => none

/-- The integer, if it is one. -/
def integer? : Value → Option Int
  | .integer value => some value
  | _ => none

/-- The truth value, if it is one. -/
def bool? : Value → Option Bool
  | .bool value => some value
  | _ => none

/-- The number, if it is one; an integer counts as a floating-point number. -/
def float? : Value → Option Float
  | .float value => some value
  | .integer value => some (Float.ofInt value)
  | _ => none

/-- The items, if it is an array. -/
def items? : Value → Option (List Value)
  | .array items => some items
  | _ => none

end Value

end BenchLog.Toml
