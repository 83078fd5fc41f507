/-!
# TOML values

The tree that a TOML document stands for.

## Main Definitions

* `Toml.Value`: a value; a document is a table.
* `Toml.Value.fits`: whether every integer can be written.
-/

namespace GuestSupervisor.Toml

/-- A value. Floating-point numbers and dates keep their text: nothing in this
library computes with them. -/
inductive Value where
  | string (text : String)
  | integer (value : Int)
  | float (text : String)
  | boolean (value : Bool)
  | datetime (text : String)
  | array (items : List Value)
  | table (entries : List (String × Value))
  deriving Repr, Inhabited

/-- Whether an integer lies in the range of sixty-four bits with sign. -/
def inRange (n : Int) : Bool := -(Nat.pow 2 63 : Int) ≤ n && n < (Nat.pow 2 63 : Int)

namespace Value

mutual

/-- Whether every integer in a tree is in range. -/
def fits : Value → Bool
  | integer n => inRange n
  | array items => allFit items
  | table entries => entriesFit entries
  | _ => true

/-- Whether every integer in a list of trees is in range. -/
def allFit : List Value → Bool
  | [] => true
  | item :: rest => item.fits && allFit rest

/-- Whether every integer in a table's entries is in range. -/
def entriesFit : List (String × Value) → Bool
  | [] => true
  | (_, value) :: rest => value.fits && entriesFit rest

end

/-- Whether a value is a table. -/
def isTable : Value → Bool
  | table _ => true
  | _ => false

end Value

end GuestSupervisor.Toml
