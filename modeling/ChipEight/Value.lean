import ChipEight.Decimal.Layout
import ChipEight.Text.Quoted

/-!
# Host values

What the host may hand to the machine where a key is expected: any value of its data format. Only
some whole numbers are keys, and a truth value counts as the number one or zero; every other value
is named in an error message by its literal.

## Main definitions

* `Value` — a value of the host
* `Value.int?` — the whole number that a value counts as
* `Value.literal` — the text that names a value
-/

namespace ChipEight

/-- A value of the host's data format. -/
inductive Value where
  | null
  | bool (b : Bool)
  | int (n : Int)
  | float (x : Float)
  | text (s : String)
  | list (items : List Value)
  | record (fields : List (String × Value))

namespace Value

/-- The whole number that a value counts as: a truth value is one or zero. -/
def int? : Value → Option Int
  | .int n => some n
  | .bool b => some (if b then 1 else 0)
  | _ => none

mutual

/-- The text that names a value. -/
def literal : Value → String
  | .null => "None"
  | .bool b => if b then "True" else "False"
  | .int n => toString n
  | .float x => Decimal.Layout.plain.float x
  | .text s => Text.quoted s
  | .list items => "[" ++ ", ".intercalate (literals items) ++ "]"
  | .record fields => "\x7b" ++ ", ".intercalate (fieldLiterals fields) ++ "\x7d"

/-- The literals of the items of a list. -/
def literals : List Value → List String
  | [] => []
  | v :: rest => literal v :: literals rest

/-- The literals of the fields of a record, each with its name. -/
def fieldLiterals : List (String × Value) → List String
  | [] => []
  | field :: rest => fieldLiteral field :: fieldLiterals rest

/-- The literal of one field of a record. -/
def fieldLiteral : String × Value → String
  | (name, v) => Text.quoted name ++ ": " ++ literal v

end

end Value

end ChipEight
