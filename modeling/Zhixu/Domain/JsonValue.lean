import Zhixu.Domain.Text
import Zhixu.Framework.Effect
import Zhixu.Framework.JsonDump

/-!
# Reading a JSON value

What the code does with a value that `json.loads` gave it: subscripts, `dict.get`, iteration, and the
conversions `str(…)`, `int(…)` and the truth of a value. All of them are total on `Json` and raise
where Python does.

The text of a list, an object or a number with a fraction, and the integer that a string or such a
number is converted to, are the business of the interpreter: `Coercions` has them as functions that
nothing is assumed of.
-/

open Framework

namespace Zhixu

/-- The conversions of the interpreter that are not modelled. -/
structure Coercions where
  /-- `str` of a list, an object or a number with a fraction -/
  repr : Json → String
  /-- `int` of a string or a number with a fraction -/
  int : Json → Except PyError Int
  /-- a number with a fraction is not zero -/
  nonzero : List Char → Bool

namespace Coercions

variable (coercions : Coercions)

/-- `str(value)`. -/
def text : Json → String
  | .str value => value
  | .int value => toString value
  | .bool true => "True"
  | .bool false => "False"
  | .null => "None"
  | value => coercions.repr value

/-- `int(value)`. -/
def integer : Json → Except PyError Int
  | .int value => .ok value
  | .bool value => .ok (if value = true then 1 else 0)
  | .str value => coercions.int (.str value)
  | .float value => coercions.int (.float value)
  | .null | .arr _ | .obj _ => .error .external

/-- The truth of a value. -/
def truth : Json → Bool
  | .null => false
  | .bool value => value
  | .int value => value ≠ 0
  | .float value => coercions.nonzero value
  | .str value => value ≠ ""
  | .arr items => !items.isEmpty
  | .obj members => !members.isEmpty

/-- `str(value or default)`, of a value that may be absent. -/
def textOr (value : Option Json) (default : String) : String :=
  match value with
  | none => default
  | some value => if coercions.truth value = true then coercions.text value else default

end Coercions

/-- `json.loads(text)`. -/
def jsonLoads (text : List Char) : Except PyError Json :=
  match Json.loads text with
  | none => .error .value
  | some value => .ok value

theorem jsonLoads_dumps {value : Json} (h : Json.Exact value) :
    jsonLoads (Json.dumps value) = .ok value := by
  unfold jsonLoads
  rw [Json.loads_dumps h]

/-- `value`, when it is a `dict`. -/
def objectOf : Json → Option (List (String × Json))
  | .obj members => some members
  | _ => none

/-- `value[key]`. -/
def subscript (members : List (String × Json)) (key : String) : Except PyError Json :=
  match Json.get? members key with
  | none => .error .external
  | some value => .ok value

/-- `value[index]`. -/
def element (value : Json) (index : ℕ) : Except PyError Json :=
  match value with
  | .arr items => (items[index]?).elim (.error .external) .ok
  | .str text => (text.toList[index]?).elim (.error .external) fun c => .ok (.str c.toString)
  | _ => .error .external

/-- `len(value)`. -/
def size : Json → Except PyError ℕ
  | .arr items => .ok items.length
  | .obj members => .ok members.length
  | .str text => .ok text.length
  | _ => .error .external

/-- `for item in value`. -/
def iterated : Json → Except PyError (List Json)
  | .arr items => .ok items
  | .obj members => .ok (members.map fun member => .str member.1)
  | .str text => .ok (text.toList.map fun c => .str c.toString)
  | _ => .error .external

/-- `for item in value.get(key, [])`. -/
def iteratedMember (members : List (String × Json)) (key : String) : Except PyError (List Json) :=
  match Json.get? members key with
  | none => .ok []
  | some value => iterated value

end Zhixu
