import Mathlib.Algebra.GroupWithZero.Nat
import Mathlib.Data.Option.Basic
import Mathlib.Data.Rat.Defs

/-!
JSON values and the accessors that the route checks use. Reading a text is the
business of the JSON library; the fields of an object stand in the order of the
text, so a key may occur twice, and the last one is the one that
`serde_json::Value` keeps.
-/

namespace Liquifier

/-- `serde_json::Number`. -/
inductive JsonNumber where
  | posInt (n : ℕ)
  | negInt (n : ℤ)
  | float (x : ℚ)
  deriving DecidableEq

inductive Json where
  | null
  | bool (b : Bool)
  | number (n : JsonNumber)
  | string (s : String)
  | array (elems : List Json)
  | object (fields : List (String × Json))

namespace Json

/-- `value.get(key)`. -/
def get (key : String) : Json → Option Json
  | .object fields => fields.reverse.lookup key
  | _ => none

def asArray : Json → Option (List Json)
  | .array elems => some elems
  | _ => none

def asStr : Json → Option String
  | .string s => some s
  | _ => none

/-- A `u32` read from a number, as `Deserialize` does. -/
def asU32 : Json → Option ℕ
  | .number (.posInt n) => if n < 2 ^ 32 then some n else none
  | _ => none

/-- A `Vec` whose elements `f` reads. -/
def asVec {α : Type} (f : Json → Option α) (v : Json) : Option (List α) :=
  v.asArray.bind fun elems => elems.mapM f

/-- A field of a derived `Deserialize`, which refuses a key that occurs twice. -/
def uniqueField (fields : List (String × Json)) (key : String) : Option (Option Json) :=
  match fields.filter fun f => f.1 = key with
  | [] => some none
  | [f] => some (some f.2)
  | _ => none

end Json

end Liquifier
