import KernelBridge.Assoc
import KernelBridge.Word

/-! # JSON values

An object is an association list of its members. A number keeps whether it was written as an
integer: the integer `1` and the float `1.0` are different values.
-/
namespace KernelBridge.Json

inductive Number where
  | int (n : Int)
  | float (x : Float)
  deriving DecidableEq, Repr

inductive Value where
  | null
  | bool (b : Bool)
  | num (n : Number)
  | str (s : String)
  | arr (items : List Value)
  | obj (fields : List (String × Value))
  deriving Repr

abbrev Object := Assoc String Value

namespace Number

/-- Equality of numbers of one kind; floats are compared by value, so `0.0` equals `-0.0`. -/
def same : Number → Number → Bool
  | .int m, .int n => m == n
  | .float x, .float y => x == y
  | _, _ => false

def isZero : Number → Bool
  | .int n => n == 0
  | .float x => x == 0

end Number

namespace Value

def int (n : Int) : Value := .num (.int n)

def nat (n : Nat) : Value := .int n

def asString? : Value → Option String
  | .str s => some s
  | _ => none

def asList? : Value → Option (List Value)
  | .arr items => some items
  | _ => none

def asObject? : Value → Option Object
  | .obj fields => some fields
  | _ => none

def asInt64? : Value → Option Int
  | .num (.int n) => if Word.fitsInt64 n then some n else none
  | _ => none

def asUInt64? : Value → Option Nat
  | .num (.int n) => if Word.fitsUInt64 n then some n.toNat else none
  | _ => none

/-- The member of an object; no other value has members. -/
def member? (v : Value) (name : String) : Option Value := v.asObject?.bind (·.get? name)

/-- Everything but null, false, zero and what is empty. -/
def truthy : Value → Bool
  | .null => false
  | .bool b => b
  | .num n => !n.isZero
  | .str s => s ≠ ""
  | .arr items => !items.isEmpty
  | .obj fields => !fields.isEmpty

mutual

def same : Value → Value → Bool
  | .null, .null => true
  | .bool a, .bool b => a == b
  | .num m, .num n => m.same n
  | .str s, .str t => s == t
  | .arr items, .arr others => sameItems items others
  | .obj fields, .obj others => sameFields fields others
  | _, _ => false

def sameItems : List Value → List Value → Bool
  | [], [] => true
  | v :: items, w :: others => same v w && sameItems items others
  | _, _ => false

def sameFields : List (String × Value) → List (String × Value) → Bool
  | [], [] => true
  | (k, v) :: fields, (j, w) :: others => k == j && same v w && sameFields fields others
  | _, _ => false

end

@[simp] theorem asString?_str (s : String) : (str s).asString? = some s := rfl
@[simp] theorem asList?_arr (items : List Value) : (arr items).asList? = some items := rfl
@[simp] theorem asObject?_obj (fields : Object) : (obj fields).asObject? = some fields := rfl
@[simp] theorem member?_obj (fields : Object) (name : String) :
    (obj fields).member? name = fields.get? name := rfl

end Value

end KernelBridge.Json
