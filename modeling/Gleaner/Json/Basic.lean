import Gleaner.Decimal.Binary64
import Gleaner.Dictionary

set_option autoImplicit false

/-! # JSON values

Rules, options, configurations and results are JSON values. Numbers are integers of the machine
range, everything else a finite binary64 number; `1` and `1.0` are different values.

A value as it is written may list the members of an object in any order and a key more than once. All
other values list them in the order of their keys, each key once: `Json.object` and `Json.arrange`
build such lists, and `Json.Ordered` says that a value has no others, at any depth. -/

namespace Gleaner

/-- A JSON number. -/
inductive Json.Number where
  /-- An integer between the least signed and the greatest unsigned 64-bit integer. -/
  | int (value : Int) (inRange : -0x8000000000000000 ≤ value ∧ value < 0x10000000000000000)
  | float (value : Binary64)
  deriving DecidableEq

/-- A JSON value. -/
inductive Json where
  | null
  | bool (value : Bool)
  | num (value : Json.Number)
  | str (value : String)
  | arr (items : List Json)
  | obj (members : List (String × Json))

namespace Json

instance : Inhabited Json := ⟨null⟩

/-! ## Equality -/

mutual

/-- Decides equality of values. -/
def decEq : (a b : Json) → Decidable (a = b)
  | null, null => isTrue rfl
  | bool a, bool b => if h : a = b then isTrue (h ▸ rfl) else isFalse (by simp [h])
  | num a, num b => if h : a = b then isTrue (h ▸ rfl) else isFalse (by simp [h])
  | str a, str b => if h : a = b then isTrue (h ▸ rfl) else isFalse (by simp [h])
  | arr a, arr b => match decEqItems a b with
    | isTrue h => isTrue (h ▸ rfl)
    | isFalse h => isFalse (by simp [h])
  | obj a, obj b => match decEqMembers a b with
    | isTrue h => isTrue (h ▸ rfl)
    | isFalse h => isFalse (by simp [h])
  | null, bool _ | null, num _ | null, str _ | null, arr _ | null, obj _
  | bool _, null | bool _, num _ | bool _, str _ | bool _, arr _ | bool _, obj _
  | num _, null | num _, bool _ | num _, str _ | num _, arr _ | num _, obj _
  | str _, null | str _, bool _ | str _, num _ | str _, arr _ | str _, obj _
  | arr _, null | arr _, bool _ | arr _, num _ | arr _, str _ | arr _, obj _
  | obj _, null | obj _, bool _ | obj _, num _ | obj _, str _ | obj _, arr _ =>
    isFalse (by simp)

/-- Decides equality of item lists. -/
def decEqItems : (a b : List Json) → Decidable (a = b)
  | [], [] => isTrue rfl
  | [], _ :: _ | _ :: _, [] => isFalse (by simp)
  | a :: as, b :: bs => match decEq a b, decEqItems as bs with
    | isTrue h, isTrue hs => isTrue (by rw [h, hs])
    | isFalse h, _ => isFalse (by simp [h])
    | _, isFalse hs => isFalse (by simp [hs])

/-- Decides equality of member lists. -/
def decEqMembers : (a b : List (String × Json)) → Decidable (a = b)
  | [], [] => isTrue rfl
  | [], _ :: _ | _ :: _, [] => isFalse (by simp)
  | (k, a) :: as, (l, b) :: bs =>
    if hk : k = l then
      match decEq a b, decEqMembers as bs with
      | isTrue h, isTrue hs => isTrue (by rw [hk, h, hs])
      | isFalse h, _ => isFalse (by simp [h])
      | _, isFalse hs => isFalse (by simp [hs])
    else isFalse (by simp [hk])

end

instance : DecidableEq Json := decEq

/-! ## Building -/

/-- A natural number of the unsigned 64-bit range. -/
def ofUInt64 (n : UInt64) : Json :=
  num (.int n.toNat ⟨by have := n.toNat_lt; omega, by have := n.toNat_lt; omega⟩)

/-- An integer, if it is in range. -/
def ofInt? (n : Int) : Option Json :=
  if h : -0x8000000000000000 ≤ n ∧ n < 0x10000000000000000 then some (num (.int n h)) else none

/-- A text, or null in its absence. -/
def ofText? (text : Option String) : Json := (text.map str).getD null

/-- The object with the given members; the last value of a key stays. -/
def object (members : List (String × Json)) : Json := obj (Entries.ofList members)

/-- The entries of a dictionary as the members of an object. -/
def ofDictionary (d : Dictionary String) : Json := obj (d.entries.map fun (k, v) => (k, str v))

/-! ## Ordered values -/

mutual

/-- The value with the members of every object in the order of their keys; the last value of a key
stays. -/
def arrange : Json → Json
  | arr items => arr (arrangeItems items)
  | obj members => object (arrangeMembers members)
  | v => v

/-- Arranges every item. -/
def arrangeItems : List Json → List Json
  | [] => []
  | item :: rest => arrange item :: arrangeItems rest

/-- Arranges every member's value. -/
def arrangeMembers : List (String × Json) → List (String × Json)
  | [] => []
  | (key, value) :: rest => (key, arrange value) :: arrangeMembers rest

end

mutual

/-- The keys of every object in the value ascend. -/
def Ordered : Json → Prop
  | arr items => OrderedItems items
  | obj members => Entries.Ordered members ∧ OrderedMembers members
  | _ => True

/-- Every item is ordered. -/
def OrderedItems : List Json → Prop
  | [] => True
  | item :: rest => Ordered item ∧ OrderedItems rest

/-- Every member's value is ordered. -/
def OrderedMembers : List (String × Json) → Prop
  | [] => True
  | (_, value) :: rest => Ordered value ∧ OrderedMembers rest

end

/-! ## Truth -/

/-- The number is one of the zeros. -/
def Number.isZero : Number → Bool
  | .int n _ => n == 0
  | .float x => x.isZero

/-- Null, false, the zeros and the empty text are false; everything else is true. -/
def isTruthy : Json → Bool
  | null => false
  | bool b => b
  | num n => !n.isZero
  | str s => !s.isEmpty
  | arr _ | obj _ => true

end Json

end Gleaner
