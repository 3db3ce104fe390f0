import Reconcile.Number.Shortest
import Reconcile.Table

/-!
# JSON values

Reference model of the JSON values of the program, `JsonValue`.

* `Integer` — the integers that fit 64 bits, with or without a sign.
* `Number` — such an integer, or a binary64 value; `1` and `1.0` differ.
* `Json` — a value. Objects read from a text have their entries in ascending order of the names.
* `Json.objectOf` — the object of some entries; a repeated name takes its last value.
* `Json.typeName` — the word for the kind of a value.
-/

namespace Reconcile

/-- The integers that fit 64 bits, with or without a sign. -/
structure Integer where
  value : Int
  fits : -(1 <<< 63 : Nat) ≤ value ∧ value < (1 <<< 64 : Nat)
  deriving DecidableEq

instance : Inhabited Integer := ⟨⟨0, by decide⟩⟩

/-- An integer that fits 64 bits. -/
def Integer.ofInt? (i : Int) : Option Integer :=
  if h : -(1 <<< 63 : Nat) ≤ i ∧ i < (1 <<< 64 : Nat) then some ⟨i, h⟩ else none

/-- A natural number that fits 64 bits. -/
def Integer.ofNat (n : Nat) (h : n < 1 <<< 64) : Integer where
  value := n
  fits := ⟨Int.le_trans (Int.neg_nonpos_of_nonneg (Int.natCast_nonneg _)) (Int.natCast_nonneg n),
    Int.ofNat_lt.mpr h⟩

/-- A number as JSON texts distinguish them. -/
inductive Number where
  | integer (i : Integer)
  | real (x : Binary64)
  deriving DecidableEq, Inhabited

/-- The written form of a number. -/
def Number.text : Number → String
  | .integer i => toString i.value
  | .real x => x.text

/-- A JSON value. -/
inductive Json where
  | null
  | bool (b : Bool)
  | number (n : Number)
  | string (s : String)
  | array (items : List Json)
  | object (entries : List (String × Json))
  deriving Inhabited

namespace Json

/-- The object of some entries; a repeated name takes its last value. -/
def objectOf (entries : List (String × Json)) : Json :=
  .object (entries.foldl (fun es e => Table.set e.1 e.2 es) [])

/-- The integer `n`, when it fits 64 bits, and else the real nearest to it. -/
def ofNat (n : Nat) : Json :=
  if h : n < 1 <<< 64 then .number (.integer (.ofNat n h))
  else .number (.real ((Binary64.ofNat? n).getD default))

/-- The word for the kind of a value. -/
def typeName : Json → String
  | null => "null"
  | bool _ => "bool"
  | number _ => "number"
  | string _ => "string"
  | array _ => "array"
  | object _ => "object"

mutual

/-- Decides equality of values. -/
def decEq : (a b : Json) → Decidable (a = b)
  | .null, .null => isTrue rfl
  | .bool a, .bool b => if h : a = b then isTrue (by rw [h]) else isFalse (by simp [h])
  | .number a, .number b => if h : a = b then isTrue (by rw [h]) else isFalse (by simp [h])
  | .string a, .string b => if h : a = b then isTrue (by rw [h]) else isFalse (by simp [h])
  | .array a, .array b =>
    match decEqItems a b with
    | isTrue h => isTrue (by rw [h])
    | isFalse h => isFalse (by simp [h])
  | .object a, .object b =>
    match decEqEntries a b with
    | isTrue h => isTrue (by rw [h])
    | isFalse h => isFalse (by simp [h])
  | .null, .bool _ | .null, .number _ | .null, .string _ | .null, .array _ | .null, .object _
  | .bool _, .null | .bool _, .number _ | .bool _, .string _ | .bool _, .array _
  | .bool _, .object _ | .number _, .null | .number _, .bool _ | .number _, .string _
  | .number _, .array _ | .number _, .object _ | .string _, .null | .string _, .bool _
  | .string _, .number _ | .string _, .array _ | .string _, .object _ | .array _, .null
  | .array _, .bool _ | .array _, .number _ | .array _, .string _ | .array _, .object _
  | .object _, .null | .object _, .bool _ | .object _, .number _ | .object _, .string _
  | .object _, .array _ => isFalse (by simp)

/-- Decides equality of the items of two arrays. -/
def decEqItems : (a b : List Json) → Decidable (a = b)
  | [], [] => isTrue rfl
  | [], _ :: _ | _ :: _, [] => isFalse (by simp)
  | x :: xs, y :: ys =>
    match decEq x y, decEqItems xs ys with
    | isTrue h, isTrue h' => isTrue (by rw [h, h'])
    | isFalse h, _ => isFalse (by simp [h])
    | _, isFalse h => isFalse (by simp [h])

/-- Decides equality of the entries of two objects. -/
def decEqEntries : (a b : List (String × Json)) → Decidable (a = b)
  | [], [] => isTrue rfl
  | [], _ :: _ | _ :: _, [] => isFalse (by simp)
  | (k, x) :: xs, (l, y) :: ys =>
    if hk : k = l then
      match decEq x y, decEqEntries xs ys with
      | isTrue h, isTrue h' => isTrue (by rw [hk, h, h'])
      | isFalse h, _ => isFalse (by simp [h])
      | _, isFalse h => isFalse (by simp [h])
    else isFalse (by simp [hk])

end

instance : DecidableEq Json := decEq

end Json

end Reconcile
