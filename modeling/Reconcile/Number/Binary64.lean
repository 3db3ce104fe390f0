/-!
# Finite binary64 values

The floating-point numbers of JSON and YAML texts, with the rounding that their readers need.

* `Binary64` — a sign and a canonical pair of significand and exponent.
* `Binary64.nearest?` — the value nearest to a quotient, ties to the even significand;
  nothing when it is beyond the largest finite value.
* `Binary64.mul?`, `Binary64.div?` — the rounded product and quotient.
* `Binary64.ofDecimal?` — the value nearest to `digits * 10 ^ power`.
* `Binary64.compare` — the order of the values; the two zeros are equal.

Left out: infinities and other values that are not finite. JSON has none, and `Yaml.Real` adds
them.
-/

namespace Reconcile

/-- The pairs that stand for one value each: 53 bits, the first of them set unless the
exponent is the least one. -/
def Binary64.Canonical (significand : Nat) (exponent : Int) : Prop :=
  significand < 1 <<< 53 ∧ -1074 ≤ exponent ∧ exponent ≤ 971 ∧
    (1 <<< 52 ≤ significand ∨ exponent = -1074)

instance (m : Nat) (q : Int) : Decidable (Binary64.Canonical m q) := by
  unfold Binary64.Canonical; infer_instance

/-- A finite binary64 value, `significand * 2 ^ exponent` with a sign. -/
structure Binary64 where
  negative : Bool
  significand : Nat
  exponent : Int
  canonical : Binary64.Canonical significand exponent
  deriving DecidableEq

namespace Binary64

/-- Zero with a sign. -/
def zero (negative : Bool) : Binary64 :=
  ⟨negative, 0, -1074, by decide⟩

/-- Whether the value is one of the zeros. -/
def isZero (x : Binary64) : Bool :=
  x.significand == 0

/-- The value with the opposite sign. -/
def neg (x : Binary64) : Binary64 :=
  { x with negative := !x.negative }

/-- The integer nearest to `num / den`; a half goes to the even neighbour. -/
def roundQuotient (num den : Nat) : Nat :=
  let q := num / den
  let r := num % den
  if 2 * r < den then q
  else if 2 * r > den then q + 1
  else if q % 2 == 0 then q else q + 1

/-- `num / den` scaled by `2 ^ (-shift)`, as a quotient of naturals. -/
def scaled (num den : Nat) (shift : Int) : Nat × Nat :=
  (num <<< (-shift).toNat, den <<< shift.toNat)

/-- The integer part of the binary logarithm of `num / den`, for positive `num` and `den`. -/
def floorLog2 (num den : Nat) : Int :=
  let e : Int := (Nat.log2 num : Int) - Nat.log2 den
  let s := scaled num den e
  if s.1 < s.2 then e - 1 else e

/-- The value nearest to `num / den`, ties to even. -/
def nearest? (negative : Bool) (num den : Nat) : Option Binary64 :=
  if num = 0 then some (zero negative)
  else
    let q := max (floorLog2 num den - 52) (-1074)
    let s := scaled num den q
    let m := roundQuotient s.1 s.2
    let (m, q) := if m = 1 <<< 53 then (1 <<< 52, q + 1) else (m, q)
    if h : Canonical m q then some ⟨negative, m, q, h⟩ else none

/-- The magnitude as a quotient of naturals. -/
def magnitude (x : Binary64) : Nat × Nat :=
  scaled x.significand 1 (-x.exponent)

/-- The rounded product. -/
def mul? (x y : Binary64) : Option Binary64 :=
  let a := x.magnitude
  let b := y.magnitude
  nearest? (x.negative != y.negative) (a.1 * b.1) (a.2 * b.2)

/-- The rounded quotient by a value other than zero. -/
def div? (x y : Binary64) : Option Binary64 :=
  let a := x.magnitude
  let b := y.magnitude
  nearest? (x.negative != y.negative) (a.1 * b.2) (a.2 * b.1)

/-- The value nearest to a natural number. -/
def ofNat? (n : Nat) : Option Binary64 :=
  nearest? false n 1

/-- The value nearest to `digits * 10 ^ power`. The first two cases keep the powers small: what
has more than 400 places before the point is too large, and what starts 400 places after it
is nearest to zero. -/
def ofDecimal? (negative : Bool) (digits : Nat) (power : Int) : Option Binary64 :=
  let places : Int := (Nat.log2 digits : Int) / 3 + 1
  if digits = 0 then some (zero negative)
  else if power > 400 then none
  else if places + power < -400 then some (zero negative)
  else nearest? negative (digits * Nat.pow 10 power.toNat) (Nat.pow 10 (-power).toNat)

/-- The order of the values. -/
def compare (x y : Binary64) : Ordering :=
  let a := x.magnitude
  let b := y.magnitude
  let left : Int := if x.negative then -(a.1 * b.2 : Nat) else (a.1 * b.2 : Nat)
  let right : Int := if y.negative then -(b.1 * a.2 : Nat) else (b.1 * a.2 : Nat)
  Ord.compare left right

/-- Equality of the values; the two zeros are equal. -/
def sameValue (x y : Binary64) : Bool :=
  x.compare y == .eq

instance : Inhabited Binary64 := ⟨zero false⟩

end Binary64

end Reconcile
