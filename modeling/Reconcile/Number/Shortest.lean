import Reconcile.Number.Binary64

/-!
# Shortest decimal text of a binary64 value

How the program spells floating-point numbers, in JSON texts and in messages.

* `Decimal` — digits and a power of ten.
* `Binary64.readsBack` — whether a decimal lies among the reals that round to a value.
* `Binary64.shortest` — the decimal with the fewest digits that reads back; of those the
  nearest, and of two equally near ones the even one.
* `Binary64.text` — its written form: positional for decimal exponents from -5 to 15, with
  `.0` after a whole number, and with a signed exponent elsewhere (`1e-7`, `1.5e+16`).
-/

namespace Reconcile

/-- `digits * 10 ^ power`. -/
structure Decimal where
  digits : Nat
  power : Int
  deriving DecidableEq, Repr

namespace Binary64

/-- Compares `a * 10 ^ i` with `n * 2 ^ j`. -/
def compareScaled (a : Nat) (i : Int) (n : Nat) (j : Int) : Ordering :=
  Ord.compare ((a * Nat.pow 10 i.toNat) <<< (-j).toNat) ((n <<< j.toNat) * Nat.pow 10 (-i).toNat)

/-- Whether the neighbour below is half as far away as the neighbour above. -/
def narrowBelow (x : Binary64) : Bool :=
  x.significand == 1 <<< 52 && x.exponent > -1074

/-- Whether a decimal lies among the reals that round to the magnitude of a value. The ends of
that interval belong to it when the significand is even. -/
def readsBack (x : Binary64) (d : Decimal) : Bool :=
  let low := if x.narrowBelow then 4 * x.significand - 1 else 4 * x.significand - 2
  let high := 4 * x.significand + 2
  let closed := x.significand % 2 == 0
  let below := compareScaled d.digits d.power low (x.exponent - 2)
  let above := compareScaled d.digits d.power high (x.exponent - 2)
  (below == .gt || (closed && below == .eq)) && (above == .lt || (closed && above == .eq))

/-- The least number of places before the point of the magnitude, negative when zeros follow
the point; the logarithm gives an estimate from below, and a step or two correct it. -/
def places (x : Binary64) : Int :=
  let estimate := ((Nat.log2 x.significand : Int) + x.exponent) * 30103 / 100000
  let fits (k : Int) : Bool := compareScaled 1 k x.significand x.exponent == .gt
  ([estimate - 1, estimate, estimate + 1, estimate + 2].find? fits).getD (estimate + 3)

/-- The decimal with `n` digits that reads back and is nearest, if there is one. -/
def withDigits? (x : Binary64) (n : Nat) : Option Decimal :=
  let power := x.places - (n : Int)
  let value := scaled x.significand 1 (-x.exponent)
  let num := value.1 * Nat.pow 10 (-power).toNat
  let den := value.2 * Nat.pow 10 power.toNat
  let low := num / den
  let nearer := Ord.compare (2 * (num % den)) den
  let lowOk := x.readsBack ⟨low, power⟩
  let highOk := x.readsBack ⟨low + 1, power⟩
  match lowOk, highOk with
  | true, true =>
    match nearer with
    | .lt => some ⟨low, power⟩
    | .gt => some ⟨low + 1, power⟩
    | .eq => some ⟨if low % 2 == 0 then low else low + 1, power⟩
  | true, false => some ⟨low, power⟩
  | false, true => some ⟨low + 1, power⟩
  | false, false => none

/-- A decimal whose last digit is not zero, with the same value. -/
def dropZeros : Nat → Decimal → Decimal
  | 0, d => d
  | n + 1, d =>
    if d.digits % 10 == 0 && d.digits != 0 then dropZeros n ⟨d.digits / 10, d.power + 1⟩ else d

/-- The exact decimal of the magnitude. -/
def exactDecimal (x : Binary64) : Decimal :=
  if 0 ≤ x.exponent then ⟨x.significand <<< x.exponent.toNat, 0⟩
  else ⟨x.significand * Nat.pow 5 (-x.exponent).toNat, x.exponent⟩

/-- The shortest decimal that reads back. Seventeen digits are always enough. -/
def shortest (x : Binary64) : Decimal :=
  if x.isZero then ⟨0, 0⟩
  else
    let found := ((List.range 17).map (· + 1)).findSome? x.withDigits?
    dropZeros 20 (found.getD x.exactDecimal)

/-- Digits with a point after `before` of them; zeros fill up on either side. -/
def positional (digits : List Char) (before : Int) : List Char :=
  if before ≤ 0 then
    '0' :: '.' :: (List.replicate (-before).toNat '0' ++ digits)
  else
    let n := before.toNat
    let whole := digits.take n ++ List.replicate (n - digits.length) '0'
    let rest := digits.drop n
    whole ++ '.' :: (if rest.isEmpty then ['0'] else rest)

/-- Digits with a point after the first, and the exponent with its sign. -/
def scientific (digits : List Char) (exponent : Int) : List Char :=
  let mantissa :=
    match digits with
    | d :: rest@(_ :: _) => d :: '.' :: rest
    | ds => ds
  let sign := if exponent < 0 then '-' else '+'
  mantissa ++ 'e' :: sign :: (toString exponent.natAbs).toList

/-- The written form of a value. -/
def text (x : Binary64) : String :=
  let d := x.shortest
  let digits := (toString d.digits).toList
  let exponent : Int := d.power + digits.length - 1
  let body :=
    if x.isZero then ['0', '.', '0']
    else if -5 ≤ exponent && exponent ≤ 15 then positional digits (exponent + 1)
    else scientific digits exponent
  String.ofList (if x.negative then '-' :: body else body)

/-- The written form without an exponent, whatever the size. -/
def plainText (x : Binary64) : String :=
  let d := x.shortest
  let digits := (toString d.digits).toList
  let body :=
    if x.isZero then ['0', '.', '0'] else positional digits (d.power + digits.length)
  String.ofList (if x.negative then '-' :: body else body)

end Binary64

end Reconcile
