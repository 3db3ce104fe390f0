import Mathlib.Data.List.Basic
import Reconcile.Json.Draft
import Reconcile.Json.Writing

/-!
# Strings and numbers read back

The reader of JSON texts inverts the writer on strings and integers.

* `readString_escaped` — a written character; `readString_quoted` — a written string.
* `spanDigits_digits`, `sumDigits_eq` — digits taken off a text, and their sum.
* `toList_toString` — how an integer is written; `readNumber_toDigits` — the number of some digits.
* `Literal.ofInt`, `number?_ofInt` — the value of a written integer.
-/

namespace Reconcile.Json

/-! ## Strings -/

theorem hexValue?_hexDigitLower : ∀ d < 16, Text.hexValue? (Text.hexDigitLower d) = some d := by
  decide

/-- The escape of a control character stands for it. -/
theorem readUnicodeEscape_control {c : Char} (hc : c.toNat < 0x20) (rest : List Char) :
    readUnicodeEscape ('0' :: '0' :: Text.hexDigitLower (c.toNat / 16) ::
      Text.hexDigitLower (c.toNat % 16) :: rest) = .ok (some c, rest) := by
  have hzero : Text.hexValue? '0' = some 0 := by decide
  have hhigh := hexValue?_hexDigitLower (c.toNat / 16) (by omega)
  have hlow := hexValue?_hexDigitLower (c.toNat % 16) (by omega)
  have hvalue : ((0 * 16 + 0) * 16 + c.toNat / 16) * 16 + c.toNat % 16 = c.toNat := by omega
  have hhex : readHex4 ('0' :: '0' :: Text.hexDigitLower (c.toNat / 16) ::
      Text.hexDigitLower (c.toNat % 16) :: rest) = .ok (c.toNat, rest) := by
    simp only [readHex4, hzero, hhigh, hlow, hvalue]
  have hsurrogate : (0xDC00 ≤ c.toNat && c.toNat ≤ 0xDFFF) = false ∧
      (0xD800 ≤ c.toNat && c.toNat ≤ 0xDBFF) = false := by
    simp only [Bool.and_eq_false_iff, decide_eq_false_iff_not]
    omega
  rw [readUnicodeEscape, hhex]
  show (if 0xDC00 ≤ c.toNat && c.toNat ≤ 0xDFFF then _ else _) = _
  rw [if_neg (by simp [hsurrogate.1]), if_neg (by simp [hsurrogate.2]), Char.ofNat_toNat]
  rfl

theorem readString_unicode (fuel : Nat) (soFar : List Char) {cs rest : List Char} {c : Char}
    (h : readUnicodeEscape cs = .ok (some c, rest)) :
    readString (fuel + 1) (some soFar) ('\\' :: 'u' :: cs) =
      readString fuel (some (c :: soFar)) rest := by
  have hquote : ('\\' == '"') = false := by decide
  rw [readString]
  simp only [hquote, Bool.false_eq_true, if_false, beq_self_eq_true, if_true, h]
  rfl

/-- **A written character is read back.** -/
theorem readString_escaped (fuel : Nat) (soFar rest : List Char) (c : Char) :
    readString (fuel + 1) (some soFar) (escaped c ++ rest) =
      readString fuel (some (c :: soFar)) rest := by
  unfold escaped
  split
  · rfl
  · rfl
  · rfl
  · rfl
  · rfl
  · rfl
  · rfl
  · rename_i hquote hslash _ _ _ _ _
    split
    · rename_i hc
      exact readString_unicode fuel soFar (readUnicodeEscape_control hc rest)
    · rename_i hc
      have hq : (c == '"') = false := by simpa using hquote
      have hs : (c == '\\') = false := by simpa using hslash
      show readString (fuel + 1) (some soFar) (c :: rest) = _
      simp only [readString, hq, hs, Bool.false_eq_true, if_false, if_neg hc, Option.map_some]

/-- **A written string is read back.** -/
theorem readString_quoted {fuel : Nat} {cs : List Char} (h : cs.length < fuel)
    (soFar rest : List Char) :
    readString fuel (some soFar) (cs.flatMap escaped ++ '"' :: rest) =
      .ok (some (String.ofList (soFar.reverse ++ cs)), rest) := by
  induction cs generalizing fuel soFar with
  | nil =>
    obtain ⟨fuel, rfl⟩ : ∃ n, fuel = n + 1 := ⟨fuel - 1, by simp at h; omega⟩
    rw [List.append_nil]
    rfl
  | cons c cs ih =>
    obtain ⟨fuel, rfl⟩ : ∃ n, fuel = n + 1 := ⟨fuel - 1, by simp at h; omega⟩
    have hlength : cs.length < fuel := by simpa using h
    rw [List.flatMap_cons, List.append_assoc, readString_escaped, ih hlength, List.reverse_cons,
      List.append_assoc]
    rfl

/-- A string, and the quote that ends it. -/
theorem readString_toList {fuel : Nat} {s : String} (h : s.toList.length < fuel)
    (rest : List Char) :
    readString fuel (some []) (s.toList.flatMap escaped ++ '"' :: rest) = .ok (some s, rest) := by
  rw [readString_quoted h, List.reverse_nil, List.nil_append, String.ofList_toList]

theorem length_le_flatMap_escaped (cs : List Char) : cs.length ≤ (cs.flatMap escaped).length := by
  have hone : ∀ c, 1 ≤ (escaped c).length := by
    intro c
    unfold escaped
    split
    case h_8 => split <;> simp
    all_goals simp
  induction cs with
  | nil => simp
  | cons c cs ih =>
    have hc := hone c
    rw [List.flatMap_cons, List.length_append, List.length_cons]
    omega

/-! ## Digits -/

/-- The sum of digits, each ten times as much as the next one. -/
def sumOf (ds : List Nat) (sum : Nat) : Nat :=
  ds.foldl (fun s d => s * 10 + d) sum

theorem le_sumOf (ds : List Nat) (sum : Nat) : sum ≤ sumOf ds sum := by
  induction ds generalizing sum with
  | nil => exact Nat.le_refl _
  | cons d ds ih =>
    have h := ih (sum * 10 + d)
    show sum ≤ sumOf ds (sum * 10 + d)
    omega

/-- Digits whose sum fits are all counted. -/
theorem sumDigits_eq {ds : List Nat} {sum : Nat} (h : sumOf ds sum ≤ maxInteger) :
    sumDigits sum ds = (sumOf ds sum, 0) := by
  induction ds generalizing sum with
  | nil => rfl
  | cons d ds ih =>
    have hd : ¬ maxInteger < sum * 10 + d := by
      have hle : sum * 10 + d ≤ sumOf ds (sum * 10 + d) := le_sumOf ds _
      have hsum : sumOf ds (sum * 10 + d) ≤ maxInteger := h
      omega
    rw [sumDigits, if_neg hd]
    exact ih h

/-- The digits of a number. -/
def digitsOf (n : Nat) : List Nat :=
  (Nat.toDigits 10 n).map Text.digitValue

theorem sumOf_digitsOf (n : Nat) : sumOf (digitsOf n) 0 = n := by
  have h := Nat.ofDigitChars_toDigits (b := 10) (n := n) (by decide) (by decide)
  rw [Nat.ofDigitChars_eq_foldl] at h
  rw [sumOf, digitsOf, List.foldl_map]
  simpa only [Nat.mul_comm, Text.digitValue] using h

/-- The digits of a number do not begin with a zero, unless there is only one. -/
theorem digitsOf_cases (n : Nat) : ∃ d ds, digitsOf n = d :: ds ∧ (d = 0 → ds = []) := by
  induction n using Nat.strongRecOn with
  | _ n ih =>
    by_cases hn : n < 10
    · refine ⟨Text.digitValue n.digitChar, [], ?_, fun _ => rfl⟩
      rw [digitsOf, Nat.toDigits_of_lt_base hn]
      rfl
    · have hsplit : digitsOf n = digitsOf (n / 10) ++ [Text.digitValue (n % 10).digitChar] := by
        rw [digitsOf, Nat.toDigits_of_base_le (by decide) (by omega), List.map_append]
        rfl
      obtain ⟨d, ds, hd, hzero⟩ := ih (n / 10) (by omega)
      refine ⟨d, ds ++ [Text.digitValue (n % 10).digitChar], by rw [hsplit, hd]; rfl, ?_⟩
      -- a single zero would be the number below ten that is written so
      intro h
      have hsum := sumOf_digitsOf (n / 10)
      rw [hd, hzero h, h] at hsum
      have hten : 0 = n / 10 := hsum
      omega

theorem isDigit_of_mem_toDigits {n : Nat} {c : Char} (h : c ∈ Nat.toDigits 10 n) :
    Text.isDigit c = true :=
  Nat.isDigit_of_mem_toDigits (by decide) (by decide) h

theorem toDigits_eq_cons (n : Nat) :
    ∃ c t, Nat.toDigits 10 n = c :: t ∧ Text.isDigit c = true := by
  cases h : Nat.toDigits 10 n with
  | nil => exact absurd h Nat.toDigits_ne_nil
  | cons c t => exact ⟨c, t, rfl, isDigit_of_mem_toDigits (n := n) (by rw [h]; simp)⟩

/-- **The digits of a text are taken off it.** -/
theorem spanDigits_digits {cs : List Char} (hcs : ∀ c ∈ cs, Text.isDigit c = true) :
    spanDigits cs = (cs.map Text.digitValue, []) := by
  induction cs with
  | nil => rfl
  | cons c cs ih =>
    obtain ⟨hc, hcs⟩ := List.forall_mem_cons.mp hcs
    rw [spanDigits, hc, if_pos rfl, ih hcs]
    rfl

/-! ## Numbers -/

/-- An integer is written with its digits, and with a sign before them when it is negative. -/
theorem toList_toString (i : Int) :
    (toString i).toList =
      if i < 0 then '-' :: Nat.toDigits 10 i.natAbs else Nat.toDigits 10 i.natAbs := by
  rw [Int.toString_eq_repr, Int.repr_eq_if]
  by_cases hneg : i < 0
  · have hnat : (-i).toNat = i.natAbs := by omega
    rw [if_neg (by omega), if_pos hneg, String.toList_append, Nat.toList_repr, hnat]
    rfl
  · have hnat : i.toNat = i.natAbs := by omega
    rw [if_pos (by omega), if_neg hneg, Nat.toList_repr, hnat]

/-- **A written number is read back.** -/
theorem readNumber_toDigits (negative : Bool) (n : Nat) :
    readNumber negative (Nat.toDigits 10 n) =
      .ok ((Literal.mk negative (digitsOf n) [] none true).number?, []) := by
  have hspan : spanDigits (Nat.toDigits 10 n) = (digitsOf n, []) :=
    spanDigits_digits fun c hc => isDigit_of_mem_toDigits hc
  obtain ⟨d, ds, hd, hzero⟩ := digitsOf_cases n
  unfold readNumber
  rw [hspan, hd]
  cases d with
  | zero =>
    obtain rfl := hzero rfl
    rfl
  | succ d => rfl

theorem ofInt?_value (i : Integer) : Integer.ofInt? i.value = some i :=
  dif_pos i.fits

/-- A whole number whose digits all fit is the integer that they and the sign say. -/
theorem Literal.number?_of_whole {l : Literal} {n : Nat} {i : Integer} (hw : l.isWhole = true)
    (hs : sumDigits 0 l.whole = (n, 0)) (hzero : l.negative = true → n ≠ 0)
    (hi : i.value = if l.negative then -(n : Int) else n) : l.number? = some (.integer i) := by
  have hint := ofInt?_value i
  rw [hi] at hint
  rw [Literal.number?, hs]
  dsimp only
  rw [hw, if_neg (by simp)]
  cases hneg : l.negative with
  | false =>
    rw [hneg, if_neg (by simp)] at hint
    rw [if_pos (by simp), hint]
  | true =>
    rw [hneg, if_pos rfl] at hint
    have hn : ¬ (n == 0) = true := by simpa using hzero hneg
    rw [if_neg (by simp), if_neg hn, hint]

/-- The spelling of an integer: its sign and its digits. -/
def Literal.ofInt (i : Int) : Literal :=
  ⟨decide (i < 0), digitsOf i.natAbs, [], none, true⟩

/-- **The value of a written integer** that fits. -/
theorem number?_ofInt (i : Integer) : (Literal.ofInt i.value).number? = some (.integer i) := by
  obtain ⟨hlow, hhigh⟩ := i.fits
  have hlow' : -9223372036854775808 ≤ i.value := hlow
  have hhigh' : i.value < 18446744073709551616 := hhigh
  have hmax : i.value.natAbs ≤ maxInteger := by
    show i.value.natAbs ≤ 18446744073709551615
    omega
  refine Literal.number?_of_whole rfl ?_ ?_ ?_ (n := i.value.natAbs)
  · show sumDigits 0 (digitsOf i.value.natAbs) = _
    rw [sumDigits_eq (by rw [sumOf_digitsOf]; exact hmax), sumOf_digitsOf]
  · intro hneg
    have hneg : i.value < 0 := by simpa [Literal.ofInt] using hneg
    omega
  · by_cases hneg : i.value < 0
    · rw [if_pos (by simpa [Literal.ofInt] using hneg)]
      omega
    · rw [if_neg (by simpa [Literal.ofInt] using hneg)]
      omega

end Reconcile.Json
