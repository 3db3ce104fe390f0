import Reconcile.Text.Base64

/-!
# Base64 read back

* `value?_digit` — the value of a digit is the number that it is for.
* `decodeChars?_group` — four digits are three bytes.
* `decode?_encode` — bytes are read back from their digits.
-/

namespace Reconcile.Text.Base64

/-- **The value of a digit** is the number that it is for, and no digit fills up. -/
theorem value?_digit : ∀ n < 64, value? (digit n) = some n ∧ digit n ≠ '=' := by
  decide

section Digits

variable {n : Nat}

theorem value?_digit_of_lt (hn : n < 64) : value? (digit n) = some n :=
  (value?_digit n hn).1

theorem digit_ne (hn : n < 64) : digit n ≠ '=' :=
  (value?_digit n hn).2

/-- Two digits and what fills them up are one byte. -/
theorem decodeChars?_one {w x : Nat} (hw : w < 64) (hx : x < 64) (h : (w * 64 + x) % 16 = 0) :
    decodeChars? [digit w, digit x, '=', '='] = some [UInt8.ofNat ((w * 64 + x) / 16)] := by
  simp only [decodeChars?, value?_digit_of_lt hw, value?_digit_of_lt hx]
  exact if_pos h

/-- Three digits and what fills them up are two bytes. -/
theorem decodeChars?_two {w x y : Nat} (hw : w < 64) (hx : x < 64) (hy : y < 64)
    (h : ((w * 64 + x) * 64 + y) % 4 = 0) :
    decodeChars? [digit w, digit x, digit y, '='] =
      some [UInt8.ofNat (((w * 64 + x) * 64 + y) / 1024),
        UInt8.ofNat (((w * 64 + x) * 64 + y) / 4 % 256)] := by
  rw [decodeChars?]
  · simp only [value?_digit_of_lt hw, value?_digit_of_lt hx, value?_digit_of_lt hy]
    exact if_pos h
  · exact digit_ne hy

/-- **Four digits are three bytes**, whatever follows. -/
theorem decodeChars?_group {w x y z : Nat} (hw : w < 64) (hx : x < 64) (hy : y < 64) (hz : z < 64)
    (rest : List Char) :
    decodeChars? (digit w :: digit x :: digit y :: digit z :: rest) =
      (decodeChars? rest).map fun bs =>
        UInt8.ofNat ((((w * 64 + x) * 64 + y) * 64 + z) / 65536) ::
          UInt8.ofNat ((((w * 64 + x) * 64 + y) * 64 + z) / 256 % 256) ::
            UInt8.ofNat ((((w * 64 + x) * 64 + y) * 64 + z) % 256) :: bs := by
  rw [decodeChars?]
  · simp only [value?_digit_of_lt hw, value?_digit_of_lt hx, value?_digit_of_lt hy,
      value?_digit_of_lt hz]
    cases decodeChars? rest <;> rfl
  · exact fun _ hz' _ => digit_ne hz hz'
  · exact fun hz' _ => digit_ne hz hz'

end Digits

/-- **Bytes are read back from their digits.** -/
theorem decodeChars?_encodeChars (bs : List UInt8) : decodeChars? (encodeChars bs) = some bs := by
  have hbyte : ∀ {n : Nat} (b : UInt8), n = b.toNat → UInt8.ofNat n = b := by
    rintro n b rfl
    exact UInt8.ofNat_toNat
  fun_induction encodeChars bs with
  | case1 => rfl
  | case2 a n =>
    have ha := a.toNat_lt
    rw [decodeChars?_one (by omega) (by omega) (by omega), hbyte a (by omega)]
  | case3 a b n =>
    have ha := a.toNat_lt
    have hb := b.toNat_lt
    rw [decodeChars?_two (by omega) (by omega) (by omega) (by omega), hbyte a (by omega),
      hbyte b (by omega)]
  | case4 a b c rest n ih =>
    have ha := a.toNat_lt
    have hb := b.toNat_lt
    have hc := c.toNat_lt
    rw [decodeChars?_group (by omega) (by omega) (by omega) (by omega), ih, Option.map_some,
      hbyte a (by omega), hbyte b (by omega), hbyte c (by omega)]

/-- **Bytes are read back from the text of their digits.** -/
theorem decode?_encode (bs : List UInt8) : decode? (encode bs) = some bs := by
  rw [decode?, encode, String.toList_ofList, decodeChars?_encodeChars]

end Reconcile.Text.Base64
