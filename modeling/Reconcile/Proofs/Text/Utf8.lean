import Reconcile.Proofs.Text.Percent

/-!
# Texts read back from their bytes

* `Utf8.next_of_lead` — a character of several bytes, from what its lead byte allows to follow.
* `Utf8.next_utf8EncodeChar` — a character is read back from its UTF-8 form, whatever follows.
* `Utf8.decode?_encode` — and so is a text.
-/

namespace Reconcile.Text.Utf8

section Bytes

variable {b : UInt8} {d value : Nat} {rest : List UInt8}

/-- A byte that goes on with a character. -/
def continuation (d : Nat) : UInt8 := UInt8.ofNat (d + 0x80)

theorem toNat_continuation (hd : d < 64) : (continuation d).toNat = d + 0x80 :=
  UInt8.toNat_ofNat_of_lt' (by show d + 0x80 < 256; omega)

theorem takeContinuation_continuation (n : Nat) (hd : d < 64) :
    takeContinuation (n + 1) value (continuation d :: rest) =
      takeContinuation n (value * 64 + d) rest := by
  have hb := toNat_continuation hd
  have hlow : (0x80 : UInt8) ≤ continuation d := UInt8.le_iff_toNat_le.mpr (by rw [hb]; simp)
  have hhigh : continuation d ≤ 0xBF :=
    UInt8.le_iff_toNat_le.mpr (by rw [hb]; show d + 0x80 ≤ 191; omega)
  rw [takeContinuation, hb, if_pos (by simp [hlow, hhigh]), Nat.add_sub_cancel]

/-- **A character of several bytes**, from what its lead byte allows to follow. -/
theorem next_of_lead {l : Lead} (hl : lead? b = some l) (hd : d < 64)
    (hlow : l.low.toNat ≤ d + 0x80) (hhigh : d + 0x80 ≤ l.high.toNat) :
    next b (continuation d :: rest) = takeContinuation l.further (l.bits * 64 + d) rest := by
  have hascii : ¬ b < 0x80 := by
    intro hlt
    have hlt : b.toNat < 0x80 := UInt8.lt_iff_toNat_lt.mp hlt
    have hnone : lead? b = none := by
      simp only [lead?]
      repeat rw [if_neg (by simp; omega)]
    rw [hl] at hnone
    cases hnone
  have hs := toNat_continuation hd
  have hwithin : (l.low ≤ continuation d && continuation d ≤ l.high) = true := by
    rw [Bool.and_eq_true, decide_eq_true_iff, decide_eq_true_iff, UInt8.le_iff_toNat_le,
      UInt8.le_iff_toNat_le, hs]
    exact ⟨hlow, hhigh⟩
  simp only [next, if_neg hascii, hl, hwithin, if_true, hs, Nat.add_sub_cancel]

end Bytes

/-! ## Lead bytes -/

section Leads

variable {n : Nat}

theorem lead?_two (hlow : 2 ≤ n) (hhigh : n < 32) :
    lead? (UInt8.ofNat (n + 0xC0)) = some ⟨n, 0x80, 0xBF, 0⟩ := by
  have hb : (UInt8.ofNat (n + 0xC0)).toNat = n + 0xC0 :=
    UInt8.toNat_ofNat_of_lt' (by show n + 0xC0 < 256; omega)
  simp only [lead?, hb, Nat.add_sub_cancel]
  rw [if_pos (by simp; omega)]

theorem lead?_three (hn : n < 16) (hzero : n ≠ 0) (hlast : n ≠ 13) :
    lead? (UInt8.ofNat (n + 0xE0)) = some ⟨n, 0x80, 0xBF, 1⟩ := by
  have hb : (UInt8.ofNat (n + 0xE0)).toNat = n + 0xE0 :=
    UInt8.toNat_ofNat_of_lt' (by show n + 0xE0 < 256; omega)
  simp only [lead?, hb, Nat.add_sub_cancel]
  rw [if_neg (by simp), if_neg (by simpa using hzero), if_neg (by simpa using hlast),
    if_pos (by simp; omega)]

theorem lead?_four (hzero : n ≠ 0) (hn : n < 4) :
    lead? (UInt8.ofNat (n + 0xF0)) = some ⟨n, 0x80, 0xBF, 2⟩ := by
  have hb : (UInt8.ofNat (n + 0xF0)).toNat = n + 0xF0 :=
    UInt8.toNat_ofNat_of_lt' (by show n + 0xF0 < 256; omega)
  simp only [lead?, hb, Nat.add_sub_cancel]
  rw [if_neg (by simp), if_neg (by simp), if_neg (by simp), if_neg (by simp),
    if_neg (by simpa using hzero), if_pos (by simp; omega)]

/-- What may follow the lead byte of a character of three bytes. Short forms and halves of
characters are ruled out by the second byte. -/
theorem exists_lead_three {c : Char} (hlow : 0x800 ≤ c.toNat) (hhigh : c.toNat < 0x10000) :
    ∃ l, lead? (UInt8.ofNat (c.toNat / 4096 + 0xE0)) = some l ∧ l.bits = c.toNat / 4096 ∧
      l.further = 1 ∧ l.low.toNat ≤ c.toNat / 64 % 64 + 0x80 ∧
      c.toNat / 64 % 64 + 0x80 ≤ l.high.toNat := by
  have hvalid : c.toNat < 0xD800 ∨ 0xDFFF < c.toNat ∧ c.toNat < 0x110000 := c.valid
  by_cases hzero : c.toNat / 4096 = 0
  · rw [hzero]
    exact ⟨⟨0, 0xA0, 0xBF, 1⟩, rfl, rfl, rfl, by show 160 ≤ _; omega, by show _ ≤ 191; omega⟩
  by_cases hhalf : c.toNat / 4096 = 13
  · rw [hhalf]
    exact ⟨⟨13, 0x80, 0x9F, 1⟩, rfl, rfl, rfl, by show 128 ≤ _; omega, by show _ ≤ 159; omega⟩
  · exact ⟨_, lead?_three (by omega) hzero hhalf, rfl, rfl, by show 128 ≤ _; omega,
      by show _ ≤ 191; omega⟩

/-- What may follow the lead byte of a character of four bytes. -/
theorem exists_lead_four {c : Char} (hlow : 0x10000 ≤ c.toNat) (hhigh : c.toNat < 0x110000) :
    ∃ l, lead? (UInt8.ofNat (c.toNat / 262144 + 0xF0)) = some l ∧ l.bits = c.toNat / 262144 ∧
      l.further = 2 ∧ l.low.toNat ≤ c.toNat / 4096 % 64 + 0x80 ∧
      c.toNat / 4096 % 64 + 0x80 ≤ l.high.toNat := by
  by_cases hzero : c.toNat / 262144 = 0
  · rw [hzero]
    exact ⟨⟨0, 0x90, 0xBF, 2⟩, rfl, rfl, rfl, by show 144 ≤ _; omega, by show _ ≤ 191; omega⟩
  by_cases htop : c.toNat / 262144 = 4
  · rw [htop]
    exact ⟨⟨4, 0x80, 0x8F, 2⟩, rfl, rfl, rfl, by show 128 ≤ _; omega, by show _ ≤ 143; omega⟩
  · exact ⟨_, lead?_four hzero (by omega), rfl, rfl, by show 128 ≤ _; omega,
      by show _ ≤ 191; omega⟩

end Leads

/-! ## Characters and texts -/

theorem utf8EncodeChar_two {c : Char} (hlow : 0x80 ≤ c.toNat) (hhigh : c.toNat < 0x800) :
    String.utf8EncodeChar c =
      [UInt8.ofNat (c.toNat / 64 + 0xC0), continuation (c.toNat % 64)] := by
  have hbits : c.toNat / 64 % 32 = c.toNat / 64 := by omega
  unfold String.utf8EncodeChar
  show (if c.toNat ≤ 127 then _ else if c.toNat ≤ 2047 then _ else _) = _
  rw [if_neg (by omega), if_pos (by omega)]
  show [UInt8.ofNat (c.toNat / 64 % 32 + 192), _] = _
  rw [hbits]
  rfl

theorem utf8EncodeChar_three {c : Char} (hlow : 0x800 ≤ c.toNat) (hhigh : c.toNat < 0x10000) :
    String.utf8EncodeChar c =
      [UInt8.ofNat (c.toNat / 4096 + 0xE0), continuation (c.toNat / 64 % 64),
        continuation (c.toNat % 64)] := by
  have hbits : c.toNat / 4096 % 16 = c.toNat / 4096 := by omega
  unfold String.utf8EncodeChar
  show (if c.toNat ≤ 127 then _ else if c.toNat ≤ 2047 then _ else
    if c.toNat ≤ 65535 then _ else _) = _
  rw [if_neg (by omega), if_neg (by omega), if_pos (by omega)]
  show [UInt8.ofNat (c.toNat / 4096 % 16 + 224), _, _] = _
  rw [hbits]
  rfl

theorem utf8EncodeChar_four {c : Char} (hlow : 0x10000 ≤ c.toNat) (hhigh : c.toNat < 0x110000) :
    String.utf8EncodeChar c =
      [UInt8.ofNat (c.toNat / 262144 + 0xF0), continuation (c.toNat / 4096 % 64),
        continuation (c.toNat / 64 % 64), continuation (c.toNat % 64)] := by
  have hbits : c.toNat / 262144 % 8 = c.toNat / 262144 := by omega
  unfold String.utf8EncodeChar
  show (if c.toNat ≤ 127 then _ else if c.toNat ≤ 2047 then _ else
    if c.toNat ≤ 65535 then _ else _) = _
  rw [if_neg (by omega), if_neg (by omega), if_neg (by omega)]
  show [UInt8.ofNat (c.toNat / 262144 % 8 + 240), _, _, _] = _
  rw [hbits]
  rfl

/-- **A character is read back from its UTF-8 form**, whatever follows. -/
theorem next_utf8EncodeChar (c : Char) (rest : List UInt8) :
    ∃ b bs, String.utf8EncodeChar c = b :: bs ∧ next b (bs ++ rest) = (some c, rest) := by
  have hc : some (Char.ofNat c.toNat) = some c := by rw [Char.ofNat_toNat]
  have hlast : c.toNat % 64 < 64 := by omega
  have hlater : c.toNat / 64 % 64 < 64 := by omega
  rcases Nat.lt_or_ge c.toNat 0x80 with h₁ | h₁
  · refine ⟨UInt8.ofNat c.toNat, [], utf8EncodeChar_ascii h₁, ?_⟩
    have hb : (UInt8.ofNat c.toNat).toNat = c.toNat :=
      UInt8.toNat_ofNat_of_lt' (by show c.toNat < 256; omega)
    have hlt : UInt8.ofNat c.toNat < 0x80 := UInt8.lt_iff_toNat_lt.mpr (by rw [hb]; exact h₁)
    simp only [next, if_pos hlt, hb, hc, List.nil_append]
  rcases Nat.lt_or_ge c.toNat 0x800 with h₂ | h₂
  · refine ⟨_, _, utf8EncodeChar_two h₁ h₂, ?_⟩
    have hvalue : c.toNat / 64 * 64 + c.toNat % 64 = c.toNat := by omega
    have hlead := lead?_two (n := c.toNat / 64) (by omega) (by omega)
    rw [List.cons_append, List.nil_append,
      next_of_lead hlead hlast (by show 128 ≤ _; omega) (by show _ ≤ 191; omega),
      takeContinuation, hvalue, hc]
  rcases Nat.lt_or_ge c.toNat 0x10000 with h₃ | h₃
  · refine ⟨_, _, utf8EncodeChar_three h₂ h₃, ?_⟩
    have hvalue : (c.toNat / 4096 * 64 + c.toNat / 64 % 64) * 64 + c.toNat % 64 = c.toNat := by
      omega
    obtain ⟨l, hl, hbits, hfurther, hlow, hhigh⟩ := exists_lead_three h₂ h₃
    rw [List.cons_append, List.cons_append, List.nil_append, next_of_lead hl hlater hlow hhigh,
      hbits, hfurther, takeContinuation_continuation _ hlast, takeContinuation, hvalue, hc]
  · have hvalid : c.toNat < 0xD800 ∨ 0xDFFF < c.toNat ∧ c.toNat < 0x110000 := c.valid
    have hmax : c.toNat < 0x110000 := by omega
    refine ⟨_, _, utf8EncodeChar_four h₃ hmax, ?_⟩
    have hvalue : ((c.toNat / 262144 * 64 + c.toNat / 4096 % 64) * 64 + c.toNat / 64 % 64) * 64 +
        c.toNat % 64 = c.toNat := by omega
    obtain ⟨l, hl, hbits, hfurther, hlow, hhigh⟩ := exists_lead_four h₃ hmax
    rw [List.cons_append, List.cons_append, List.cons_append, List.nil_append,
      next_of_lead hl (by omega) hlow hhigh, hbits, hfurther,
      takeContinuation_continuation _ hlater, takeContinuation_continuation _ hlast,
      takeContinuation, hvalue, hc]

theorem scan_bytes (cs : List Char) : scan (bytes cs) = cs.map some := by
  induction cs with
  | nil => rw [bytes_nil, scan]; rfl
  | cons c cs ih =>
    obtain ⟨b, bs, hc, hnext⟩ := next_utf8EncodeChar c (bytes cs)
    rw [bytes_cons, hc, List.cons_append, scan, hnext, ih, List.map_cons]

theorem decode?_of_scan {bs : List UInt8} {cs : List Char} (h : scan bs = cs.map some) :
    decode? bs = some (String.ofList cs) := by
  have hall : (cs.map some).mapM id = some cs := by
    clear h
    induction cs with
    | nil => rfl
    | cons c cs ih => rw [List.map_cons, List.mapM_cons, ih]; rfl
  rw [decode?, h, hall, Option.map_some]

/-- **A text is read back from its UTF-8 form.** -/
theorem decode?_encode (s : String) : decode? (encode s) = some s := by
  rw [encode_eq, decode?_of_scan (scan_bytes s.toList), String.ofList_toList]

end Reconcile.Text.Utf8
