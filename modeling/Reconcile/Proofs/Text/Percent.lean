import Mathlib.Data.List.Basic
import Reconcile.Text.Percent

/-!
# What escaped texts stand for

* `Utf8.bytes` — the UTF-8 form of some characters; `Utf8.encode_ofList`, `Utf8.encode_injective`;
  `Utf8.size_eq` — the number of its bytes.
* `Percent.unescape` — characters with each escape replaced by the byte it stands for, and any
  other in its UTF-8 form; `Percent.decodeText_eq` — this is what decoding comes to.
* `Percent.Encodes`, `Percent.Encodes.decode` — forms of characters that are all decoded alike;
  `Percent.decodeText_escaped` — so escaping a text does not change what it stands for.
* `Percent.decodeText_flatMap_escaped` — a text whose percent signs are escaped, too, is read back.
* `Percent.hasEscape` — a percent sign before two digits; `Percent.unescape_of_not_hasEscape`,
  `Percent.length_unescape_le`, `Percent.length_unescape_lt` — a text stands for itself exactly
  when it has none.
-/

namespace Reconcile.Text

namespace Utf8

/-! ## The UTF-8 form of characters -/

/-- The UTF-8 form of some characters. -/
def bytes (cs : List Char) : List UInt8 :=
  cs.flatMap String.utf8EncodeChar

@[simp] theorem bytes_nil : bytes [] = [] := rfl

@[simp] theorem bytes_cons (c : Char) (cs : List Char) :
    bytes (c :: cs) = String.utf8EncodeChar c ++ bytes cs := rfl

@[simp] theorem bytes_append (cs ds : List Char) : bytes (cs ++ ds) = bytes cs ++ bytes ds :=
  List.flatMap_append

theorem toList_loop (b : ByteArray) (i : Nat) (soFar : List UInt8) :
    ByteArray.toList.loop b i soFar = soFar.reverse ++ b.data.toList.drop i := by
  fun_induction ByteArray.toList.loop b i soFar with
  | case1 i soFar h ih =>
    have hi : i < b.data.toList.length := h
    rw [ih, List.drop_eq_getElem_cons hi]
    simp [ByteArray.get!, h]
  | case2 i soFar h =>
    have hi : b.data.toList.length ≤ i := Nat.le_of_not_lt h
    rw [List.drop_eq_nil_of_le hi, List.append_nil]

theorem toList_eq (b : ByteArray) : b.toList = b.data.toList := toList_loop b 0 []

theorem encode_ofList (cs : List Char) : encode (String.ofList cs) = bytes cs := by
  show (List.toByteArray (bytes cs)).toList = bytes cs
  rw [toList_eq, List.toList_data_toByteArray]

theorem encode_eq (s : String) : encode s = bytes s.toList := by
  rw [← encode_ofList, String.ofList_toList]

/-- **A text is known from its UTF-8 form.** -/
theorem encode_injective {s t : String} (h : encode s = encode t) : s = t := by
  unfold encode at h
  rw [toList_eq, toList_eq, Array.toList_inj] at h
  exact String.toByteArray_inj.mp (ByteArray.ext h)

theorem length_bytes_pos (c : Char) : 0 < (String.utf8EncodeChar c).length :=
  List.length_pos_iff.mpr String.utf8EncodeChar_ne_nil

theorem length_bytes_le {cs ds : List Char} (h : cs.Sublist ds) :
    (bytes cs).length ≤ (bytes ds).length := by
  induction h with
  | slnil => simp
  | cons c hs ih =>
    rw [bytes_cons, List.length_append]
    omega
  | cons_cons c hs ih =>
    rw [bytes_cons, bytes_cons, List.length_append, List.length_append]
    omega

/-- A part of a text is the whole of it when its UTF-8 form is as long. -/
theorem eq_of_sublist {cs ds : List Char} (h : cs.Sublist ds)
    (hl : (bytes ds).length ≤ (bytes cs).length) : cs = ds := by
  induction h with
  | slnil => rfl
  | cons c hs ih =>
    have hle := length_bytes_le hs
    have hpos := length_bytes_pos c
    rw [bytes_cons, List.length_append] at hl
    omega
  | cons_cons c hs ih =>
    rw [bytes_cons, bytes_cons, List.length_append, List.length_append] at hl
    rw [ih (by omega)]

/-- The number of bytes adds up. -/
theorem size_append (cs ds : List Char) : size (cs ++ ds) = size cs + size ds := by
  have hfrom : ∀ (ds : List Char) (n : Nat),
      ds.foldl (fun n c => n + c.utf8Size) n = n + size ds := by
    intro ds
    induction ds with
    | nil => exact fun n => rfl
    | cons d ds ih =>
      intro n
      rw [size, List.foldl_cons, List.foldl_cons, ih, ih (0 + d.utf8Size)]
      omega
  rw [size, List.foldl_append, hfrom ds]
  rfl

theorem size_eq (cs : List Char) : size cs = (encode (String.ofList cs)).length := by
  rw [encode_ofList]
  induction cs with
  | nil => rfl
  | cons c cs ih =>
    have hone : size [c] = (String.utf8EncodeChar c).length := by
      rw [String.length_utf8EncodeChar]
      exact Nat.zero_add _
    rw [← List.singleton_append, size_append, ih, bytes_append, List.length_append, hone,
      bytes_cons, bytes_nil, List.append_nil]

/-- The UTF-8 form of an ASCII character is one byte, and that of any other holds no ASCII. -/
theorem utf8EncodeChar_ascii {c : Char} (h : c.toNat < 0x80) :
    String.utf8EncodeChar c = [UInt8.ofNat c.toNat] := by
  have hle : c.val.toNat ≤ 127 := Nat.le_of_lt_succ h
  unfold String.utf8EncodeChar
  simp only [hle, if_true]
  rfl

theorem le_of_mem_utf8EncodeChar {c : Char} (h : 0x80 ≤ c.toNat) :
    ∀ b ∈ String.utf8EncodeChar c, 0x80 ≤ b.toNat := by
  have hc : ¬ c.val.toNat ≤ 127 := Nat.not_le_of_lt h
  intro b hb
  unfold String.utf8EncodeChar at hb
  simp only [hc, if_false] at hb
  split at hb
  · simp only [List.mem_cons, List.not_mem_nil, or_false] at hb
    rcases hb with rfl | rfl <;> rw [UInt8.toNat_ofNat'] <;> omega
  · split at hb
    · simp only [List.mem_cons, List.not_mem_nil, or_false] at hb
      rcases hb with rfl | rfl | rfl <;> rw [UInt8.toNat_ofNat'] <;> omega
    · simp only [List.mem_cons, List.not_mem_nil, or_false] at hb
      rcases hb with rfl | rfl | rfl | rfl <;> rw [UInt8.toNat_ofNat'] <;> omega

end Utf8

namespace Percent

open Utf8 (bytes)

/-! ## Decoding -/

/-- Characters with each escape replaced by the byte that it stands for, and any other character
in its UTF-8 form. -/
def unescape : List Char → List UInt8
  | '%' :: h :: l :: rest =>
    match hexValue? h, hexValue? l with
    | some high, some low => UInt8.ofNat (high * 16 + low) :: unescape rest
    | _, _ => 0x25 :: unescape (h :: l :: rest)
  | c :: rest => String.utf8EncodeChar c ++ unescape rest
  | [] => []

/-- Whether a percent sign stands before two hexadecimal digits. -/
def hasEscape : List Char → Bool
  | '%' :: h :: l :: rest =>
    (isHexDigit h && isHexDigit l) || hasEscape (h :: l :: rest)
  | _ :: rest => hasEscape rest
  | [] => false

theorem hasEscape_cons {c : Char} {rest : List Char}
    (h : ∀ h l tail, c = '%' → rest = h :: l :: tail → False) :
    hasEscape (c :: rest) = hasEscape rest :=
  hasEscape.eq_2 c rest h

/-- **A text without escapes stands for itself.** -/
theorem unescape_of_not_hasEscape {cs : List Char} (h : hasEscape cs = false) :
    unescape cs = bytes cs := by
  fun_induction unescape cs with
  | case1 a b rest high low hb ha ih => simp [hasEscape, isHexDigit, ha, hb] at h
  | case2 a b rest hn ih =>
    rw [hasEscape, Bool.or_eq_false_iff] at h
    rw [ih h.2]
    rfl
  | case3 c rest hn ih =>
    rw [hasEscape_cons hn] at h
    rw [ih h, Utf8.bytes_cons]
  | case4 => rfl

/-- What a text stands for is never longer than the text. -/
theorem length_unescape_le (cs : List Char) : (unescape cs).length ≤ (bytes cs).length := by
  have hdigit : ∀ c, 0 < (String.utf8EncodeChar c).length := Utf8.length_bytes_pos
  fun_induction unescape cs with
  | case1 a b rest high low hb ha ih =>
    have := hdigit '%'
    simp only [Utf8.bytes_cons, List.length_cons, List.length_append]
    omega
  | case2 a b rest hn ih =>
    have := hdigit '%'
    rw [Utf8.bytes_cons, List.length_cons, List.length_append]
    omega
  | case3 c rest hn ih =>
    rw [Utf8.bytes_cons, List.length_append, List.length_append]
    omega
  | case4 => simp

/-- A text with an escape stands for something shorter. -/
theorem length_unescape_lt {cs : List Char} (h : hasEscape cs = true) :
    (unescape cs).length < (bytes cs).length := by
  have hdigit : ∀ c, 0 < (String.utf8EncodeChar c).length := Utf8.length_bytes_pos
  fun_induction unescape cs with
  | case1 a b rest high low hb ha ih =>
    have hrest := length_unescape_le rest
    have := hdigit '%'
    have := hdigit a
    have := hdigit b
    simp only [Utf8.bytes_cons, List.length_cons, List.length_append]
    omega
  | case2 a b rest hn ih =>
    have hdigits : (isHexDigit a && isHexDigit b) = false := by
      rw [Bool.and_eq_false_iff, isHexDigit, isHexDigit]
      rcases ha : hexValue? a with _ | high
      · exact .inl rfl
      · rcases hb : hexValue? b with _ | low
        · exact .inr rfl
        · exact (hn high low ha hb).elim
    rw [hasEscape, hdigits, Bool.false_or] at h
    have := ih h
    have := hdigit '%'
    rw [Utf8.bytes_cons, List.length_cons, List.length_append]
    omega
  | case3 c rest hn ih =>
    rw [hasEscape_cons hn] at h
    have := ih h
    rw [Utf8.bytes_cons, List.length_append, List.length_append]
    omega
  | case4 => cases h

/-! ## Forms of characters that are decoded alike -/

theorem decode_cons_of_ne {b : UInt8} (hb : b ≠ 0x25) (rest : List UInt8) :
    decode (b :: rest) = b :: decode rest := by
  have hbeq : (b == 0x25) = false := by simpa using hb
  match rest with
  | [] => rfl
  | [_] => rfl
  | _ :: _ :: _ => simp [decode, hbeq]

theorem decode_append_of_ne {bs : List UInt8} (hb : ∀ b ∈ bs, b ≠ 0x25) (rest : List UInt8) :
    decode (bs ++ rest) = bs ++ decode rest := by
  induction bs with
  | nil => rfl
  | cons b bs ih =>
    obtain ⟨hfirst, hbs⟩ := List.forall_mem_cons.mp hb
    rw [List.cons_append, decode_cons_of_ne hfirst, ih hbs, List.cons_append]

theorem decode_escape {x y : UInt8} {high low : Nat} (hx : hexByte? x = some high)
    (hy : hexByte? y = some low) (rest : List UInt8) :
    decode (0x25 :: x :: y :: rest) = UInt8.ofNat (high * 16 + low) :: decode rest := by
  simp [decode, hx, hy]

/-- A percent sign stays unless two digits follow it. -/
theorem decode_percent {bs : List UInt8}
    (h : ∀ x y rest, bs = x :: y :: rest → hexByte? x = none ∨ hexByte? y = none) :
    decode (0x25 :: bs) = 0x25 :: decode bs := by
  match bs with
  | [] => rfl
  | [_] => rfl
  | x :: y :: rest =>
    rcases h x y rest rfl with hx | hy
    · simp [decode, hx]
    · cases hx : hexByte? x <;> simp [decode, hx, hy]

/-- A form of characters that decoding takes back to their UTF-8 form, and that keeps percent signs
and digits. -/
structure Encodes (f : Char → List UInt8) : Prop where
  percent : f '%' = [0x25]
  digit : ∀ c n, hexValue? c = some n → ∃ b, f c = [b] ∧ hexByte? b = some n
  other : ∀ c, hexValue? c = none → ∃ b bs, f c = b :: bs ∧ hexByte? b = none
  plain : ∀ c, c ≠ '%' → ∀ rest, decode (f c ++ rest) = String.utf8EncodeChar c ++ decode rest

/-- **Such forms are all decoded alike.** -/
theorem Encodes.decode {f : Char → List UInt8} (hf : Encodes f) (cs : List Char) :
    decode (cs.flatMap f) = unescape cs := by
  fun_induction unescape cs with
  | case1 a b rest high low hb ha ih =>
    obtain ⟨x, hx, hx'⟩ := hf.digit a high ha
    obtain ⟨y, hy, hy'⟩ := hf.digit b low hb
    rw [List.flatMap_cons, List.flatMap_cons, List.flatMap_cons, hf.percent, hx, hy, ← ih]
    exact decode_escape hx' hy' _
  | case2 a b rest hn ih =>
    rw [List.flatMap_cons, hf.percent, ← ih]
    refine decode_percent ?_
    intro x y tail htail
    cases ha : hexValue? a with
    | none =>
      obtain ⟨x', bs, hx, hx'⟩ := hf.other a ha
      rw [List.flatMap_cons, hx, List.cons_append] at htail
      obtain ⟨rfl, -⟩ := List.cons.inj htail
      exact .inl hx'
    | some high =>
      obtain ⟨x', hx, hx'⟩ := hf.digit a high ha
      cases hb : hexValue? b with
      | none =>
        obtain ⟨y', bs, hy, hy'⟩ := hf.other b hb
        rw [List.flatMap_cons, List.flatMap_cons, hx, hy, List.cons_append, List.nil_append,
          List.cons_append] at htail
        obtain ⟨-, htail⟩ := List.cons.inj htail
        obtain ⟨rfl, -⟩ := List.cons.inj htail
        exact .inr hy'
      | some low => exact (hn high low ha hb).elim
  | case3 c rest hn ih =>
    rw [List.flatMap_cons]
    by_cases hc : c = '%'
    · -- at most one character follows, so the sign stays
      subst hc
      rw [hf.percent, ← ih]
      refine decode_percent ?_
      intro x y tail htail
      match rest with
      | [] => cases htail
      | [a] =>
        cases ha : hexValue? a with
        | none =>
          obtain ⟨x', bs, hx, hx'⟩ := hf.other a ha
          rw [List.flatMap_cons, hx, List.cons_append] at htail
          obtain ⟨rfl, -⟩ := List.cons.inj htail
          exact .inl hx'
        | some high =>
          obtain ⟨x', hx, hx'⟩ := hf.digit a high ha
          rw [List.flatMap_cons, hx] at htail
          cases htail
      | a :: b :: rest => exact (hn a b rest rfl rfl).elim
    · rw [hf.plain c hc, ih]
  | case4 => rfl

theorem toNat_lt_of_hexValue? {c : Char} {n : Nat} (h : hexValue? c = some n) :
    c.toNat < 0x80 ∧ c ≠ '%' := by
  have hlow : ∀ {a b : Char}, a ≤ b → a.toNat ≤ b.toNat := fun hab => hab
  have hrange : 0x30 ≤ c.toNat ∧ c.toNat ≤ 0x66 := by
    unfold hexValue? at h
    simp only [Bool.and_eq_true, decide_eq_true_eq] at h
    split at h
    · rename_i hc
      exact ⟨hlow hc.1, Nat.le_trans (hlow hc.2) (by decide)⟩
    · split at h
      · rename_i hc
        exact ⟨Nat.le_trans (by decide) (hlow hc.1), hlow hc.2⟩
      · split at h
        · rename_i hc
          exact ⟨Nat.le_trans (by decide) (hlow hc.1), Nat.le_trans (hlow hc.2) (by decide)⟩
        · cases h
  refine ⟨by omega, ?_⟩
  rintro rfl
  exact absurd hrange (by decide)

theorem hexByte?_ascii {c : Char} (h : c.toNat < 0x80) :
    hexByte? (UInt8.ofNat c.toNat) = hexValue? c := by
  have hlt : c.toNat < 256 := by omega
  have hb : (UInt8.ofNat c.toNat).toNat = c.toNat := by
    rw [UInt8.toNat_ofNat', Nat.mod_eq_of_lt hlt]
  have hsmall : UInt8.ofNat c.toNat < 0x80 := by
    rw [UInt8.lt_iff_toNat_lt, hb]
    exact h
  rw [hexByte?, if_pos hsmall, hb, Char.ofNat_toNat]

theorem hexByte?_of_le {b : UInt8} (h : 0x80 ≤ b.toNat) : hexByte? b = none := by
  have hlarge : ¬ b < 0x80 := by
    rw [UInt8.lt_iff_toNat_lt]
    exact Nat.not_lt_of_le h
  rw [hexByte?, if_neg hlarge]

theorem ne_percent_of_mem {c : Char} (hc : c ≠ '%') :
    ∀ b ∈ String.utf8EncodeChar c, b ≠ 0x25 := by
  rintro b hb rfl
  by_cases hascii : c.toNat < 0x80
  · rw [Utf8.utf8EncodeChar_ascii hascii, List.mem_singleton] at hb
    have hn := congrArg UInt8.toNat hb
    rw [UInt8.toNat_ofNat', Nat.mod_eq_of_lt (by omega)] at hn
    exact hc (Char.toNat_inj.mp hn.symm)
  · exact absurd (Utf8.le_of_mem_utf8EncodeChar (Nat.le_of_not_lt hascii) _ hb) (by decide)

/-- The UTF-8 form is such a form. -/
theorem encodes_utf8 : Encodes String.utf8EncodeChar where
  percent := rfl
  digit c n hc := by
    obtain ⟨hascii, -⟩ := toNat_lt_of_hexValue? hc
    exact ⟨_, Utf8.utf8EncodeChar_ascii hascii, by rw [hexByte?_ascii hascii, hc]⟩
  other c hc := by
    by_cases hascii : c.toNat < 0x80
    · exact ⟨_, [], Utf8.utf8EncodeChar_ascii hascii, by rw [hexByte?_ascii hascii, hc]⟩
    · obtain ⟨b, bs, hb⟩ := List.exists_cons_of_ne_nil (String.utf8EncodeChar_ne_nil (c := c))
      refine ⟨b, bs, hb, hexByte?_of_le ?_⟩
      exact Utf8.le_of_mem_utf8EncodeChar (Nat.le_of_not_lt hascii) b (by rw [hb]; simp)
  plain c hc rest := decode_append_of_ne (ne_percent_of_mem hc) rest

/-- **What decoding a text comes to.** -/
theorem decodeText_eq (cs : List Char) : decodeText cs = unescape cs := by
  rw [decodeText, Utf8.encode_ofList]
  exact encodes_utf8.decode cs

theorem utf8EncodeChar_hexDigitUpper : ∀ n < 16,
    String.utf8EncodeChar (hexDigitUpper n) = [UInt8.ofNat (hexDigitUpper n).toNat] ∧
      hexByte? (UInt8.ofNat (hexDigitUpper n).toNat) = some n := by
  decide

/-- An escaped byte is read back. -/
theorem decode_escapedByte (b : UInt8) (rest : List UInt8) :
    decode (bytes (escapedByte b) ++ rest) = b :: decode rest := by
  have hb : b.toNat < 256 := b.toNat_lt
  obtain ⟨hhigh, hhigh'⟩ := utf8EncodeChar_hexDigitUpper (b.toNat / 16) (by omega)
  obtain ⟨hlow, hlow'⟩ := utf8EncodeChar_hexDigitUpper (b.toNat % 16) (by omega)
  have hvalue : UInt8.ofNat (b.toNat / 16 * 16 + b.toNat % 16) = b := by
    rw [Nat.div_add_mod']
    exact UInt8.ofNat_toNat
  have hdecode := decode_escape hhigh' hlow' rest
  rw [hvalue] at hdecode
  rw [escapedByte, Utf8.bytes_cons, Utf8.bytes_cons, Utf8.bytes_cons, hhigh, hlow]
  exact hdecode

theorem decode_escapedBytes (bs rest : List UInt8) :
    decode (bytes (bs.flatMap escapedByte) ++ rest) = bs ++ decode rest := by
  induction bs with
  | nil => rfl
  | cons b bs ih =>
    rw [List.flatMap_cons, Utf8.bytes_append, List.append_assoc, decode_escapedByte, ih,
      List.cons_append]

/-- The UTF-8 form of escaped characters is such a form, where percent signs and digits stay. -/
theorem encodes_escaped {stays : Char → Bool} (hpercent : stays '%' = true)
    (hdigit : ∀ c n, hexValue? c = some n → stays c = true) :
    Encodes fun c => bytes (escaped stays c) := by
  have hstays : ∀ {c}, stays c = true → bytes (escaped stays c) = String.utf8EncodeChar c := by
    intro c hc
    rw [escaped, if_pos hc]
    exact List.append_nil _
  have hescaped : ∀ {c}, stays c = false →
      bytes (escaped stays c) = bytes ((String.utf8EncodeChar c).flatMap escapedByte) := by
    intro c hc
    rw [escaped, if_neg (by simp [hc])]
  refine ⟨hstays hpercent, fun c n hc => ?_, fun c hc => ?_, fun c hc rest => ?_⟩
  · rw [hstays (hdigit c n hc)]
    exact encodes_utf8.digit c n hc
  · cases hs : stays c with
    | true =>
      rw [hstays hs]
      exact encodes_utf8.other c hc
    | false =>
      obtain ⟨b, bs, hb⟩ := List.exists_cons_of_ne_nil (String.utf8EncodeChar_ne_nil (c := c))
      rw [hescaped hs, hb]
      exact ⟨0x25, _, rfl, by decide⟩
  · cases hs : stays c with
    | true =>
      rw [hstays hs]
      exact encodes_utf8.plain c hc rest
    | false =>
      rw [hescaped hs]
      exact decode_escapedBytes _ rest

/-- **An escaped text is read back** where percent signs are escaped, too. -/
theorem decodeText_flatMap_escaped {stays : Char → Bool} (hpercent : stays '%' = false)
    (cs : List Char) : decodeText (cs.flatMap (escaped stays)) = bytes cs := by
  rw [decodeText, Utf8.encode_ofList]
  induction cs with
  | nil => rfl
  | cons c cs ih =>
    rw [List.flatMap_cons, Utf8.bytes_append, Utf8.bytes_cons, ← ih]
    cases hs : stays c with
    | true =>
      have hc : c ≠ '%' := by
        rintro rfl
        rw [hpercent] at hs
        cases hs
      rw [escaped, if_pos hs, Utf8.bytes_cons, Utf8.bytes_nil, List.append_nil]
      exact decode_append_of_ne (ne_percent_of_mem hc) _
    | false =>
      rw [escaped, if_neg (by simp [hs])]
      exact decode_escapedBytes _ _

/-- **Escaping a text does not change what it stands for.** -/
theorem decodeText_escaped {stays : Char → Bool} (hpercent : stays '%' = true)
    (hdigit : ∀ c n, hexValue? c = some n → stays c = true) (cs : List Char) :
    decodeText (cs.flatMap (escaped stays)) = unescape cs := by
  rw [decodeText, Utf8.encode_ofList, bytes, List.flatMap_assoc]
  exact (encodes_escaped hpercent hdigit).decode cs

theorem escaped_ne_nil (stays : Char → Bool) (c : Char) : escaped stays c ≠ [] := by
  unfold escaped
  split
  · exact List.cons_ne_nil _ _
  · obtain ⟨b, bs, hb⟩ := List.exists_cons_of_ne_nil (String.utf8EncodeChar_ne_nil (c := c))
    rw [hb]
    exact List.cons_ne_nil _ _

/-- Escaping brings in percent signs and digits only. -/
theorem not_mem_escaped {stays : Char → Bool} {c x : Char} (hpercent : x ≠ '%')
    (hdigits : ∀ n < 16, hexDigitUpper n ≠ x) (hc : stays c = true → c ≠ x) :
    x ∉ escaped stays c := by
  unfold escaped
  split
  · rename_i hs
    rw [List.mem_singleton]
    exact (hc hs).symm
  · intro hmem
    obtain ⟨b, -, hb⟩ := List.mem_flatMap.mp hmem
    have hlt : b.toNat < 256 := b.toNat_lt
    simp only [escapedByte, List.mem_cons, List.not_mem_nil, or_false] at hb
    rcases hb with hb | hb | hb
    · exact hpercent hb
    · exact hdigits (b.toNat / 16) (by omega) hb.symm
    · exact hdigits (b.toNat % 16) (by omega) hb.symm

/-- A character that is escaped itself, and is neither a percent sign nor a digit, does not come out
of escaping. -/
theorem not_mem_escaped_of_not_stays {stays : Char → Bool} {x : Char} (hpercent : x ≠ '%')
    (hdigits : ∀ n < 16, hexDigitUpper n ≠ x) (hstays : stays x = false) (c : Char) :
    x ∉ escaped stays c := by
  refine not_mem_escaped hpercent hdigits ?_
  rintro hs rfl
  rw [hstays] at hs
  cases hs

theorem not_mem_encode {stays : Char → Bool} {x : Char} (hpercent : x ≠ '%')
    (hdigits : ∀ n < 16, hexDigitUpper n ≠ x) (hstays : stays x = false) (s : String) :
    x ∉ (encode stays s).toList := by
  rw [encode, String.toList_ofList]
  intro hmem
  obtain ⟨c, -, hc⟩ := List.mem_flatMap.mp hmem
  exact not_mem_escaped_of_not_stays hpercent hdigits hstays c hc

/-- **A text stands for itself exactly when it has no escape.** -/
theorem unescape_eq_bytes_iff {cs : List Char} : unescape cs = bytes cs ↔ hasEscape cs = false := by
  constructor
  · intro h
    cases he : hasEscape cs with
    | false => rfl
    | true =>
      have hlt := length_unescape_lt he
      rw [h] at hlt
      exact absurd hlt (Nat.lt_irrefl _)
  · exact unescape_of_not_hasEscape

end Percent

end Reconcile.Text
