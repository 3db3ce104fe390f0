import Reconcile.Proofs.Text.Utf8
import Reconcile.Text.Form

/-!
# Forms read back

Names and values are written so that neither an ampersand nor an equals sign is left in them. So a
form falls into the parts that it was put together from, whatever its names and values hold.

* `Percent.Writes` — a way of writing names and values, and the way of reading that inverts it;
  `Percent.writes_encode`, `Form.writes_encode` — the two that there are.
* `Percent.queryPairs_queryText` — the names and values of a form, as bytes.
* `Percent.fields?` — the names and values of a form that is given as bytes;
  `Percent.fields?_queryText` — a form is read back.
-/

namespace Reconcile.Text

namespace Percent

/-- A way of writing names and values without the separators of forms, and the way of reading that
inverts it. -/
structure Writes (write : String → String) (read : List Char → List UInt8) : Prop where
  ampersand (s : String) : '&' ∉ (write s).toList
  equals (s : String) : '=' ∉ (write s).toList
  reads (s : String) : read (write s).toList = Utf8.encode s

/-- The names and values of a form that is given as bytes. -/
def fields? (read : List Char → List UInt8) (body : List UInt8) :
    Option (List (String × String)) := do
  let form ← Utf8.decode? body
  (queryPairs read form).mapM fun p => do pure (← Utf8.decode? p.1, ← Utf8.decode? p.2)

section Reading

variable {write : String → String} {read : List Char → List UInt8}

/-- The characters of a part of a form. -/
def partChars (write : String → String) (p : String × String) : List Char :=
  (write p.1).toList ++ '=' :: (write p.2).toList

theorem queryText_toList (write : String → String) (pairs : List (String × String)) :
    (queryText write pairs).toList = ['&'].intercalate (pairs.map (partChars write)) := by
  have hpart : ∀ p : String × String,
      (write p.1 ++ "=" ++ write p.2).toList = partChars write p := by
    intro p
    rw [String.toList_append, String.toList_append, List.append_assoc]
    rfl
  rw [queryText, String.toList_intercalate, List.map_map]
  exact congrArg _ (List.map_congr_left fun p _ => hpart p)

/-- A part of a form falls into its name and its value. -/
theorem splitPair_partChars (h : Writes write read) (p : String × String) :
    splitPair (partChars write p) = ((write p.1).toList, (write p.2).toList) := by
  have hname : ∀ c ∈ (write p.1).toList, (c != '=') = true := by
    intro c hc
    rw [bne_iff_ne]
    rintro rfl
    exact h.equals p.1 hc
  rw [splitPair, partChars, List.takeWhile_append_of_pos hname, List.dropWhile_append_of_pos hname]
  simp

/-- A form falls into its parts. -/
theorem splitParts_queryText (h : Writes write read) (pairs : List (String × String)) :
    splitParts (queryText write pairs).toList = pairs.map (partChars write) := by
  have hpart : ∀ x ∈ pairs.map (partChars write), '&' ∉ x := by
    intro x hx hmem
    obtain ⟨p, -, rfl⟩ := List.mem_map.mp hx
    rcases List.mem_append.mp hmem with hmem | hmem
    · exact h.ampersand p.1 hmem
    · rcases List.mem_cons.mp hmem with heq | hmem
      · cases heq
      · exact h.ampersand p.2 hmem
  rw [queryText_toList]
  cases pairs with
  | nil => rfl
  | cons p pairs =>
    have hsplit := List.splitOn_intercalate '&' hpart (by simp)
    have hne : ['&'].intercalate ((p :: pairs).map (partChars write)) ≠ [] := by
      -- without characters there would be one part, and an empty one
      intro hnil
      rw [hnil, List.splitOn_nil, List.map_cons] at hsplit
      have hfirst := (List.cons.inj hsplit).1
      simp [partChars] at hfirst
    rw [splitParts, if_neg (by simpa using hne), hsplit]

/-- **The names and values of a form** are those that it was put together from. -/
theorem queryPairs_queryText (h : Writes write read) (pairs : List (String × String)) :
    queryPairs read (queryText write pairs) =
      pairs.map fun p => (Utf8.encode p.1, Utf8.encode p.2) := by
  rw [queryPairs, splitParts_queryText h, List.map_map]
  refine List.map_congr_left fun p _ => ?_
  simp only [Function.comp_apply, splitPair_partChars h, h.reads]

/-- **A form is read back**, whatever its names and values hold. -/
theorem fields?_queryText (h : Writes write read) (pairs : List (String × String)) :
    fields? read (Utf8.encode (queryText write pairs)) = some pairs := by
  rw [fields?, Utf8.decode?_encode]
  show (queryPairs read (queryText write pairs)).mapM _ = _
  rw [queryPairs_queryText h]
  induction pairs with
  | nil => rfl
  | cons p pairs ih =>
    rw [List.map_cons, List.mapM_cons, ih, Utf8.decode?_encode, Utf8.decode?_encode]
    rfl

end Reading

/-- Percent-encoding writes names and values so. -/
theorem writes_encode {stays : Char → Bool} (hpercent : stays '%' = false)
    (hampersand : stays '&' = false) (hequals : stays '=' = false) :
    Writes (encode stays) decodeText where
  ampersand := not_mem_encode (by decide) (by decide) hampersand
  equals := not_mem_encode (by decide) (by decide) hequals
  reads s := by
    rw [encode, String.toList_ofList, decodeText_flatMap_escaped hpercent, Utf8.encode_eq]

end Percent

namespace Form

/-- The characters that stay, and spaces. -/
def staysOrSpace (c : Char) : Bool := c == ' ' || stays c

/-- Where plus signs are read as spaces, a form is percent-encoded but for its spaces. -/
theorem map_escaped (c : Char) :
    (escaped c).map (fun c => if c == '+' then ' ' else c) = Percent.escaped staysOrSpace c := by
  by_cases hc : c = ' '
  · subst hc
    decide
  · have hplus : '+' ∉ Percent.escaped stays c :=
      Percent.not_mem_escaped_of_not_stays (by decide) (by decide) (by decide) c
    have hid : ∀ x ∈ Percent.escaped stays c, (if x == '+' then ' ' else x) = x := by
      intro x hx
      rw [if_neg]
      rw [beq_iff_eq]
      rintro rfl
      exact hplus hx
    have hstays : staysOrSpace c = stays c := by simp [staysOrSpace, hc]
    rw [escaped, if_neg (by simpa using hc), List.map_congr_left hid, List.map_id', Percent.escaped,
      Percent.escaped, hstays]

/-- **A name or value is read back.** -/
theorem decode_encode (s : String) : decode (encode s).toList = Utf8.encode s := by
  rw [decode, encode, String.toList_ofList, List.map_flatMap]
  simp only [map_escaped]
  rw [Percent.decodeText_flatMap_escaped (by decide), Utf8.encode_eq]

/-- No character of a written name or value is one that does not stay, but for percent signs,
digits and plus signs. -/
theorem not_mem_encode {x : Char} (hpercent : x ≠ '%') (hplus : x ≠ '+')
    (hdigits : ∀ n < 16, hexDigitUpper n ≠ x) (hstays : stays x = false) (s : String) :
    x ∉ (encode s).toList := by
  rw [encode, String.toList_ofList]
  intro hmem
  obtain ⟨c, -, hc⟩ := List.mem_flatMap.mp hmem
  unfold escaped at hc
  split at hc
  · exact hplus (List.mem_singleton.mp hc)
  · exact Percent.not_mem_escaped_of_not_stays hpercent hdigits hstays c hc

/-- Form encoding writes names and values so. -/
theorem writes_encode : Percent.Writes encode decode where
  ampersand := not_mem_encode (by decide) (by decide) (by decide) (by decide)
  equals := not_mem_encode (by decide) (by decide) (by decide) (by decide)
  reads := decode_encode

end Form

end Reconcile.Text
