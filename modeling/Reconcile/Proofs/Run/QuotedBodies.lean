import Reconcile.Proofs.Json.Values
import Reconcile.Proofs.Query.Normalization
import Reconcile.Proofs.Run.Steps
import Reconcile.Proofs.Text.Utf8

/-!
# Documents between quotes

The document of a body is that of its text. A text that a body spells is read once more if it is
JSON, and once only.

* `Json.ofText?_of_blank`, `isBlankBody_of_ofBytes?` — a body with a value is not blank.
* `Json.ofBytes?_quoted` — a text between quotes spells that text.
* `documentText?`, `document?_eq` — the text of which the document of a body is the value.
* `extract_of_document?` — all that is extracted from a body is extracted from its document.
* `extract_quoted` — quotes around the text of a document make no difference.
-/

namespace Reconcile

/-! ## Blank bodies -/

namespace Json

theorem isDigit_of_isBlank {c : Char} (h : Text.isBlank c = true) : Text.isDigit c = false := by
  rw [← Bool.not_eq_true]
  intro hd
  rw [Text.isDigit, Bool.and_eq_true, decide_eq_true_iff, decide_eq_true_iff] at hd
  have hlow : 48 ≤ c.toNat := hd.1
  have hhigh : c.toNat ≤ 57 := hd.2
  simp only [Text.isBlank, Bool.or_eq_true, Bool.and_eq_true, decide_eq_true_eq,
    beq_iff_eq] at h
  omega

theorem readValue_of_blank (fuel : Nat) {cs : List Char} (h : ∀ c ∈ cs, Text.isBlank c = true) :
    ∃ b, (readValue fuel cs).1 = .broken b := by
  cases fuel with
  | zero => exact ⟨_, by rw [readValue]⟩
  | succ fuel =>
    rw [readValue]
    split
    · exact ⟨_, rfl⟩
    · rename_i c rest hskip
      have hc : Text.isBlank c = true :=
        h c ((List.dropWhile_suffix _).subset (hskip ▸ List.mem_cons_self))
      split
      case h_8 => exact ⟨_, by rw [isDigit_of_isBlank hc]; rfl⟩
      all_goals exact absurd hc (by decide)

/-- **A blank text is not JSON.** -/
theorem ofText?_of_blank {s : String} (h : Text.isBlankText s = true) : ofText? s = none := by
  obtain ⟨b, hb⟩ := readValue_of_blank (2 * s.toList.length + 2) (List.all_eq_true.mp h)
  rw [ofText?, Draft.ofText, hb]
  split
  · rename_i hd
    rw [← (Prod.mk.inj hd).1, Draft.json]
    rfl
  · rfl

end Json

theorem isBlank_of_isBlankByte {b : UInt8} (h : Text.isBlankByte b = true) :
    b < 0x80 ∧ Text.isBlank (Char.ofNat b.toNat) = true := by
  simp only [Text.isBlankByte, Bool.or_eq_true, beq_iff_eq] at h
  rcases h with (((rfl | rfl) | rfl) | rfl) | rfl <;> decide

theorem decode?_of_blank {body : List UInt8} (h : isBlankBody body = true) :
    ∃ s, Text.Utf8.decode? body = some s ∧ Text.isBlankText s = true := by
  have hscan : ∃ cs : List Char, Text.Utf8.scan body = cs.map some ∧
      ∀ c ∈ cs, Text.isBlank c = true := by
    induction body with
    | nil => exact ⟨[], by rw [Text.Utf8.scan]; rfl, by simp⟩
    | cons b rest ih =>
      rw [isBlankBody, List.all_cons, Bool.and_eq_true] at h
      obtain ⟨hascii, hb⟩ := isBlank_of_isBlankByte h.1
      obtain ⟨cs, hcs, hblank⟩ := ih h.2
      refine ⟨Char.ofNat b.toNat :: cs, ?_, List.forall_mem_cons.mpr ⟨hb, hblank⟩⟩
      have hnext : Text.Utf8.next b rest = (some (Char.ofNat b.toNat), rest) := by
        simp only [Text.Utf8.next, if_pos hascii]
      rw [Text.Utf8.scan, hnext, hcs, List.map_cons]
  obtain ⟨cs, hcs, hblank⟩ := hscan
  refine ⟨String.ofList cs, Text.Utf8.decode?_of_scan hcs, ?_⟩
  rw [Text.isBlankText, String.toList_ofList]
  exact List.all_eq_true.mpr hblank

/-- **A body with a value is not blank.** -/
theorem isBlankBody_of_ofBytes? {body : List UInt8} {v : Json} (h : Json.ofBytes? body = some v) :
    isBlankBody body = false := by
  rw [Bool.eq_false_iff]
  intro hblank
  obtain ⟨s, hs, hs'⟩ := decode?_of_blank hblank
  rw [Json.ofBytes?, hs, Option.bind_some, Json.ofText?_of_blank hs'] at h
  cases h

/-! ## Texts between quotes -/

theorem Json.ofText?_quoted (s : String) : Json.ofText? (Json.quoted s) = some (.string s) :=
  have hdepth : (Json.string s).depth < depthLimit := by show 0 < depthLimit; decide
  Json.ofText?_compact (v := .string s) rfl rfl hdepth

/-- **A text between quotes spells that text**, whatever it holds. -/
theorem Json.ofBytes?_quoted (s : String) :
    Json.ofBytes? (Text.Utf8.encode (Json.quoted s)) = some (.string s) := by
  rw [Json.ofBytes?, Text.Utf8.decode?_encode, Option.bind_some, Json.ofText?_quoted]

/-! ## Documents -/

/-- The text of the document of a body: what the body spells, if that is JSON, and else the body. -/
def documentText? (body : List UInt8) : Option String := do
  let text ← Text.Utf8.decode? body
  match Json.ofText? text with
  | some (.string s) => some (if (Json.ofText? s).isSome then s else text)
  | _ => some text

section Documents

variable {body raw : List UInt8} {d expr : String} {v : Json}

/-- **The document of a body is the value of its text.** -/
theorem document?_eq (body : List UInt8) :
    document? body = (documentText? body).bind Json.ofText? := by
  unfold document? documentText? Json.ofBytes?
  cases Text.Utf8.decode? body with
  | none => rfl
  | some text =>
    simp only [Option.bind_some, Option.bind_eq_bind]
    cases hv : Json.ofText? text with
    | none => exact hv.symm
    | some v =>
      cases v with
      | string s =>
        -- what is spelled is JSON, or it stays the text that it is
        cases hs : Json.ofText? s with
        | none => simp [hs, hv]
        | some u => simp [hs]
      | _ => exact hv.symm

theorem documentText?_of_quoted (hd : Json.ofText? d = some v)
    (hbody : Json.ofBytes? body = some (.string d)) : documentText? body = some d := by
  obtain ⟨text, htext, hv⟩ := Option.bind_eq_some_iff.mp hbody
  simp [documentText?, htext, hv, hd]

theorem documentText?_of_unquoted (hd : Json.ofText? d = some v)
    (hv : ∀ t, v = .string t → Json.ofText? t = none) (hraw : Text.Utf8.decode? raw = some d) :
    documentText? raw = some d := by
  cases v with
  | string t => simp [documentText?, hraw, hd, hv t rfl]
  | _ => simp [documentText?, hraw, hd]

/-- **All that is extracted from a body is extracted from its document.** -/
theorem extract_of_document? (hblank : isBlankBody body = isBlankBody raw)
    (hdocument : document? body = document? raw) (expr : String) :
    extract body expr = extract raw expr := by
  rw [extract_eq_extractWith, extract_eq_extractWith, extractWith, extractWith, hblank, hdocument]

end Documents

section Answers

variable {body raw : List UInt8} (p : Prepared) (store : Table Json)

theorem Prepared.storeAfter_of_extract (h : ∀ expr, extract body expr = extract raw expr)
    (q : Response) :
    p.storeAfter store (some (.ok { q with body })) =
      p.storeAfter store (some (.ok { q with body := raw })) := by
  have hkept : kept body = kept raw := by
    funext store v
    rw [kept, kept, h]
  rw [storeAfter, storeAfter, hkept]

theorem Prepared.answerLines_of_extract (h : ∀ expr, extract body expr = extract raw expr)
    (d : Diagnostic) (q : Response) :
    p.answerLines d (some (.ok { q with body })) =
      p.answerLines d (some (.ok { q with body := raw })) := by
  have hcomplaint : p.complaint? body = p.complaint? raw := by
    funext v
    rw [complaint?, complaint?, h]
  rw [answerLines, answerLines, hcomplaint]

end Answers

/-- **One layer of quotes is invisible.** Take the text of a document that is not itself a text with
JSON in it. A body that spells this text between quotes, no matter how it is escaped, has the same
document as the text. Every expression finds the same in both or fails with the same error, and an
answer with the one body leaves the same world behind as an answer with the other, the variables of
the action included. The quoted form of the text is such a body; quoted once more, its document is
a text. -/
theorem extract_quoted {d : String} {v : Json} (hd : Json.ofText? d = some v)
    (hv : ∀ t, v = .string t → Json.ofText? t = none) :
    Json.ofBytes? (Text.Utf8.encode (Json.quoted d)) = some (.string d) ∧
      document? (Text.Utf8.encode (Json.quoted (Json.quoted d))) = some (.string d) ∧
      ∀ body, Json.ofBytes? body = some (.string d) →
        document? body = some v ∧ document? (Text.Utf8.encode d) = some v ∧
        (∀ expr, extract body expr = extract (Text.Utf8.encode d) expr ∧
          extractText body expr = extractText (Text.Utf8.encode d) expr) ∧
        ∀ (σ : Type) (p : Prepared) (g : Diagnostic) (q : Response) (w : World σ),
          ((receive p g (some (.ok { q with body }))).run w).2 =
            ((receive p g (some (.ok { q with body := Text.Utf8.encode d }))).run w).2 := by
  refine ⟨Json.ofBytes?_quoted d, ?_, fun body hbody => ?_⟩
  · rw [document?_eq, documentText?_of_quoted (Json.ofText?_quoted d) (Json.ofBytes?_quoted _),
      Option.bind_some, Json.ofText?_quoted]
  have hraw : Json.ofBytes? (Text.Utf8.encode d) = some v := by
    rw [Json.ofBytes?, Text.Utf8.decode?_encode, Option.bind_some, hd]
  have hdocument : document? body = some v := by
    rw [document?_eq, documentText?_of_quoted hd hbody, Option.bind_some, hd]
  have hdocument' : document? (Text.Utf8.encode d) = some v := by
    rw [document?_eq, documentText?_of_unquoted hd hv (Text.Utf8.decode?_encode d),
      Option.bind_some, hd]
  have hblank : isBlankBody body = isBlankBody (Text.Utf8.encode d) := by
    rw [isBlankBody_of_ofBytes? hbody, isBlankBody_of_ofBytes? hraw]
  have hextract : ∀ expr, extract body expr = extract (Text.Utf8.encode d) expr :=
    extract_of_document? hblank (hdocument.trans hdocument'.symm)
  refine ⟨hdocument, hdocument', fun expr => ⟨hextract expr, ?_⟩, fun σ p g q w => ?_⟩
  · rw [extractText, extractText, hextract]
  · rw [receive_run, receive_run, p.storeAfter_of_extract _ hextract,
      p.answerLines_of_extract hextract]

/-- A document with quotes and a text that looks like JSON in it, escaped and with blanks around. -/
theorem extract_quoted_escapes :
    let d := "\x7b\"a\\n\": [\"[1]\", \x7b\"id\": 7\x7d]\x7d"
    let v := Json.object [("a\n", .array [.string "[1]",
      .object [("id", .number (.integer ⟨7, by decide⟩))]])]
    let body := Text.Utf8.encode
      " \"\\u007b\\\"a\\\\n\\u0022: [\\\"[1]\\\", \x7b\\\"id\\\": \\u0037\x7d]\x7d\"\n"
    Json.ofText? d = some v ∧ (∀ t, v = .string t → Json.ofText? t = none) ∧
      Json.ofBytes? body = some (.string d) ∧
      extractText body "$..id" = extractText (Text.Utf8.encode d) "$..id" ∧
      extractText (Text.Utf8.encode d) "$..id" = .ok "7" := by
  intro d v body
  have hd : Json.ofText? d = some v := by decide +kernel
  have hv : ∀ t, v = .string t → Json.ofText? t = none := by
    intro t ht
    simp [v] at ht
  have hbody : Json.ofBytes? body = some (.string d) := by decide +kernel
  obtain ⟨-, -, hsame⟩ := extract_quoted hd hv
  obtain ⟨-, -, hextract, -⟩ := hsame body hbody
  exact ⟨hd, hv, hbody, (hextract "$..id").2, by decide +kernel⟩

end Reconcile
