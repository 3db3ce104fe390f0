import Reconcile.Proofs.Query.Findings
import Reconcile.Proofs.Run.FoundResources
import Reconcile.Proofs.Run.QuotedBodies
import Reconcile.Proofs.Run.Recollection

/-!
# Ids that are numbers

An id may be a number in the text of a body. It is read as a number and written again, and it comes
out with the digits of the text if it fits into a word.

* `Json.Stands.integer` — the value of an integer that stands at a place of a text.
* `extractText_of_number` — a number that is found is extracted as it is written.
* `Url.isSegment_toString` — an integer is one segment as it stands.
* `Enactment.Uses` — what is made of a text that is found; `Enactments.uses` — each is used so.
* `extractText_integer` — an integer keeps its digits exactly when it fits, and so do the requests
  and the variables that it gets into.
* `extractText_integer_beyond` — an integer that does not fit.
-/

namespace Reconcile

/-! ## Integers in texts -/

namespace Json

/-- **The value of an integer** that stands at a place of a text. -/
theorem Stands.integer {i : Int} {s : String} {steps : List Query.Step} {doc : Json}
    (h : Stands (toString i).toList steps s.toList) (hs : ofText? s = some doc) :
    ∃ n, (Literal.ofInt i).number? = some n ∧
      steps.foldlM (fun v s => s.take? v) doc = some (.number n) := by
  obtain ⟨v, hv, hfound⟩ := h.value (spells_toString i) hs
  cases hn : (Literal.ofInt i).number? with
  | none =>
    rw [hn, Draft.json] at hv
    cases hv
  | some n =>
    rw [hn, Draft.json] at hv
    cases hv
    exact ⟨n, rfl, hfound⟩

end Json

section Bodies

variable {body : List UInt8} {text expr : String} {doc : Json} {path : Query.Path} {n : Number}
  {rest : List Json}

/-- A query that was read, by what it finds. -/
theorem exists_path_of_found {found : List Json}
    (h : (Query.Path.parse expr).toOption.map (·.findIn doc) = some found) :
    ∃ path, Query.Path.parse expr = .ok path ∧ path.findIn doc = found := by
  obtain ⟨path, hpath, hfound⟩ := Option.map_eq_some_iff.mp h
  cases hp : Query.Path.parse expr with
  | error position =>
    rw [hp] at hpath
    cases hpath
  | ok path' =>
    rw [hp] at hpath
    cases hpath
    exact ⟨path, rfl, hfound⟩

theorem isBlankBody_of_documentText? (htext : documentText? body = some text)
    (hdoc : Json.ofText? text = some doc) : isBlankBody body = false := by
  have hdocument : document? body = some doc := by
    rw [document?_eq, htext, Option.bind_some, hdoc]
  obtain ⟨v, hv, -⟩ := Option.bind_eq_some_iff.mp hdocument
  exact isBlankBody_of_ofBytes? hv

/-- **A number that is found** is extracted as it is written. -/
theorem extractText_of_number (htext : documentText? body = some text)
    (hdoc : Json.ofText? text = some doc)
    (hpath : Query.Path.parse (Query.normalize (Text.trim expr)) = .ok path)
    (hfirst : path.findIn doc = .number n :: rest) : extractText body expr = .ok n.text := by
  have hasked : (Text.trim expr).isEmpty = false := by
    cases he : (Text.trim expr).isEmpty with
    | false => rfl
    | true =>
      have hempty : (Query.Path.parse (Query.normalize "")).isOk = false := by decide +kernel
      rw [← String.isEmpty_iff.mp he, hpath] at hempty
      cases hempty
  have hdocument : document? body = some doc := by
    rw [document?_eq, htext, Option.bind_some, hdoc]
  have hfinds : Finds body expr (.number n) :=
    ⟨hasked, isBlankBody_of_documentText? htext hdoc, ⟨doc, path, rest, hdocument, hpath, hfirst⟩,
      .inl ⟨n, rfl⟩⟩
  exact (extractText_iff_finds.mpr ⟨_, hfinds, Json.plainText_number n⟩).1

end Bodies

/-! ## Integers in addresses -/

namespace Url

open Text.Percent (hasEscape)

theorem hasEscape_of_forall {cs : List Char} (h : ∀ c ∈ cs, c ≠ '%') : hasEscape cs = false := by
  induction cs with
  | nil => rfl
  | cons c cs ih =>
    obtain ⟨hc, hcs⟩ := List.forall_mem_cons.mp h
    rw [Text.Percent.hasEscape_cons fun _ _ _ hp _ => hc hp, ih hcs]

theorem isDot_of_head {c : Char} {t : List Char} (hc : Text.lowerChar c = c)
    (hdot : c ≠ '.') (hescape : c ≠ '%') :
    isDoubleDot (c :: t) = false ∧ isSingleDot (c :: t) = false := by
  have hne : ∀ d s, (d = '.' ∨ d = '%') →
      (Text.lower (String.ofList (c :: t)) == String.ofList (d :: s)) = false := by
    intro d s hd
    rw [beq_eq_false_iff_ne, Text.lower, String.toList_ofList, List.map_cons, hc]
    intro heq
    have hhead := (List.cons.inj (String.ofList_inj.mp heq)).1
    rcases hd with rfl | rfl
    · exact hdot hhead
    · exact hescape hhead
  constructor
  · simp only [isDoubleDot, Bool.or_eq_false_iff]
    exact ⟨⟨⟨hne '.' ['.'] (.inl rfl), hne '.' ['%', '2', 'e'] (.inl rfl)⟩,
      hne '%' ['2', 'e', '.'] (.inr rfl)⟩, hne '%' ['2', 'e', '%', '2', 'e'] (.inr rfl)⟩
  · simp only [isSingleDot, Bool.or_eq_false_iff]
    exact ⟨hne '.' [] (.inl rfl), hne '%' ['2', 'e'] (.inr rfl)⟩

/-- The digits and the sign of an integer, by their place among the characters. -/
theorem range_of_mem_toString {i : Int} {c : Char} (h : c ∈ (toString i).toList) :
    0x2D ≤ c.toNat ∧ c.toNat ≤ 0x39 ∧ c ≠ '.' ∧ c ≠ '/' := by
  rcases isDigit_of_mem_toString h with rfl | hdigit
  · decide
  · rw [Text.isDigit, Bool.and_eq_true, decide_eq_true_iff, decide_eq_true_iff] at hdigit
    have hlow : 48 ≤ c.toNat := hdigit.1
    have hhigh : c.toNat ≤ 57 := hdigit.2
    refine ⟨by omega, hhigh, ?_, ?_⟩ <;> rintro rfl <;> exact absurd hlow (by decide)

theorem ne_of_mem_toString {i : Int} {c : Char} (h : c ∈ (toString i).toList) {d : Char}
    (hd : d.toNat < 0x2D ∨ 0x39 < d.toNat) : c ≠ d := by
  obtain ⟨hlow, hhigh, -⟩ := range_of_mem_toString h
  rintro rfl
  omega

/-- **An integer is one segment as it stands.** -/
theorem isSegment_toString (k : SchemeKind) (i : Int) : IsSegment k (toString i) := by
  have houter : ∀ c ∈ (toString i).toList, isOuter c = false := by
    intro c hc
    have hlow := (range_of_mem_toString hc).1
    simp only [isOuter, decide_eq_false_iff_not]
    omega
  have hnil := toList_toString_ne_nil i
  obtain ⟨c, t, hcons⟩ := List.exists_cons_of_ne_nil hnil
  have hc : c ∈ (toString i).toList := hcons ▸ List.mem_cons_self
  obtain ⟨hlow, hhigh, hdot, hslash⟩ := range_of_mem_toString hc
  have hcapital : ¬ 'A' ≤ c := fun h => absurd (show 65 ≤ c.toNat from h) (by omega)
  have hsmall : ¬ 'a' ≤ c := fun h => absurd (show 97 ≤ c.toNat from h) (by omega)
  refine ⟨fun d hd => ⟨isKept_of_isOuter (houter d hd), ?_, ?_, ?_⟩, ?_, ?_, ?_, ?_⟩
  · have hslash := (range_of_mem_toString hd).2.2.2
    simp [SchemeKind.isSlash, hslash, ne_of_mem_toString hd (d := '\\') (by decide)]
  · exact ne_of_mem_toString hd (by decide)
  · exact ne_of_mem_toString hd (by decide)
  · rw [List.getLast?_eq_some_getLast hnil]
    exact houter _ (List.getLast_mem hnil)
  · rw [hcons]
    refine isDot_of_head ?_ hdot (ne_of_mem_toString hc (by decide))
    rw [Text.lowerChar, decide_eq_false hcapital]
    rfl
  · exact hasEscape_of_forall fun d hd => ne_of_mem_toString hd (by decide)
  · intro _ hdrive
    rw [hcons] at hdrive
    unfold isDrive at hdrive
    split at hdrive
    · rename_i heq
      cases heq
      simp [Text.isLetter, hcapital, hsmall] at hdrive
    · cases hdrive

end Url

/-! ## Texts in use -/

variable {σ : Type}

/-- What is made of a text that an expression finds in the answer of a round. The placeholders of
each variable with this expression stand for it after the answer, and in each later action until a
round gives the variable another value. If the resource of the action is found by this expression,
the request right after goes to it. -/
structure Enactment.Uses (s : Setup σ) (e : Enactment σ) (r : Round σ) (post : List (Round σ))
    (back : List (Enactment σ)) (expr t : String) : Prop where
  recalled (name : String) (hname : isIdentifier name = true)
    (hvar : (name, expr) ∈ e.action.action.runtimeVars.entries) :
    r.after.Recalls name t ∧
      ∀ (mid tail : List (Enactment σ)) (e' : Enactment σ), back = mid ++ e' :: tail →
        Silent (post ++ mid.flatMap Enactment.rounds) name → e'.Recalls name t
  targeted (hget : r.verb = .get) (hfind : e.action.action.find = expr) (r' : Round σ)
    (rest : List (Round σ)) (x : Exchange) (hpost : post = r' :: rest)
    (hverb : r'.verb.takesId = true) (hsent : r'.sent = some x) :
    e.Targets s (e.action.addressFor s r'.before.store r'.verb none) t x.request

theorem Enactments.uses {s : Setup σ} {w w' : World σ} {actions : List Prepared}
    {front back : List (Enactment σ)} {e : Enactment σ} {pre post : List (Round σ)} {r : Round σ}
    {q : Response} {expr t : String} (hes : Enactments s actions w (front ++ e :: back) w')
    (hrounds : e.rounds = pre ++ r :: post) (hanswer : r.answer? = some (.ok q))
    (hstatus : q.status ≤ 299) (hextract : extractText q.body expr = .ok t) (hne : t ≠ "") :
    e.Uses s r post back expr t where
  recalled name hname hvar := hes.recalls hrounds hanswer hstatus hname hvar hextract hne
  targeted := by
    rintro hget rfl r' rest x rfl hverb hsent
    have he : e.Holds s := hes.holds e (by simp)
    have hfills : r.Fills := (he.course.holds r (by simp [hrounds])).fills
    -- the answer shows the text
    have hshown : r.shown? = some t := by
      rw [Round.shown?, (hfills.succeeds q hanswer hstatus).1]
      show r.action.action.shown? r.verb (.ok q.body) = some t
      rw [hget, Action.shown?_get, (he.contents hrounds).1]
      exact Action.finds?_eq_some.mpr ⟨hextract, hne⟩
    have hsplit : e.rounds = (pre ++ [r]) ++ r' :: rest := by
      rw [hrounds, List.append_assoc]
      rfl
    exact .mk hsplit hverb (by rw [List.getLast?_append_cons]; exact hshown) hsent

/-- **Integers keep their digits exactly when they fit.** Take any body with a document and any
expression whose query finds something there. What is found first is the value of a text that
stands at some place in the text of the body. Let it be an integer, with its digits and nothing
else. The digits are what is extracted if the integer fits into 64 bits, with or without a sign, and
no other integer comes out as it was. In any run in which a success answers with such a body, the
variables of the expression then stand for the same digits, and a request for the resource that the
expression finds goes to them: they follow what the id is appended to, and where an id can be
appended they are what the last segment stands for. -/
theorem extractText_integer {body : List UInt8} {text expr : String} {doc v : Json}
    {path : Query.Path} {rest : List Json}
    (htext : documentText? body = some text) (hdoc : Json.ofText? text = some doc)
    (hpath : Query.Path.parse (Query.normalize (Text.trim expr)) = .ok path)
    (hfirst : path.findIn doc = v :: rest) :
    (∃ (steps : List Query.Step) (t : String),
      steps.foldlM (fun v s => s.take? v) doc = some v ∧
      Json.Stands t.toList steps text.toList ∧ Json.ofText? t = some v) ∧
    ∀ (steps : List Query.Step) (i : Int),
      steps.foldlM (fun v s => s.take? v) doc = some v →
      Json.Stands (toString i).toList steps text.toList →
      (extractText body expr = .ok (toString i) ↔
        -(1 <<< 63 : Nat) ≤ i ∧ i < (1 <<< 64 : Nat)) ∧
      (-(1 <<< 63 : Nat) ≤ i ∧ i < (1 <<< 64 : Nat) →
        ∀ (σ : Type) (s : Setup σ) (actions : List Prepared) (w : World σ),
          ∃ es, Enactments s actions w.opened es (execute s actions w).2 ∧
            ∀ (front back : List (Enactment σ)) (e : Enactment σ) (pre post : List (Round σ))
              (r : Round σ) (q : Response), es = front ++ e :: back →
              e.rounds = pre ++ r :: post → r.answer? = some (.ok q) → q.body = body →
              q.status ≤ 299 → e.Uses s r post back expr (toString i) ∧
              ∀ base x, e.Targets s base (toString i) x →
                Url.parse (base ++ "/" ++ toString i) = .ok x.url ∧
                (Url.NoQuery base.toList → (∃ id, Url.Extends base id) →
                  x.url.Addresses (toString i))) := by
  refine ⟨Query.Path.exists_stands hdoc (hfirst ▸ List.mem_cons_self), ?_⟩
  intro steps i hplace hstands
  obtain ⟨n, hn, hfound⟩ := hstands.integer hdoc
  rw [hplace, Option.some.injEq] at hfound
  rw [hfound] at hfirst
  have hextract := extractText_of_number htext hdoc hpath hfirst
  have hdigits : extractText body expr = .ok (toString i) ↔
      -(1 <<< 63 : Nat) ≤ i ∧ i < (1 <<< 64 : Nat) := by
    rw [hextract, Except.ok.injEq, Json.text_of_number?_ofInt hn]
  refine ⟨hdigits, fun hfits σ s actions w => ?_⟩
  have hne : toString i ≠ "" := fun h =>
    toList_toString_ne_nil i (String.toList_eq_nil_iff.mpr h)
  obtain ⟨es, hes⟩ := runAll_enactments s actions w.opened
  refine ⟨es, hes, ?_⟩
  rintro front back e pre post r q rfl hrounds hanswer rfl hstatus
  refine ⟨hes.uses hrounds hanswer hstatus (hdigits.mpr hfits) hne, fun base x hx => ?_⟩
  have haddress := hx.address (hes.holds e (by simp))
  refine ⟨haddress, ?_⟩
  rintro hbase ⟨id, scheme, rest, hsplit, hopens, -⟩
  exact Url.addresses_of_extends hbase hne haddress
    ⟨scheme, rest, hsplit, hopens, Url.isSegment_toString _ i⟩

/-- The least integer that fits, found by a filter in a text between quotes. -/
theorem extractText_integer_least :
    let text := "\n[7, \x7b\"k\": \"x\", \"id\":-9223372036854775808 \x7d]"
    let body := Text.Utf8.encode (Json.quoted text)
    let expr := " $.[?@.k == 'x'].id"
    let steps : List Query.Step := [.index 1, .name "id"]
    documentText? body = some text ∧
      Json.Stands "-9223372036854775808".toList steps text.toList ∧
      extractText body expr = .ok "-9223372036854775808" := by
  intro text body expr steps
  have hi : toString (-9223372036854775808 : Int) = "-9223372036854775808" := by decide +kernel
  have htext : documentText? body = some text := by decide +kernel
  have hstands : Json.Stands "-9223372036854775808".toList steps text.toList := by
    have hnone : ∀ c ∈ ([] : List Char), Json.isSpace c = true := by simp
    have hspace : ∀ c ∈ [' '], Json.isSpace c = true := by simp [Json.isSpace]
    have hline : ∀ c ∈ ['\n'], Json.isSpace c = true := by simp [Json.isSpace]
    have hid := Json.Stands.here (t := "-9223372036854775808".toList) hnone hspace
    have hfront : ∀ e ∈ [("\"k\"".toList, " \"x\"".toList)],
        Json.IsText e.2 ∧ ∃ k, Json.Names e.1 k := by
      rintro e he
      obtain rfl := List.mem_singleton.mp he
      exact ⟨by decide +kernel, "k", by decide +kernel⟩
    have hback : ∀ e ∈ ([] : List (List Char × List Char)),
        Json.IsText e.2 ∧ ∃ k, Json.Names e.1 k ∧ k ≠ "id" := by simp
    have hkey : Json.Names " \"id\"".toList "id" := by decide +kernel
    have hentry := Json.Stands.entry hspace hnone hfront hback hkey hid
    have hseven : ∀ x ∈ [['7']], Json.IsText x := by
      rintro x hx
      obtain rfl := List.mem_singleton.mp hx
      decide +kernel
    have hrest : ∀ x ∈ ([] : List (List Char)), Json.IsText x := by simp
    have hitem := Json.Stands.item hline hnone hseven hrest hentry
    show Json.Stands _ _
      "\n[7, \x7b\"k\": \"x\", \"id\":-9223372036854775808 \x7d]".toList
    exact hitem
  refine ⟨htext, hstands, ?_⟩
  let id : Json := .number (.integer ⟨-9223372036854775808, by decide +kernel⟩)
  let doc : Json := .array
    [.number (.integer ⟨7, by decide⟩), .object [("id", id), ("k", .string "x")]]
  have hdoc : Json.ofText? text = some doc := by decide +kernel
  have hquery : (Query.Path.parse (Query.normalize (Text.trim expr))).toOption.map
      (·.findIn doc) = some [id] := by decide +kernel
  obtain ⟨path, hpath, hfirst⟩ := exists_path_of_found hquery
  have hplace : steps.foldlM (fun v s => s.take? v) doc = some id := by decide +kernel
  rw [← hi] at hstands
  obtain ⟨-, hinteger⟩ := extractText_integer htext hdoc hpath hfirst
  have hextract := (hinteger steps _ hplace hstands).1.mpr (by decide +kernel)
  rwa [hi] at hextract

/-- **An integer that does not fit** comes out as a real, with a point and an exponent, and the
request for it goes to another address. -/
theorem extractText_integer_beyond :
    let text := "\x7b\"id\":18446744073709551616\x7d"
    let body := Text.Utf8.encode text
    let expr := "$.id"
    let steps : List Query.Step := [.name "id"]
    let s : Setup Script := { transport := Script.transport }
    let action := prepare "a"
      { strategy := .findPutPost, endpoint := "http://h/r", findExpr := some expr }
    let script : Script :=
      [⟨"GET", "/r", [{ outcome := .response { status := 200, body } }]⟩]
    documentText? body = some text ∧
      Json.Stands "18446744073709551616".toList steps text.toList ∧
      (∃ doc path v, Json.ofText? text = some doc ∧
        Query.Path.parse (Query.normalize (Text.trim expr)) = .ok path ∧
        path.findIn doc = [v] ∧ steps.foldlM (fun v s => s.take? v) doc = some v) ∧
      extractText body expr = .ok "1.8446744073709552e+19" ∧
      (execute s [action] { transport := script }).2.targets.map (fun q => q.url.text) =
        ["http://h/r", "http://h/r/1.8446744073709552e+19"] := by
  intro text body expr steps s action script
  refine ⟨by decide +kernel, ?_, ?_, by decide +kernel, by decide +kernel⟩
  · have hnone : ∀ c ∈ ([] : List Char), Json.isSpace c = true := by simp
    have hid := Json.Stands.here (t := "18446744073709551616".toList) hnone hnone
    have hfront : ∀ e ∈ ([] : List (List Char × List Char)),
        Json.IsText e.2 ∧ ∃ k, Json.Names e.1 k := by simp
    have hback : ∀ e ∈ ([] : List (List Char × List Char)),
        Json.IsText e.2 ∧ ∃ k, Json.Names e.1 k ∧ k ≠ "id" := by simp
    have hkey : Json.Names "\"id\"".toList "id" := by decide +kernel
    have hentry := Json.Stands.entry hnone hnone hfront hback hkey hid
    show Json.Stands _ _ "\x7b\"id\":18446744073709551616\x7d".toList
    exact hentry
  · -- a power of two, as a real
    let id : Json := .number (.real ⟨false, 1 <<< 52, 12, by decide⟩)
    have hpath : Query.Path.parse (Query.normalize (Text.trim "$.id")) =
        .ok (.mk true [.mk false [.name "id"]]) := by rfl
    exact ⟨.object [("id", id)], _, id, by decide +kernel, hpath, by decide +kernel,
      by decide +kernel⟩

end Reconcile
