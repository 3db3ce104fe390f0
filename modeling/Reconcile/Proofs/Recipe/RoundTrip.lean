import Reconcile.Proofs.Recipe.Reading
import Reconcile.Recipe.Parsing

/-!
# Recipes read back

* `Json.isPlain`, `Recipe.isPlain` — a recipe whose free values have integers only, and whose
  entries with owner credentials say them twice.
* `OAuth.yields`, `TokenLogin.yields`, `AuthDoc.yields`, `Auth.yields`, `Action.yields`,
  `Recipe.yields` — each part of a recipe is read back.
* `Recipe.parse_text` — a recipe is read back from its text.
-/

namespace Reconcile

open Json

/-- A free value of a recipe as the reader makes them, with integers only. -/
def Json.isPlain (v : Json) : Bool :=
  v.isWhole && v.isAscending

theorem Json.yields_plain {v : Json} (h : v.isPlain = true) :
    Yields (Source.json (m := Except ReadError)) v v := by
  obtain ⟨hw, ha⟩ := Bool.and_eq_true_iff.mp h
  exact yields_json hw ha

theorem Dict.eq_empty {α : Type} {d : Dict α} (h : d.isEmpty = true) : d = {} :=
  Dict.ext (List.isEmpty_iff.mp h)

/-! ## Authentication -/

theorem OAuth.yields (o : OAuth) : Yields (readOAuth (m := Except ReadError)) o.json o := by
  refine yields_record ?_ (by decide)
  simp only [List.append_assoc, List.cons_append, List.nil_append]
  refine .always (fun _ _ => rfl) (yields_text _) ?_
  refine .nonEmpty (fun _ _ => rfl) rfl List.isEmpty_iff.mp rfl
    (yields_list fun s _ => yields_text s) ?_
  refine .nonEmpty (fun _ _ => rfl) rfl Dict.eq_empty rfl
    (yields_dict fun e _ => yields_list fun s _ => yields_text s) ?_
  refine .always (fun _ _ => rfl) (yields_flag _) ?_
  refine .optionalText (fun _ _ => rfl) rfl rfl ?_
  refine .optionalText (fun _ _ => rfl) rfl rfl ?_
  exact .done o

theorem TokenLogin.yields {c : TokenLogin}
    (h : ∀ e ∈ c.credential.entries, e.2.isPlain = true) :
    Yields (readTokenLogin (m := Except ReadError)) c.json c := by
  refine yields_record ?_ (by decide)
  simp only [List.cons_append, List.nil_append]
  refine .always (fun _ _ => rfl) (yields_text _) ?_
  refine .always (fun _ _ => rfl) (yields_dict fun e he => yields_plain (h e he)) ?_
  refine .always (fun _ _ => rfl) (yields_flag _) ?_
  refine .always (fun _ _ => rfl) (yields_text _) ?_
  refine .always (fun _ _ => rfl) (yields_text _) ?_
  refine .always (fun _ _ => rfl) (yields_text _) ?_
  exact .done c

theorem AuthDoc.yields {d : AuthDoc}
    (h : ∀ c, d.custom = some c → ∀ e ∈ c.credential.entries, e.2.isPlain = true) :
    Yields (readAuthDoc (m := Except ReadError)) d.json d := by
  have htype : (AuthType.all.map fun t => (t.name, t)).find? (fun n => n.1 == d.type.name) =
      some (d.type.name, d.type) := by
    cases d.type <;> decide
  refine yields_record ?_ (by decide)
  simp only [List.append_assoc, List.cons_append, List.nil_append]
  refine .always (fun _ _ => rfl) (yields_choice htype) ?_
  refine .nonEmpty (fun _ _ => rfl) rfl String.isEmpty_iff.mp rfl (yields_text _) ?_
  refine .nonEmpty (fun _ _ => rfl) rfl String.isEmpty_iff.mp rfl (yields_text _) ?_
  refine .optional (fun _ _ => rfl) rfl rfl
    (fun o _ => yields_optionalOf o.yields (by rw [OAuth.json]; simp)) ?_
  refine .optional (fun _ _ => rfl) rfl rfl
    (fun c hc => yields_optionalOf (TokenLogin.yields (h c hc)) (by rw [TokenLogin.json]; simp)) ?_
  exact .done d

/-- An authentication entry that is read back: an entry with owner credentials has them in its
token endpoint, too, and the values of a credential are plain. -/
def Auth.isPlain : Auth → Bool
  | .ownerPassword _ _ o user pass => o.ownerUser == some user && o.ownerPass == some pass
  | .tokenLogin c => c.credential.entries.all fun e => e.2.isPlain
  | _ => true

theorem Auth.resolve_toDoc {a : Auth} (h : a.isPlain = true) : a.toDoc.resolve = .ok a := by
  cases a with
  | ownerPassword i s o user pass =>
    obtain ⟨hu, hp⟩ := Bool.and_eq_true_iff.mp h
    have hu : o.ownerUser = some user := by simpa using hu
    have hp : o.ownerPass = some pass := by simpa using hp
    have ho : { o with ownerUser := some user, ownerPass := some pass } = o := by
      rw [← hu, ← hp]
    rw [toDoc, ho, AuthDoc.resolve]
    simp only [hu, hp, Option.getD_some]
  | noAuth | basic | clientCredentials | tokenLogin | static => rfl

theorem Auth.yields {a : Auth} (h : a.isPlain = true) :
    Yields (readAuth (m := Except ReadError)) a.json a := by
  have hdoc : Yields (readAuthDoc (m := Except ReadError)) a.json a.toDoc := by
    refine AuthDoc.yields fun c hc => ?_
    cases a with
    | tokenLogin login =>
      cases hc
      exact List.all_eq_true.mp h
    | noAuth | basic | clientCredentials | ownerPassword | static => cases hc
  refine ⟨hdoc.whole, fun hd => ?_⟩
  unfold readAuth
  rw [hdoc.reads hd]
  simp only [bind, Except.bind, a.resolve_toDoc h]
  rfl

/-! ## Actions and recipes -/

/-- An action that is read back: its variables have plain values. -/
def Action.isPlain (a : Action) : Bool :=
  a.vars.entries.all fun e => e.2.isPlain

theorem Action.yields {a : Action} (h : a.isPlain = true) :
    Yields (readAction (m := Except ReadError)) a.json a := by
  have hstrategy : (Strategy.all.map fun s => (s.name, s)).find?
      (fun n => n.1 == a.strategy.name) = some (a.strategy.name, a.strategy) := by
    cases a.strategy <;> decide
  have hvars := List.all_eq_true.mp h
  refine yields_record ?_ (by decide)
  simp only [List.append_assoc, List.cons_append, List.nil_append]
  refine .always (fun _ _ => rfl) (yields_choice hstrategy) ?_
  refine .always (fun _ _ => rfl) (yields_text _) ?_
  refine .optionalText (fun _ _ => rfl) rfl rfl ?_
  refine .optionalText (fun _ _ => rfl) rfl rfl ?_
  refine .optionalText (fun _ _ => rfl) rfl rfl ?_
  refine .optionalText (fun _ _ => rfl) rfl rfl ?_
  refine .optionalText (fun _ _ => rfl) rfl rfl ?_
  refine .optionalText (fun _ _ => rfl) rfl rfl ?_
  refine .always (fun _ _ => rfl) (yields_text _) ?_
  refine .optionalText (fun _ _ => rfl) rfl rfl ?_
  refine .nonEmpty (fun _ _ => rfl) rfl Dict.eq_empty rfl
    (yields_dict fun e he => yields_plain (hvars e he)) ?_
  refine .nonEmpty (fun _ _ => rfl) rfl Dict.eq_empty rfl
    (yields_dict fun e _ => yields_text e.2) ?_
  refine .nonEmpty (fun _ _ => rfl) rfl String.isEmpty_iff.mp rfl (yields_text _) ?_
  refine .nonEmpty (fun _ _ => rfl) rfl Dict.eq_empty rfl
    (yields_dict fun e _ => yields_text e.2) ?_
  refine .optional (fun _ _ => rfl) rfl rfl
    (fun i _ => yields_optionalOf (yields_int64 i) (by rw [int64Json]; simp)) ?_
  exact .done a

/-- A recipe that is read back. -/
def Recipe.isPlain (r : Recipe) : Bool :=
  (r.auth.entries.all fun e => e.2.isPlain) && r.seed.entries.all fun e => e.2.isPlain

theorem Recipe.yields {r : Recipe} (h : r.isPlain = true) :
    Yields (readRecipe (m := Except ReadError)) r.json r := by
  obtain ⟨hauth, hseed⟩ := Bool.and_eq_true_iff.mp h
  have hauth := List.all_eq_true.mp hauth
  have hseed := List.all_eq_true.mp hseed
  refine yields_record ?_ (by decide)
  simp only [List.append_assoc]
  refine .nonEmpty (fun _ _ => rfl) rfl Dict.eq_empty rfl
    (yields_dict fun e he => Auth.yields (hauth e he)) ?_
  refine .nonEmpty (fun _ _ => rfl) rfl Dict.eq_empty rfl
    (yields_dict fun e he => Action.yields (hseed e he)) ?_
  exact .done r

/-- **A recipe is read back from its text**: every field, the order of all entries, and every
character of every text. Its free values hold only integers, an entry with owner credentials says
the same ones in its token endpoint, and nothing nests deeper than the reader allows. -/
theorem Recipe.parse_text {r : Recipe} (hr : r.isPlain = true) (hd : r.json.depth ≤ 127) :
    Recipe.parse (some .json) r.text = .ok (.json, r) := by
  have hyields := Recipe.yields hr
  have hread : readRecipe (m := Except ReadError) (⟨depthLimit, r.json.draft⟩ : Place) = .ok r :=
    hyields.reads (Nat.lt_succ_of_le hd)
  have hdecode : decode readRecipe r.text = .ok r := by
    unfold decode Recipe.text
    rw [ofText_compact hyields.whole]
    dsimp only
    rw [hread]
    rfl
  have hjson : Recipe.ofJson r.text = .ok r := by
    rw [Recipe.ofJson, hdecode]
    rfl
  rw [Recipe.parse, hjson]
  rfl

/-- Entries of both kinds that have conditions, and actions whose texts need escapes. -/
def Recipe.escapes : Recipe where
  auth := .ofList
    [ ("owner", .ownerPassword "id" ""
        { serverUrl := "http://h/token", scopes := ["b", "a"],
          endpointParams := .ofList [("z", ["2", "1"]), ("a", [])],
          ownerUser := some "", ownerPass := some "\"" } "" "\""),
      ("login", .tokenLogin
        { authUrl := "http://h/login",
          credential := .ofList
            [ ("user", .string "ü\u0001"),
              ("id", .object [("a", .null), ("b", .array [.object []])]) ] }) ]
  seed := .ofList
    [ ("put \"it\"\n",
        { strategy := .put, endpoint := "http://h/r\\", payload := "\t\u007f€😀",
          patchPayload := some "", order := some (-9223372036854775808), authRef := "owner",
          vars := .ofList
            [ ("n", .number (.integer ⟨18446744073709551615, by decide⟩)),
              ("m", .number (.integer ⟨-9223372036854775808, by decide⟩)) ] }),
      ("",
        { strategy := .getPost, endpoint := "",
          headers := .ofList [("X", "1"), ("A", "2")] }) ]

theorem Recipe.parse_text_escapes :
    Recipe.escapes.isPlain = true ∧ Recipe.escapes.json.depth ≤ 127 ∧
      Recipe.parse (some .json) Recipe.escapes.text = .ok (.json, Recipe.escapes) := by
  have hplain : Recipe.escapes.isPlain = true := by decide +kernel
  have hdepth : Recipe.escapes.json.depth ≤ 127 := by decide +kernel
  exact ⟨hplain, hdepth, Recipe.parse_text hplain hdepth⟩

end Reconcile
