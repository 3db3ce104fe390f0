import Reconcile.Proofs.Run.Requests

/-!
# What logs show of headers

* `hidden` — whether the value of a header does not show.
* `Prepared.attaching` — the headers of an action with a credential.
* `Prepared.announcement` — the line about the headers of a request; `Prepared.headerLine_eq` — it
  is the one that is logged.
* `send_logs` — it is logged before anything else becomes of the request.
-/

namespace Reconcile

variable {σ : Type}

/-- Whether logs hide the value of a header: one that carries credentials by its name, or the one
of the credential that was attached. -/
def hidden (c : Option Credential) (name : String) : Bool :=
  Text.sameIgnoringCase name "authorization" || Text.sameIgnoringCase name "cookie" ||
    c.any fun c => Text.sameIgnoringCase name c.header

/-- The headers of an action, perhaps with a credential. -/
def Prepared.attaching (p : Prepared) : Option Credential → Headers
  | none => p.headers
  | some c => p.headers.set c.header c.value

/-- The line about the headers of a request. -/
def Prepared.announcement (p : Prepared) (r : Request) (c : Option Credential) : LogLine where
  level := .debug
  message :=
    p.name ++ ": " ++ target r.method.name r.url ++ " headers [" ++
      ", ".intercalate (r.headers.entries.map fun e =>
        e.1 ++ ": " ++ if hidden c e.1 then "<redacted>" else e.2) ++ "]"

theorem Headers.isSecret_credential (c : Option Credential) (name : String) :
    isSecret (c.toList.map Credential.header) name = hidden c name := by
  rw [isSecret, hidden]
  cases c with
  | none => rfl
  | some c => simp only [Option.toList_some, List.map_singleton, List.any_cons, List.any_nil,
      Bool.or_false, Option.any_some]

/-- The line about the headers of a request is its announcement. -/
theorem Prepared.headerLine_eq (p : Prepared) (r : Request) (c : Option Credential) :
    p.headerLine r.method r.url r (c.toList.map Credential.header) = p.announcement r c := by
  simp only [headerLine, announcement, Headers.text, Headers.redacted, Table.mapValues,
    List.map_map, Function.comp_def, Headers.isSecret_credential]
  rfl

section Announcing

variable {s : Setup σ} {p : Prepared} {verb : Verb} {url : Url} {body : List UInt8}
  {w w₁ : World σ} {r : Request} {names : List String}

/-- **The headers of a request are logged** before it is sent, and if the run is cancelled,
instead. -/
theorem send_logs
    (h : (decorate s p.action.authRef (p.request s verb url body)).run w = (.ok (r, names), w₁)) :
    ∃ after, ((send s p verb url body).run w).2.events =
      w₁.events ++ .logged (p.headerLine verb url r names) :: after := by
  cases hw : w₁.cancelled with
  | true =>
    refine ⟨[], ?_⟩
    rw [send_run_cancelled h hw]
    rfl
  | false =>
    refine ⟨.sent .target r ::
      (p.answerLines (p.record verb url) (w₁.reply s r).result?).map .logged, ?_⟩
    rw [send_run_open h hw]
    simp [World.logging, World.exchanged, World.storing]

end Announcing

end Reconcile
