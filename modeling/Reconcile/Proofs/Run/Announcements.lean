import Reconcile.Proofs.Run.Course

/-!
# Announcements of requests

A line shows the headers of a request of an action, but not the value of the credential that the
request obtained.

* `Decorated.announcement` — the line that is logged is the announcement with that credential;
  `send_announces` — it comes before the request, and if the run is cancelled, instead of it.
* `Round.Announces` — a request that a round sends right after its announcement.
* `Performed.announces`, `Course.announces` — what one request adds to the events of a run, and
  what rounds add.
* `execute_announces` — every request of an action is sent right after its announcement.
-/

namespace Reconcile

variable {σ : Type}

/-! ## One request -/

section Sending

variable {s : Setup σ} {p : Prepared} {verb : Verb} {url : Url} {body : List UInt8}
  {w w₁ : World σ} {r : Request} {names : List String}

/-- **The line about the headers of a request is its announcement** with the credential that it
obtained. -/
theorem Decorated.announcement
    (h : Decorated s p.action.authRef (p.request s verb url body) w (.ok (r, names)) w₁) :
    r.headers = p.attaching (w.credential? s p.action.authRef) ∧
      names = (w.credential? s p.action.authRef).toList.map Credential.header ∧
      p.headerLine verb url r names = p.announcement r (w.credential? s p.action.authRef) := by
  have hr := h.obtained rfl
  have hn : names = (w.credential? s p.action.authRef).toList.map Credential.header := by
    have hb := congrArg Prod.snd h.bears
    cases hc : w.credential? s p.action.authRef <;> rw [hc] at hb <;> exact hb
  have hline : p.headerLine verb url r names = p.headerLine r.method r.url r names := by
    rw [hr]
    rfl
  refine ⟨by rw [hr], hn, ?_⟩
  rw [hline, hn, p.headerLine_eq]

/-- **A request is announced** before it is sent, and if the run is cancelled, instead. -/
theorem send_announces
    (h : (decorate s p.action.authRef (p.request s verb url body)).run w = (.ok (r, names), w₁)) :
    r.headers = p.attaching (w.credential? s p.action.authRef) ∧
      names = (w.credential? s p.action.authRef).toList.map Credential.header ∧
      ∃ after, ((send s p verb url body).run w).2.events =
        w₁.events ++ .logged (p.announcement r (w.credential? s p.action.authRef)) :: after := by
  have hd := decorate_cases s p.action.authRef (p.request s verb url body) w
  rw [h] at hd
  obtain ⟨hr, hn, hline⟩ := hd.announcement
  exact ⟨hr, hn, hline ▸ send_logs h⟩

end Sending

/-! ## Rounds -/

/-- A request that a round sends: right before it comes the line that shows its headers, but not
the value of the credential that it obtained. -/
structure Round.Announces (s : Setup σ) (r : Round σ) (q : Request) (pre : List Event) : Prop where
  sent : ∃ x ∈ r.sent, x.request = q
  headers : q.headers = r.action.attaching (r.before.credential? s r.action.action.authRef)
  line : ∃ front, pre = r.before.events ++ front ++
    [.logged (r.action.announcement q (r.before.credential? s r.action.action.authRef))]
  next : ∃ back, r.after.events = pre ++ .sent .target q :: back

/-- A request of an action that is not among the last events is among those before. -/
theorem sent_earlier {es new pre post : List Event} {q : Request}
    (hn : ∀ r, .sent .target r ∉ new) (h : es ++ new = pre ++ .sent .target q :: post) :
    ∃ post', es = pre ++ .sent .target q :: post' := by
  rcases append_eq_append_cons h with hes | ⟨front, _, rfl⟩
  · exact hes
  · exact absurd (List.mem_append_right _ List.mem_cons_self) (hn q)

section Rounds

variable {s : Setup σ} {w w' : World σ} {pre post : List Event} {q : Request}

/-- While a request gets its credential, no request of an action is sent. -/
theorem Decorated.events {ref : String} {r : Request}
    {out : Except ClockOverflow (Request × List String)} (h : Decorated s ref r w out w') :
    ∃ new, w'.events = w.events ++ new ∧ ∀ q, .sent .target q ∉ new := by
  obtain ⟨xs, hx, _, htoken⟩ := h.path
  obtain ⟨new, hnew, hsent⟩ := hx.events
  refine ⟨new, hnew, fun q hq => ?_⟩
  obtain ⟨x, hm, htarget, _⟩ := hsent _ _ hq
  cases (htoken x hm).symm.trans htarget

/-- A request of an action that was sent by the time another has its credential was sent before. -/
theorem Decorated.earlier {ref : String} {r : Request}
    {out : Except ClockOverflow (Request × List String)} (h : Decorated s ref r w out w')
    (he : w'.events = pre ++ .sent .target q :: post) :
    ∃ post', w.events = pre ++ .sent .target q :: post' := by
  obtain ⟨new, hnew, hn⟩ := h.events
  rw [hnew] at he
  exact sent_earlier hn he

/-- **What one request adds to the events of a run**: at most one request of an action is sent, and
right after its announcement. -/
theorem Performed.announces {p : Prepared} {verb : Verb} {id : Option String} {body : List UInt8}
    {out : Except ClockOverflow (Except ActionError (List UInt8))}
    (h : Performed s p verb id body w out w')
    (he : w'.events = pre ++ .sent .target q :: post) :
    (∃ post', w.events = pre ++ .sent .target q :: post') ∨
      q.headers = p.attaching (w.credential? s p.action.authRef) ∧
        ∃ front, pre = w.events ++ front ++
          [.logged (p.announcement q (w.credential? s p.action.authRef))] := by
  have hlines : ∀ lines : List LogLine, ∀ r, .sent .target r ∉ lines.map Event.logged := by
    intro lines r hr
    simp at hr
  cases h with
  | malformed lines => exact .inl (sent_earlier (hlines lines) he)
  | overrun lines _ hd =>
    obtain ⟨_, he⟩ := hd.earlier he
    exact .inl (sent_earlier (hlines lines) he)
  | unsent lines _ hd =>
    obtain ⟨_, he⟩ := sent_earlier (hlines [_]) he
    obtain ⟨_, he⟩ := hd.earlier he
    exact .inl (sent_earlier (hlines lines) he)
  | @exchanged url r names w₁ lines _ hd =>
    obtain ⟨new, hnew, _⟩ := hd.events
    obtain ⟨hr, _, hline⟩ := hd.announcement
    obtain ⟨_, he⟩ := sent_earlier (hlines _) he
    rcases concat_eq_append_cons he with ⟨_, hpre, hq⟩ | ⟨_, he⟩
    · cases hq
      refine .inr ⟨hr, lines.map .logged ++ new, ?_⟩
      rw [← hpre, World.logging, hnew, hline, World.logging, List.append_assoc w.events]
      rfl
    · obtain ⟨_, he⟩ := sent_earlier (hlines [_]) he
      obtain ⟨_, he⟩ := hd.earlier he
      exact .inl (sent_earlier (hlines lines) he)

/-- A request of an action that is among the events after a round was there before, or is the one
that the round announces and sends. -/
theorem Round.Holds.announces {r : Round σ} (h : r.Holds s)
    (he : r.after.events = pre ++ .sent .target q :: post) :
    (∃ post', r.before.events = pre ++ .sent .target q :: post') ∨ r.Announces s q pre := by
  have hp := perform_cases s r.action r.verb r.id r.body r.before
  rw [h.ran] at hp
  rcases hp.announces he with hbefore | ⟨hheaders, front, hpre⟩
  · exact .inl hbefore
  · refine .inr ⟨?_, hheaders, ⟨front, hpre⟩, post, he⟩
    -- it is among the events that the round adds, so it is one of its exchanges
    obtain ⟨new, hnew, hsent⟩ := h.path.events
    rw [hnew, hpre, List.append_assoc, List.append_assoc] at he
    have hq : .sent .target q ∈ new := by
      rw [List.append_cancel_left he]
      simp
    obtain ⟨x, hx, htarget, hreq⟩ := hsent _ _ hq
    refine ⟨x, ?_, hreq⟩
    rcases List.mem_append.mp hx with hx | hx
    · cases (h.asks x (Option.mem_toList.mp hx)).1.symm.trans htarget
    · exact Option.mem_toList.mp hx

/-- **What rounds add to the events of a run**: every request of an action comes right after its
announcement. -/
theorem Course.announces {rounds : List (Round σ)} (h : Course s w rounds w')
    (he : w'.events = pre ++ .sent .target q :: post) :
    (∃ post', w.events = pre ++ .sent .target q :: post') ∨
      ∃ r ∈ rounds, r.Announces s q pre := by
  induction h generalizing post with
  | done lines => exact .inl (sent_earlier (by simp) he)
  | @round w w' r rest lines hb hr _ ih =>
    rcases ih he with ⟨_, hafter⟩ | ⟨r', hm, hr'⟩
    · rcases hr.announces hafter with ⟨_, hbefore⟩ | hr'
      · rw [hb] at hbefore
        exact .inl (sent_earlier (by simp) hbefore)
      · exact .inr ⟨r, List.mem_cons_self, hr'⟩
    · exact .inr ⟨r', List.mem_cons_of_mem _ hm, hr'⟩

end Rounds

/-- **Every request of an action is sent right after its announcement.** -/
theorem execute_announces (s : Setup σ) (actions : List Prepared) (w : World σ) :
    ∃ rounds, Course s w.opened rounds (execute s actions w).2 ∧
      (∀ r ∈ rounds, r.action ∈ actions) ∧
      ∀ pre q post, (execute s actions w).2.events = pre ++ .sent .target q :: post →
        ∃ r ∈ rounds, r.Announces s q pre := by
  obtain ⟨rounds, hc, ha, _⟩ := execute_course s actions w
  refine ⟨rounds, hc, ha, fun pre q post he => ?_⟩
  rcases hc.announces he with ⟨_, hstart⟩ | hr
  · cases pre <;> cases hstart
  · exact hr

end Reconcile
