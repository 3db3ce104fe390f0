import Mathlib.Data.List.DropRight
import Reconcile.Recipe.Validation
import Reconcile.Url.Reading

/-!
# Schemes of addresses

A recipe is checked for addresses that start with `http://` or `https://` once their blanks are cut
off.  An address is read without its control characters and spaces, which are not the same.

* `Url.clean_append` — a text that goes on after a character that counts.
* `Url.splitScheme?_append` — the scheme of a text is that of the texts that go on after it.
* `Url.reads_readAfterScheme` — reading keeps the scheme.
* `Url.hidesScheme` — a blank that reading does not cut off stands first.
* `Url.parse_of_hidesScheme`, `Url.parse_of_checked` — a checked address that goes on in any way has
  no scheme when it hides it, and else the one it was checked for.
-/

namespace Reconcile.Url

/-! ## Cleaned texts -/

/-- A control character or a space: these do not count at the ends of an address. -/
def isOuter (c : Char) : Bool :=
  c.toNat ≤ 0x20

/-- Anything but a tab or a line break: these do not count anywhere in an address. -/
def isKept (c : Char) : Bool :=
  !(c == '\t' || c == '\n' || c == '\r')

theorem isKept_of_isOuter {c : Char} (h : isOuter c = false) : isKept c = true := by
  cases hk : isKept c with
  | true => rfl
  | false =>
    simp only [isKept, Bool.not_eq_false', Bool.or_eq_true, beq_iff_eq] at hk
    rcases hk with (rfl | rfl) | rfl <;> exact absurd h (by decide)

theorem clean_eq (s : String) :
    clean s = ((s.toList.dropWhile isOuter).rdropWhile isOuter).filter isKept := rfl

section Ends

variable {α : Type} {p : α → Bool} {c : α}

theorem dropWhile_append_cons (hc : p c = false) (x t : List α) :
    (x ++ c :: t).dropWhile p = (x ++ [c]).dropWhile p ++ t := by
  induction x with
  | nil => simp [hc]
  | cons a x ih =>
    rw [List.cons_append, List.cons_append, List.dropWhile_cons, List.dropWhile_cons]
    split
    · exact ih
    · simp

/-- What is left of a text that ends in a character that stays ends in it. -/
theorem dropWhile_concat (hc : p c = false) (x : List α) :
    ∃ y, (x ++ [c]).dropWhile p = y ++ [c] := by
  induction x with
  | nil => exact ⟨[], by simp [hc]⟩
  | cons a x ih =>
    rw [List.cons_append, List.dropWhile_cons]
    split
    · exact ih
    · exact ⟨a :: x, rfl⟩

theorem rdropWhile_append_cons (hc : p c = false) (x t : List α) :
    (x ++ c :: t).rdropWhile p = x ++ c :: t.rdropWhile p := by
  induction t using List.reverseRecOn with
  | nil => simp [hc, List.rdropWhile_concat_neg]
  | append_singleton t a ih =>
    rw [← List.cons_append, ← List.append_assoc, List.rdropWhile_concat, List.rdropWhile_concat]
    split
    · exact ih
    · simp

end Ends

/-- **A text goes on as it is** after a character that counts, but for its end. -/
theorem clean_append {s : String} {x : List Char} {c : Char} (hs : s.toList = x ++ [c])
    (hc : isOuter c = false) (t : String) :
    clean (s ++ t) = clean s ++ (t.toList.rdropWhile isOuter).filter isKept := by
  obtain ⟨y, hy⟩ := dropWhile_concat hc x
  have hst : (s ++ t).toList = x ++ c :: t.toList := by simp [hs]
  rw [clean_eq, clean_eq, hst, hs, dropWhile_append_cons hc, hy, List.append_assoc,
    List.singleton_append, rdropWhile_append_cons hc,
    List.rdropWhile_concat_neg _ _ _ (by simp [hc]), ← List.filter_append, List.append_assoc,
    List.singleton_append]

/-! ## Schemes -/

/-- The scheme of a text: a letter and more characters of schemes, up to a colon. -/
theorem splitScheme?_eq_some {cs rest : List Char} {scheme : String} :
    splitScheme? cs = some (scheme, rest) ↔
      ∃ c name, cs = c :: name ++ ':' :: rest ∧ (∀ a ∈ c :: name, isSchemeChar a = true) ∧
        Text.isLetter c = true ∧ scheme = Text.lower (String.ofList (c :: name)) := by
  have hdrop : cs.drop (cs.takeWhile isSchemeChar).length = cs.dropWhile isSchemeChar :=
    calc cs.drop (cs.takeWhile isSchemeChar).length
      _ = (cs.takeWhile isSchemeChar ++ cs.dropWhile isSchemeChar).drop
            (cs.takeWhile isSchemeChar).length := by rw [List.takeWhile_append_dropWhile]
      _ = cs.dropWhile isSchemeChar := List.drop_left
  unfold splitScheme?
  dsimp only
  rw [hdrop]
  constructor
  · intro h
    split at h
    · rename_i c name rest' hname hrest
      split at h
      · rename_i hletter
        cases h
        refine ⟨c, name, ?_, ?_, hletter, by rw [hname]⟩
        · rw [← hname, ← hrest, List.takeWhile_append_dropWhile]
        · intro a ha
          rw [← hname] at ha
          exact List.mem_takeWhile_imp ha
      · cases h
    · cases h
  · rintro ⟨c, name, rfl, hchars, hletter, rfl⟩
    have hcolon : ¬ isSchemeChar ':' = true := by decide
    have htake : (c :: name ++ ':' :: rest).takeWhile isSchemeChar = c :: name := by
      rw [List.takeWhile_append_of_pos hchars, List.takeWhile_cons_of_neg hcolon, List.append_nil]
    have hleft : (c :: name ++ ':' :: rest).dropWhile isSchemeChar = ':' :: rest := by
      rw [List.dropWhile_append_of_pos hchars, List.dropWhile_cons_of_neg hcolon]
    rw [htake, hleft]
    exact if_pos hletter

/-- **The scheme of a text is that of every text that goes on after it.** -/
theorem splitScheme?_append {cs rest : List Char} {scheme : String}
    (h : splitScheme? cs = some (scheme, rest)) (more : List Char) :
    splitScheme? (cs ++ more) = some (scheme, rest ++ more) := by
  obtain ⟨c, name, rfl, hchars, hletter, rfl⟩ := splitScheme?_eq_some.mp h
  exact splitScheme?_eq_some.mpr ⟨c, name, by simp, hchars, hletter, rfl⟩

/-! ## Reading after a scheme -/

/-- A reading that succeeds only with what has a property, and fails only with another error than
that there is no scheme. -/
def Reads {α : Type} (P : α → Prop) : Except UrlError α → Prop
  | .ok a => P a
  | .error e => e ≠ .noScheme

section Reads

variable {α β : Type} {P : α → Prop} {Q : β → Prop}

theorem Reads.bind {x : Except UrlError α} {f : α → Except UrlError β} (hx : Reads P x)
    (hf : ∀ a, P a → Reads Q (f a)) : Reads Q (x >>= f) := by
  cases x with
  | ok a => exact hf a hx
  | error e => exact hx

theorem Reads.map {x : Except UrlError α} {f : α → β} (hx : Reads P x) (hf : ∀ a, P a → Q (f a)) :
    Reads Q (x.map f) := by
  cases x with
  | ok a => exact hf a hx
  | error e => exact hx

end Reads

theorem reads_parseIpv6 (cs : List Char) : Reads (fun _ => True) (Host.parseIpv6 cs) := by
  unfold Host.parseIpv6
  dsimp only
  split <;> simp [Reads]

theorem reads_parseIpv4 (s : String) : Reads (fun _ => True) (Host.parseIpv4 s) := by
  unfold Host.parseIpv4
  dsimp only
  repeat' split
  all_goals simp [Reads]

theorem reads_bracketed {cs : List Char} {r : Except UrlError Host}
    (h : Host.bracketed? cs = some r) : Reads (fun _ => True) r := by
  unfold Host.bracketed? at h
  split at h
  · split at h
    · cases h
      exact (reads_parseIpv6 _).map fun _ _ => trivial
    · cases h
      simp [Reads]
  · cases h

theorem reads_parse_host (cs : List Char) : Reads (fun _ => True) (Host.parse cs) := by
  unfold Host.parse
  split
  · rename_i r hr
    exact reads_bracketed hr
  · split
    · simp [Reads]
    · split
      · simp [Reads]
      · split
        · exact (reads_parseIpv4 _).map fun _ _ => trivial
        · trivial

theorem reads_parseOther (cs : List Char) : Reads (fun _ => True) (Host.parseOther cs) := by
  unfold Host.parseOther
  split
  · rename_i r hr
    exact reads_bracketed hr
  · split <;> simp [Reads]

theorem reads_readPort (scheme : String) (cs : List Char) :
    Reads (fun _ => True) (readPort scheme cs) := by
  unfold readPort
  dsimp only
  repeat' split
  all_goals simp [Reads]

section Scheme

variable (k : SchemeKind) (u : Url) (cs : List Char)

theorem reads_readHost : Reads (fun r => r.1.scheme = u.scheme) (readHost k cs u) := by
  unfold readHost
  dsimp only
  split
  · simp [Reads, throw, throwThe, MonadExceptOf.throw, bind, Except.bind]
  · split
    · refine (reads_parse_host _).bind fun host _ => ?_
      split
      · rfl
      · exact (reads_readPort _ _).bind fun _ _ => rfl
    · refine (reads_parseOther _).bind fun host _ => ?_
      split
      · rfl
      · exact (reads_readPort _ _).bind fun _ _ => rfl

/-- The user before a host, and the host and the port as texts. -/
def readLogin (u : Url) (authority : List Char) (ends : Bool) : Except UrlError (Url × List Char) :=
  match splitLast? '@' authority with
  | none => .ok (u, authority)
  | some ([], []) => if ends then .ok (u, []) else .error .emptyHost
  | some (user, hostAndPort) => .ok (readUser user u, hostAndPort)

/-- The host and the port, and the path after them. -/
def readHostAndPath (k : SchemeKind) (rest : List Char) (r : Url × List Char) :
    Except UrlError Url := do
  let (u, tail) ← readHost k r.2 r.1
  if u.hostText.isEmpty && !(u.username.isEmpty && u.password.isEmpty) then throw .emptyHost
  pure (finish k (readPath k) u (tail ++ rest))

theorem readAuthority_eq :
    readAuthority k u cs =
      readLogin u (cut k.endsAuthority cs).1 (cut k.endsAuthority cs).2.isEmpty >>=
        readHostAndPath k (cut k.endsAuthority cs).2 := by
  unfold readAuthority readLogin
  dsimp only
  rcases splitLast? '@' (cut k.endsAuthority cs).1 with _ | ⟨_ | ⟨c, user⟩, _ | ⟨d, hostAndPort⟩⟩
  · rfl
  · cases (cut k.endsAuthority cs).2.isEmpty <;> rfl
  · rfl
  · rfl
  · rfl

theorem reads_readLogin (ends : Bool) :
    Reads (fun r => r.1.scheme = u.scheme) (readLogin u cs ends) := by
  unfold readLogin
  split
  · rfl
  · split
    · rfl
    · simp [Reads]
  · rfl

theorem reads_readHostAndPath (r : Url × List Char) :
    Reads (fun v => v.scheme = r.1.scheme) (readHostAndPath k cs r) := by
  unfold readHostAndPath
  refine (reads_readHost k r.1 r.2).bind fun v hv => ?_
  dsimp only
  split
  · simp [Reads, throw, throwThe, MonadExceptOf.throw, bind, Except.bind]
  · exact hv

theorem reads_readAuthority : Reads (fun v => v.scheme = u.scheme) (readAuthority k u cs) := by
  rw [readAuthority_eq]
  refine (reads_readLogin u _ _).bind fun r hr => ?_
  rw [← hr]
  exact reads_readHostAndPath k _ r

theorem reads_readFile : Reads (fun v => v.scheme = u.scheme) (readFile u cs) := by
  unfold readFile
  dsimp only
  split
  · split
    · split
      · rfl
      · refine (reads_parse_host _).bind fun host _ => ?_
        split
        · split <;> rfl
        · rfl
    · rfl
  · rfl

end Scheme

/-- **Reading keeps the scheme.** -/
theorem reads_readAfterScheme (scheme : String) (cs : List Char) :
    Reads (fun u => u.scheme = scheme) (readAfterScheme scheme cs) := by
  unfold readAfterScheme
  dsimp only
  split
  · exact reads_readFile _ _
  · exact reads_readAuthority _ _ _
  · split
    · exact reads_readAuthority _ _ _
    · rfl
    · rfl

/-! ## Checked addresses -/

/-- A blank that does not count as one for addresses stands before everything else. -/
def hidesScheme (address : String) : Bool :=
  (address.toList.dropWhile isOuter).head?.any Text.isBlank

theorem toNat_of_isSchemeChar {c : Char} (h : isSchemeChar c = true) :
    0x2B ≤ c.toNat ∧ c.toNat ≤ 0x7A := by
  have hrange : ∀ {a b : Char}, a ≤ c → c ≤ b → 0x2B ≤ a.toNat → b.toNat ≤ 0x7A →
      0x2B ≤ c.toNat ∧ c.toNat ≤ 0x7A :=
    fun ha hb hlow hhigh => ⟨Nat.le_trans hlow ha, Nat.le_trans hb hhigh⟩
  simp only [isSchemeChar, Text.isLetter, Text.isDigit, Bool.or_eq_true, Bool.and_eq_true,
    decide_eq_true_eq, beq_iff_eq] at h
  rcases h with ((((⟨ha, hb⟩ | ⟨ha, hb⟩) | ⟨ha, hb⟩) | rfl) | rfl) | rfl
  · exact hrange ha hb (by decide) (by decide)
  · exact hrange ha hb (by decide) (by decide)
  · exact hrange ha hb (by decide) (by decide)
  · decide
  · decide
  · decide

theorem toNat_of_isBlank {c : Char} (h : Text.isBlank c = true) :
    c.toNat ≤ 0x20 ∨ 0x85 ≤ c.toNat := by
  simp only [Text.isBlank, Bool.or_eq_true, Bool.and_eq_true, decide_eq_true_eq, beq_iff_eq] at h
  omega

/-- A blank is no character of schemes. -/
theorem not_isSchemeChar_of_isBlank {c : Char} (h : Text.isBlank c = true) :
    isSchemeChar c = false := by
  rw [← Bool.not_eq_true]
  intro hc
  have hscheme := toNat_of_isSchemeChar hc
  have hblank := toNat_of_isBlank h
  omega

/-- What stands first of a text once its blanks are cut off stands first of an address too, unless
a blank hides it. -/
theorem dropWhile_isOuter_of_isBlank {cs rest : List Char} {c : Char}
    (h : cs.dropWhile Text.isBlank = c :: rest)
    (hn : (cs.dropWhile isOuter).head?.any Text.isBlank = false) (hc : isOuter c = false) :
    cs.dropWhile isOuter = c :: rest := by
  induction cs with
  | nil => cases h
  | cons a cs ih =>
    cases ha : Text.isBlank a with
    | false =>
      rw [List.dropWhile_cons_of_neg (by simp [ha])] at h
      cases h
      rw [List.dropWhile_cons_of_neg (by simp [hc])]
    | true =>
      rw [List.dropWhile_cons_of_pos ha] at h
      cases hd : isOuter a with
      | true =>
        rw [List.dropWhile_cons_of_pos hd] at hn ⊢
        exact ih h hn
      | false =>
        rw [List.dropWhile_cons_of_neg (by simp [hd])] at hn
        simp [ha] at hn

/-- **An address that hides its scheme has none**, however it goes on. -/
theorem parse_of_hidesScheme {address : String} (h : hidesScheme address = true) (more : String) :
    parse (address ++ more) = .error .noScheme := by
  unfold hidesScheme at h
  cases hd : address.toList.dropWhile isOuter with
  | nil => simp [hd] at h
  | cons c rest =>
    have hc : Text.isBlank c = true := by simpa [hd] using h
    have houter : isOuter c = false := by
      have hne : address.toList.dropWhile isOuter ≠ [] := by rw [hd]; exact List.cons_ne_nil _ _
      have hhead := List.head_dropWhile_not isOuter (w := hne)
      simpa [hd] using hhead
    have hkept : isKept c = true := isKept_of_isOuter houter
    have hclean : ∃ later, clean (address ++ more) = c :: later := by
      rw [clean_eq, String.toList_append, List.dropWhile_append, hd]
      simp only [List.isEmpty_cons, Bool.false_eq_true, if_false, List.cons_append]
      have hcons := rdropWhile_append_cons houter [] (rest ++ more.toList)
      rw [List.nil_append] at hcons
      rw [hcons, List.nil_append, List.filter_cons_of_pos hkept]
      exact ⟨_, rfl⟩
    obtain ⟨later, hlater⟩ := hclean
    have hnone : splitScheme? (c :: later) = none := by
      cases hs : splitScheme? (c :: later) with
      | none => rfl
      | some r =>
        obtain ⟨a, name, heq, hchars, -⟩ := splitScheme?_eq_some.mp hs
        obtain ⟨rfl, -⟩ := List.cons.inj heq
        have hca := hchars c List.mem_cons_self
        rw [not_isSchemeChar_of_isBlank hc] at hca
        cases hca
    rw [parse, hlater, hnone]

/-- A text that a check takes for an address: what is left of it without blanks starts with one of
two schemes. -/
theorem exists_scheme_of_hasHttpScheme {address : String}
    (h : hasHttpScheme (Text.trim address) = true) :
    ∃ scheme rest, (scheme = "http" ∨ scheme = "https") ∧
      address.toList.dropWhile Text.isBlank = scheme.toList ++ ':' :: rest := by
  have hprefix : ∀ {start : List Char},
      start.isPrefixOf (Text.trim address).toList = true →
        start <+: address.toList.dropWhile Text.isBlank := by
    intro start hs
    rw [Text.trim, String.toList_ofList] at hs
    exact (List.isPrefixOf_iff_prefix.mp hs).trans (List.rdropWhile_prefix Text.isBlank _)
  rw [hasHttpScheme, Bool.or_eq_true] at h
  rcases h with h | h
  · obtain ⟨rest, hrest⟩ := hprefix h
    exact ⟨"http", '/' :: '/' :: rest, .inl rfl, hrest.symm⟩
  · obtain ⟨rest, hrest⟩ := hprefix h
    exact ⟨"https", '/' :: '/' :: rest, .inr rfl, hrest.symm⟩

/-- **A checked address that does not hide its scheme has the scheme it was checked for**, however
it goes on. -/
theorem parse_of_checked {address : String} (h : hasHttpScheme (Text.trim address) = true)
    (hn : hidesScheme address = false) (more : String) :
    Reads (fun u => u.scheme = "http" ∨ u.scheme = "https") (parse (address ++ more)) := by
  obtain ⟨scheme, rest, hscheme, hstart⟩ := exists_scheme_of_hasHttpScheme h
  have hsplit : ∃ later, splitScheme? (clean (address ++ more)) = some (scheme, later) := by
    have houter : address.toList.dropWhile isOuter = scheme.toList ++ ':' :: rest := by
      rcases hscheme with rfl | rfl
      · exact dropWhile_isOuter_of_isBlank hstart hn (by decide)
      · exact dropWhile_isOuter_of_isBlank hstart hn (by decide)
    -- the scheme and its colon are cleaned by themselves
    have htext : address ++ more =
        String.ofList (address.toList.takeWhile isOuter ++ scheme.toList ++ [':']) ++
          String.ofList (rest ++ more.toList) := by
      rw [← String.toList_inj]
      conv => lhs; rw [String.toList_append, ← List.takeWhile_append_dropWhile (p := isOuter)
        (l := address.toList), houter]
      simp
    have hlead : ∀ c ∈ address.toList.takeWhile isOuter, isOuter c = true :=
      fun c hc => List.mem_takeWhile_imp hc
    have hclean : clean
        (String.ofList (address.toList.takeWhile isOuter ++ scheme.toList ++ [':'])) =
          scheme.toList ++ [':'] := by
      rw [clean_eq, String.toList_ofList, List.append_assoc, List.dropWhile_append_of_pos hlead]
      rcases hscheme with rfl | rfl <;> decide
    have hs : splitScheme? (scheme.toList ++ [':']) = some (scheme, []) := by
      rcases hscheme with rfl | rfl <;> decide
    rw [htext, clean_append (String.toList_ofList ..) (by decide), hclean]
    exact ⟨_, splitScheme?_append hs _⟩
  obtain ⟨later, hlater⟩ := hsplit
  have hreads := reads_readAfterScheme scheme later
  rw [parse, hlater]
  dsimp only
  cases hr : readAfterScheme scheme later with
  | error e =>
    rw [hr] at hreads
    exact hreads
  | ok u =>
    rw [hr] at hreads
    have hu : u.scheme = scheme := hreads
    show u.scheme = "http" ∨ u.scheme = "https"
    rw [hu]
    exact hscheme

end Reconcile.Url
