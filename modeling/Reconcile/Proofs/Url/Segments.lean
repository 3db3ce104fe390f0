import Reconcile.Proofs.Url.Paths

/-!
# Texts that become the last segment of an address

An address that is made of a text, a slash and an id is read as a whole, so the id has no say in
what becomes of it.

* `Url.Addresses` — the last segment of an address stands for a text, and nothing follows the path.
* `Url.IsSegment` — a text that is one segment as it stands; `Url.Extends` — an id that stays one
  when it is put after a text and a slash.
* `Url.addresses_of_extends` — such an id is addressed.
* `Url.extends_of_addresses` — no other is, where hosts are read as for `http`.
-/

namespace Reconcile.Url

open Text.Percent (unescape hasEscape)

/-! ## What an address is for -/

/-- The last segment of an address stands for a text, and nothing follows the path. -/
structure Addresses (u : Url) (id : String) : Prop where
  segment : Text.Percent.decodeText (lastSegment u.path) = Text.Utf8.encode id
  query : u.query = none
  fragment : u.fragment = none

instance (u : Url) (id : String) : Decidable (u.Addresses id) :=
  decidable_of_iff (Text.Percent.decodeText (lastSegment u.path) = Text.Utf8.encode id ∧
      u.query = none ∧ u.fragment = none)
    ⟨fun ⟨hs, hq, hf⟩ => ⟨hs, hq, hf⟩, fun ⟨hs, hq, hf⟩ => ⟨hs, hq, hf⟩⟩

/-- **An address is for one text at most.** -/
theorem Addresses.eq {u : Url} {id id' : String} (h : u.Addresses id) (h' : u.Addresses id') :
    id = id' :=
  Text.Utf8.encode_injective (h.segment.symm.trans h'.segment)

/-- A text that is one segment as it stands: it holds no tab, no line break and nothing that ends a
segment, it does not end in a control character or a space, it does not stand for this segment or
its parent, it holds no escape, and it is no drive that would be written in another way. -/
structure IsSegment (k : SchemeKind) (id : String) : Prop where
  kept : ∀ c ∈ id.toList, isKept c = true ∧ k.isSlash c = false ∧ c ≠ '?' ∧ c ≠ '#'
  ends : id.toList.getLast?.any isOuter = false
  dots : isDoubleDot id.toList = false ∧ isSingleDot id.toList = false
  escapes : hasEscape id.toList = false
  drive : k = .file → isDrive id.toList = true → id.toList.getLast? = some ':'

instance (k : SchemeKind) (id : String) : Decidable (IsSegment k id) :=
  -- only the characters of the text are gone through
  have := List.decidableBAll
    (fun c => isKept c = true ∧ k.isSlash c = false ∧ c ≠ '?' ∧ c ≠ '#') id.toList
  decidable_of_iff
    ((∀ c ∈ id.toList, isKept c = true ∧ k.isSlash c = false ∧ c ≠ '?' ∧ c ≠ '#') ∧
      id.toList.getLast?.any isOuter = false ∧
      (isDoubleDot id.toList = false ∧ isSingleDot id.toList = false) ∧
      hasEscape id.toList = false ∧
      (k = .file → isDrive id.toList = true → id.toList.getLast? = some ':'))
    ⟨fun ⟨hk, he, hd, hx, hf⟩ => ⟨hk, he, hd, hx, hf⟩,
      fun ⟨hk, he, hd, hx, hf⟩ => ⟨hk, he, hd, hx, hf⟩⟩

/-- Whether a path starts before the slash that follows some text: if nothing but slashes stands
there, what comes after it is read as a host. -/
def SchemeKind.opensPath (k : SchemeKind) (body : List Char) : Bool :=
  match k, body with
  | .network, body => body.any fun c => !k.isSlash c
  | _, [c] => !k.isSlash c
  | _, _ => true

/-- An id that stays a segment when it is put after a text and a slash. -/
def Extends (base id : String) : Prop :=
  ∃ scheme body, splitScheme? (clean (base ++ "/")) = some (scheme, body ++ ['/']) ∧
    (schemeKind scheme).opensPath body = true ∧ IsSegment (schemeKind scheme) id

/-! ## The text after the scheme -/

/-- What is left of a text at the end of an address. -/
def cleanedEnd (id : String) : List Char :=
  (id.toList.rdropWhile isOuter).filter isKept

theorem cleanedEnd_sublist (id : String) : (cleanedEnd id).Sublist id.toList :=
  List.filter_sublist.trans (List.rdropWhile_prefix _ _).sublist

/-- Nothing is dropped from the end of a text exactly when its last element stays. -/
theorem rdropWhile_eq_self_iff_getLast? {α : Type} {p : α → Bool} {l : List α} :
    l.rdropWhile p = l ↔ l.getLast?.any p = false := by
  rcases l.eq_nil_or_concat with rfl | ⟨l, a, rfl⟩
  · exact iff_of_true rfl rfl
  · simp [List.rdropWhile_eq_self_iff]

theorem IsSegment.cleanedEnd {k : SchemeKind} {id : String} (h : IsSegment k id) :
    cleanedEnd id = id.toList := by
  have hends := rdropWhile_eq_self_iff_getLast?.mpr h.ends
  rw [Url.cleanedEnd, hends, List.filter_eq_self]
  exact fun c hc => (h.kept c hc).1

theorem mem_of_mem_clean {s : String} {c : Char} (h : c ∈ clean s) : c ∈ s.toList := by
  rw [clean_eq] at h
  have hdrop := (List.rdropWhile_prefix isOuter _).subset (List.mem_of_mem_filter h)
  exact (List.dropWhile_sublist isOuter).subset hdrop

/-- A text that ends in a slash does so once it is cleaned. -/
theorem clean_slash (base : String) : ∃ cs, clean (base ++ "/") = cs ++ ['/'] := by
  have hslash : isOuter '/' = false := by decide
  obtain ⟨y, hy⟩ := dropWhile_concat hslash base.toList
  have htext : (base ++ "/").toList = base.toList ++ ['/'] := String.toList_append
  rw [clean_eq, htext, hy, List.rdropWhile_concat_neg _ _ _ (by decide), List.filter_append]
  exact ⟨_, rfl⟩

/-- **An address that is made of a text, a slash and an id** has its scheme from the text, and the
id and the slash stand last. -/
theorem parse_slash {base id : String} {u : Url} (h : parse (base ++ "/" ++ id) = .ok u) :
    ∃ scheme body, splitScheme? (clean (base ++ "/")) = some (scheme, body ++ ['/']) ∧
      (∀ c ∈ body, c ∈ base.toList ∨ c = '/') ∧
      readAfterScheme scheme (body ++ '/' :: cleanedEnd id) = .ok u := by
  have htext : (base ++ "/").toList = base.toList ++ ['/'] := String.toList_append
  have hclean := clean_append htext (by decide) id
  obtain ⟨cs, hcs⟩ := clean_slash base
  rw [parse, hclean, hcs] at h
  cases hs : splitScheme? (cs ++ ['/'] ++ (id.toList.rdropWhile isOuter).filter isKept) with
  | none =>
    rw [hs] at h
    cases h
  | some found =>
    obtain ⟨scheme, rest⟩ := found
    rw [hs] at h
    obtain ⟨c, name, heq, hchars, hletter, rfl⟩ := splitScheme?_eq_some.mp hs
    have hslash : isSchemeChar '/' = false := by decide
    -- the colon stands before the slash, which is no character of schemes
    obtain ⟨body, rfl, rfl⟩ : ∃ body, cs = c :: name ++ ':' :: body ∧
        rest = body ++ '/' :: cleanedEnd id := by
      rw [List.append_assoc, List.singleton_append, List.append_eq_append_iff] at heq
      rcases heq with ⟨as, hname, htail⟩ | ⟨bs, hcs, htail⟩
      · cases as with
        | nil => simp at htail
        | cons a as =>
          obtain ⟨rfl, -⟩ := List.cons.inj htail
          have hmem := hchars '/' (by rw [hname]; simp)
          rw [hslash] at hmem
          cases hmem
      · cases bs with
        | nil => simp at htail
        | cons b bs =>
          obtain ⟨rfl, rfl⟩ := List.cons.inj htail
          exact ⟨bs, hcs, rfl⟩
    refine ⟨_, body, ?_, ?_, h⟩
    · rw [hcs]
      exact splitScheme?_eq_some.mpr ⟨c, name, by simp, hchars, hletter, rfl⟩
    · intro a ha
      have hmem : a ∈ clean (base ++ "/") := by
        rw [hcs]
        simp [ha]
      have hbase := mem_of_mem_clean hmem
      rwa [htext, List.mem_append, List.mem_singleton] at hbase

/-! ## Ids that stay segments -/

section Extending

variable {k : SchemeKind} {u v : Url} {id : String} {y t : List Char}

theorem IsSegment.noQuery (h : IsSegment k id) : NoQuery id.toList :=
  fun c hc => (h.kept c hc).2.2

theorem IsSegment.unescape (h : IsSegment k id) : unescape id.toList = Text.Utf8.encode id := by
  rw [Text.Utf8.encode_eq, Text.Percent.unescape_eq_bytes_iff.mpr h.escapes]

/-- A segment at the end of a path is its last one. -/
theorem IsSegment.decodeText_rootedPath (h : IsSegment k id) (hne : id ≠ "")
    (front : List (List Char)) :
    Text.Percent.decodeText (lastSegment (rootedPath k (front ++ splitSlashes k id.toList))) =
      Text.Utf8.encode id := by
  have hnil : id.toList ≠ [] := fun hn => hne (String.toList_eq_nil_iff.mp hn)
  rw [splitSlashes_of_forall fun c hc => (h.kept c hc).2.1,
    lastSegment_rootedPath front (fun _ => hnil) h.dots h.drive, decodeText_path, h.unescape]

theorem addresses_finish {path : List Char → UrlPath} {cs : List Char} (hcs : NoQuery cs)
    (hpath : Text.Percent.decodeText (lastSegment (path cs)) = Text.Utf8.encode id) :
    (finish k path u cs).Addresses id := by
  rw [finish_of_noQuery hcs]
  exact ⟨hpath, rfl, rfl⟩

theorem Addresses.withHost (h : u.Addresses id) (host : Option Host) :
    { u with host }.Addresses id :=
  ⟨h.segment, h.query, h.fragment⟩

theorem IsSegment.addresses_finish (h : IsSegment k id) (hne : id ≠ "") (hy : NoQuery y)
    (u : Url) : (finish k (readPath k) u (y ++ '/' :: id.toList)).Addresses id := by
  obtain ⟨front, hfront⟩ := readPath_slash (k := k) y id.toList
  refine Url.addresses_finish (hy.append_slash h.noQuery) ?_
  rw [hfront]
  exact h.decodeText_rootedPath hne front

theorem IsSegment.addresses_readAuthority (h : IsSegment k id) (hne : id ≠ "") (hy : NoQuery y)
    (hv : readAuthority k u (y ++ '/' :: id.toList) = .ok v) : v.Addresses id := by
  obtain ⟨v', y', hy', rfl⟩ := readAuthority_slash hy hv
  exact h.addresses_finish hne hy' v'

/-- A segment is not empty and does not start with a slash. -/
theorem IsSegment.exists_cons (h : IsSegment k id) (hne : id ≠ "") :
    ∃ c rest, id.toList = c :: rest ∧ k.isSlash c = false := by
  have hnil : id.toList ≠ [] := fun hn => hne (String.toList_eq_nil_iff.mp hn)
  obtain ⟨c, rest, heq⟩ := List.exists_cons_of_ne_nil hnil
  exact ⟨c, rest, heq, (h.kept c (by rw [heq]; exact List.mem_cons_self)).2.1⟩

/-- After a file's scheme. -/
theorem IsSegment.addresses_readFile (h : IsSegment .file id) (hne : id ≠ "") (hy : NoQuery y)
    (hopens : SchemeKind.file.opensPath y = true)
    (hv : readFile u (y ++ '/' :: id.toList) = .ok v) : v.Addresses id := by
  obtain ⟨c, rest, hcons, hc⟩ := h.exists_cons hne
  match y with
  | [] =>
    rw [hcons] at hv
    simp only [List.nil_append, readFile, hc, Bool.and_false, Bool.false_eq_true, if_false] at hv
    cases hv
    rw [← hcons]
    exact h.addresses_finish hne (y := []) hy u
  | [a] =>
    have ha : SchemeKind.file.isSlash a = false := by simpa [SchemeKind.opensPath] using hopens
    simp only [List.singleton_append, readFile, ha, Bool.false_and, Bool.false_eq_true,
      if_false] at hv
    cases hv
    exact h.addresses_finish hne hy u
  | a :: b :: y =>
    have hrest : NoQuery y := fun c hc => hy c (by simp [hc])
    have hends : SchemeKind.file.endsAuthority '/' = true := by decide
    obtain ⟨y', hy', hdrop⟩ :=
      hrest.dropWhile_slash (p := fun c => !SchemeKind.file.endsAuthority c) (by simp [hends])
        id.toList
    simp only [List.cons_append, readFile, cut, hdrop] at hv
    split at hv
    · split at hv
      · cases hv
        split
        · exact h.addresses_finish hne hy' u
        · exact h.addresses_finish hne hrest u
      · obtain ⟨host, -, hv⟩ := of_bind_eq_ok hv
        have haddr := h.addresses_finish hne hy'
          { u with host := if host == .name "localhost" then none else some host }
        split at hv
        · cases hv
          split
          · exact haddr.withHost none
          · exact haddr
        · cases hv
          exact haddr
    · cases hv
      exact h.addresses_finish hne hy u

/-- After a scheme of which nothing is known. -/
theorem IsSegment.addresses_readOther {scheme : String} (h : IsSegment .other id) (hne : id ≠ "")
    (hkind : schemeKind scheme = .other) (hy : NoQuery y)
    (hopens : SchemeKind.other.opensPath y = true)
    (hv : readAfterScheme scheme (y ++ '/' :: id.toList) = .ok v) : v.Addresses id := by
  have hslash : '/' ∉ id.toList := fun hmem => by
    have hn := (h.kept '/' hmem).2.1
    rw [isSlash_slash] at hn
    cases hn
  unfold readAfterScheme at hv
  rw [hkind] at hv
  dsimp only at hv
  split at hv
  · -- after two slashes, neither of which is the one before the id
    rename_i rest heq
    match y with
    | [] =>
      rw [List.nil_append, List.cons.injEq] at heq
      exact absurd (by rw [heq.2]; exact List.mem_cons_self) hslash
    | [a] =>
      rw [List.singleton_append, List.cons.injEq] at heq
      rw [heq.1] at hopens
      cases hopens
    | a :: b :: y =>
      simp only [List.cons_append, List.cons.injEq] at heq
      rw [← heq.2.2] at hv
      exact h.addresses_readAuthority hne (fun c hc => hy c (by simp [hc])) hv
  · -- after one slash
    rename_i rest _ heq
    cases hv
    obtain ⟨front, hrest, hfront⟩ : ∃ front, NoQuery rest ∧
        splitSlashes .other rest = front ++ splitSlashes .other id.toList := by
      match y with
      | [] =>
        rw [List.nil_append, List.cons.injEq] at heq
        rw [← heq.2]
        exact ⟨[], h.noQuery, rfl⟩
      | a :: y =>
        rw [List.cons_append, List.cons.injEq] at heq
        rw [← heq.2]
        exact ⟨_, NoQuery.append_slash (fun c hc => hy c (by simp [hc])) h.noQuery,
          splitSlashes_append (isSlash_slash _) y _⟩
    refine Url.addresses_finish hrest ?_
    rw [readRooted_eq, hfront]
    exact h.decodeText_rootedPath hne front
  · cases hv
    refine Url.addresses_finish (hy.append_slash h.noQuery) ?_
    rw [lastSegment_rootless y hslash, decodeText_rootless, h.unescape]

/-- What is left of a text in which a slash follows something else. -/
theorem exists_dropWhile_isSlash (hopens : SchemeKind.network.opensPath y = true) (hy : NoQuery y)
    (t : List Char) : ∃ y', NoQuery y' ∧
      (y ++ '/' :: t).dropWhile SchemeKind.network.isSlash = y' ++ '/' :: t := by
  have hnone : (y.dropWhile SchemeKind.network.isSlash).isEmpty = false := by
    obtain ⟨c, hc, hn⟩ := List.any_eq_true.mp hopens
    rw [← Bool.not_eq_true, List.isEmpty_iff, List.dropWhile_eq_nil_iff]
    intro hall
    rw [hall c hc] at hn
    cases hn
  refine ⟨y.dropWhile SchemeKind.network.isSlash,
    fun c hc => hy c ((List.dropWhile_sublist _).subset hc), ?_⟩
  rw [List.dropWhile_append, hnone]
  rfl

end Extending

/-! ## Addresses of ids -/

section Ids

variable {base id : String} {u : Url}

theorem noQuery_body (hb : NoQuery base.toList) {body : List Char}
    (h : ∀ c ∈ body, c ∈ base.toList ∨ c = '/') : NoQuery body := by
  intro c hc
  rcases h c hc with hc | rfl
  · exact hb c hc
  · decide

/-- **An id that stays a segment is addressed.** -/
theorem addresses_of_extends (hb : NoQuery base.toList) (hne : id ≠ "")
    (h : parse (base ++ "/" ++ id) = .ok u) (hx : Extends base id) : u.Addresses id := by
  obtain ⟨scheme, body, hsplit, hmem, hread⟩ := parse_slash h
  obtain ⟨scheme', body', hsplit', hopens, hseg⟩ := hx
  obtain ⟨rfl, hbody⟩ := Prod.mk.inj (Option.some.inj (hsplit.symm.trans hsplit'))
  obtain rfl := List.append_cancel_right hbody
  have hbody := noQuery_body hb hmem
  rw [hseg.cleanedEnd] at hread
  cases hk : schemeKind scheme with
  | network =>
    rw [hk] at hopens hseg
    obtain ⟨y, hy, hdrop⟩ := exists_dropWhile_isSlash hopens hbody id.toList
    rw [readAfterScheme_network hk, hdrop] at hread
    exact hseg.addresses_readAuthority hne hy hread
  | file =>
    rw [hk] at hopens hseg
    rw [readAfterScheme_file hk] at hread
    exact hseg.addresses_readFile hne hbody hopens hread
  | other =>
    rw [hk] at hopens hseg
    exact hseg.addresses_readOther hne hk hbody hopens hread

example : Extends "http://h/r" "ü 1%" := by
  refine ⟨"http", "//h/r".toList, ?_, ?_, ?_⟩ <;> decide +kernel

/-- **Only the whole of a text stands for it:** where a character is lost, a byte is. -/
theorem eq_of_unescape {cs : List Char} (hsub : cs.Sublist id.toList)
    (h : unescape cs = Text.Utf8.encode id) : cs = id.toList := by
  refine Text.Utf8.eq_of_sublist hsub ?_
  rw [← Text.Utf8.encode_eq, ← h]
  exact Text.Percent.length_unescape_le cs

/-- What a text must be to be the last part of itself once it is cleaned. -/
theorem isSegment_of_unescape {k : SchemeKind} (hk : k ≠ .file)
    (hq : NoQuery (cleanedEnd id))
    (hdots : isDoubleDot (lastPart k (cleanedEnd id)) = false ∧
      isSingleDot (lastPart k (cleanedEnd id)) = false)
    (h : unescape (lastPart k (cleanedEnd id)) = Text.Utf8.encode id) : IsSegment k id := by
  have hpart := (lastPart_suffix (k := k) (cleanedEnd id)).sublist
  have hclean := cleanedEnd_sublist id
  have hpart_eq := eq_of_unescape (hpart.trans hclean) h
  have hclean_eq : cleanedEnd id = id.toList :=
    hclean.antisymm (hpart_eq ▸ hpart)
  have hends_eq : id.toList.rdropWhile isOuter = id.toList := by
    have hkept : (cleanedEnd id).Sublist (id.toList.rdropWhile isOuter) := List.filter_sublist
    exact (List.rdropWhile_prefix isOuter id.toList).sublist.antisymm (hclean_eq ▸ hkept)
  rw [hpart_eq] at hdots h
  refine ⟨fun c hc => ⟨?_, ?_, ?_⟩, ?_, hdots, ?_, fun hfile => absurd hfile hk⟩
  · rw [← hclean_eq] at hc
    exact (List.mem_filter.mp hc).2
  · rw [← hpart_eq] at hc
    exact forall_lastPart _ c hc
  · rw [← hclean_eq] at hc
    exact hq c hc
  · exact rdropWhile_eq_self_iff_getLast?.mp hends_eq
  · rw [← Text.Percent.unescape_eq_bytes_iff, h, Text.Utf8.encode_eq]

/-- What the last segment after a host stands for, by the end of the text of the path. -/
theorem unescape_of_addresses {v : Url} {cs : List Char} (hne : id ≠ "")
    (h : (finish .network (readPath .network) v cs).Addresses id) :
    NoQuery cs ∧ (isDoubleDot (lastPart .network cs) = false ∧
      isSingleDot (lastPart .network cs) = false) ∧
      unescape (lastPart .network cs) = Text.Utf8.encode id := by
  have hq := noQuery_of_finish h.query h.fragment
  have hsegment := h.segment
  obtain ⟨front, hfront⟩ := readPath_lastPart (k := .network) rfl cs
  rw [finish_of_noQuery hq] at hsegment
  dsimp only at hsegment
  rw [hfront] at hsegment
  refine ⟨hq, ?_⟩
  by_cases hdots : isDoubleDot (lastPart .network cs) = true ∨
      isSingleDot (lastPart .network cs) = true
  · -- dots leave an empty segment
    rw [lastSegment_rootedPath_dots _ (by decide) hdots, Text.Percent.decodeText_eq] at hsegment
    exact absurd (Text.Utf8.encode_injective (hsegment.symm.trans (Text.Utf8.encode_eq "").symm))
      hne
  · rw [not_or, Bool.not_eq_true, Bool.not_eq_true] at hdots
    refine ⟨hdots, ?_⟩
    rw [lastSegment_rootedPath _ (fun hk => by cases hk) hdots (fun hk => by cases hk),
      decodeText_path] at hsegment
    exact hsegment

/-- **A text that gives a host is not addressed:** what is left for the path is shorter, and
nothing shorter stands for all of it. -/
theorem not_addresses_of_readAuthority {v : Url} {cs : List Char} (hne : id ≠ "")
    (hsub : cs.Sublist id.toList) (h : readAuthority .network u cs = .ok v) :
    ¬ v.Addresses id := by
  intro ha
  obtain ⟨v', tail, rfl, htail, hlength⟩ := readAuthority_finish h
  obtain ⟨-, -, hunescape⟩ := unescape_of_addresses hne ha
  have hlt := hlength rfl
  have happend : (cut SchemeKind.network.endsAuthority cs).1 ++
      (cut SchemeKind.network.endsAuthority cs).2 = cs := List.takeWhile_append_dropWhile
  generalize (cut SchemeKind.network.endsAuthority cs).1 = authority at happend htail hlt
  generalize (cut SchemeKind.network.endsAuthority cs).2 = rest at happend hunescape
  subst happend
  have hpart := (lastPart_suffix (k := .network) (tail ++ rest)).sublist
  have heq := eq_of_unescape ((hpart.trans (htail.append_right rest)).trans hsub) hunescape
  have hle := hpart.length_le
  have hle' := hsub.length_le
  rw [heq] at hle
  rw [List.length_append] at hle hle'
  omega

/-- **Where hosts are read as for `http`, no other id is addressed.** -/
theorem extends_of_addresses (hb : NoQuery base.toList) (hne : id ≠ "")
    (hk : schemeKind u.scheme = .network)
    (h : parse (base ++ "/" ++ id) = .ok u) (ha : u.Addresses id) : Extends base id := by
  obtain ⟨scheme, body, hsplit, hmem, hread⟩ := parse_slash h
  have hscheme : u.scheme = scheme := by
    have hkeeps := reads_readAfterScheme scheme (body ++ '/' :: cleanedEnd id)
    rwa [hread] at hkeeps
  rw [hscheme] at hk
  rw [readAfterScheme_network hk] at hread
  by_cases hopens : SchemeKind.network.opensPath body = true
  · obtain ⟨y, hy, hdrop⟩ := exists_dropWhile_isSlash hopens (noQuery_body hb hmem) (cleanedEnd id)
    rw [hdrop] at hread
    obtain ⟨v, y', -, rfl⟩ := readAuthority_slash hy hread
    obtain ⟨hq, hlast⟩ := unescape_of_addresses hne ha
    rw [lastPart_append_cons (isSlash_slash _)] at hlast
    have hqEnd : NoQuery (cleanedEnd id) := fun c hc => hq c (by simp [hc])
    rw [← hk] at hopens hlast
    exact ⟨scheme, body, hsplit, hopens,
      isSegment_of_unescape (by rw [hk]; decide) hqEnd hlast.1 hlast.2⟩
  · -- the host is read from the id
    have hall : ∀ c ∈ body, SchemeKind.network.isSlash c = true := by
      simpa [SchemeKind.opensPath] using hopens
    rw [List.dropWhile_append_of_pos hall, List.dropWhile_cons_of_pos (isSlash_slash _)] at hread
    have hsub := (List.dropWhile_sublist SchemeKind.network.isSlash).trans (cleanedEnd_sublist id)
    exact absurd ha (not_addresses_of_readAuthority hne hsub hread)

end Ids

end Reconcile.Url
