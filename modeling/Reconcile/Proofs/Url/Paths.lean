import Mathlib.Tactic.ByContra
import Reconcile.Proofs.Results
import Reconcile.Proofs.Text.Percent
import Reconcile.Proofs.Url.Schemes

/-!
# Paths of addresses

What becomes of the end of a text that an address is read from.

* `NoQuery` — a text in which no query and no fragment starts; `finish_of_noQuery`,
  `noQuery_of_finish` — exactly such a text is a path to its end.
* `readAuthority_finish` — after a host comes a path, which is read from a part of the text;
  `readAuthority_slash` — what follows a slash there ends the path.
* `lastPart`, `lastSegment` — what stands after the last slash, and the last segment of a path.
* `lastSegment_rootedPath`, `lastSegment_rootedPath_dots`, `lastSegment_rootless` — how the one is
  written as the other; `decodeText_path`, `decodeText_rootless` — what it stands for.
-/

namespace Reconcile.Url

open Text.Percent (unescape)

/-! ## Texts without a query -/

/-- Characters none of which starts a query or a fragment. -/
def NoQuery (cs : List Char) : Prop :=
  ∀ c ∈ cs, c ≠ '?' ∧ c ≠ '#'

theorem cut_of_forall {p : Char → Bool} {cs : List Char} (h : ∀ c ∈ cs, p c = false) :
    cut p cs = (cs, []) := by
  have hall : ∀ c ∈ cs, (!p c) = true := fun c hc => by rw [h c hc]; rfl
  rw [cut, List.takeWhile_eq_self_iff.mpr hall, List.dropWhile_eq_nil_iff.mpr hall]

theorem forall_of_cut {p : Char → Bool} {cs : List Char} (h : (cut p cs).2.isEmpty = true) :
    ∀ c ∈ cs, p c = false := by
  rw [cut, List.isEmpty_iff, List.dropWhile_eq_nil_iff] at h
  exact fun c hc => by simpa using h c hc

section Finish

variable {k : SchemeKind} {path : List Char → UrlPath} {u : Url} {cs : List Char}

theorem finish_of_noQuery (h : NoQuery cs) :
    finish k path u cs = { u with path := path cs, query := none, fragment := none } := by
  have hfragment : cut (· == '#') cs = (cs, []) := cut_of_forall fun c hc => by simp [(h c hc).2]
  have hquery : cut (· == '?') cs = (cs, []) := cut_of_forall fun c hc => by simp [(h c hc).1]
  unfold finish
  rw [hfragment]
  dsimp only
  rw [hquery]
  rfl

/-- An address without a query and a fragment was read from a text that starts neither. -/
theorem noQuery_of_finish (hq : (finish k path u cs).query = none)
    (hf : (finish k path u cs).fragment = none) : NoQuery cs := by
  unfold finish at hq hf
  dsimp only at hq hf
  have hfragment : (cut (· == '#') cs).2.isEmpty = true := by
    by_contra hn
    rw [if_neg hn] at hf
    cases hf
  have hnone := forall_of_cut hfragment
  rw [cut_of_forall hnone] at hq
  have hquery : (cut (· == '?') cs).2.isEmpty = true := by
    by_contra hn
    rw [if_neg hn] at hq
    cases hq
  have hnone' := forall_of_cut hquery
  intro c hc
  have h₁ := hnone c hc
  have h₂ := hnone' c hc
  simp only [beq_eq_false_iff_ne] at h₁ h₂
  exact ⟨h₂, h₁⟩

end Finish

theorem NoQuery.append_slash {y t : List Char} (hy : NoQuery y) (ht : NoQuery t) :
    NoQuery (y ++ '/' :: t) := by
  intro c hc
  rcases List.mem_append.mp hc with hc | hc
  · exact hy c hc
  · rcases List.mem_cons.mp hc with rfl | hc
    · decide
    · exact ht c hc

/-- A part of a text that ends before a slash of it. -/
theorem NoQuery.dropWhile_slash {p : Char → Bool} (hp : p '/' = false) {y : List Char}
    (hy : NoQuery y) (t : List Char) :
    ∃ y', NoQuery y' ∧ (y ++ '/' :: t).dropWhile p = y' ++ '/' :: t := by
  obtain ⟨y', hy'⟩ := dropWhile_concat hp y
  refine ⟨y', fun c hc => ?_, ?_⟩
  · have hmem : c ∈ (y ++ ['/']).dropWhile p := by
      rw [hy']
      exact List.mem_append_left _ hc
    exact hy.append_slash (t := []) (by simp [NoQuery]) c ((List.dropWhile_sublist p).subset hmem)
  · rw [dropWhile_append_cons hp, hy', List.append_assoc, List.singleton_append]

theorem noQuery_of_endsAuthority {k : SchemeKind} {cs : List Char}
    (h : ∀ c ∈ cs, k.endsAuthority c = false) : NoQuery cs := by
  intro c hc
  have hends := h c hc
  simp only [SchemeKind.endsAuthority, Bool.or_eq_false_iff, beq_eq_false_iff_ne] at hends
  exact ⟨hends.1.2, hends.2⟩

theorem forall_cut {p : Char → Bool} (cs : List Char) : ∀ c ∈ (cut p cs).1, p c = false := by
  intro c hc
  simpa using List.mem_takeWhile_imp hc

/-! ## Paths after hosts -/

theorem splitHost_append (inside : Bool) (cs : List Char) :
    (splitHost inside cs).1 ++ (splitHost inside cs).2 = cs := by
  induction cs generalizing inside with
  | nil => rfl
  | cons c cs ih =>
    unfold splitHost
    split
    · rfl
    · dsimp only
      rw [List.cons_append, ih]

theorem readPort_sublist {scheme : String} {cs rest : List Char} {port : Option Nat}
    (h : readPort scheme cs = .ok (port, rest)) : rest.Sublist cs := by
  have hrest : rest = cs.drop (cs.takeWhile Text.isDigit).length := by
    unfold readPort at h
    dsimp only at h
    split at h
    · rename_i c tail heq
      split at h
      · cases h
      · exact (congrArg Prod.snd (Except.ok.inj h)).symm
    · rename_i heq
      split at h
      · cases h
      · exact (congrArg Prod.snd (Except.ok.inj h)).symm
  rw [hrest]
  exact List.drop_sublist _ _

/-- What follows a host and a port is a part of their text, and not all of it where hosts may not
be empty. -/
theorem readHost_sublist {k : SchemeKind} {cs tail : List Char} {u v : Url}
    (h : readHost k cs u = .ok (v, tail)) :
    tail.Sublist cs ∧ (k.special = true → tail.length < cs.length) := by
  have happend := splitHost_append false cs
  generalize hhost : (splitHost false cs).1 = host at happend
  generalize hrest : (splitHost false cs).2 = rest at happend
  unfold readHost at h
  dsimp only at h
  rw [hhost, hrest] at h
  split at h
  · cases h
  · rename_i hnonempty
    have hsub : tail.Sublist rest := by
      -- both ways of reading the host go on alike
      split at h
      all_goals
        obtain ⟨x, -, h⟩ := of_bind_eq_ok h
        cases rest with
        | nil =>
          cases h
          exact .slnil
        | cons c rest =>
          obtain ⟨⟨port, rest'⟩, hport, h⟩ := of_bind_eq_ok h
          cases h
          exact (readPort_sublist hport).cons _
    refine ⟨?_, fun hk => ?_⟩
    · rw [← happend]
      exact hsub.trans (List.sublist_append_right _ _)
    · have hpos : 0 < host.length := by
        rw [List.length_pos_iff]
        rintro rfl
        simp [hk] at hnonempty
      have hle := hsub.length_le
      rw [← happend, List.length_append]
      omega

theorem readLogin_sublist {u v : Url} {cs hostAndPort : List Char} {ends : Bool}
    (h : readLogin u cs ends = .ok (v, hostAndPort)) : hostAndPort.Sublist cs := by
  have hsplit : ∀ {user rest : List Char}, splitLast? '@' cs = some (user, rest) →
      rest.Sublist cs := by
    intro user rest hs
    unfold splitLast? at hs
    split at hs
    · cases hs
    · cases hs
      exact (List.rtakeWhile_suffix (· != '@') cs).sublist
  unfold readLogin at h
  split at h
  · cases h
    exact .refl _
  · split at h
    · cases h
      exact List.nil_sublist _
    · cases h
  · rename_i hs
    cases h
    exact hsplit hs

/-- **After a host comes a path**, which is read from a part of the text: what is left of the host
and of the port, and what follows them. -/
theorem readAuthority_finish {k : SchemeKind} {u v : Url} {cs : List Char}
    (h : readAuthority k u cs = .ok v) :
    ∃ v' tail, v = finish k (readPath k) v' (tail ++ (cut k.endsAuthority cs).2) ∧
      tail.Sublist (cut k.endsAuthority cs).1 ∧
      (k.special = true → tail.length < (cut k.endsAuthority cs).1.length) := by
  rw [readAuthority_eq] at h
  obtain ⟨⟨u₁, hostAndPort⟩, hlogin, h⟩ := of_bind_eq_ok h
  unfold readHostAndPath at h
  obtain ⟨⟨u₂, tail⟩, hhost, h⟩ := of_bind_eq_ok h
  have hsub := readLogin_sublist hlogin
  obtain ⟨htail, hlength⟩ := readHost_sublist hhost
  dsimp only at h
  split at h
  · cases h
  · cases h
    refine ⟨u₂, tail, rfl, htail.trans hsub, fun hk => ?_⟩
    have hle := hsub.length_le
    have hlt := hlength hk
    dsimp only at hlt
    omega

theorem isSlash_slash (k : SchemeKind) : k.isSlash '/' = true := by
  cases k <;> rfl

/-- What stands after a host and a slash ends the path. -/
theorem readAuthority_slash {k : SchemeKind} {u v : Url} {y t : List Char} (hy : NoQuery y)
    (h : readAuthority k u (y ++ '/' :: t) = .ok v) :
    ∃ v' y', NoQuery y' ∧ v = finish k (readPath k) v' (y' ++ '/' :: t) := by
  obtain ⟨v', tail, hv, htail, -⟩ := readAuthority_finish h
  have hends : k.endsAuthority '/' = true := by
    rw [SchemeKind.endsAuthority, isSlash_slash]
    rfl
  obtain ⟨y', hy', hdrop⟩ :=
    hy.dropWhile_slash (p := fun c => !k.endsAuthority c) (by simp [hends]) t
  refine ⟨v', tail ++ y', ?_, ?_⟩
  · intro c hc
    rcases List.mem_append.mp hc with hc | hc
    · exact noQuery_of_endsAuthority (forall_cut _) c (htail.subset hc)
    · exact hy' c hc
  · rw [hv, cut, hdrop, List.append_assoc]

theorem readAfterScheme_network {scheme : String} (h : schemeKind scheme = .network)
    (cs : List Char) : readAfterScheme scheme cs =
      readAuthority .network { scheme } (cs.dropWhile SchemeKind.network.isSlash) := by
  unfold readAfterScheme
  rw [h]

theorem readAfterScheme_file {scheme : String} (h : schemeKind scheme = .file)
    (cs : List Char) : readAfterScheme scheme cs = readFile { scheme } cs := by
  unfold readAfterScheme
  rw [h]

/-! ## Segments -/

/-- The last segment of a path, as it is written. -/
def lastSegment : UrlPath → List Char
  | .rooted segments => (segments.getLast?.getD "").toList
  | .rootless s => s.toList.rtakeWhile (· != '/')

section Segments

variable {k : SchemeKind}

theorem splitSlashes_append {c : Char} (hc : k.isSlash c = true) (x t : List Char) :
    splitSlashes k (x ++ c :: t) = splitSlashes k x ++ splitSlashes k t := by
  rw [splitSlashes, List.map_append, List.map_cons, if_pos hc, List.splitOn_append_cons_self]
  rfl

theorem splitSlashes_of_forall {t : List Char} (h : ∀ c ∈ t, k.isSlash c = false) :
    splitSlashes k t = [t] := by
  have hmap : (t.map fun c => if k.isSlash c then '/' else c) = t := by
    conv => rhs; rw [← List.map_id t]
    refine List.map_congr_left fun c hc => ?_
    rw [if_neg (by simp [h c hc])]
    rfl
  rw [splitSlashes, hmap]
  refine List.splitOn_eq_singleton fun hmem => ?_
  have hslash := h '/' hmem
  rw [isSlash_slash] at hslash
  cases hslash

/-- What stands at the end of a text is told from what follows any character that does not. -/
theorem rtakeWhile_append_cons {α : Type} {p : α → Bool} {c : α} (hc : p c = false)
    (x t : List α) : (x ++ c :: t).rtakeWhile p = t.rtakeWhile p := by
  have hnone : (c :: x.reverse).takeWhile p = [] := List.takeWhile_cons_of_neg (by simp [hc])
  rw [List.rtakeWhile, List.rtakeWhile, List.reverse_append, List.reverse_cons, List.append_assoc,
    List.singleton_append, List.takeWhile_append, hnone, List.append_nil]
  split
  · rename_i hlength
    rw [(List.takeWhile_prefix p).eq_of_length hlength]
  · rfl

/-- What stands after the last slash. -/
def lastPart (k : SchemeKind) (t : List Char) : List Char :=
  t.rtakeWhile fun c => !k.isSlash c

theorem lastPart_suffix (t : List Char) : lastPart k t <:+ t :=
  List.rtakeWhile_suffix _ _

theorem lastPart_append_cons {c : Char} (hc : k.isSlash c = true) (x t : List Char) :
    lastPart k (x ++ c :: t) = lastPart k t :=
  rtakeWhile_append_cons (by simp [hc]) x t

theorem forall_lastPart (t : List Char) : ∀ c ∈ lastPart k t, k.isSlash c = false := by
  intro c hc
  have hp := List.mem_rtakeWhile_imp hc
  simpa using hp

/-- **The last segment of a text** stands after its last slash. -/
theorem splitSlashes_lastPart (t : List Char) :
    ∃ front, splitSlashes k t = front ++ [lastPart k t] := by
  have happend : t.rdropWhile (fun c => !k.isSlash c) ++ lastPart k t = t :=
    List.rdropWhile_append_rtakeWhile
  have hlast := splitSlashes_of_forall (forall_lastPart (k := k) t)
  rcases (t.rdropWhile fun c => !k.isSlash c).eq_nil_or_concat with hnil | ⟨before, c, hc⟩
  · rw [hnil, List.nil_append] at happend
    rw [happend] at hlast
    exact ⟨[], by rw [List.nil_append, happend, hlast]⟩
  · have hslash : k.isSlash c = true := by
      have hnot := List.rdropWhile_last_not (fun c => !k.isSlash c) t (by rw [hc]; simp)
      simpa [hc] using hnot
    rw [hc, List.concat_eq_append, List.append_assoc, List.singleton_append] at happend
    have hsplit := splitSlashes_append hslash before (lastPart k t)
    rw [happend, hlast] at hsplit
    exact ⟨_, hsplit⟩

/-- A path that starts with a slash, by its parts. -/
def rootedPath (k : SchemeKind) (parts : List (List Char)) : UrlPath :=
  let segments := readSegments k [] parts
  if k == .file then
    let segments := segments.dropWhile String.isEmpty
    .rooted (if segments.isEmpty then [""] else segments)
  else .rooted segments

theorem readRooted_eq (cs : List Char) : readRooted k cs = rootedPath k (splitSlashes k cs) := rfl

/-- A path goes on after a slash with the parts of what stands there. -/
theorem readPath_slash (y t : List Char) :
    ∃ front, readPath k (y ++ '/' :: t) = rootedPath k (front ++ splitSlashes k t) := by
  have hslash := isSlash_slash k
  cases y with
  | nil =>
    refine ⟨[], ?_⟩
    rw [List.nil_append, List.nil_append, readPath]
    simp only [hslash, if_true]
    exact readRooted_eq t
  | cons c y =>
    rw [List.cons_append, readPath]
    split
    · exact ⟨_, by rw [readRooted_eq, splitSlashes_append hslash]⟩
    · exact ⟨_, by rw [← List.cons_append, readRooted_eq, splitSlashes_append hslash]⟩

/-- The last part of a path stands after the last slash of its text. -/
theorem readPath_lastPart (hk : k.special = true) (cs : List Char) :
    ∃ front, readPath k cs = rootedPath k (front ++ [lastPart k cs]) := by
  cases cs with
  | nil =>
    obtain ⟨front, hfront⟩ := splitSlashes_lastPart (k := k) []
    rw [readPath, if_pos hk, readRooted_eq, hfront]
    exact ⟨front, rfl⟩
  | cons c cs =>
    rw [readPath]
    split
    · rename_i hc
      obtain ⟨front, hfront⟩ := splitSlashes_lastPart (k := k) cs
      have hlast : lastPart k (c :: cs) = lastPart k cs := lastPart_append_cons hc [] cs
      rw [readRooted_eq, hfront, hlast]
      exact ⟨front, rfl⟩
    · obtain ⟨front, hfront⟩ := splitSlashes_lastPart (k := k) (c :: cs)
      rw [readRooted_eq, hfront]
      exact ⟨front, rfl⟩

/-- The last part of a path is read like one that stands by itself. -/
theorem readSegments_concat (soFar : List String) (parts : List (List Char)) (cs : List Char) :
    ∃ before, readSegments k soFar (parts ++ [cs]) = readSegments k before [cs] := by
  induction parts generalizing soFar with
  | nil => exact ⟨soFar, rfl⟩
  | cons part parts ih =>
    rw [List.cons_append, readSegments.eq_def]
    dsimp only
    split
    · exact ih _
    · split
      · exact ih _
      · exact ih _

/-- How the last part of a path is written: dots leave nothing, and a drive may get its colon. -/
theorem readSegments_last (soFar : List String) (cs : List Char) :
    ∃ last, (readSegments k soFar [cs]).getLast? = some last ∧
      (isDoubleDot cs = true ∨ isSingleDot cs = true → last = "") ∧
      (isDoubleDot cs = false → isSingleDot cs = false →
        (k = .file → isDrive cs = true → cs.getLast? = some ':') →
          last = escape staysInPath cs) := by
  unfold readSegments
  dsimp only
  split
  · rename_i hdouble
    refine ⟨"", List.getLast?_concat, fun _ => rfl, fun hn => ?_⟩
    rw [hdouble] at hn
    cases hn
  · rename_i hdouble
    split
    · rename_i hsingle
      refine ⟨"", List.getLast?_concat, fun _ => rfl, fun _ hn => ?_⟩
      rw [hsingle] at hn
      cases hn
    · rename_i hsingle
      refine ⟨_, List.getLast?_concat, fun hdots => ?_, fun _ _ hdrive => ?_⟩
      · rcases hdots with hdots | hdots
        · exact absurd hdots hdouble
        · exact absurd hdots hsingle
      · split
        · rename_i c d
          split
          · rename_i hd
            have hcolon := hdrive rfl hd
            simp only [List.getLast?_cons_cons, List.getLast?_singleton, Option.some.injEq]
              at hcolon
            rw [hcolon]
          · rfl
        · rfl

/-- **The last part of a path is its last segment**, escaped, unless it is dots. -/
theorem lastSegment_rootedPath {cs : List Char} (front : List (List Char))
    (hne : k = .file → cs ≠ []) (hdots : isDoubleDot cs = false ∧ isSingleDot cs = false)
    (hdrive : k = .file → isDrive cs = true → cs.getLast? = some ':') :
    lastSegment (rootedPath k (front ++ [cs])) = cs.flatMap (Text.Percent.escaped staysInPath) := by
  obtain ⟨before, hbefore⟩ := readSegments_concat (k := k) [] front cs
  obtain ⟨last, hlast, -, heq⟩ := readSegments_last (k := k) before cs
  have hlast : (readSegments k [] (front ++ [cs])).getLast? = some (escape staysInPath cs) := by
    rw [hbefore, hlast, heq hdots.1 hdots.2 hdrive]
  unfold rootedPath
  dsimp only
  split
  · rename_i hfile
    -- empty segments are dropped before the last one, which is not empty
    obtain ⟨segments, hsegments⟩ := List.getLast?_eq_some_iff.mp hlast
    have hnonempty : (escape staysInPath cs).isEmpty = false := by
      obtain ⟨c, rest, rfl⟩ := List.exists_cons_of_ne_nil (hne (beq_iff_eq.mp hfile))
      simp [escape, Text.Percent.escaped_ne_nil]
    obtain ⟨kept, hkept⟩ := dropWhile_concat hnonempty segments
    rw [hsegments, hkept]
    simp [lastSegment, escape]
  · rw [lastSegment, hlast]
    simp [escape]

/-- Dots leave an empty segment. -/
theorem lastSegment_rootedPath_dots {cs : List Char} (front : List (List Char)) (hk : k ≠ .file)
    (hdots : isDoubleDot cs = true ∨ isSingleDot cs = true) :
    lastSegment (rootedPath k (front ++ [cs])) = [] := by
  obtain ⟨before, hbefore⟩ := readSegments_concat (k := k) [] front cs
  obtain ⟨last, hlast, hempty, -⟩ := readSegments_last (k := k) before cs
  have hfile : (k == .file) = false := by simpa using hk
  unfold rootedPath
  rw [hbefore, hfile]
  simp only [Bool.false_eq_true, if_false, lastSegment, hlast, hempty hdots, Option.getD_some]
  rfl

end Segments

/-! ## Escapes -/

theorem staysInPath_of_hexValue? {c : Char} {n : Nat} (h : Text.hexValue? c = some n) :
    staysInPath c = true := by
  have hall : ∀ m < 0x80, (Text.hexValue? (Char.ofNat m)).isSome = true →
      staysInPath (Char.ofNat m) = true := by decide
  have hlt := (Text.Percent.toNat_lt_of_hexValue? h).1
  have hstays := hall c.toNat hlt
  rw [Char.ofNat_toNat, h] at hstays
  exact hstays rfl

/-- What a segment of a path stands for. -/
theorem decodeText_path (cs : List Char) :
    Text.Percent.decodeText (cs.flatMap (Text.Percent.escaped staysInPath)) = unescape cs :=
  Text.Percent.decodeText_escaped (by decide) (fun _ _ => staysInPath_of_hexValue?) cs

/-- What a text that does not start with a slash stands for. -/
theorem decodeText_rootless (cs : List Char) :
    Text.Percent.decodeText (cs.flatMap (Text.Percent.escaped Host.isPlain)) = unescape cs := by
  refine Text.Percent.decodeText_escaped (by decide) (fun c n hc => ?_) cs
  have hstays := staysInPath_of_hexValue? hc
  simp only [staysInPath, staysInFragment, Bool.and_eq_true] at hstays
  exact hstays.1.1

/-- The last segment of a text that does not start with a slash. -/
theorem lastSegment_rootless (x : List Char) {t : List Char} (ht : '/' ∉ t) :
    lastSegment (.rootless (escape Host.isPlain (x ++ '/' :: t))) =
      t.flatMap (Text.Percent.escaped Host.isPlain) := by
  have hslash : Text.Percent.escaped Host.isPlain '/' = ['/'] := by decide
  have hnone : ∀ a ∈ t.flatMap (Text.Percent.escaped Host.isPlain), (a != '/') = true := by
    intro a ha
    obtain ⟨c, hc, ha⟩ := List.mem_flatMap.mp ha
    rw [bne_iff_ne]
    rintro rfl
    refine Text.Percent.not_mem_escaped (by decide) (by decide) (fun _ => ?_) ha
    rintro rfl
    exact ht hc
  rw [lastSegment, escape, String.toList_ofList, List.flatMap_append, List.flatMap_cons, hslash,
    List.singleton_append]
  rw [rtakeWhile_append_cons (by decide), List.rtakeWhile_eq_self_iff]
  exact hnone

end Reconcile.Url
