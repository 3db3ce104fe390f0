/-!
# Texts as bytes

The bytes of request bodies, files and answers. `Diagnostic::classify` reads an answer with
`decodeLossy`, `read_recipe` a file with `decode?`.

* `encode` — the UTF-8 form of a text.
* `scan` — bytes cut into characters and longest ill-formed pieces.
* `decode?` — the text of well-formed bytes.
* `decodeLossy` — a text for any bytes; U+FFFD stands for each ill-formed piece.
* `decodePrefix` — the text before the first ill-formed piece.
-/

namespace Reconcile.Text.Utf8

/-- The UTF-8 form of a text. -/
def encode (s : String) : List UInt8 :=
  s.toUTF8.toList

/-- The number of bytes of the UTF-8 form. -/
def size (cs : List Char) : Nat :=
  cs.foldl (fun n c => n + c.utf8Size) 0

/-- What may follow a lead byte: the bits it carries, the range of the second byte, and the
number of bytes after the second. -/
structure Lead where
  bits : Nat
  low : UInt8
  high : UInt8
  further : Nat
  deriving Repr

/-- The lead bytes of sequences of two, three and four bytes. Overlong forms, surrogates and
values above U+10FFFF are ruled out by the range of the second byte. -/
def lead? (b : UInt8) : Option Lead :=
  let n := b.toNat
  if 0xC2 ≤ n && n ≤ 0xDF then some ⟨n - 0xC0, 0x80, 0xBF, 0⟩
  else if n == 0xE0 then some ⟨0, 0xA0, 0xBF, 1⟩
  else if n == 0xED then some ⟨0xD, 0x80, 0x9F, 1⟩
  else if 0xE1 ≤ n && n ≤ 0xEF then some ⟨n - 0xE0, 0x80, 0xBF, 1⟩
  else if n == 0xF0 then some ⟨0, 0x90, 0xBF, 2⟩
  else if 0xF1 ≤ n && n ≤ 0xF3 then some ⟨n - 0xF0, 0x80, 0xBF, 2⟩
  else if n == 0xF4 then some ⟨4, 0x80, 0x8F, 2⟩
  else none

/-- Takes up to `further` continuation bytes into `value`. Nothing comes back for the
character when one is missing; the bytes that did fit are used up. -/
def takeContinuation : Nat → Nat → List UInt8 → Option Char × List UInt8
  | 0, value, rest => (some (Char.ofNat value), rest)
  | _ + 1, _, [] => (none, [])
  | n + 1, value, b :: rest =>
    if 0x80 ≤ b && b ≤ 0xBF then takeContinuation n (value * 64 + (b.toNat - 0x80)) rest
    else (none, b :: rest)

theorem takeContinuation_length_le (n value : Nat) (bs : List UInt8) :
    (takeContinuation n value bs).2.length ≤ bs.length := by
  induction n generalizing value bs with
  | zero => simp [takeContinuation]
  | succ n ih =>
    cases bs with
    | nil => simp [takeContinuation]
    | cons b rest =>
      simp only [takeContinuation]
      split
      · exact Nat.le_succ_of_le (ih _ _)
      · simp

/-- The first character of some bytes, or nothing for an ill-formed piece, and what follows. -/
def next (b : UInt8) (rest : List UInt8) : Option Char × List UInt8 :=
  if b < 0x80 then (some (Char.ofNat b.toNat), rest)
  else
    match lead? b, rest with
    | some l, second :: rest' =>
      if l.low ≤ second && second ≤ l.high then
        takeContinuation l.further (l.bits * 64 + (second.toNat - 0x80)) rest'
      else (none, rest)
    | _, _ => (none, rest)

theorem next_length_le (b : UInt8) (rest : List UInt8) :
    (next b rest).2.length ≤ rest.length := by
  unfold next
  split
  · simp
  · split
    · split
      · exact Nat.le_succ_of_le (takeContinuation_length_le _ _ _)
      · simp
    · simp

/-- Bytes as characters; `none` stands for each longest ill-formed piece. -/
def scan : List UInt8 → List (Option Char)
  | [] => []
  | b :: rest =>
    have := next_length_le b rest
    (next b rest).1 :: scan (next b rest).2
  termination_by bs => bs.length
  decreasing_by simp_wf; omega

/-- The text of well-formed bytes. -/
def decode? (bytes : List UInt8) : Option String :=
  ((scan bytes).mapM id).map String.ofList

/-- A text for any bytes. -/
def decodeLossy (bytes : List UInt8) : String :=
  String.ofList ((scan bytes).map fun c => c.getD '\uFFFD')

/-- The text before the first ill-formed piece. -/
def decodePrefix (bytes : List UInt8) : String :=
  String.ofList ((scan bytes).takeWhile Option.isSome |>.filterMap id)

end Reconcile.Text.Utf8
