import Reconcile.Json.Basic
import Reconcile.Text.Ascii

/-!
# The written form of JSON

Reference model of how the program writes `JsonValue`s and other data as JSON.

* `Json.quoted` — a string between quotes. Quote, backslash and the control characters are
  escaped, those with a letter by it (`\b \f \n \r \t`), the others as `\u00xx`; all else
  stands for itself.
* `Json.compact` — a value without blanks.

Left out: the indented form, which no output of the program has.
-/

namespace Reconcile.Json

/-- A character inside a quoted string. -/
def escaped (c : Char) : List Char :=
  match c with
  | '"' => ['\\', '"']
  | '\\' => ['\\', '\\']
  | '\n' => ['\\', 'n']
  | '\r' => ['\\', 'r']
  | '\t' => ['\\', 't']
  | '\x08' => ['\\', 'b']
  | '\x0C' => ['\\', 'f']
  | c =>
    if c.toNat < 0x20 then
      ['\\', 'u', '0', '0', Text.hexDigitLower (c.toNat / 16), Text.hexDigitLower (c.toNat % 16)]
    else [c]

/-- A string between quotes. -/
def quotedChars (s : String) : List Char :=
  '"' :: (s.toList.flatMap escaped ++ ['"'])

/-- A string between quotes. -/
def quoted (s : String) : String :=
  String.ofList (quotedChars s)

mutual

/-- The characters of a value. -/
def chars : Json → List Char
  | .null => "null".toList
  | .bool true => "true".toList
  | .bool false => "false".toList
  | .number n => n.text.toList
  | .string s => quotedChars s
  | .array items => '[' :: (itemChars items ++ [']'])
  | .object entries => '\x7b' :: (entryChars entries ++ ['\x7d'])

/-- Items, separated by commas. -/
def itemChars : List Json → List Char
  | [] => []
  | [v] => chars v
  | v :: rest => chars v ++ ',' :: itemChars rest

/-- Entries, separated by commas. -/
def entryChars : List (String × Json) → List Char
  | [] => []
  | [(k, v)] => quotedChars k ++ ':' :: chars v
  | (k, v) :: rest => quotedChars k ++ ':' :: (chars v ++ ',' :: entryChars rest)

end

/-- A value without blanks. -/
def compact (v : Json) : String :=
  String.ofList (chars v)

end Reconcile.Json
