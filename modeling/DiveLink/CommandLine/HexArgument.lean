import DiveLink.Bytes.Hex

/-!
# Bytes on the command line

Bytes are written as pairs of hexadecimal digits in either case, behind an optional `0x`.

## Main definitions

* `HexArgument.parse?` — the bytes of a text.
* `HexArgument.refusal` — what is said of any other text.
* `HexArgument.parse` — the bytes of a text, or the text itself where it stands for none.
-/

namespace DiveLink.HexArgument

/-- The characters behind an optional `0x`. -/
def body : List Char → List Char
  | '0' :: 'x' :: rest => rest
  | cs => cs

/-- The bytes of a text. -/
def parse? (s : String) : Option Bytes := Bytes.ofHexDigits? (body s.toList)

/-- What is said of a text that stands for no bytes. -/
def refusal (s : String) : String := "invalid hex string '" ++ s ++ "'"

/-- A text that stands for no bytes. -/
structure BadHex where
  text : String
  deriving DecidableEq, Repr, Inhabited

/-- What is said of such a text. -/
def BadHex.message (e : BadHex) : String := refusal e.text

/-- The bytes of a text, or the text itself where it stands for none. -/
def parse (s : String) : Except BadHex Bytes :=
  match parse? s with
  | some b => .ok b
  | none => .error ⟨s⟩

end DiveLink.HexArgument
