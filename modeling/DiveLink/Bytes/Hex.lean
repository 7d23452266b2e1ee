import DiveLink.Bytes
import DiveLink.Text.Digits

/-!
# Bytes written in hexadecimal

Two digits to a byte, most significant first.  Identifiers of dives are printed and read in this
form.

## Main definitions

* `Bytes.toHex` — the digits of some bytes, in lower case.
* `Bytes.ofHex?` — the bytes of some digits, in either case.

## Main statements

* `Bytes.ofHexDigits?_hexDigits` — bytes are read back from their digits.
-/

namespace DiveLink.Bytes

/-- The two digits of a byte. -/
def hexPair (x : UInt8) : List Char :=
  [Digits.toChar (x.toNat / 16), Digits.toChar (x.toNat % 16)]

/-- The digits of some bytes, in lower case. -/
def hexDigits (b : Bytes) : List Char := b.flatMap hexPair

/-- The bytes of some digits in either case; none if their number is odd or one is no digit. -/
def ofHexDigits? : List Char → Option Bytes
  | [] => some []
  | [_] => none
  | c :: d :: rest =>
    match Digits.value? 16 [c, d], ofHexDigits? rest with
    | some n, some b => some (UInt8.ofNat n :: b)
    | _, _ => none

/-- Some bytes as text in hexadecimal. -/
def toHex (b : Bytes) : String := String.ofList b.hexDigits

/-- The bytes of a text in hexadecimal. -/
def ofHex? (s : String) : Option Bytes := ofHexDigits? s.toList

@[simp] theorem hexDigits_nil : hexDigits [] = [] := rfl

@[simp] theorem hexDigits_cons (x : UInt8) (b : Bytes) :
    hexDigits (x :: b) = hexPair x ++ hexDigits b := by
  simp [hexDigits]

theorem length_hexDigits (b : Bytes) : b.hexDigits.length = 2 * b.length := by
  induction b with
  | nil => rfl
  | cons x b ih =>
    rw [hexDigits_cons, List.length_append, ih]
    simp only [hexPair, List.length_cons, List.length_nil]
    omega

theorem value?_hexPair (x : UInt8) : Digits.value? 16 (hexPair x) = some x.toNat := by
  have hx := x.toNat_lt
  have high : x.toNat / 16 < 36 := by omega
  have low : x.toNat % 16 < 36 := by omega
  simp [hexPair, Digits.value?, Digits.valueFrom?, Digits.ofChar?_toChar high,
    Digits.ofChar?_toChar low]
  omega

/-- Bytes are read back from their digits. -/
@[simp] theorem ofHexDigits?_hexDigits (b : Bytes) : ofHexDigits? b.hexDigits = some b := by
  induction b with
  | nil => rfl
  | cons x b ih =>
    have h := value?_hexPair x
    rw [hexPair] at h
    rw [hexDigits_cons]
    show ofHexDigits? (_ :: _ :: hexDigits b) = _
    rw [ofHexDigits?, ih, h]
    simp

end DiveLink.Bytes
