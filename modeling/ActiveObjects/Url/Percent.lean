import ActiveObjects.Text.Hex
import ActiveObjects.Text.Utf8

/-! # Percent encoding of octets in URLs -/

namespace ActiveObjects.Url

open Text

/-- Replaces each escape by its octet; a percent sign without two hexadecimal digits stands for
itself. -/
def percentDecode : List UInt8 → List UInt8
  | [] => []
  | 0x25 :: a :: b :: rest =>
    match hexValue? (Char.ofNat a.toNat), hexValue? (Char.ofNat b.toNat) with
    | some x, some y => UInt8.ofNat (16 * x + y) :: percentDecode rest
    | _, _ => 0x25 :: percentDecode (a :: b :: rest)
  | a :: rest => a :: percentDecode rest

/-- The text that escapes stand for, if their octets are valid UTF-8. -/
def percentDecodeText? (cs : List Char) : Option (List Char) :=
  Utf8.decode (percentDecode (Utf8.encode cs))

/-- The escape of an octet. -/
def percentEscape (b : UInt8) : List Char :=
  ['%', upperHexDigit (b.toNat / 16), upperHexDigit (b.toNat % 16)]

/-- Escapes control characters and all that is not ASCII. -/
def percentEncodeControls (cs : List Char) : List Char :=
  cs.flatMap fun c =>
    if 0x20 ≤ c.toNat ∧ c.toNat < 0x7F then [c] else (Utf8.encode [c]).flatMap percentEscape

end ActiveObjects.Url
