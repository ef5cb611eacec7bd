/-!
# UTF-8

`encode` writes characters as octets and `decode` reads them back; overlong forms, surrogates
and values above U+10FFFF are refused.
-/

namespace ActiveObjects.Text.Utf8

/-- The octets of a text. -/
def encode (cs : List Char) : List UInt8 := cs.flatMap String.utf8EncodeChar

/-- The six low bits of a continuation octet. -/
def tail? (b : UInt8) : Option Nat :=
  if 0x80 ≤ b ∧ b ≤ 0xBF then some (b.toNat - 0x80) else none

/-- A character from its number, if the number names one and is not below the least value of
the form it was written in. -/
def scalar? (least n : Nat) : Option Char :=
  if h : n.isValidChar then if least ≤ n then some (Char.ofNatAux n h) else none else none

/-- Reads a whole octet sequence. -/
def decode : List UInt8 → Option (List Char)
  | [] => some []
  | a :: rest =>
    if a < 0x80 then do
      let c ← scalar? 0 a.toNat
      return c :: (← decode rest)
    else if 0xC0 ≤ a ∧ a ≤ 0xDF then
      match rest with
      | b :: rest => do
        let c ← scalar? 0x80 ((a.toNat - 0xC0) * 64 + (← tail? b))
        return c :: (← decode rest)
      | _ => none
    else if 0xE0 ≤ a ∧ a ≤ 0xEF then
      match rest with
      | b :: c :: rest => do
        let c ← scalar? 0x800 (((a.toNat - 0xE0) * 64 + (← tail? b)) * 64 + (← tail? c))
        return c :: (← decode rest)
      | _ => none
    else if 0xF0 ≤ a ∧ a ≤ 0xF7 then
      match rest with
      | b :: c :: d :: rest => do
        let c ← scalar? 0x10000
          ((((a.toNat - 0xF0) * 64 + (← tail? b)) * 64 + (← tail? c)) * 64 + (← tail? d))
        return c :: (← decode rest)
      | _ => none
    else none

end ActiveObjects.Text.Utf8
