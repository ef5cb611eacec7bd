import Mathlib.Data.Option.Basic
import ActiveObjects.Address.Ipv4
import ActiveObjects.Proofs.Text.Digits
import ActiveObjects.Proofs.Text.Split

/-!
# Dotted quads read loosely

The dotted quad of an address looks like a number at its end, and the loose form reads it as that
address.
-/

namespace ActiveObjects.Ipv4

open Text

variable {x : Ipv4}

/-- The parts of the dotted quad. -/
def quad (x : Ipv4) : List (List Char) :=
  [x.a, x.b, x.c, x.d].map fun octet => Nat.toDigits 10 octet.toNat

theorem toList_render (x : Ipv4) : x.render.toList = join ['.'] x.quad := by
  have hdot : (toString ".").toList = ['.'] := by decide
  simp [render, quad, join, String.toList_append, hdot]

theorem isDigit_of_mem_quad {part : List Char} (h : part ∈ x.quad) : ∀ c ∈ part, c.isDigit := by
  obtain ⟨octet, -, rfl⟩ := List.mem_map.1 h
  exact isDigit_of_mem_toDigits octet.toNat

theorem pieces_render (x : Ipv4) : pieces (· == '.') x.render.toList = x.quad := by
  rw [toList_render]
  apply pieces_join (List.cons_ne_nil _ _)
  intro part hp hdot
  exact absurd (isDigit_of_mem_quad hp '.' hdot) (by decide)

theorem isDigit_or_dot_of_mem_render {c : Char} (h : c ∈ x.render.toList) :
    c.isDigit ∨ c = '.' := by
  rw [toList_render] at h
  rcases mem_join h with h | ⟨part, hp, hc⟩
  · exact .inr (List.mem_singleton.1 h)
  · exact .inl (isDigit_of_mem_quad hp c hc)

/-! ## The loose form -/

theorem looseParts_render (x : Ipv4) : looseParts x.render.toList = x.quad := by
  have hlast : ¬ x.quad.getLast? = some [] := by simp [quad, Nat.toDigits_ne_nil]
  rw [looseParts, pieces_render, if_neg hlast]

theorem endsInNumber_render (x : Ipv4) : endsInNumber x.render.toList := by
  have hd : (Nat.toDigits 10 x.d.toNat).all Char.isDigit :=
    List.all_eq_true.2 (isDigit_of_mem_toDigits _)
  simp [endsInNumber, looseParts_render, quad, Nat.toDigits_ne_nil, hd]

/-- No octet is written with a zero in front, so none is read as octal. -/
theorem loosePart?_toDigits (octet : UInt8) :
    loosePart? (Nat.toDigits 10 octet.toNat) = some octet.toNat := by
  have all : ∀ n < 256, loosePart? (Nat.toDigits 10 n) = some n := by decide +kernel
  exact all _ octet.toNat_lt

theorem ofNat_octets (x : Ipv4) :
    ofNat (x.d.toNat + x.a.toNat * 0x1000000 + x.b.toNat * 0x10000 + x.c.toNat * 0x100) = x := by
  obtain ⟨a, b, c, d⟩ := x
  have ha := a.toNat_lt
  have hb := b.toNat_lt
  have hc := c.toNat_lt
  have hd := d.toNat_lt
  simp only [ofNat, mk.injEq, ← UInt8.toNat_inj, UInt8.toNat_ofNat']
  omega

/-- An address is read back from its dotted quad. -/
theorem parseLoose?_render (x : Ipv4) : parseLoose? x.render.toList = some x := by
  have hlength : x.quad.length ≤ 4 := by simp [quad]
  have hnumbers : x.quad.mapM loosePart? =
      some [x.a.toNat, x.b.toNat, x.c.toNat, x.d.toNat] := by
    simp [quad, loosePart?_toDigits]
  have hlast : x.d.toNat < Nat.pow 2 (32 - 8 * [x.a.toNat, x.b.toNat, x.c.toNat].length) :=
    x.d.toNat_lt
  have hfront : [x.a.toNat, x.b.toNat, x.c.toNat].all (· ≤ 255) := by
    have ha := x.a.toNat_lt
    have hb := x.b.toNat_lt
    have hc := x.c.toNat_lt
    simp
    omega
  have pass {p : Prop} [Decidable p] (h : p) : (guard p : Option Unit) = some () := if_pos h
  unfold parseLoose?
  rw [looseParts_render]
  dsimp only
  rw [pass hlength, hnumbers]
  simp only [Option.pure_def, Option.bind_eq_bind, Option.bind_some, List.getLast?_cons_cons,
    List.getLast?_singleton, List.dropLast_cons_cons, List.dropLast_singleton]
  rw [pass hlast, pass hfront]
  exact congrArg some (ofNat_octets x)

end ActiveObjects.Ipv4
