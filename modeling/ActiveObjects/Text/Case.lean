/-!
# Letter case

Names are compared without regard to the case of ASCII letters, so they are kept in small letters.
-/

namespace ActiveObjects

/-- Turns the ASCII capitals of a text into small letters. -/
def lowerCase (s : String) : String := String.ofList (s.toList.map Char.toLower)

/-- Lower-casing leaves small letters alone. -/
theorem toLower_toLower (c : Char) : c.toLower.toLower = c.toLower := by
  unfold Char.toLower
  split
  · rename_i h
    have ha : 'A'.val.toNat = 65 := rfl
    have hz : 'Z'.val.toNat = 90 := rfl
    have hd : ('a'.val - 'A'.val).toNat = 32 := rfl
    simp only [dite_eq_right_iff]
    intro h'
    exfalso
    obtain ⟨h1, h2⟩ := h
    obtain ⟨_, h4⟩ := h'
    simp only [ge_iff_le, UInt32.le_iff_toNat_le, UInt32.toNat_add] at h1 h2 h4
    omega
  · rfl

theorem lowerCase_lowerCase (s : String) : lowerCase (lowerCase s) = lowerCase s := by
  rw [lowerCase, lowerCase, String.toList_ofList, List.map_map]
  exact congrArg String.ofList (List.map_congr_left fun c _ => toLower_toLower c)

end ActiveObjects
