/-! # Machine words -/

namespace ActiveObjects

/-- The greatest number of 64 bits. -/
def maxWord : Nat := 0xFFFFFFFFFFFFFFFF

/-- The greatest integer of 64 bits with a sign. -/
def maxInteger : Int := 0x7FFFFFFFFFFFFFFF

/-- The least integer of 64 bits with a sign. -/
def minInteger : Int := -0x8000000000000000

end ActiveObjects
