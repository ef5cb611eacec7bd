/-!
# Classes of characters as tables

A class is given by the numbers at which membership changes: the first number is in the class, the
second is not, and so on.
-/

namespace ActiveObjects.Text

/-- A number is in the class if an odd number of changes lie at or below it. -/
def inClass (changes : List Nat) (n : Nat) : Bool := (changes.takeWhile (· ≤ n)).length % 2 = 1

end ActiveObjects.Text
