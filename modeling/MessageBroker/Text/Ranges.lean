/-!
# Character classes by their boundaries

A class of code points is written as the increasing list of the places where membership changes:
the class begins at the first, ends before the second, begins again at the third.
-/
namespace MessageBroker.Text

/-- Membership changes at every bound that is not above `c`. -/
def inside : List Nat → Nat → Bool
  | [], _ => false
  | b :: bs, c => if b ≤ c then !inside bs c else false

theorem inside_nil (c : Nat) : inside [] c = false := rfl

theorem inside_of_lt {b c : Nat} (bs : List Nat) (h : c < b) : inside (b :: bs) c = false := by
  simp [inside, Nat.not_le.2 h]

theorem inside_of_le {b c : Nat} (bs : List Nat) (h : b ≤ c) :
    inside (b :: bs) c = !inside bs c := by
  simp [inside, h]

end MessageBroker.Text
