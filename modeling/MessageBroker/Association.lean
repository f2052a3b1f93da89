/-!
# Association lists

Keys with values, of which the first entry of a key counts.  Taking a key out leaves it without a
value, and every other key with the value that it had.
-/
namespace MessageBroker

theorem lookup_filter_self {α β : Type} [BEq α] [LawfulBEq α] (k : α) (l : List (α × β)) :
    (l.filter (·.1 != k)).lookup k = none := by
  induction l with
  | nil => rfl
  | cons e l ih =>
    obtain ⟨k', v⟩ := e
    by_cases h : k' = k
    · simp [h, ih]
    · simp [h, List.lookup_cons, ih, beq_eq_false_iff_ne.2 (Ne.symm h)]

theorem lookup_filter_of_ne {α β : Type} [BEq α] [LawfulBEq α] {k k' : α} (h : k' ≠ k)
    (l : List (α × β)) : (l.filter (·.1 != k)).lookup k' = l.lookup k' := by
  induction l with
  | nil => rfl
  | cons e l ih =>
    obtain ⟨x, v⟩ := e
    by_cases hx : x = k
    · have hk : (k' == x) = false := beq_eq_false_iff_ne.2 (hx ▸ h)
      simp [hx, ih, List.lookup_cons, beq_eq_false_iff_ne.2 h]
    · simp [hx, List.lookup_cons, ih]

end MessageBroker
