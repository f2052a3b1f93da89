import MessageBroker.Association
import MessageBroker.Header
/-!
# Messages

A message is what a publisher sent, under an identity that no other message has.  The broker never
changes it; it only counts who still holds it.
-/
namespace MessageBroker

abbrev MessageId := Nat

/-- What a publisher wrote into a message. -/
structure Message.Content where
  /-- Where a relay sends the message. -/
  address : Option String
  routingKey : Option String
  userId : Option String
  headers : Headers
  persistent : Bool
  payload : List UInt8
  /-- The size to count in place of the payload's length. -/
  declaredSize : Option Nat
deriving Inhabited

/-- The size that statistics count. -/
def Message.Content.size (c : Message.Content) : Nat := c.declaredSize.getD c.payload.length

structure Message extends Message.Content where
  id : MessageId
deriving Inhabited

/-- Properties of one enqueuing of a message, which are not part of it. -/
abbrev InstanceProperties := Headers

/-! ## Who holds a message

`References` counts the holders of each message: queue entries, buffered entries of a transaction,
entries taken off a queue, and a link while it works on the delivery. -/

structure References where
  counts : List (MessageId × Int)
deriving Inhabited

namespace References

def empty : References := ⟨[]⟩

def count (r : References) (m : MessageId) : Int := (r.counts.lookup m).getD 0

@[simp] theorem count_empty (m : MessageId) : empty.count m = 0 := rfl

/-- Adds to the count of one message. -/
def adjust (r : References) (m : MessageId) (change : Int) : References :=
  ⟨(m, r.count m + change) :: r.counts.filter (·.1 != m)⟩

theorem count_adjust_self (r : References) (m : MessageId) (change : Int) :
    (r.adjust m change).count m = r.count m + change := by
  simp [adjust, count]

theorem count_adjust_of_ne (r : References) {m m' : MessageId} (h : m' ≠ m) (change : Int) :
    (r.adjust m change).count m' = r.count m' := by
  simp [adjust, count, List.lookup_cons, beq_eq_false_iff_ne.2 h, lookup_filter_of_ne h]

def acquire (r : References) (m : MessageId) : References := r.adjust m 1

theorem count_acquire (r : References) (m m' : MessageId) :
    (r.acquire m).count m' = r.count m' + if m' = m then 1 else 0 := by
  by_cases h : m' = m
  · subst h; simp [acquire, count_adjust_self]
  · simp [acquire, count_adjust_of_ne r h, h]

def release (r : References) (m : MessageId) : References := r.adjust m (-1)

theorem count_release (r : References) (m m' : MessageId) :
    (r.release m).count m' = r.count m' - if m' = m then 1 else 0 := by
  by_cases h : m' = m
  · subst h; simp [release, count_adjust_self, Int.sub_eq_add_neg]
  · simp [release, count_adjust_of_ne r h, h]

def releaseAll (r : References) (ms : List MessageId) : References := ms.foldl release r

theorem count_releaseAll (r : References) (ms : List MessageId) (m : MessageId) :
    (r.releaseAll ms).count m = r.count m - ms.count m := by
  induction ms generalizing r with
  | nil => simp [releaseAll]
  | cons m' ms ih =>
    have := ih (r.release m')
    simp only [releaseAll, List.foldl_cons] at this ⊢
    rw [this, count_release]
    by_cases h : m = m'
    · subst h; simp; omega
    · simp [h, List.count_cons_of_ne (Ne.symm h)]

end References
end MessageBroker
