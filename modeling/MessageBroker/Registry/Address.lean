import MessageBroker.Registry.Admin
import MessageBroker.Condition
/-!
# Addresses

An address is the name of a destination, or the name of an exchange and a routing key with a slash
between them.  A link may also ask for a queue of its own, which gets a name that no other has.
-/
namespace MessageBroker

/-- A destination, and the routing key that its address carried. -/
structure Resolved where
  destination : DestinationId
  key : Option String
deriving DecidableEq, Repr

/-- The text before the first slash, and the text after it. -/
def splitAddress (address : String) : Option (String × String) :=
  let cs := address.toList
  match cs.dropWhile (· != '/') with
  | [] => none
  | _ :: key => some (String.ofList (cs.takeWhile (· != '/')), String.ofList key)

namespace Registry

def resolve (r : Registry) (address : String) : Option Resolved :=
  match r.lookup address with
  | some d => some ⟨d, none⟩
  | none => do
    let (exchange, key) ← splitAddress address
    let e ← r.lookupExchange exchange
    pure ⟨e, some key⟩

/-- The name of the `n`-th queue made for a link. -/
def dynamicName (link : String) (n : Nat) : String := "temp-" ++ link ++ "-#" ++ toString n

/-- A name that no destination is registered under: the one proposed, or else one that is longer
than every name in use. -/
def freshName (r : Registry) (proposed : String) : String :=
  if (r.lookup proposed).isSome then
    let longest := (r.names.map (·.1.length)).foldr max 0
    proposed ++ String.ofList (List.replicate (longest + 1) '+')
  else proposed

theorem length_le_foldr_max {n : Nat} {ns : List Nat} (h : n ∈ ns) : n ≤ ns.foldr max 0 := by
  induction ns with
  | nil => cases h
  | cons m ns ih =>
    rcases List.mem_cons.1 h with rfl | h
    · exact Nat.le_max_left ..
    · exact Nat.le_trans (ih h) (Nat.le_max_right ..)

theorem lookup_freshName (r : Registry) (proposed : String) :
    r.lookup (r.freshName proposed) = none := by
  unfold freshName
  split
  · simp only [lookup, List.lookup_eq_none_iff]
    intro p hp
    refine bne_iff_ne.2 fun h => ?_
    have := length_le_foldr_max (List.mem_map_of_mem (f := fun p => p.1.length) hp)
    simp only [← h, String.length_append, String.length_ofList, List.length_replicate] at this
    omega
  · exact Option.not_isSome_iff_eq_none.1 ‹_›

/-- The name of the next queue made for a link. -/
def nextDynamicName (r : Registry) (link : String) : String :=
  r.freshName (dynamicName link (r.dynamicNodes.length + 1))

end Registry

/-- A change of topology that failed inside the broker, as a peer is told of it. -/
def TopologyError.internal (e : TopologyError) : ProtocolError := ⟨.internalError, e.message⟩

end MessageBroker
