import MessageBroker.Proofs.Run.Books
/-!
# Queues lose, duplicate and reorder nothing

What was popped off a queue and what is left on it is, in this order, all that was ever placed on it.  A publish
outside transactions places at once, one in a transaction when its commit is granted, and nothing else places anything
(`placedBy`).
-/
namespace MessageBroker

open Registry

/-- At first there is no entry anywhere. -/
theorem entriesOf_new (settings : HostSettings) (q : DestinationId) : (Registry.new settings).entriesOf q = [] := by
  rcases q with _ | _ | q <;> rfl

/-- **A queue that is not deleted has had what was placed on it, and nothing else**: in every run, with any number of
transactions open at once and whatever the store refuses, what was popped and what is left make up the placements on
it.  Whatever comes next places just what `placedBy` says, at that moment, and a message that is published goes on each
queue of its routing result once. -/
theorem popped_append_entries (settings : HostSettings) (store : Store) (principal : Principal) (es : List Event) :
    (∀ q x, ((World.new settings store principal).after es).broker.registry.get? q = some x → x.deleted = false →
      onQueue q (((World.new settings store principal).history es).flatMap Step.taken) ++ x.entries
        = onQueue q (placements [] ((World.new settings store principal).history es))) ∧
    ∀ e s, s = ((World.new settings store principal).after es).take e →
      (∀ q x, s.after.broker.registry.get? q = some x → x.deleted = false →
        onQueue q s.taken ++ x.entries = s.before.broker.registry.entriesOf q
          ++ onQueue q (placedBy ((World.new settings store principal).history es) s)) ∧
      ∀ p, s.publication? = some p → (p.2.map (·.queue)).Nodup := by
  have books := books_of_run settings store principal es
  refine ⟨fun q x hx hlive => ?_, ?_⟩
  · have h := books.flow.entries q x hx hlive
    rwa [entriesOf_new, List.nil_append] at h
  · rintro e s rfl
    obtain ⟨sent, hy, -⟩ := (books.effect e).yields
    refine ⟨fun q x hx hlive => ?_, fun p hp => ((books.effect e).aimed p hp).nodup⟩
    have h := hy.flow.entries q x hx hlive
    rwa [books.releases_eq] at h

/-- A queue is sent to inside a transaction and outside, popped once, and the transaction is committed. -/
def popAndCommit : List Event :=
  [.administer (.createQueue { name := "orders" }),
    .administer (.bind "amq.direct" "orders" "new" .empty false),
    .route 0 ⟨⟨none, none, none, [], false, [], none⟩, 0⟩ "new" [],
    .begin, .send 0 (.inside 1), .send 0 .autoCommit, .pop 2, .resolve .commit 1]

theorem popAndCommit_placed : ∃ x,
    ((World.new {} ⟨true, ∅, []⟩ {}).after popAndCommit).broker.registry.get? 2 = some x ∧
    x.deleted = false ∧ x.entries.length = 1 ∧
    onQueue 2 (((World.new {} ⟨true, ∅, []⟩ {}).history popAndCommit).flatMap Step.taken) ++ x.entries
      = onQueue 2 (placements [] ((World.new {} ⟨true, ∅, []⟩ {}).history popAndCommit)) := by
  obtain ⟨x, hx⟩ := Option.isSome_iff_exists.1
    (by decide +kernel :
      ((((World.new {} ⟨true, ∅, []⟩ {}).after popAndCommit).broker.registry.live? 2).filter
        (·.entries.length = 1)).isSome = true)
  obtain ⟨hx, hlen⟩ := Option.filter_eq_some_iff.1 hx
  obtain ⟨hx, hlive⟩ := live?_eq_some.1 hx
  exact ⟨x, hx, hlive, by simpa using hlen, (popped_append_entries {} ⟨true, ∅, []⟩ {} popAndCommit).1 2 x hx hlive⟩

end MessageBroker
