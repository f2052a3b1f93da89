import MessageBroker.Proofs.Broker.Flow
import MessageBroker.Proofs.Broker.Writing
import MessageBroker.Broker.Transact
/-!
# What an operation does

`Yields` says what an operation takes off queues, places on them and sends; `Does` says it of an operation that
publishes and answers within a transaction, which may put both off.  Effects add up (`Does.trans`), so that what a
delivery does follows from what its parts do.  An operation that does nothing of the kind is an `Aside`.
-/
namespace MessageBroker

namespace Receiver

/-- A receiver that the broker found itself. -/
def Plain (r : Receiver) : Prop := ∀ s, r.kind ≠ .scripted s

end Receiver

/-- What takes effect at once, of what is published or answered in a transaction. -/
def Transaction.now {α : Type} (t : Transaction) (xs : List α) : List α :=
  match t with
  | .autoCommit => xs
  | .inside _ => []

/-- What is put off to the end of transaction `i`. -/
def Transaction.later {α : Type} (t : Transaction) (i : TransactionId) (xs : List α) : List α :=
  if t = .inside i then xs else []

@[simp] theorem Transaction.now_nil {α : Type} (t : Transaction) : t.now ([] : List α) = [] := by
  cases t <;> rfl

@[simp] theorem Transaction.later_nil {α : Type} (t : Transaction) (i : TransactionId) :
    t.later i ([] : List α) = [] := by
  unfold later
  split <;> rfl

theorem Transaction.now_append {α : Type} (t : Transaction) (xs ys : List α) :
    t.now (xs ++ ys) = t.now xs ++ t.now ys := by
  cases t <;> rfl

theorem Transaction.later_append {α : Type} (t : Transaction) (i : TransactionId) (xs ys : List α) :
    t.later i (xs ++ ys) = t.later i xs ++ t.later i ys := by
  unfold later
  split <;> rfl

namespace Broker

open Registry

/-- What an open transaction holds back and owes. -/
def account (b : Broker) (i : TransactionId) : Option (List PendingEnqueue × List SettlementAction) :=
  (b.active? i).map fun t => (t.pending, t.actions)

/-- Whether someone takes the dispositions of a link, if there is such a link. -/
def ear? (b : Broker) (l : LinkId) : Option Bool := (b.link? l).map (·.receiverOpen)

def heard (b : Broker) (a : SettlementAction) : Bool := (b.ear? a.link).getD false

/-- What goes out when dispositions are sent. -/
def letters (b : Broker) (as : List SettlementAction) : List (LinkId × Disposition) :=
  (as.filter b.heard).map fun a => (a.link, a.disposition)

/-- Every link has a receiver that the broker found itself, if it has one. -/
def Plain (b : Broker) : Prop := ∀ l x r, b.link? l = some x → x.receiver = some r → r.Plain

structure Yields (b b' : Broker) (taken placed : List PendingEnqueue) (sent : List (LinkId × Disposition)) : Prop where
  flow : Flow b.registry b'.registry taken placed
  outbox : b'.outbox = b.outbox ++ sent
  plain : b.Plain → b'.Plain
  ears : ∀ l heard, b.ear? l = some heard → b'.ear? l = some heard
  begun : b.transactions.length ≤ b'.transactions.length

theorem Yields.trans {b b' b'' : Broker} {taken taken' placed placed' : List PendingEnqueue}
    {sent sent' : List (LinkId × Disposition)} (h : Yields b b' taken placed sent)
    (h' : Yields b' b'' taken' placed' sent') : Yields b b'' (taken ++ taken') (placed ++ placed') (sent ++ sent') :=
  ⟨h.flow.trans h'.flow, by rw [h'.outbox, h.outbox, List.append_assoc], fun hp => h'.plain (h.plain hp),
    fun l heard hl => h'.ears l heard (h.ears l heard hl), Nat.le_trans h.begun h'.begun⟩

/-- **An operation publishes and answers in a transaction**, and does nothing else that counts. -/
structure Does (b b' : Broker) (t : Transaction) (ps : List PendingEnqueue) (as : List SettlementAction) : Prop where
  yields : Yields b b' [] (t.now ps) (t.now (b.letters as))
  account : ∀ i, b'.account i = (b.account i).map fun c => (c.1 ++ t.later i ps, c.2 ++ t.later i as)
  ears : ∀ l, b'.ear? l = b.ear? l

/-- An operation neither publishes nor answers anything. -/
def Aside (b b' : Broker) : Prop := ∀ t, Does b b' t [] []

variable {b b' b'' : Broker} {t : Transaction} {ps ps' : List PendingEnqueue} {as as' : List SettlementAction}

theorem account_congr (h : b'.transactions = b.transactions) (i : TransactionId) : b'.account i = b.account i := by
  unfold account active? transaction?
  rw [h]

theorem ear?_congr (h : b'.links = b.links) (l : LinkId) : b'.ear? l = b.ear? l := by
  unfold ear? link?
  rw [h]

/-- An operation that leaves the links alone. -/
theorem Yields.of_links {taken placed : List PendingEnqueue} {sent : List (LinkId × Disposition)}
    (flow : Flow b.registry b'.registry taken placed) (outbox : b'.outbox = b.outbox ++ sent)
    (links : b'.links = b.links) (begun : b.transactions.length ≤ b'.transactions.length) :
    Yields b b' taken placed sent :=
  ⟨flow, outbox, fun hp l x r hx hr => hp l x r (by unfold link? at hx ⊢; rwa [links] at hx) hr,
    fun l heard hl => by rw [ear?_congr links, hl], begun⟩

theorem letters_congr (h : ∀ l, b'.ear? l = b.ear? l) (as : List SettlementAction) : b'.letters as = b.letters as := by
  unfold letters heard
  simp only [h]

theorem letters_append (b : Broker) (as as' : List SettlementAction) :
    b.letters (as ++ as') = b.letters as ++ b.letters as' := by
  unfold letters
  rw [List.filter_append, List.map_append]

theorem Does.trans (h : Does b b' t ps as) (h' : Does b' b'' t ps' as') : Does b b'' t (ps ++ ps') (as ++ as') := by
  refine ⟨?_, fun i => ?_, fun l => (h'.ears l).trans (h.ears l)⟩
  · rw [letters_append, t.now_append, t.now_append, ← letters_congr h.ears as']
    exact h.yields.trans h'.yields
  · rw [h'.account, h.account, Option.map_map]
    refine congrArg (Option.map · _) (funext fun c => ?_)
    simp only [Function.comp, t.later_append, List.append_assoc]

theorem Aside.refl (b : Broker) : Aside b b := fun t => by
  refine ⟨.of_links ?_ ?_ rfl (Nat.le_refl _), fun i => ?_, fun _ => rfl⟩
  · rw [t.now_nil]
    exact .refl _
  · simp [letters]
  · simp

theorem Aside.trans (h : Aside b b') (h' : Aside b' b'') : Aside b b'' := fun t => (h t).trans (h' t)

theorem Aside.then (h : Aside b b') (h' : Does b' b'' t ps as) : Does b b'' t ps as := (h t).trans h'

theorem Does.aside (h : Does b b' t ps as) (h' : Aside b' b'') : Does b b'' t ps as := by
  have := h.trans (h' t)
  rwa [List.append_nil, List.append_nil] at this

/-- Nothing flows, and transactions, links and dispositions are left alone. -/
theorem Aside.of_flow (flow : Flow b.registry b'.registry [] []) (transactions : b'.transactions = b.transactions)
    (links : b'.links = b.links) (outbox : b'.outbox = b.outbox) : Aside b b' := fun t => by
  refine ⟨.of_links ?_ ?_ links (Nat.le_of_eq (by rw [transactions])), fun i => ?_, ear?_congr links⟩
  · rw [t.now_nil]
    exact flow
  · simp [letters, outbox]
  · simp [account_congr transactions]

theorem aside_note (b : Broker) (n : Notice) : Aside b (b.note n) := .of_flow (.refl _) rfl rfl rfl

theorem aside_noteAll (b : Broker) (ns : List Notice) : Aside b (b.noteAll ns) := .of_flow (.refl _) rfl rfl rfl

theorem aside_acquire (b : Broker) (m : MessageId) : Aside b (b.acquire m) := .of_flow (.refl _) rfl rfl rfl

theorem aside_release (b : Broker) (m : MessageId) : Aside b (b.release m) := .of_flow (.refl _) rfl rfl rfl

theorem aside_persist (b : Broker) (records : List StoreRecord) : Aside b (b.persist records).1 := by
  rw [persist_fst]
  exact .of_flow (.refl _) rfl rfl rfl

/-- Changing a link keeps it open or closed, and lets its receiver be one that the broker found. -/
theorem aside_modifyLink (b : Broker) (l : LinkId) {f : Link → Link} (hopen : ∀ x, (f x).receiverOpen = x.receiverOpen)
    (hreceiver : ∀ x r, (f x).receiver = some r → x.receiver = some r ∨ r.Plain) : Aside b (b.modifyLink l f) := by
  have hlink : ∀ i, (b.modifyLink l f).link? i = (b.link? i).map (if l = i then f else id) := fun i => by
    unfold modifyLink link?
    rw [List.getElem?_modify]
    by_cases h : l = i <;> simp [h]
  have hplain : b.Plain → (b.modifyLink l f).Plain := fun hp i x r hx hr => by
    rw [hlink] at hx
    obtain ⟨y, hy, rfl⟩ := Option.map_eq_some_iff.1 hx
    split at hr
    · rcases hreceiver y r hr with hr | hr
      · exact hp i y r hy hr
      · exact hr
    · exact hp i y r hy hr
  have hears : ∀ i, (b.modifyLink l f).ear? i = b.ear? i := fun i => by
    unfold ear?
    rw [hlink, Option.map_map]
    refine congrArg (Option.map · _) (funext fun x => ?_)
    simp only [Function.comp]
    split
    · exact hopen x
    · rfl
  refine fun t => ⟨⟨?_, ?_, hplain, fun i heard hi => by rw [hears, hi], Nat.le_refl _⟩, fun i => ?_, hears⟩
  · rw [t.now_nil]
    exact .refl _
  · simp [letters, modifyLink]
  · have haccount : (b.modifyLink l f).account i = b.account i := account_congr rfl i
    simp [haccount]

end Broker
end MessageBroker
