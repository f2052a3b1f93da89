import MessageBroker.Broker.Publish
/-!
# What is written to the store

Of records that are written in order the store takes those up to the first that it refuses (`Store.taken`), and the
broker accounts for just these (`Broker.persist_eq`).
-/
namespace MessageBroker

namespace Store

def withRecords (s : Store) (records : List StoreRecord) : Store := { s with records := s.records ++ records }

/-- The records that are taken when these are written in order. -/
def taken (s : Store) : List StoreRecord → List StoreRecord
  | [] => []
  | r :: rs => match s.refusal? r with
    | some _ => []
    | none => r :: (s.withRecords [r]).taken rs

/-- The text with which one of them is refused, if one is. -/
def refused? (s : Store) : List StoreRecord → Option String
  | [] => none
  | r :: rs => match s.refusal? r with
    | some text => some text
    | none => (s.withRecords [r]).refused? rs

/-- **Of two stores, each takes what the other one takes**, whatever is written to both. -/
def Agrees (s s' : Store) : Prop := ∀ more r, (s'.withRecords more).refusal? r = (s.withRecords more).refusal? r

variable {s s' : Store} {rs : List StoreRecord}

@[simp] theorem withRecords_nil (s : Store) : s.withRecords [] = s := by simp [withRecords]

theorem withRecords_append (s : Store) (rs rs' : List StoreRecord) :
    s.withRecords (rs ++ rs') = (s.withRecords rs).withRecords rs' := by
  simp [withRecords]

theorem taken_eq_self (h : s.refused? rs = none) : s.taken rs = rs := by
  induction rs generalizing s with
  | nil => rfl
  | cons r rs ih =>
    unfold refused? at h
    unfold taken
    cases hr : s.refusal? r with
    | some text => simp [hr] at h
    | none =>
      simp only [hr] at h ⊢
      rw [ih h]

/-- What was taken would be taken again. -/
theorem refused?_of_prefix {rs' : List StoreRecord} (h : s.refused? rs = none) (front : rs' <+: rs) :
    s.refused? rs' = none := by
  induction rs' generalizing s rs with
  | nil => rfl
  | cons r rs' ih =>
    obtain ⟨rest, rfl⟩ := front
    rw [List.cons_append] at h
    unfold refused? at h ⊢
    cases hr : s.refusal? r with
    | some text => simp [hr] at h
    | none =>
      simp only [hr] at h ⊢
      exact ih h (List.prefix_append rs' rest)

theorem refused?_taken (s : Store) (rs : List StoreRecord) : s.refused? (s.taken rs) = none := by
  induction rs generalizing s with
  | nil => rfl
  | cons r rs ih =>
    unfold taken
    cases hr : s.refusal? r with
    | some text => rfl
    | none =>
      unfold refused?
      simp only [hr, ih]

theorem refused?_append {rs' : List StoreRecord} (h : s.refused? rs = none) :
    s.refused? (rs ++ rs') = (s.withRecords rs).refused? rs' := by
  induction rs generalizing s with
  | nil => rw [List.nil_append, withRecords_nil]
  | cons r rs ih =>
    rw [List.cons_append, refused?]
    rw [refused?] at h
    cases hr : s.refusal? r with
    | some text => simp [hr] at h
    | none =>
      simp only [hr] at h ⊢
      rw [ih h]
      exact congrArg (refused? · rs') (s.withRecords_append [r] rs).symm

/-- **The one that is refused comes right after those that are taken.** -/
theorem exists_refused {text : String} (h : s.refused? rs = some text) :
    ∃ r, s.taken rs ++ [r] <+: rs ∧ (s.withRecords (s.taken rs)).refusal? r = some text := by
  induction rs generalizing s with
  | nil => cases h
  | cons r rs ih =>
    unfold refused? at h
    unfold taken
    cases hr : s.refusal? r with
    | some text' =>
      simp only [hr] at h ⊢
      exact ⟨r, ⟨rs, rfl⟩, by rw [withRecords_nil, hr, h]⟩
    | none =>
      simp only [hr] at h ⊢
      obtain ⟨r', front, refused⟩ := ih h
      refine ⟨r', (List.prefix_cons_inj r).2 front, ?_⟩
      rwa [← withRecords_append] at refused

namespace Agrees

theorem withRecords (h : Agrees s s') (rs : List StoreRecord) : Agrees (s.withRecords rs) (s'.withRecords rs) :=
  fun more r => by
    rw [← withRecords_append, ← withRecords_append]
    exact h (rs ++ more) r

theorem refused? (h : Agrees s s') (rs : List StoreRecord) : s'.refused? rs = s.refused? rs := by
  induction rs generalizing s s' with
  | nil => rfl
  | cons r rs ih =>
    have hr : s'.refusal? r = s.refusal? r := by simpa using h [] r
    unfold Store.refused?
    rw [hr, ih (h.withRecords [r])]

theorem trans {s'' : Store} (h : Agrees s s') (h' : Agrees s' s'') : Agrees s s'' :=
  fun more r => (h' more r).trans (h more r)

end Agrees
end Store

namespace Broker

/-- What is answered when a record is refused with this text, or none is. -/
def ofRefusal : Option String → Except StoreError Unit
  | none => .ok ()
  | some text => .error (.refused text)

/-- After records were written. -/
def withRecords (b : Broker) (records : List StoreRecord) : Broker :=
  { b with store := b.store.withRecords records, deeds := b.deeds ++ records.map .record }

@[simp] theorem withRecords_nil (b : Broker) : b.withRecords [] = b := by simp [withRecords]

theorem withRecords_append (b : Broker) (rs rs' : List StoreRecord) :
    b.withRecords (rs ++ rs') = (b.withRecords rs).withRecords rs' := by
  simp [withRecords, Store.withRecords_append]

theorem record_eq (b : Broker) (r : StoreRecord) : b.record r = match b.store.refusal? r with
    | some text => (b, .error (.refused text))
    | none => (b.withRecords [r], .ok ()) := by
  unfold record Store.write
  cases b.store.refusal? r <;> rfl

/-- **Records are written up to the first that the store refuses.** -/
theorem persist_eq (b : Broker) (records : List StoreRecord) :
    b.persist records = (b.withRecords (b.store.taken records), ofRefusal (b.store.refused? records)) := by
  induction records generalizing b with
  | nil => simp [persist, Store.taken, Store.refused?, ofRefusal]
  | cons r records ih =>
    unfold persist Store.taken Store.refused?
    rw [record_eq]
    cases b.store.refusal? r with
    | some text => simp [ofRefusal]
    | none =>
      simp only [ih]
      exact congrArg (·, _) (b.withRecords_append [r] _).symm

theorem persist_fst (b : Broker) (records : List StoreRecord) :
    (b.persist records).1 = b.withRecords (b.store.taken records) := congrArg Prod.fst (b.persist_eq records)

end Broker
end MessageBroker
