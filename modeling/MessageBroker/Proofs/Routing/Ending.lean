import Mathlib.Data.List.ProdSigma
import MessageBroker.Proofs.Routing.Runs
import MessageBroker.Proofs.Routing.Trail
/-!
# How routing ends

`Ends` says how a part of a walk ends, and which exchanges' bindings it goes through, with nothing that cuts a walk
short: it has no fuel, and follows chains of refusing queues however long they are.  On a round of such queues sending
does not end (`not_ends_of_round`).  Where there is none, every walk ends, and in all it goes through the bindings of an
exchange at most once for each routing key and only within the hop limit (`Registry.route_ends`).
-/
namespace MessageBroker

/-- A full queue hands what it is sent to its alternate. -/
def Registry.Diverts (r : Registry) (d a : DestinationId) : Prop :=
  ∃ x q, r.live? d = some x ∧ x.body = .queue q ∧ q.hasRoom = false ∧ x.alternate = some a

/-- No chain of full queues comes back to where it began. -/
def Registry.Settles (r : Registry) : Prop := ∀ d, ¬ Relation.TransGen r.Diverts d d

/-- The routing keys that bindings put in place of the one that arrives. -/
def Registry.replacementKeys (r : Registry) : List String :=
  r.destinations.flatMap fun x => x.bindings.toList.filterMap (·.arguments.replacementKey)

namespace Routing

/-- The bindings of an exchange are gone through, for a routing key and after so many hops. -/
structure Scan where
  exchange : DestinationId
  key : String
  hops : Nat
deriving DecidableEq

def Scan.place (c : Scan) : DestinationId × String := (c.exchange, c.key)

/-- What a part of a walk comes to: what it goes through, in order, and to how many deliveries it leads. -/
structure Ending where
  scans : List Scan
  count : Nat
  progress : Progress

/-- **A part of a walk ends.** -/
inductive Ends (s : Scope) : Task → Progress → Ending → Prop where
  | gone {d key hops p} (dead : ∀ x e, s.registry.live? d = some x → x.body ≠ .exchange e) :
      Ends s (.enter d key hops) p ⟨[], 0, p⟩
  | limited {d key hops p x e} (live : s.registry.live? d = some x) (body : x.body = .exchange e)
      (far : s.registry.settings.maxHops < hops) :
      Ends s (.enter d key hops) p ⟨[], 0, p.note [.hopLimitReached x.name key s.registry.settings.maxHops]⟩
  | underWay {d key hops p x e} (live : s.registry.live? d = some x) (body : x.body = .exchange e)
      (near : hops ≤ s.registry.settings.maxHops) (seen : p.visit? d key = some .underWay) :
      Ends s (.enter d key hops) p ⟨[], 0, p⟩
  | remembered {d key hops p x e n} (live : s.registry.live? d = some x) (body : x.body = .exchange e)
      (near : hops ≤ s.registry.settings.maxHops) (seen : p.visit? d key = some (.done n)) :
      Ends s (.enter d key hops) p ⟨[], n, p⟩
  | routed {d key hops p x e cs n p'} (live : s.registry.live? d = some x) (body : x.body = .exchange e)
      (near : hops ≤ s.registry.settings.maxHops) (new : p.visit? d key = none)
      (along : Ends s (.along x.name key hops (e.candidates key)) (p.mark d key .underWay) ⟨cs, n, p'⟩)
      (last : n % s.modulus ≠ 0 ∨ x.alternate = none) :
      Ends s (.enter d key hops) p ⟨⟨d, key, hops⟩ :: cs, n, p'.mark d key (.done n)⟩
  | fallback {d key hops p x e cs n p' a cs' m p''} (live : s.registry.live? d = some x) (body : x.body = .exchange e)
      (near : hops ≤ s.registry.settings.maxHops) (new : p.visit? d key = none)
      (along : Ends s (.along x.name key hops (e.candidates key)) (p.mark d key .underWay) ⟨cs, n, p'⟩)
      (zero : n % s.modulus = 0) (next : x.alternate = some a)
      (on : Ends s (.send a key (hops + 1)) (p'.note [.alternateUsed x.name (s.registry.labelOf a)]) ⟨cs', m, p''⟩) :
      Ends s (.enter d key hops) p ⟨⟨d, key, hops⟩ :: (cs ++ cs'), n + m, p''.mark d key (.done (n + m))⟩
  | lost {d key hops p} (dead : s.registry.live? d = none) : Ends s (.send d key hops) p ⟨[], 0, p⟩
  | entered {d key hops p x e o} (live : s.registry.live? d = some x) (body : x.body = .exchange e)
      (on : Ends s (.enter d key (hops + 1)) p o) : Ends s (.send d key hops) p o
  | taken {d key hops p x q} (live : s.registry.live? d = some x) (body : x.body = .queue q)
      (room : q.hasRoom = true) : Ends s (.send d key hops) p ⟨[], 1, p.reach d⟩
  | refused {d key hops p x q} (live : s.registry.live? d = some x) (body : x.body = .queue q)
      (full : q.hasRoom = false) (last : x.alternate = none) :
      Ends s (.send d key hops) p ⟨[], 0, p.note [.queueRefused x.name q.depth]⟩
  /-- Going on to an alternate is a hop, from a queue as from an exchange. -/
  | diverted {d key hops p x q a o} (live : s.registry.live? d = some x) (body : x.body = .queue q)
      (full : q.hasRoom = false) (next : x.alternate = some a)
      (on : Ends s (.send a key (hops + 1))
        (p.note [.queueRefused x.name q.depth, .alternateUsed x.name (s.registry.labelOf a)]) o) :
      Ends s (.send d key hops) p o
  | nil {name key hops p} : Ends s (.along name key hops []) p ⟨[], 0, p⟩
  | cons {name key hops p b bs cs n p' cs' m p''} (accepts : b.accepts s.headers = true)
      (first : Ends s (.send b.destination (b.arguments.replacementKey.getD key) hops) p ⟨cs, n, p'⟩)
      (rest : Ends s (.along name key hops bs) p' ⟨cs', m, p''⟩) :
      Ends s (.along name key hops (b :: bs)) p ⟨cs ++ cs', n + m, p''⟩
  | skip {name key hops p b bs o} (rejects : b.accepts s.headers = false)
      (rest : Ends s (.along name key hops bs)
        (p.note [.selectorRejected name (s.registry.nameOf b.destination) b.key]) o) :
      Ends s (.along name key hops (b :: bs)) p o

variable {r : Registry} {s : Scope} {t : Task} {p p' p'' : Progress} {o o' : Ending} {d : DestinationId}
  {key : String} {hops : Nat}

/-! ## There is one way to end at most -/

/-- How entering a live exchange ends. -/
theorem Ends.of_enter {x : Destination} {e : Exchange} (h : Ends s (.enter d key hops) p o)
    (live : s.registry.live? d = some x) (body : x.body = .exchange e) :
    s.registry.settings.maxHops < hops ∧
        o = ⟨[], 0, p.note [.hopLimitReached x.name key s.registry.settings.maxHops]⟩ ∨
      hops ≤ s.registry.settings.maxHops ∧ (p.visit? d key = some .underWay ∧ o = ⟨[], 0, p⟩ ∨
        (∃ n, p.visit? d key = some (.done n) ∧ o = ⟨[], n, p⟩) ∨
        p.visit? d key = none ∧ ∃ cs n p', Ends s (.along x.name key hops (e.candidates key))
            (p.mark d key .underWay) ⟨cs, n, p'⟩ ∧
          ((n % s.modulus ≠ 0 ∨ x.alternate = none) ∧ o = ⟨⟨d, key, hops⟩ :: cs, n, p'.mark d key (.done n)⟩ ∨
            n % s.modulus = 0 ∧ ∃ a cs' m p'', x.alternate = some a ∧ Ends s (.send a key (hops + 1))
                (p'.note [.alternateUsed x.name (s.registry.labelOf a)]) ⟨cs', m, p''⟩ ∧
              o = ⟨⟨d, key, hops⟩ :: (cs ++ cs'), n + m, p''.mark d key (.done (n + m))⟩)) := by
  cases h with
  | gone dead => exact absurd body (dead x e live)
  | limited live' body' far =>
    rw [live] at live'; cases live'
    exact .inl ⟨far, rfl⟩
  | underWay live' body' near seen => exact .inr ⟨near, .inl ⟨seen, rfl⟩⟩
  | remembered live' body' near seen => exact .inr ⟨near, .inr (.inl ⟨_, seen, rfl⟩)⟩
  | routed live' body' near new along last =>
    rw [live] at live'; cases live'
    rw [body] at body'; cases body'
    exact .inr ⟨near, .inr (.inr ⟨new, _, _, _, along, .inl ⟨last, rfl⟩⟩)⟩
  | fallback live' body' near new along zero next on =>
    rw [live] at live'; cases live'
    rw [body] at body'; cases body'
    exact .inr ⟨near, .inr (.inr ⟨new, _, _, _, along, .inr ⟨zero, _, _, _, _, next, on, rfl⟩⟩)⟩

/-- How sending to a live queue ends. -/
theorem Ends.of_queue {x : Destination} {q : Queue} (h : Ends s (.send d key hops) p o)
    (live : s.registry.live? d = some x) (body : x.body = .queue q) :
    q.hasRoom = true ∧ o = ⟨[], 1, p.reach d⟩ ∨
      q.hasRoom = false ∧ (x.alternate = none ∧ o = ⟨[], 0, p.note [.queueRefused x.name q.depth]⟩ ∨
        ∃ a, x.alternate = some a ∧ Ends s (.send a key (hops + 1))
          (p.note [.queueRefused x.name q.depth, .alternateUsed x.name (s.registry.labelOf a)]) o) := by
  cases h with
  | lost dead => rw [dead] at live; cases live
  | entered live' body' on =>
    rw [live] at live'; cases live'
    rw [body] at body'; cases body'
  | taken live' body' room =>
    rw [live] at live'; cases live'
    rw [body] at body'; cases body'
    exact .inl ⟨room, rfl⟩
  | refused live' body' full last =>
    rw [live] at live'; cases live'
    rw [body] at body'; cases body'
    exact .inr ⟨full, .inl ⟨last, rfl⟩⟩
  | diverted live' body' full next on =>
    rw [live] at live'; cases live'
    rw [body] at body'; cases body'
    exact .inr ⟨full, .inr ⟨_, next, on⟩⟩

/-- How sending to a live exchange ends. -/
theorem Ends.of_exchange {x : Destination} {e : Exchange} (h : Ends s (.send d key hops) p o)
    (live : s.registry.live? d = some x) (body : x.body = .exchange e) : Ends s (.enter d key (hops + 1)) p o := by
  cases h with
  | lost dead => rw [dead] at live; cases live
  | entered live' body' on => exact on
  | taken live' body' => rw [live] at live'; cases live'; rw [body] at body'; cases body'
  | refused live' body' => rw [live] at live'; cases live'; rw [body] at body'; cases body'
  | diverted live' body' => rw [live] at live'; cases live'; rw [body] at body'; cases body'

/-- **A part of a walk ends in one way only.** -/
theorem Ends.unique (h : Ends s t p o) : ∀ {o'}, Ends s t p o' → o' = o := by
  induction h with
  | gone dead =>
    intro o' h'
    cases h' with
    | gone => rfl
    | limited live body => exact absurd body (dead _ _ live)
    | underWay live body => exact absurd body (dead _ _ live)
    | remembered live body => exact absurd body (dead _ _ live)
    | routed live body => exact absurd body (dead _ _ live)
    | fallback live body => exact absurd body (dead _ _ live)
  | limited live body far =>
    intro o' h'
    rcases h'.of_enter live body with ⟨-, rfl⟩ | ⟨near, -⟩
    · rfl
    · omega
  | underWay live body near seen =>
    intro o' h'
    rcases h'.of_enter live body with ⟨far, -⟩ | ⟨-, ⟨-, rfl⟩ | ⟨n, hn, -⟩ | ⟨hn, -⟩⟩
    · omega
    · rfl
    · rw [seen] at hn; cases hn
    · rw [seen] at hn; cases hn
  | remembered live body near seen =>
    intro o' h'
    rcases h'.of_enter live body with ⟨far, -⟩ | ⟨-, ⟨hn, -⟩ | ⟨n, hn, rfl⟩ | ⟨hn, -⟩⟩
    · omega
    · rw [seen] at hn; cases hn
    · rw [seen] at hn; cases hn
      rfl
    · rw [seen] at hn; cases hn
  | routed live body near new along last ih =>
    intro o' h'
    rcases h'.of_enter live body with ⟨far, -⟩ | ⟨-, ⟨hn, -⟩ | ⟨n, hn, -⟩ | ⟨-, cs, n, p', along', hlast⟩⟩
    · omega
    · rw [new] at hn; cases hn
    · rw [new] at hn; cases hn
    · cases ih along'
      rcases hlast with ⟨-, rfl⟩ | ⟨zero, a, -, -, -, next, -⟩
      · rfl
      · rcases last with last | last
        · exact absurd zero last
        · rw [last] at next; cases next
  | fallback live body near new along zero next on ih ih' =>
    intro o' h'
    rcases h'.of_enter live body with ⟨far, -⟩ | ⟨-, ⟨hn, -⟩ | ⟨n, hn, -⟩ | ⟨-, cs, n, p', along', hlast⟩⟩
    · omega
    · rw [new] at hn; cases hn
    · rw [new] at hn; cases hn
    · cases ih along'
      rcases hlast with ⟨last | last, -⟩ | ⟨-, a, cs', m, p'', next', on', rfl⟩
      · exact absurd zero last
      · rw [next] at last; cases last
      · rw [next] at next'; cases next'
        cases ih' on'
        rfl
  | lost dead =>
    intro o' h'
    cases h' with
    | lost => rfl
    | entered live => rw [dead] at live; cases live
    | taken live => rw [dead] at live; cases live
    | refused live => rw [dead] at live; cases live
    | diverted live => rw [dead] at live; cases live
  | entered live body on ih => exact fun h' => ih (h'.of_exchange live body)
  | taken live body room =>
    intro o' h'
    rcases h'.of_queue live body with ⟨-, rfl⟩ | ⟨full, -⟩
    · rfl
    · rw [room] at full; cases full
  | refused live body full last =>
    intro o' h'
    rcases h'.of_queue live body with ⟨room, -⟩ | ⟨-, ⟨-, rfl⟩ | ⟨a, next, -⟩⟩
    · rw [full] at room; cases room
    · rfl
    · rw [last] at next; cases next
  | diverted live body full next on ih =>
    intro o' h'
    rcases h'.of_queue live body with ⟨room, -⟩ | ⟨-, ⟨last, -⟩ | ⟨a, next', on'⟩⟩
    · rw [full] at room; cases room
    · rw [next] at last; cases last
    · rw [next] at next'; cases next'
      exact ih on'
  | nil =>
    intro o' h'
    cases h'
    rfl
  | cons accepts first rest ih ih' =>
    intro o' h'
    cases h' with
    | cons accepts' first' rest' =>
      cases ih first'
      cases ih' rest'
      rfl
    | skip rejects' => rw [accepts] at rejects'; cases rejects'
  | skip rejects rest ih =>
    intro o' h'
    cases h' with
    | cons accepts' => rw [rejects] at accepts'; cases accepts'
    | skip rejects' rest' => exact ih rest'

/-- **Sending to a queue on a round of full queues does not end.** -/
theorem not_ends_of_round (round : Relation.TransGen s.registry.Diverts d d) : ¬ Ends s (.send d key hops) p o := by
  -- A derivation for one queue of the round holds a smaller one for the next, which is on the round as well.
  suffices h : ∀ t p o, Ends s t p o → ∀ d key hops, t = .send d key hops →
      ¬ Relation.TransGen s.registry.Diverts d d from fun hd => h _ _ _ hd _ _ _ rfl round
  intro t p o hd
  have next_of : ∀ {d}, Relation.TransGen s.registry.Diverts d d → ∃ x q a, s.registry.live? d = some x ∧
      x.body = .queue q ∧ q.hasRoom = false ∧ x.alternate = some a ∧ Relation.TransGen s.registry.Diverts a a := by
    intro d round
    obtain ⟨a, hda, had⟩ := (Relation.TransGen.head'_iff.1 round)
    obtain ⟨x, q, live, body, full, next⟩ := hda
    exact ⟨x, q, a, live, body, full, next, .trans_right had (.single ⟨x, q, live, body, full, next⟩)⟩
  induction hd with
  | lost dead =>
    rintro d key hops ⟨⟩ round
    obtain ⟨x, q, a, live, -⟩ := next_of round
    rw [dead] at live; cases live
  | entered live body on ih =>
    rintro d key hops ⟨⟩ round
    obtain ⟨x, q, a, live', body', -⟩ := next_of round
    rw [live] at live'; cases live'
    rw [body] at body'; cases body'
  | taken live body room =>
    rintro d key hops ⟨⟩ round
    obtain ⟨x, q, a, live', body', full, -⟩ := next_of round
    rw [live] at live'; cases live'
    rw [body] at body'; cases body'
    rw [room] at full; cases full
  | refused live body full last =>
    rintro d key hops ⟨⟩ round
    obtain ⟨x, q, a, live', -, -, next, -⟩ := next_of round
    rw [live] at live'; cases live'
    rw [last] at next; cases next
  | diverted live body full next on ih =>
    rintro d key hops ⟨⟩ round
    obtain ⟨x, q, a, live', -, -, next', round'⟩ := next_of round
    rw [live] at live'; cases live'
    rw [next] at next'; cases next'
    exact ih _ _ _ rfl round'
  | _ => rintro d key hops ⟨⟩

/-! ## Every part of a walk ends -/

theorem Progress.note_nil (p : Progress) : p.note [] = p := by
  unfold Progress.note
  rw [List.append_nil]

theorem Progress.note_note (p : Progress) (ns ns' : List Notice) : (p.note ns).note ns' = p.note (ns ++ ns') := by
  unfold Progress.note
  simp only [List.append_assoc]

/-- What a landing says of how sending ends: there, or as entering the exchange does. -/
def Landing.Ends (s : Scope) (d : DestinationId) (key : String) (hops : Nat) (p : Progress) (ns : List Notice) :
    Landing → Prop
  | .nowhere => Routing.Ends s (.send d key hops) p ⟨[], 0, p.note ns⟩
  | .queue q => Routing.Ends s (.send d key hops) p ⟨[], 1, (p.note ns).reach q⟩
  | .exchange e further => ∀ o, Routing.Ends s (.enter e key (hops + 1 + further)) (p.note ns) o →
      Routing.Ends s (.send d key hops) p o

/-- Induction on how many more full queues a chain can go through, which are all different from those it came through
before. -/
theorem landing_ends (settles : s.registry.Settles) (n : Nat) : ∀ (path : List DestinationId) (d : DestinationId)
    (hops : Nat) (p : Progress), path.Nodup →
    (∀ i ∈ path, i ∈ s.registry.liveIds ∧ Relation.TransGen s.registry.Diverts i d) →
    s.registry.liveIds.length < n + path.length →
    (landing s.registry n d).1.Ends s d key hops p (landing s.registry n d).2 := by
  induction n with
  | zero =>
    intro path d hops p nodup leads hn
    have := nodup.length_le_of_subset fun i hi => (leads i hi).1
    omega
  | succ n ih =>
    intro path d hops p nodup leads hn
    unfold landing
    cases live : s.registry.live? d with
    | none =>
      simp only [Landing.Ends, Progress.note_nil]
      exact .lost live
    | some x =>
      cases body : x.body with
      | exchange e =>
        simp only [body, Landing.Ends, Progress.note_nil]
        exact fun o ho => .entered live body ho
      | queue q =>
        cases room : q.hasRoom with
        | true =>
          simp only [body, room, if_true, Landing.Ends, Progress.note_nil]
          exact .taken live body room
        | false =>
          cases next : x.alternate with
          | none =>
            simp only [body, room, next, Bool.false_eq_true, if_false, Landing.Ends]
            exact .refused live body room next
          | some a =>
            simp only [body, room, next, Bool.false_eq_true, if_false]
            have diverts : s.registry.Diverts d a := ⟨x, q, live, body, room, next⟩
            have fresh : d ∉ path := fun hd => settles d (leads d hd).2
            have h := ih (d :: path) a (hops + 1)
              (p.note [.queueRefused x.name q.depth, .alternateUsed x.name (s.registry.labelOf a)])
              (List.nodup_cons.2 ⟨fresh, nodup⟩) (fun i hi => by
                rcases List.mem_cons.1 hi with rfl | hi
                · exact ⟨mem_liveIds live, .single diverts⟩
                · exact ⟨(leads i hi).1, (leads i hi).2.tail diverts⟩)
              (by rw [List.length_cons]; omega)
            revert h
            cases (landing s.registry n a).1 with
            | nowhere =>
              intro h
              rw [Landing.Ends, Progress.note_note] at h
              exact .diverted live body room next h
            | queue i =>
              intro h
              rw [Landing.Ends, Progress.note_note] at h
              exact .diverted live body room next h
            | exchange e further =>
              intro h o ho
              rw [Landing.Ends, Progress.note_note] at h
              refine .diverted live body room next (h o ?_)
              rwa [show hops + 1 + 1 + further = hops + 1 + (further + 1) by omega]

theorem landingOf_ends (settles : s.registry.Settles) (d : DestinationId) (key : String) (hops : Nat) (p : Progress) :
    (landingOf s.registry d).1.Ends s d key hops p (landingOf s.registry d).2 := by
  refine landing_ends settles _ [] d hops p List.nodup_nil (fun i hi => (List.not_mem_nil hi).elim) ?_
  have := length_liveIds_le s.registry
  rw [List.length_nil]
  omega

/-- **What a walk yields is how it ends**, where no round of full queues keeps it from ending. -/
theorem Runs.ends (settles : s.registry.Settles) {n : Nat} (h : Runs s t p n p') : ∃ cs, Ends s t p ⟨cs, n, p'⟩ := by
  induction h with
  | gone dead => exact ⟨[], .gone dead⟩
  | limited live body far => exact ⟨[], .limited live body far⟩
  | underWay live body near seen => exact ⟨[], .underWay live body near seen⟩
  | remembered live body near seen => exact ⟨[], .remembered live body near seen⟩
  | routed live body near new along last ih =>
    obtain ⟨cs, h⟩ := ih
    exact ⟨_, .routed live body near new h last⟩
  | fallback live body near new along zero next on ih ih' =>
    obtain ⟨cs, h⟩ := ih
    obtain ⟨cs', h'⟩ := ih'
    exact ⟨_, .fallback live body near new h zero next h'⟩
  | nowhere lands =>
    rename_i d key hops p notices
    have h := landingOf_ends settles d key hops p
    rw [lands] at h
    exact ⟨[], h⟩
  | taken lands =>
    rename_i d key hops p notices q
    have h := landingOf_ends settles d key hops p
    rw [lands] at h
    exact ⟨[], h⟩
  | entered lands on ih =>
    rename_i d key hops p notices e further n p'
    have h := landingOf_ends settles d key hops p
    rw [lands] at h
    obtain ⟨cs, ho⟩ := ih
    exact ⟨cs, h _ ho⟩
  | nil => exact ⟨[], .nil⟩
  | cons accepts first rest ih ih' =>
    obtain ⟨cs, h⟩ := ih
    obtain ⟨cs', h'⟩ := ih'
    exact ⟨_, .cons accepts h h'⟩
  | skip rejects rest ih =>
    obtain ⟨cs, h⟩ := ih
    exact ⟨cs, .skip rejects h⟩

/-! ## What a walk goes through -/

/-- **The bindings of an exchange were gone through for keys that they had not been before**, each once, and not beyond
the hop limit; what was visited stays so. -/
structure Scanned (limit : Nat) (p : Progress) (cs : List Scan) (p' : Progress) : Prop where
  fresh : ∀ c ∈ cs, p.visit? c.exchange c.key = none
  visited : ∀ d key, (p.visit? d key).isSome = true ∨ (d, key) ∈ cs.map Scan.place → (p'.visit? d key).isSome = true
  once : (cs.map Scan.place).Nodup
  near : ∀ c ∈ cs, c.hops ≤ limit

namespace Scanned

variable {limit : Nat} {cs cs' : List Scan}

/-- Nothing was gone through. -/
theorem nothing (h : ∀ d key, p'.visit? d key = p.visit? d key) : Scanned limit p [] p' :=
  ⟨by simp, fun d key hv => by rw [h]; simpa using hv, by simp, by simp⟩

/-- A record made first has no part in it. -/
theorem noted {ns : List Notice} (h : Scanned limit (p.note ns) cs p') : Scanned limit p cs p' :=
  ⟨h.fresh, h.visited, h.once, h.near⟩

theorem trans (h : Scanned limit p cs p') (h' : Scanned limit p' cs' p'') : Scanned limit p (cs ++ cs') p'' := by
  have apart : ∀ z ∈ cs.map Scan.place, ∀ z' ∈ cs'.map Scan.place, z ≠ z' := by
    intro z hz z' hz' heq
    obtain ⟨c, hc, rfl⟩ := List.mem_map.1 hz'
    have hv := h.visited _ _ (.inr (heq ▸ hz))
    rw [h'.fresh c hc] at hv
    cases hv
  refine ⟨fun c hc => ?_, fun d key hv => h'.visited d key ?_, ?_, fun c hc => ?_⟩
  · rcases List.mem_append.1 hc with hc | hc
    · exact h.fresh c hc
    · -- what had been visited before would still be
      have hnone := h'.fresh c hc
      cases hv : p.visit? c.exchange c.key with
      | none => rfl
      | some v =>
        have := h.visited c.exchange c.key (.inl (by rw [hv]; rfl))
        rw [hnone] at this
        cases this
  · rw [List.map_append, List.mem_append, ← or_assoc] at hv
    exact hv.imp_left (h.visited d key)
  · rw [List.map_append]
    exact List.nodup_append.2 ⟨h.once, h'.once, apart⟩
  · rcases List.mem_append.1 hc with hc | hc
    · exact h.near c hc
    · exact h'.near c hc

/-- An exchange that was new is gone through, and so is what it leads to while it is under way. -/
theorem enter (new : p.visit? d key = none) (near : hops ≤ limit)
    (h : Scanned limit (p.mark d key .underWay) cs p') (v : Visit) :
    Scanned limit p (⟨d, key, hops⟩ :: cs) (p'.mark d key v) := by
  have hne : ∀ c ∈ cs, ¬ (c.exchange = d ∧ c.key = key) := by
    rintro c hc ⟨hd, hk⟩
    have hv := h.fresh c hc
    rw [Progress.visit?_mark, if_pos ⟨hd, hk⟩] at hv
    cases hv
  refine ⟨fun c hc => ?_, fun d' key' hv => ?_, ?_, fun c hc => ?_⟩
  · rcases List.mem_cons.1 hc with rfl | hc
    · exact new
    · have hv := h.fresh c hc
      rwa [Progress.visit?_mark, if_neg (hne c hc)] at hv
  · rw [Progress.visit?_mark]
    split
    · rfl
    · rename_i hother
      refine h.visited d' key' ?_
      rw [Progress.visit?_mark, if_neg hother]
      refine hv.imp_right fun hm => ?_
      rcases List.mem_cons.1 hm with heq | hm
      · cases heq
        exact absurd ⟨rfl, rfl⟩ hother
      · exact hm
  · refine List.nodup_cons.2 ⟨fun hm => ?_, h.once⟩
    obtain ⟨c, hc, heq⟩ := List.mem_map.1 hm
    exact hne c hc ⟨congrArg Prod.fst heq, congrArg Prod.snd heq⟩
  · rcases List.mem_cons.1 hc with rfl | hc
    · exact near
    · exact h.near c hc

end Scanned

/-- **Whatever part of a walk ends, it has repeated nothing.** -/
theorem Ends.scanned (h : Ends s t p o) : Scanned s.registry.settings.maxHops p o.scans o.progress := by
  induction h with
  | gone => exact .nothing fun _ _ => rfl
  | limited => exact .nothing fun _ _ => rfl
  | underWay => exact .nothing fun _ _ => rfl
  | remembered => exact .nothing fun _ _ => rfl
  | routed live body near new along last ih => exact ih.enter new near _
  | fallback live body near new along zero next on ih ih' =>
    refine .enter new near ?_ _
    exact ih.trans ih'.noted
  | lost => exact .nothing fun _ _ => rfl
  | entered live body on ih => exact ih
  | taken => exact .nothing fun _ _ => Progress.visit?_reach ..
  | refused => exact .nothing fun _ _ => rfl
  | diverted live body full next on ih => exact ih.noted
  | nil => exact .nothing fun _ _ => rfl
  | cons accepts first rest ih ih' => exact ih.trans ih'
  | skip rejects rest ih => exact ih.noted

/-! ## How much there is to go through -/

/-- A part of a walk deals in these routing keys only. -/
def Task.Keyed (keys : List String) : Task → Prop
  | .enter _ key _ => key ∈ keys
  | .send _ key _ => key ∈ keys
  | .along _ key _ bs => key ∈ keys ∧ ∀ b ∈ bs, ∀ k, b.arguments.replacementKey = some k → k ∈ keys

theorem mem_replacementKeys {x : Destination} {e : Exchange} {b : Binding} {k k' : String}
    (live : r.live? d = some x) (body : x.body = .exchange e) (hb : b ∈ e.candidates k)
    (hk : b.arguments.replacementKey = some k') : k' ∈ r.replacementKeys := by
  have hx : x ∈ r.destinations := List.mem_of_getElem? (Registry.live?_eq_some.1 live).1
  refine List.mem_flatMap.2 ⟨x, hx, List.mem_filterMap.2 ⟨b, ?_, hk⟩⟩
  unfold Destination.bindings
  rw [body]
  exact mem_candidates hb

/-- **Only live exchanges are gone through, for keys that are replaced or were there at first.** -/
theorem Ends.places {keys : List String} (h : Ends s t p o) (keyed : t.Keyed keys)
    (replaced : s.registry.replacementKeys ⊆ keys) : ∀ c ∈ o.scans, c.exchange ∈ s.registry.liveIds ∧ c.key ∈ keys := by
  have along_keyed : ∀ {d key hops x e}, s.registry.live? d = some x → x.body = .exchange e → key ∈ keys →
      (Task.along x.name key hops (e.candidates key)).Keyed keys := fun live body hk =>
    ⟨hk, fun b hb k hbk => replaced (mem_replacementKeys live body hb hbk)⟩
  induction h with
  | gone => simp
  | limited => simp
  | underWay => simp
  | remembered => simp
  | routed live body near new along last ih =>
    exact List.forall_mem_cons.2 ⟨⟨mem_liveIds live, keyed⟩, ih (along_keyed live body keyed)⟩
  | fallback live body near new along zero next on ih ih' =>
    refine List.forall_mem_cons.2 ⟨⟨mem_liveIds live, keyed⟩, fun c hc => ?_⟩
    rcases List.mem_append.1 hc with hc | hc
    · exact ih (along_keyed live body keyed) c hc
    · exact ih' keyed c hc
  | lost => simp
  | entered live body on ih => exact ih keyed
  | taken => simp
  | refused => simp
  | diverted live body full next on ih => exact ih keyed
  | nil => simp
  | cons accepts first rest ih ih' =>
    rename_i key hops p b bs cs n p' cs' m p''
    obtain ⟨hk, hbs⟩ := keyed
    have hfirst : b.arguments.replacementKey.getD key ∈ keys := by
      cases hb : b.arguments.replacementKey with
      | none => exact hk
      | some k => exact hbs b List.mem_cons_self k hb
    intro c hc
    rcases List.mem_append.1 hc with hc | hc
    · exact ih hfirst c hc
    · exact ih' ⟨hk, fun b hb => hbs b (List.mem_cons_of_mem _ hb)⟩ c hc
  | skip rejects rest ih => exact ih ⟨keyed.1, fun b hb => keyed.2 b (List.mem_cons_of_mem _ hb)⟩

/-- No more than each live exchange for each key. -/
theorem Ends.length_scans_le {start : DestinationId} (h : Ends s (.enter start key hops) p o) :
    o.scans.length ≤ s.registry.liveIds.length * (s.registry.replacementKeys.length + 1) := by
  have hsub : o.scans.map Scan.place ⊆ s.registry.liveIds ×ˢ (key :: s.registry.replacementKeys) := by
    intro z hz
    obtain ⟨c, hc, rfl⟩ := List.mem_map.1 hz
    have keyed : (Task.enter start key hops).Keyed (key :: s.registry.replacementKeys) := List.mem_cons_self
    have hplace := h.places keyed (fun k hk => List.mem_cons_of_mem _ hk) c hc
    exact List.mem_product.2 hplace
  have hle := h.scanned.once.length_le_of_subset hsub
  rwa [List.length_map, List.length_product, List.length_cons] at hle

end Routing

namespace Registry

open Routing

/-- **Routing ends, and repeats no work.**  Unless full queues that are each other's alternates form a round, a walk from
any exchange ends, in just one way, with the queues that routing finds.  It has gone through the bindings of an exchange
at most once for each routing key, and never of one entered beyond the hop limit; so there is a bound on its work that
does not depend on that limit. -/
theorem route_ends {r : Registry} (settles : r.Settles) (start : DestinationId) (message : Message) (key : String)
    (properties : InstanceProperties) :
    ∃ o, (∀ o', Ends ⟨r, message.headers, counterModulus⟩ (.enter start key 0) .start o' ↔ o' = o) ∧
      (r.route start message key properties).1.queues = o.progress.queues ∧
      (o.scans.map Scan.place).Nodup ∧ (∀ c ∈ o.scans, c.hops ≤ r.settings.maxHops) ∧
      o.scans.length ≤ r.liveIds.length * (r.replacementKeys.length + 1) := by
  have hruns := runs_walkFrom r counterModulus message.headers start key
  obtain ⟨cs, h⟩ := hruns.ends settles
  refine ⟨_, fun o' => ⟨h.unique, fun ho => ho ▸ h⟩, ?_, h.scanned.once, h.scanned.near, h.length_scans_le⟩
  unfold route
  cases live : r.live? start with
  | none =>
    simp only [walkFrom, walk, live]
    rfl
  | some x => rfl

/-- No chain of queues comes back where each one's alternate was made before it. -/
theorem settles_of_earlier {r : Registry}
    (h : ∀ d < r.destinations.length, ∀ x ∈ r.live? d, ∀ a ∈ x.alternate, a < d) : r.Settles := by
  have descends : ∀ {d a}, Relation.TransGen r.Diverts d a → a < d := by
    intro d a ha
    induction ha with
    | single hd =>
      obtain ⟨x, q, live, -, -, next⟩ := hd
      exact h _ (get?_lt (live?_eq_some.1 live).1) x live _ next
    | tail _ hd ih =>
      obtain ⟨x, q, live, -, -, next⟩ := hd
      exact Nat.lt_trans (h _ (get?_lt (live?_eq_some.1 live).1) x live _ next) ih
  exact fun d round => Nat.lt_irrefl d (descends round)

/-- Two exchanges that are bound to each other and turn each key into another one, and a full queue with an alternate. -/
def carousel : Registry :=
  (new {}).after
    [.createQueue { name := "overflow" },
      .createQueue { name := "small", capacity := some 0, alternate := some "overflow" },
      .createExchange { name := "up", type := .fanout },
      .createExchange { name := "down", type := .fanout },
      .bind "up" "down" "" (.ofList [(BindingArguments.replacementName, "low")]) false,
      .bind "down" "up" "" (.ofList [(BindingArguments.replacementName, "high")]) false,
      .bind "up" "small" "" .empty false]

/-- The walk goes round until it comes by with a key again, and the queue's alternate takes the message. -/
theorem route_carousel : carousel.Settles ∧
    (carousel.route 4 ⟨⟨none, none, none, [], false, [], none⟩, 0⟩ "k" []).1.queues = [2] ∧
    ∃ o, (∀ o', Ends ⟨carousel, [], counterModulus⟩ (.enter 4 "k" 0) .start o' ↔ o' = o) ∧
      (carousel.route 4 ⟨⟨none, none, none, [], false, [], none⟩, 0⟩ "k" []).1.queues = o.progress.queues ∧
      (o.scans.map Scan.place).Nodup ∧ (∀ c ∈ o.scans, c.hops ≤ carousel.settings.maxHops) ∧
      o.scans.length ≤ carousel.liveIds.length * (carousel.replacementKeys.length + 1) := by
  have settles : carousel.Settles := settles_of_earlier (by decide +kernel)
  exact ⟨settles, by decide +kernel, route_ends settles 4 ⟨⟨none, none, none, [], false, [], none⟩, 0⟩ "k" []⟩

end Registry
end MessageBroker
