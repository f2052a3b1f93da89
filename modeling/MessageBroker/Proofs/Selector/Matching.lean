import Mathlib.Data.List.Forall2
import MessageBroker.Selector.Like
/-!
# Which texts match a pattern

A text matches if it can be cut into pieces, one for each part of the pattern (`Splits`).  That the match tries the last
`%` only loses nothing: wherever the pattern after an earlier one fits, the pattern after a later one fits further on
(`Scan.Valid.spares`).  So each step keeps what can still come of the match, and there are no more steps than text
length times pattern length (`Scan.Valid.step`).
-/
namespace MessageBroker.Selector

/-- What a part of a pattern may stand for. -/
def Wildcard.Spans : Wildcard → List Char → Prop
  | .anySequence, _ => True
  | .anyChar, piece => piece.length = 1
  | .exactly c, piece => piece = [c]

/-- **A text is made up of pieces, one for each part of a pattern.** -/
def Splits (pattern : List Wildcard) (text : List Char) : Prop :=
  ∃ pieces : List (List Char), pieces.flatten = text ∧ List.Forall₂ Wildcard.Spans pattern pieces

variable {ws : List Wildcard} {w : Wildcard} {text cs : List Char} {c e : Char}

theorem splits_nil : Splits [] text ↔ text = [] := by
  constructor
  · rintro ⟨pieces, rfl, fits⟩
    cases fits
    rfl
  · rintro rfl
    exact ⟨[], rfl, .nil⟩

theorem splits_cons : Splits (w :: ws) text ↔ ∃ piece rest, piece ++ rest = text ∧ w.Spans piece ∧ Splits ws rest := by
  constructor
  · rintro ⟨pieces, rfl, fits⟩
    obtain ⟨piece, pieces, hpiece, hpieces, rfl⟩ := List.forall₂_cons_left_iff.1 fits
    exact ⟨piece, pieces.flatten, rfl, hpiece, pieces, rfl, hpieces⟩
  · rintro ⟨piece, rest, rfl, hpiece, pieces, rfl, hpieces⟩
    exact ⟨piece :: pieces, rfl, .cons hpiece hpieces⟩

/-- A `%` leaves any end of the text to what comes after it. -/
theorem splits_anySequence : Splits (.anySequence :: ws) text ↔ ∃ rest, rest <:+ text ∧ Splits ws rest := by
  rw [splits_cons]
  constructor
  · rintro ⟨piece, rest, heq, -, hrest⟩
    exact ⟨rest, ⟨piece, heq⟩, hrest⟩
  · rintro ⟨rest, ⟨piece, heq⟩, hrest⟩
    exact ⟨piece, rest, heq, trivial, hrest⟩

theorem splits_anyChar : Splits (.anyChar :: ws) (c :: cs) ↔ Splits ws cs := by
  rw [splits_cons]
  constructor
  · rintro ⟨piece, rest, heq, hpiece, hrest⟩
    obtain ⟨d, rfl⟩ := List.length_eq_one_iff.1 hpiece
    cases heq
    exact hrest
  · intro h
    exact ⟨[c], cs, rfl, rfl, h⟩

theorem splits_exactly : Splits (.exactly e :: ws) (c :: cs) ↔ e = c ∧ Splits ws cs := by
  rw [splits_cons]
  constructor
  · rintro ⟨piece, rest, heq, rfl, hrest⟩
    cases heq
    exact ⟨rfl, hrest⟩
  · rintro ⟨rfl, h⟩
    exact ⟨[e], cs, rfl, rfl, h⟩

/-- What takes a character does not stand at the end. -/
theorem not_splits_nil (hw : w ≠ .anySequence) : ¬ Splits (w :: ws) [] := by
  rw [splits_cons]
  rintro ⟨piece, rest, heq, hpiece, -⟩
  obtain ⟨rfl, -⟩ := List.append_eq_nil_iff.1 heq
  cases w with
  | anySequence => exact hw rfl
  | anyChar => cases hpiece
  | exactly c => cases hpiece

/-- The end of the text is all that is left, so no more than `%` may be. -/
theorem splits_end : Splits ws [] ↔ ws.all (· == .anySequence) = true := by
  induction ws with
  | nil => simp [splits_nil]
  | cons w ws ih =>
    rw [List.all_cons, Bool.and_eq_true, ← ih, beq_iff_eq]
    by_cases hw : w = .anySequence
    · subst hw
      rw [splits_anySequence]
      simp [List.suffix_nil]
    · exact iff_of_false (not_splits_nil hw) fun h => hw h.1

theorem suffix_of_cons_suffix {d : Char} {rest : List Char} (h : d :: rest <:+ c :: cs) : rest <:+ cs := by
  rcases List.suffix_cons_iff.1 h with heq | h
  · cases heq
    exact List.suffix_rfl
  · exact (List.suffix_cons d rest).trans h

/-- What takes a character takes the first one, so the rest of a pattern that fits at some end of a text fits at one
that is shorter by it. -/
theorem exists_suffix_of_cons (hw : w ≠ .anySequence) (h : ∃ rest, rest <:+ c :: cs ∧ Splits (w :: ws) rest) :
    ∃ rest, rest <:+ cs ∧ Splits ws rest := by
  obtain ⟨rest, hrest, fits⟩ := h
  match rest, w with
  | _, .anySequence => exact absurd rfl hw
  | [], w => exact absurd fits (not_splits_nil hw)
  | d :: rest, .anyChar => exact ⟨rest, suffix_of_cons_suffix hrest, splits_anyChar.1 fits⟩
  | d :: rest, .exactly e => exact ⟨rest, suffix_of_cons_suffix hrest, (splits_exactly.1 fits).2⟩

theorem exists_suffix_iff {P : List Char → Prop} :
    (∃ rest, rest <:+ text ∧ P rest) ↔ P text ∨ ∃ rest, rest <:+ text.tail ∧ P rest := by
  cases text with
  | nil => simp [List.suffix_nil]
  | cons c cs =>
    simp only [List.suffix_cons_iff, or_and_right, exists_or, exists_eq_left, List.tail_cons]

namespace Scan

/-- What can still come of a match: the pattern fits from here on, or what follows the last `%` fits further on. -/
def Succeeds (s : Scan) : Prop :=
  Splits s.pattern s.text ∨ ∃ r, s.retry = some r ∧ ∃ rest, rest <:+ r.text.tail ∧ Splits r.pattern rest

/-- **The states that a match comes to**, of a pattern of length `m` and a text of length `n`. -/
structure Valid (m n : Nat) (s : Scan) : Prop where
  pattern : s.pattern.length ≤ m
  text : s.text.length ≤ n
  retried : ∀ r, s.retry = some r → r.pattern.length ≤ m ∧ r.text.length ≤ n ∧ s.text.length ≤ r.text.length
  /-- Wherever the pattern after the last `%` fits, the pattern from here on fits further on.  So nothing is lost when
  the next `%` takes its place. -/
  spares : ∀ r, s.retry = some r → (∃ rest, rest <:+ r.text ∧ Splits r.pattern rest) →
    ∃ rest, rest <:+ s.text ∧ Splits s.pattern rest

/-- A bound on the steps that are left. -/
def budget (m n : Nat) (s : Scan) : Nat :=
  (s.retry.elim n fun r => r.text.length) * (m + 1) + s.pattern.length

/-- What a step comes to, as far as the answer is concerned: it is the right one, or it is not given yet. -/
def Next.Right (m n : Nat) (s : Scan) : Next → Prop
  | .ended answer => answer = true ↔ s.Succeeds
  | .more s' => s'.Valid m n ∧ s'.budget m n < s.budget m n ∧ (s'.Succeeds ↔ s.Succeeds)

variable {m n : Nat} {retry : Option Retry}

/-- Where the pattern does not fit from here on, only the last `%` can help. -/
theorem right_back (h : Valid m n ⟨ws, c :: cs, retry⟩) (misfit : ¬ Splits ws (c :: cs)) :
    (back ⟨ws, c :: cs, retry⟩).Right m n ⟨ws, c :: cs, retry⟩ := by
  cases retry with
  | none => exact iff_of_false Bool.false_ne_true fun hs => hs.elim misfit fun ⟨r, hr, _⟩ => by cases hr
  | some r =>
    obtain ⟨hpattern, htext, hlonger⟩ := h.retried r rfl
    have hnext : r.text.length = r.text.tail.length + 1 := by
      have hpos : (c :: cs).length ≤ r.text.length := hlonger
      rw [List.length_cons] at hpos
      rw [List.length_tail]
      omega
    have hshorter : r.text.tail.length ≤ n := by omega
    refine ⟨⟨hpattern, hshorter, ?_, ?_⟩, ?_, ?_⟩
    · rintro _ ⟨⟩
      exact ⟨hpattern, hshorter, Nat.le_refl _⟩
    · rintro _ ⟨⟩ hfits
      exact hfits
    · change r.text.tail.length * (m + 1) + r.pattern.length < r.text.length * (m + 1) + ws.length
      rw [hnext, Nat.add_mul]
      omega
    · have hhere : Succeeds ⟨ws, c :: cs, some r⟩ ↔ ∃ rest, rest <:+ r.text.tail ∧ Splits r.pattern rest := by
        unfold Succeeds
        simp [misfit]
      rw [hhere, exists_suffix_iff]
      unfold Succeeds
      simp

/-- What takes a character takes the next one. -/
theorem right_take (h : Valid m n ⟨w :: ws, c :: cs, retry⟩) (hw : w ≠ .anySequence)
    (fits : Splits (w :: ws) (c :: cs) ↔ Splits ws cs) :
    (Next.more ⟨ws, cs, retry⟩).Right m n ⟨w :: ws, c :: cs, retry⟩ := by
  have hpattern := h.pattern
  have htext := h.text
  rw [List.length_cons] at hpattern htext
  refine ⟨⟨?_, ?_, ?_, ?_⟩, ?_, ?_⟩
  · exact Nat.le_of_succ_le hpattern
  · exact Nat.le_of_succ_le htext
  · intro r hr
    obtain ⟨hp, ht, hlonger⟩ := h.retried r hr
    exact ⟨hp, ht, Nat.le_of_succ_le hlonger⟩
  · intro r hr hfits
    exact exists_suffix_of_cons hw (h.spares r hr hfits)
  · exact Nat.lt_succ_self _
  · unfold Succeeds
    rw [fits]

/-- A `%` that is passed takes the place of the one before. -/
theorem right_pass (h : Valid m n ⟨.anySequence :: ws, c :: cs, retry⟩) :
    (Next.more ⟨ws, c :: cs, some ⟨ws, c :: cs⟩⟩).Right m n ⟨.anySequence :: ws, c :: cs, retry⟩ := by
  have hpattern := h.pattern
  rw [List.length_cons] at hpattern
  refine ⟨⟨?_, h.text, ?_, ?_⟩, ?_, ?_⟩
  · exact Nat.le_of_succ_le hpattern
  · rintro _ ⟨⟩
    exact ⟨Nat.le_of_succ_le hpattern, h.text, Nat.le_refl _⟩
  · rintro _ ⟨⟩ hfits
    exact hfits
  · have hshorter : (c :: cs).length ≤ retry.elim n fun r => r.text.length := by
      cases retry with
      | none => exact h.text
      | some r => exact (h.retried r rfl).2.2
    exact Nat.add_lt_add_of_le_of_lt (Nat.mul_le_mul_right (m + 1) hshorter) (Nat.lt_succ_self _)
  · have hpass : Succeeds ⟨ws, c :: cs, some ⟨ws, c :: cs⟩⟩ ↔ Splits (.anySequence :: ws) (c :: cs) := by
      rw [splits_anySequence, exists_suffix_iff]
      unfold Succeeds
      simp
    rw [hpass]
    refine ⟨.inl, fun hs => hs.elim id ?_⟩
    rintro ⟨r, hr, rest, hrest, hfits⟩
    -- the earlier `%` is given up: what it could still reach, the later one reaches too
    obtain ⟨rest', hrest', hfits'⟩ := h.spares r hr ⟨rest, hrest.trans (List.tail_suffix _), hfits⟩
    obtain ⟨rest'', hrest'', hfits''⟩ := splits_anySequence.1 hfits'
    exact splits_anySequence.2 ⟨rest'', hrest''.trans hrest', hfits''⟩

/-- **Every step keeps what can still come of the match, and an answer is the right one.** -/
theorem Valid.step {s : Scan} (h : s.Valid m n) : s.step.Right m n s := by
  obtain ⟨ws, text, retry⟩ := s
  match text, ws with
  | [], ws =>
    refine splits_end.symm.trans ⟨.inl, fun hs => hs.elim id ?_⟩
    rintro ⟨r, hr, rest, hrest, hfits⟩
    obtain ⟨rest', hrest', hfits'⟩ := h.spares r hr ⟨rest, hrest.trans (List.tail_suffix _), hfits⟩
    rwa [List.suffix_nil.1 hrest'] at hfits'
  | c :: cs, [] => exact right_back h fun fits => List.cons_ne_nil c cs (splits_nil.1 fits)
  | c :: cs, .anySequence :: ws => exact right_pass h
  | c :: cs, .anyChar :: ws => exact right_take h Wildcard.noConfusion splits_anyChar
  | c :: cs, .exactly e :: ws =>
    simp only [Scan.step]
    by_cases he : e = c
    · rw [if_pos he]
      exact right_take h Wildcard.noConfusion (splits_exactly.trans (and_iff_right he))
    · rw [if_neg he]
      exact right_back h fun fits => he (splits_exactly.1 fits).1

/-- What there is after some steps. -/
def steps : Nat → Scan → Next
  | 0, s => .more s
  | k + 1, s => match s.step with
    | .ended answer => .ended answer
    | .more s' => s'.steps k

/-- **A match ends within its budget, with the right answer.** -/
theorem Valid.run : ∀ (k : Nat) {s : Scan}, s.Valid m n → s.budget m n < k →
    s.steps k = .ended s.run ∧ (s.run = true ↔ s.Succeeds)
  | 0, _, _, hk => absurd hk (Nat.not_lt_zero _)
  | k + 1, s, h, hk => by
    have hstep := h.step
    rw [steps, Scan.run]
    cases heq : s.step with
    | ended answer =>
      rw [heq] at hstep
      exact ⟨rfl, hstep⟩
    | more s' =>
      rw [heq] at hstep
      obtain ⟨hvalid, hless, hsame⟩ := hstep
      obtain ⟨hsteps, hanswer⟩ := hvalid.run k (Nat.lt_of_lt_of_le hless (Nat.le_of_lt_succ hk))
      exact ⟨hsteps, hanswer.trans hsame⟩

theorem valid_start (pattern : List Wildcard) (text : List Char) :
    Valid pattern.length text.length ⟨pattern, text, none⟩ where
  pattern := Nat.le_refl _
  text := Nat.le_refl _
  retried := fun r hr => by cases hr
  spares := fun r hr => by cases hr

end Scan

/-- **Matching is exact**: on any text and any pattern it comes to an end, after no more steps than there are pairs of a
place in the text and a place in the pattern, and answers whether the text can be cut into pieces, one for each part of
the pattern. -/
theorem likeMatches_iff_splits (pattern : List Wildcard) (text : List Char) :
    Scan.steps ((text.length + 1) * (pattern.length + 1)) ⟨pattern, text, none⟩ = .ended (likeMatches pattern text) ∧
      (likeMatches pattern text = true ↔ Splits pattern text) := by
  have hbudget : Scan.budget pattern.length text.length ⟨pattern, text, none⟩ <
      (text.length + 1) * (pattern.length + 1) := by
    rw [Nat.add_mul, Nat.one_mul]
    exact Nat.add_lt_add_left (Nat.lt_succ_self _) _
  obtain ⟨hsteps, hanswer⟩ := (Scan.valid_start pattern text).run _ hbudget
  refine ⟨hsteps, hanswer.trans ⟨fun hs => ?_, .inl⟩⟩
  rcases hs with hs | ⟨r, hr, -⟩
  · exact hs
  · cases hr

end MessageBroker.Selector
