/-!
# Wildcard patterns

In a pattern `%` stands for any text and `_` for any one character; a character after the escape
character stands for itself.  Matching goes along pattern and text and lets each `%` take as little
as it can.  Where the text does not go on as the pattern does, the last `%` that was passed takes
one character more; those before it are never tried again, so the work is bounded by text length
times pattern length.
-/
namespace MessageBroker.Selector

inductive Wildcard where
  | anySequence
  | anyChar
  | exactly (c : Char)
deriving DecidableEq, Repr

/-- An escape character at the end of the pattern stands for nothing. -/
def compileLike (escape : Option Char) : List Char → List Wildcard
  | [] => []
  | c :: cs =>
    if some c = escape then
      match cs with
      | [] => []
      | e :: cs => .exactly e :: compileLike escape cs
    else
      let w := match c with
        | '%' => .anySequence
        | '_' => .anyChar
        | c => .exactly c
      w :: compileLike escape cs

/-- A `%` that was passed: the pattern after it, and the text at which that was last tried. -/
structure Retry where
  pattern : List Wildcard
  text : List Char

/-- How far matching has come: the pattern and the text from here on, and the last `%` passed. -/
structure Scan where
  pattern : List Wildcard
  text : List Char
  retry : Option Retry

namespace Scan

/-- What a step comes to: an answer, or more to do. -/
inductive Next where
  | ended (answer : Bool)
  | more (s : Scan)

/-- The last `%` that was passed takes one character more. -/
def back (s : Scan) : Next :=
  match s.retry with
  | none => .ended false
  | some r => .more ⟨r.pattern, r.text.tail, some ⟨r.pattern, r.text.tail⟩⟩

def step (s : Scan) : Next :=
  match s.text, s.pattern with
  | [], ws => .ended (ws.all (· == .anySequence))
  | c :: cs, .anySequence :: ws => .more ⟨ws, c :: cs, some ⟨ws, c :: cs⟩⟩
  | _ :: cs, .anyChar :: ws => .more ⟨ws, cs, s.retry⟩
  | c :: cs, .exactly e :: ws => if e = c then .more ⟨ws, cs, s.retry⟩ else s.back
  | _ :: _, [] => s.back

/-- What is left to try: first the pattern after the last `%`, then the text that it was tried at,
then the text from here on. -/
def left (s : Scan) : Nat × Nat × Nat :=
  match s.retry with
  | none => (s.pattern.length, 0, s.text.length)
  | some r => (max s.pattern.length r.pattern.length, r.text.length, s.text.length)

theorem lex_of_le {a b c a' b' c' : Nat} (h : a' < a ∨ a' ≤ a ∧ (b' < b ∨ b' ≤ b ∧ c' < c)) :
    Prod.Lex (· < ·) (Prod.Lex (· < ·) (· < ·)) (a', b', c') (a, b, c) := by
  rcases h with h | ⟨ha, h | ⟨hb, hc⟩⟩
  · exact .left _ _ h
  · exact .right' _ ha (.left _ _ h)
  · exact .right' _ ha (.right' _ hb hc)

variable {s s' : Scan}

theorem left_of_back (h : s.back = .more s') (more : s.text ≠ []) :
    Prod.Lex (· < ·) (Prod.Lex (· < ·) (· < ·)) s'.left s.left := by
  obtain ⟨ws, text, retry⟩ := s
  cases retry with
  | none => cases h
  | some r =>
    cases h
    have htext : 0 < text.length := List.length_pos_iff.2 more
    have htail : r.text.tail.length = r.text.length - 1 := List.length_tail
    refine lex_of_le (.inr ⟨?_, ?_⟩)
    · exact Nat.max_le.2 ⟨Nat.le_max_right .., Nat.le_max_right ..⟩
    · change r.text.tail.length < r.text.length ∨
        r.text.tail.length ≤ r.text.length ∧ r.text.tail.length < text.length
      omega

/-- Every step leaves less to try. -/
theorem left_of_step (h : s.step = .more s') :
    Prod.Lex (· < ·) (Prod.Lex (· < ·) (· < ·)) s'.left s.left := by
  obtain ⟨ws, text, retry⟩ := s
  match text, ws with
  | [], ws => cases h
  | c :: cs, [] => exact left_of_back h (List.cons_ne_nil c cs)
  | c :: cs, .anySequence :: ws =>
    cases h
    cases retry <;> exact lex_of_le (by simp only [List.length_cons]; omega)
  | c :: cs, .anyChar :: ws =>
    cases h
    cases retry <;> exact lex_of_le (by simp only [List.length_cons]; omega)
  | c :: cs, .exactly e :: ws =>
    simp only [step] at h
    split at h
    · cases h
      cases retry <;> exact lex_of_le (by simp only [List.length_cons]; omega)
    · exact left_of_back h (List.cons_ne_nil c cs)

def run (s : Scan) : Bool :=
  match _ : s.step with
  | .ended answer => answer
  | .more s' => s'.run
termination_by s.left
decreasing_by exact left_of_step ‹_›

end Scan

def likeMatches (pattern : List Wildcard) (text : List Char) : Bool :=
  Scan.run ⟨pattern, text, none⟩

end MessageBroker.Selector
