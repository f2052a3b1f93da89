import MessageBroker.Proofs.Selector.Rendering
import MessageBroker.Proofs.Selector.Shorthands
/-!
# Questions about integers

A selector may ask whether a header is a certain integer, one of several, or one within bounds.  It is written with
the header's name, keywords in any case, decimal numbers and signs, and with blanks between them, which may be left out
where they keep no two words apart.  Such a text is read as what it asks, and selects the headers that answer to it, for
all integers of 64 bits but the least one (`selects_integers`): the digits of that one are read before its sign is, and
are too great for an integer without it.
-/
namespace MessageBroker.Selector

variable {name : String} {c : Char} {a b s : Source} {cs w : List Char}

/-! ## Questions and how they are written -/

/-- A question about the integer under a header's name. -/
inductive Question where
  | equals (n : Int64)
  | within (n : Int64) (ns : List Int64)
  | between (low high : Int64)

inductive Sign where
  | equals | minus | openParen | closeParen | comma

def Sign.char : Sign → Char
  | .equals => '=' | .minus => '-' | .openParen => '(' | .closeParen => ')' | .comma => ','

/-- What a question is written with. -/
inductive Piece where
  | header (name : String)
  | word (w : Keyword)
  | digits (n : Nat)
  | sign (s : Sign)

/-- A word that may stand for a header: it is no keyword in any case. -/
structure IsWord (name : String) : Prop where
  begins : ∃ c ∈ name.toList.head?, beginsWord c = true
  continues : ∀ c ∈ name.toList, continuesWord c = true
  ordinary : ∀ word ∈ reserved, ¬ Caseless word name.toList

/-- The spellings of a piece. -/
inductive Piece.Spelt : Piece → List Char → Prop where
  | header {name : String} (h : IsWord name) : Spelt (.header name) name.toList
  | word {w : Keyword} {cs : List Char} (h : Caseless w.spelling cs) : Spelt (.word w) cs
  | digits (n : Nat) : Spelt (.digits n) (Nat.toDigits 10 n)
  | sign (s : Sign) : Spelt (.sign s) [s.char]

/-- The one does not end, or the other not begin, as words and numbers do. -/
def Apart (w cs : List Char) : Prop :=
  ∀ c ∈ w.getLast?, ∀ c' ∈ cs.head?, continuesWord c = true → continuesWord c' = false

/-- Pieces with any blanks after each of them, and with some where they would be one word without. -/
inductive Spaced : List Piece → List Char → Prop where
  | nil : Spaced [] []
  | cons {p : Piece} {ps : List Piece} {w gap cs : List Char} (spelt : p.Spelt w)
      (blank : ∀ c ∈ gap, Text.isBlank c = true) (apart : Apart w (gap ++ cs)) (more : Spaced ps cs) :
      Spaced (p :: ps) (w ++ (gap ++ cs))

/-- A number in decimal digits, with a minus sign if it is negative. -/
def decimal (n : Int64) : List Piece :=
  if n < 0 then [.sign .minus, .digits n.toInt.natAbs] else [.digits n.toInt.natAbs]

namespace Question

def integers : Question → List Int64
  | equals n => [n]
  | within n ns => n :: ns
  | between low high => [low, high]

/-- What is asked of an integer. -/
def Holds (n : Int64) : Question → Prop
  | equals m => n = m
  | within m ms => n ∈ m :: ms
  | between low high => low ≤ n ∧ n ≤ high

def pieces (name : String) : Question → List Piece
  | equals n => .header name :: .sign .equals :: decimal n
  | within n ns => .header name :: .word .within :: .sign .openParen ::
    (decimal n ++ (ns.flatMap (fun m => .sign .comma :: decimal m) ++ [.sign .closeParen]))
  | between low high => .header name :: .word .between :: (decimal low ++ .word .and :: decimal high)

/-- **A text that asks a question about a header.** -/
def WrittenAs (q : Question) (name text : String) : Prop :=
  ∃ lead cs, (∀ c ∈ lead, Text.isBlank c = true) ∧ Spaced (q.pieces name) cs ∧ text.toList = lead ++ cs

end Question

/-! ## What a piece is read as -/

def Sign.token : Sign → Token
  | .equals => .compare .eq
  | .minus => .minus
  | .openParen => .openParen
  | .closeParen => .closeParen
  | .comma => .comma

/-- The token that a piece is read as, or what is wrong with it. -/
def Piece.outcome : Piece → Except Fault Token
  | .header name => .ok (.identifier name)
  | .word w => .ok (.keyword w)
  | .digits n => if n < 2 ^ 63 then .ok (.literal (.int (Int64.ofNat n))) else .error .integerOutOfRange
  | .sign s => .ok s.token

theorem continuesWord_of_beginsWord (h : beginsWord c = true) : continuesWord c = true := by
  simp only [beginsWord, Bool.or_eq_true] at h
  rcases h with (h | h) | h <;> simp [continuesWord, h]

theorem continuesWord_of_isDigit (h : c.isDigit = true) : continuesWord c = true :=
  word_of_number (by rw [h, Bool.true_or])

/-- No number begins a word. -/
theorem isDigit_of_beginsWord (h : beginsWord c = true) : c.isDigit = false := by
  refine Bool.eq_false_iff.2 fun hdigit => ?_
  have ascii := ascii_of_alphanum (c := c) (by rw [Char.isAlphanum, hdigit, Bool.or_true])
  have key := ascii_forall (P := fun c => c.isDigit = true → beginsWord c = false) (by decide +kernel) ascii hdigit
  rw [h] at key
  cases key

theorem not_blank_of_continuesWord (h : continuesWord c = true) : Text.isBlank c = false :=
  Bool.eq_false_iff.2 fun hblank => Bool.eq_false_iff.1 (not_goesOn_of_blank hblank).1 h

/-- What stands apart from a word does not go on with it. -/
theorem Apart.endsWord (h : Apart (c :: cs) (b.map Prod.snd)) (hw : ∀ c' ∈ c :: cs, continuesWord c' = true) :
    EndsWord b := by
  intro p hp
  refine h ((c :: cs).getLast (List.cons_ne_nil c cs)) (List.getLast?_eq_some_getLast _) p.2 ?_
    (hw _ (List.getLast_mem _))
  rw [List.head?_map, hp]
  rfl

theorem Piece.Spelt.begins {p : Piece} (h : p.Spelt w) : ∃ c w', w = c :: w' ∧ Text.isBlank c = false := by
  cases h with
  | header h =>
    obtain ⟨c, hc, hbegins⟩ := h.begins
    obtain ⟨w', hw'⟩ := List.head?_eq_some_iff.1 hc
    exact ⟨c, w', hw', not_blank_of_continuesWord (continuesWord_of_beginsWord hbegins)⟩
  | word h => exact Token.Spelt.begins (.keyword h)
  | digits n =>
    obtain ⟨c, w', hw'⟩ := List.exists_cons_of_ne_nil (Nat.toDigits_ne_nil (b := 10) (n := n))
    have hdigit : c.isDigit = true :=
      Nat.isDigit_of_mem_toDigits (b := 10) (n := n) (by decide) (by decide) (hw' ▸ List.mem_cons_self)
    exact ⟨c, w', hw', not_blank_of_continuesWord (continuesWord_of_isDigit hdigit)⟩
  | sign s => exact ⟨s.char, [], rfl, by cases s <;> decide⟩

/-- **Each piece is read as what it is.** -/
theorem lexeme_piece {p : Piece} (h : p.Spelt w) (hw : w = c :: a.map Prod.snd) (apart : Apart w (b.map Prod.snd)) :
    lexeme c (a ++ b) = p.outcome.map fun t => (t, b) := by
  cases h with
  | @header name h =>
    have continues : ∀ c' ∈ c :: a.map Prod.snd, continuesWord c' = true := hw ▸ h.continues
    obtain ⟨c', hc', hbegins⟩ := h.begins
    rw [hw] at hc' apart
    cases hc'
    have ends := apart.endsWord continues
    have word := lexeme_word hbegins (isDigit_of_beginsWord hbegins)
      (fun c' hc => continues c' (List.mem_cons_of_mem _ hc)) ends
    rw [word, ← hw, String.ofList_toList, ofWord_ordinary h.ordinary]
    rfl
  | @word kw _ h =>
    subst hw
    have hreserved : kw.spelling ∈ reserved := by cases kw <;> decide
    have alpha := isAlpha_of_caseless hreserved h
    have continues : ∀ c' ∈ c :: a.map Prod.snd, continuesWord c' = true := fun c' hc =>
      (word_of_inName (inName_of_alphanum (by rw [Char.isAlphanum, alpha c' hc, Bool.true_or]))).1
    rw [lexeme_caseless hreserved h (apart.endsWord continues), ofWord_keyword h]
    rfl
  | digits n =>
    have digits : ∀ c' ∈ c :: a.map Prod.snd, c'.isDigit = true := fun c' hc =>
      Nat.isDigit_of_mem_toDigits (by decide) (by decide) (hw ▸ hc)
    rw [hw] at apart
    have ends := apart.endsWord fun c' hc => continuesWord_of_isDigit (digits c' hc)
    rw [lexeme_number digits ends, ← hw, ofNumber_digits]
    rfl
  | sign s =>
    obtain ⟨rfl, ha⟩ := List.cons.inj hw
    obtain rfl := List.map_eq_nil_iff.1 ha.symm
    cases s <;> rfl

/-! ## What a text is read as -/

/-- The tokens of some pieces, or the first fault. -/
def inOrder (ps : List Piece) : Except Fault (List Token) := ps.mapM Piece.outcome

theorem tokensWithin_of_spaced {ps : List Piece} (h : Spaced ps cs) (hs : s.map Prod.snd = cs) {fuel : Nat}
    (hfuel : cs.length ≤ fuel) :
    ((tokensWithin fuel s).mapError Error.fault).map (·.map Prod.snd) = inOrder ps := by
  induction h generalizing s fuel with
  | nil =>
    obtain rfl := List.map_eq_nil_iff.1 hs
    cases fuel <;> rfl
  | @cons p ps w gap cs spelt blank apart spaced ih =>
    obtain ⟨c, w', rfl, hc⟩ := spelt.begins
    obtain ⟨offset, a, b, s, more, rfl, rfl, rfl, hmore, rfl, enough⟩ := exists_parts hs hfuel
    have hb : ∀ p ∈ b, Text.isBlank p.2 = true := fun p hp => blank _ (List.mem_map_of_mem hp)
    have hlexeme : lexeme c (a ++ (b ++ s)) = p.outcome.map fun t => (t, b ++ s) :=
      lexeme_piece spelt rfl (by rwa [List.map_append, hmore])
    rw [tokensWithin, if_neg (by simp [hc]), hlexeme, inOrder, List.mapM_cons, ← inOrder, ← ih hmore enough]
    cases p.outcome with
    | error fault => rfl
    | ok t =>
      simp only [Except.map, tokensWithin_blank hb]
      cases tokensWithin more s <;> rfl

theorem tokens_of_spaced {ps : List Piece} {text : String} {lead : List Char} (h : Spaced ps cs)
    (blank : ∀ c ∈ lead, Text.isBlank c = true) (htext : text.toList = lead ++ cs) :
    ((tokens text).mapError Error.fault).map (·.map Prod.snd) = inOrder ps := by
  obtain ⟨s, hs, heq⟩ := tokens_eq blank htext
  rw [heq]
  exact tokensWithin_of_spaced h hs (Nat.le_refl _)

theorem parse_of_tokens {text : String} {e : Expr} {w : List Token} (h : e.Rendered w)
    (hread : ((tokens text).mapError Error.fault).map (·.map Prod.snd) = .ok w) : parse text = .ok ⟨text, e⟩ := by
  cases hlocated : tokens text with
  | error fault => rw [hlocated] at hread; cases hread
  | ok located =>
    rw [hlocated] at hread
    have htokens : located.map Prod.snd = w := Except.ok.inj hread
    obtain ⟨d, rfl, hd⟩ := h.derived.whole
    rw [parse, hlocated, ok_bind, ofTokens_of_derivation (hd.trans htokens.symm)]
    rfl

theorem parse_of_fault {text : String} {fault : Fault}
    (hread : ((tokens text).mapError Error.fault).map (·.map Prod.snd) = .error fault) :
    ∃ offset, parse text = .error ⟨offset, fault⟩ := by
  cases htokens : tokens text with
  | ok located => rw [htokens] at hread; cases hread
  | error e =>
    rw [htokens] at hread
    have hfault : e.fault = fault := Except.error.inj hread
    exact ⟨e.offset, by rw [parse, htokens, ← hfault]; rfl⟩

/-! ## The integers that can be read -/

theorem inOrder_cons {p : Piece} {ps : List Piece} {t : Token} {ts : List Token} (hp : p.outcome = .ok t)
    (hps : inOrder ps = .ok ts) : inOrder (p :: ps) = .ok (t :: ts) := by
  rw [inOrder, List.mapM_cons, ← inOrder, hp, hps]
  rfl

theorem inOrder_append {ps ps' : List Piece} {ts ts' : List Token} (h : inOrder ps = .ok ts)
    (h' : inOrder ps' = .ok ts') : inOrder (ps ++ ps') = .ok (ts ++ ts') := by
  rw [inOrder, List.mapM_append, ← inOrder, ← inOrder, h, h']
  rfl

/-- An integer is too great or it is read. -/
theorem Piece.outcome_eq (p : Piece) : (∃ t, p.outcome = .ok t) ∨ p.outcome = .error .integerOutOfRange := by
  cases p with
  | header | word | sign => exact .inl ⟨_, rfl⟩
  | digits n =>
    by_cases hn : n < 2 ^ 63
    · exact .inl ⟨_, if_pos hn⟩
    · exact .inr (if_neg hn)

theorem inOrder_error {p : Piece} {ps : List Piece} (h : p ∈ ps) (hp : p.outcome = .error .integerOutOfRange) :
    inOrder ps = .error .integerOutOfRange := by
  induction ps with
  | nil => cases h
  | cons p' ps ih =>
    rw [inOrder, List.mapM_cons, ← inOrder]
    obtain ⟨t, ht⟩ | ht := p'.outcome_eq
    · obtain rfl | h := List.mem_cons.1 h
      · rw [ht] at hp
        cases hp
      · rw [ht, ih h]
        rfl
    · rw [ht]
      rfl

/-- All integers but the least one have an opposite. -/
theorem natAbs_toInt_lt {n : Int64} (hn : n ≠ Int64.minValue) : n.toInt.natAbs < 2 ^ 63 := by
  have hne : n.toInt ≠ -2 ^ 63 := fun h => hn (Int64.toInt_inj.1 h)
  have hlow := n.le_toInt
  have hhigh := n.toInt_lt
  omega

theorem ofNat_natAbs {n : Int64} (hn : n ≠ Int64.minValue) : Int64.ofNat n.toInt.natAbs = if n < 0 then -n else n := by
  have hsmall := natAbs_toInt_lt hn
  refine Int64.toInt_inj.1 ((Int64.toInt_ofNat_of_lt hsmall).trans ?_)
  split
  · next hneg =>
    have hneg : n.toInt < 0 := Int64.lt_iff_toInt_lt.1 hneg
    rw [Int64.toInt_neg, Int.bmod_eq_of_le (by omega) (by omega)]
    omega
  · next hneg =>
    have hneg : 0 ≤ n.toInt := Int64.le_iff_toInt_le.1 (Int64.not_lt.1 hneg)
    omega

theorem inOrder_decimal {n : Int64} (hn : n ≠ Int64.minValue) :
    inOrder (decimal n) = .ok (literalTokens (.int n)) := by
  have digits : (Piece.digits n.toInt.natAbs).outcome = .ok (.literal (.int (if n < 0 then -n else n))) := by
    rw [Piece.outcome, if_pos (natAbs_toInt_lt hn), ofNat_natAbs hn]
  rw [decimal, literalTokens]
  split at digits <;> rename_i hneg
  · rw [if_pos hneg, if_pos hneg]
    exact inOrder_cons rfl (inOrder_cons digits rfl)
  · rw [if_neg hneg, if_neg hneg]
    exact inOrder_cons digits rfl

/-- The digits of the least integer are those of a number too great. -/
theorem digits_mem_decimal : .digits (2 ^ 63) ∈ decimal Int64.minValue := by
  have hpieces : decimal Int64.minValue = [.sign .minus, .digits (2 ^ 63)] := rfl
  rw [hpieces]
  exact List.mem_cons_of_mem _ List.mem_cons_self

theorem inOrder_decimals {ns : List Int64} (h : Int64.minValue ∉ ns) :
    inOrder (ns.flatMap fun n => .sign .comma :: decimal n) =
      .ok ((ns.map HeaderValue.int).flatMap fun v => .comma :: literalTokens v) := by
  induction ns with
  | nil => rfl
  | cons n ns ih =>
    obtain ⟨hn, hns⟩ := not_or.1 (mt List.mem_cons.2 h)
    exact inOrder_append (inOrder_cons rfl (inOrder_decimal (Ne.symm hn))) (ih hns)

/-! ## What a question is read as, and what it selects -/

namespace Question

def expression (name : String) : Question → Expr
  | equals n => .compare (.identifier name) .eq (.literal (.int n))
  | within n ns => .within (.identifier name) ((n :: ns).map .int) false
  | between low high => .between (.identifier name) (.literal (.int low)) (.literal (.int high)) false

theorem inOrder_pieces (q : Question) (name : String) (h : Int64.minValue ∉ q.integers) :
    ∃ w, (q.expression name).Rendered w ∧ inOrder (q.pieces name) = .ok w := by
  cases q with
  | equals n =>
    have hn := Ne.symm (List.ne_of_not_mem_cons h)
    exact ⟨_, .compare .eq (.identifier name) (.literal (.int n)),
      inOrder_cons rfl (inOrder_cons rfl (inOrder_decimal hn))⟩
  | within n ns =>
    obtain ⟨hn, hns⟩ := not_or.1 (mt List.mem_cons.2 h)
    exact ⟨_, .within false (.int n) (ns.map .int) (.identifier name),
      inOrder_cons rfl (inOrder_cons rfl (inOrder_cons rfl
        (inOrder_append (inOrder_decimal (Ne.symm hn)) (inOrder_append (inOrder_decimals hns) rfl))))⟩
  | between low high =>
    obtain ⟨hlow, hhigh⟩ := not_or.1 (mt List.mem_cons.2 h)
    exact ⟨_, .between false (.identifier name) (.literal (.int low)) (.literal (.int high)),
      inOrder_cons rfl (inOrder_cons rfl (inOrder_append (inOrder_decimal (Ne.symm hlow))
        (inOrder_cons rfl (inOrder_decimal (Ne.symm (List.ne_of_not_mem_cons hhigh))))))⟩

/-- A question is written with the decimals of its integers. -/
theorem mem_pieces {q : Question} {n : Int64} {p : Piece} (h : n ∈ q.integers) (hp : p ∈ decimal n) :
    p ∈ q.pieces name := by
  cases q with
  | equals m =>
    obtain rfl := List.mem_singleton.1 h
    simp [pieces, hp]
  | within m ms =>
    obtain rfl | hms := List.mem_cons.1 h
    · simp [pieces, hp]
    · have hlist : p ∈ ms.flatMap fun m => .sign .comma :: decimal m :=
        List.mem_flatMap.2 ⟨n, hms, List.mem_cons_of_mem _ hp⟩
      simp only [pieces, List.mem_cons, List.mem_append, hlist, true_or, or_true]
  | between low high =>
    obtain rfl | hhigh := List.mem_cons.1 h
    · simp [pieces, hp]
    · obtain rfl := List.mem_singleton.1 hhigh
      simp [pieces, hp]

theorem inOrder_pieces_of_mem {q : Question} (h : Int64.minValue ∈ q.integers) :
    inOrder (q.pieces name) = .error .integerOutOfRange :=
  inOrder_error (mem_pieces h digits_mem_decimal) rfl

end Question

theorem holds_eq {n m : Int64} : Comparison.eq.holds (compare n.toInt m.toInt) = true ↔ n = m := by
  rw [Comparison.holds, beq_iff_eq, compare_eq_iff_eq, Int64.toInt_inj]

theorem holds_ge {n m : Int64} : Comparison.ge.holds (compare n.toInt m.toInt) = true ↔ m ≤ n := by
  rw [Comparison.holds, bne_iff_ne, compare_ge_iff_ge, Int64.le_iff_toInt_le]

theorem holds_le {n m : Int64} : Comparison.le.holds (compare n.toInt m.toInt) = true ↔ n ≤ m := by
  rw [Comparison.holds, bne_iff_ne, compare_le_iff_le, Int64.le_iff_toInt_le]

/-- Where there are no floats, only integers compare with an integer. -/
theorem compare?_int {op : Comparison} {v : Option HeaderValue} {m : Int64} (noFloat : ∀ x, v ≠ some (.float x)) :
    compare? op v (some (.int m)) = some true ↔
      ∃ n, v = some (.int n) ∧ op.holds (compare n.toInt m.toInt) = true := by
  match v with
  | none | some (.bool _) | some (.string _) => exact ⟨nofun, nofun⟩
  | some (.float x) => exact absurd rfl (noFloat x)
  | some (.int n) =>
    change some (op.holds (compare n.toInt m.toInt)) = some true ↔ _
    rw [Option.some_inj]
    constructor
    · exact fun h => ⟨n, rfl, h⟩
    · rintro ⟨_, ⟨⟩, h⟩
      exact h

theorem both_eq_true : ∀ a b : Option Bool, both a b = some true ↔ a = some true ∧ b = some true := by decide

namespace Question

theorem selects_expression (q : Question) {headers : Headers} (noFloat : ∀ x, headers.get? name ≠ some (.float x)) :
    (q.expression name).selects headers = true ↔ ∃ n, headers.get? name = some (.int n) ∧ q.Holds n := by
  rw [Expr.selects_iff]
  cases q with
  | equals m =>
    have answer : ((equals m).expression name).evaluate headers =
        (compare? .eq (headers.get? name) (some (.int m))).map .bool := rfl
    rw [answer, Option.map_eq_some_iff]
    simp only [HeaderValue.bool.injEq, exists_eq_right, compare?_int noFloat, holds_eq, Holds]
  | within m ms =>
    have answer : ((within m ms).expression name).evaluate headers = some (.bool true) ↔
        ∃ n ∈ m :: ms, compare? .eq (headers.get? name) (some (.int n)) = some true := by
      rw [expression, Expr.evaluate_within, Expr.evaluate, Expr.matches?, List.map_map, List.any_map]
      cases hv : headers.get? name with
      | none =>
        constructor
        · intro h
          cases h
        · rintro ⟨_, _, h⟩
          cases h
      | some v => simp [Expr.evaluate, hv]
    rw [answer]
    simp only [compare?_int noFloat, holds_eq]
    constructor
    · rintro ⟨_, hn, n, h, rfl⟩
      exact ⟨n, h, hn⟩
    · rintro ⟨n, h, hn⟩
      exact ⟨n, hn, n, h, rfl⟩
  | between low high =>
    have answer : ((between low high).expression name).evaluate headers =
        (both (compare? .ge (headers.get? name) (some (.int low)))
          (compare? .le (headers.get? name) (some (.int high)))).map .bool := by
      rw [expression, Expr.evaluate_between]
      simp only [Bool.bne_false, Option.map_id']
      rfl
    rw [answer, Option.map_eq_some_iff]
    simp only [HeaderValue.bool.injEq, exists_eq_right, both_eq_true, compare?_int noFloat, holds_ge, holds_le]
    constructor
    · rintro ⟨⟨n, h, hlow⟩, n', h', hhigh⟩
      cases h.symm.trans h'
      exact ⟨n, h, hlow, hhigh⟩
    · rintro ⟨n, h, hlow, hhigh⟩
      exact ⟨⟨n, h, hlow⟩, n, h, hhigh⟩

end Question

/-! ## Every question can be written -/

theorem Spaced.exists_of_spelt {ps : List Piece} (h : ∀ p ∈ ps, ∃ w, p.Spelt w) : ∃ cs, Spaced ps cs := by
  induction ps with
  | nil => exact ⟨[], .nil⟩
  | cons p ps ih =>
    obtain ⟨⟨w, hw⟩, hps⟩ := List.forall_mem_cons.1 h
    obtain ⟨cs, hcs⟩ := ih hps
    have blank : ∀ c ∈ [' '], Text.isBlank c = true := List.all_eq_true.1 (by decide)
    have apart : Apart w ([' '] ++ cs) := by
      rintro c _ _ ⟨⟩ _
      decide
    exact ⟨_, .cons hw blank apart hcs⟩

theorem spelt_of_mem_decimal {n : Int64} {p : Piece} (h : p ∈ decimal n) : ∃ w, p.Spelt w := by
  rw [decimal] at h
  split at h
  · obtain rfl | h := List.mem_cons.1 h
    · exact ⟨_, .sign .minus⟩
    · obtain rfl := List.mem_singleton.1 h
      exact ⟨_, .digits _⟩
  · obtain rfl := List.mem_singleton.1 h
    exact ⟨_, .digits _⟩

theorem Question.spelt_of_mem_pieces (hname : IsWord name) (q : Question) : ∀ p ∈ q.pieces name, ∃ w, p.Spelt w := by
  have header : ∃ w, (Piece.header name).Spelt w := ⟨_, .header hname⟩
  have keyword (w : Keyword) : ∃ cs, (Piece.word w).Spelt cs := ⟨w.spelling.toList, .word (by cases w <;> decide)⟩
  have sign (s : Sign) : ∃ cs, (Piece.sign s).Spelt cs := ⟨_, .sign s⟩
  have decimals (n : Int64) : ∀ p ∈ decimal n, ∃ w, p.Spelt w := fun _ => spelt_of_mem_decimal
  cases q with
  | equals n =>
    simp only [pieces, List.forall_mem_cons]
    exact ⟨header, sign _, decimals n⟩
  | within n ns =>
    have further : ∀ p ∈ ns.flatMap fun m => .sign .comma :: decimal m, ∃ w, p.Spelt w := by
      intro p hp
      obtain ⟨m, -, hm⟩ := List.mem_flatMap.1 hp
      obtain rfl | hm := List.mem_cons.1 hm
      · exact sign .comma
      · exact decimals m p hm
    simp only [pieces, List.forall_mem_cons, List.forall_mem_append]
    exact ⟨header, keyword _, sign _, decimals n, further, sign _, nofun⟩
  | between low high =>
    simp only [pieces, List.forall_mem_cons, List.forall_mem_append]
    exact ⟨header, keyword _, decimals low, keyword _, decimals high⟩

/-- No word goes on with a sign. -/
theorem Sign.not_continuesWord (s : Sign) : continuesWord s.char = false := by
  cases s <;> decide +kernel

/-- There need be no blanks. -/
theorem Spaced.close {p : Piece} {ps : List Piece} (spelt : p.Spelt w) (apart : Apart w cs) (more : Spaced ps cs) :
    Spaced (p :: ps) (w ++ cs) :=
  @Spaced.cons p ps w [] cs spelt nofun apart more

theorem Spaced.sign {ps : List Piece} (s : Sign) (more : Spaced ps cs) : Spaced (.sign s :: ps) (s.char :: cs) := by
  refine .close (.sign s) ?_ more
  rintro _ ⟨⟩ _ _ h
  cases s.not_continuesWord.symm.trans h

theorem spaced_decimal (n : Int64) : Spaced (decimal n) (toString n.toInt).toList := by
  have digits (k : Nat) : Spaced [.digits k] (Nat.toDigits 10 k) := by
    have hclose := Spaced.close (.digits k) (fun _ _ _ h => absurd h (Option.not_mem_none _)) .nil
    rwa [List.append_nil] at hclose
  rw [decimal]
  split
  · next hneg =>
    obtain ⟨k, hk⟩ := Int.eq_negSucc_of_lt_zero (Int64.lt_iff_toInt_lt.1 hneg)
    rw [hk]
    have htext : (toString (Int.negSucc k)).toList = '-' :: Nat.toDigits 10 (k + 1) := by
      change ("-" ++ Nat.repr (k + 1)).toList = _
      rw [String.toList_append, Nat.toList_repr]
      rfl
    rw [htext]
    exact .sign .minus (digits (k + 1))
  · next hneg =>
    obtain ⟨k, hk⟩ := Int.eq_ofNat_of_zero_le (Int64.le_iff_toInt_le.1 (Int64.not_lt.1 hneg))
    rw [hk]
    change Spaced _ (Nat.repr k).toList
    rw [Nat.toList_repr]
    exact digits k

/-- The header's name, a sign and a decimal make a text as they are. -/
theorem Question.written_equals (hname : IsWord name) (n : Int64) :
    (Question.equals n).WrittenAs name (name ++ "=" ++ toString n.toInt) := by
  have apart : Apart name.toList ('=' :: (toString n.toInt).toList) := by
    rintro _ _ _ ⟨⟩ _
    exact Sign.equals.not_continuesWord
  refine ⟨[], _, nofun, .close (.header hname) apart (.sign .equals (spaced_decimal n)), ?_⟩
  rw [String.toList_append, String.toList_append, List.append_assoc]
  rfl

theorem Question.exists_written (hname : IsWord name) (q : Question) : ∃ text, q.WrittenAs name text := by
  obtain ⟨cs, hcs⟩ := Spaced.exists_of_spelt (q.spelt_of_mem_pieces hname)
  exact ⟨String.ofList cs, [], cs, nofun, hcs, String.toList_ofList⟩

/-- **Every integer but the least one can be asked for.**  A question about a header, in any spelling, is read as a
selector that selects just those headers, among such as have no float there, whose integer answers to it.  With the
least integer of 64 bits in it, it is no selector: the digits are out of range before the sign is looked at. -/
theorem selects_integers (hname : IsWord name) :
    (∀ n : Int64, (Question.equals n).WrittenAs name (name ++ "=" ++ toString n.toInt)) ∧
      ∀ q : Question, (∃ text, q.WrittenAs name text) ∧ ∀ text, q.WrittenAs name text →
        (Int64.minValue ∉ q.integers → ∃ s, parse text = .ok s ∧
          ∀ headers : Headers, (∀ x, headers.get? name ≠ some (.float x)) →
            (s.selects headers = true ↔ ∃ n, headers.get? name = some (.int n) ∧ q.Holds n)) ∧
        (Int64.minValue ∈ q.integers → ∃ offset, parse text = .error ⟨offset, .integerOutOfRange⟩) := by
  refine ⟨Question.written_equals hname, fun q => ⟨q.exists_written hname, ?_⟩⟩
  rintro text ⟨lead, cs, blank, hcs, htext⟩
  have hread := tokens_of_spaced hcs blank htext
  constructor
  · intro h
    obtain ⟨w, hw, hpieces⟩ := q.inOrder_pieces name h
    exact ⟨⟨text, q.expression name⟩, parse_of_tokens hw (hread.trans hpieces), fun _ => q.selects_expression⟩
  · exact fun h => parse_of_fault (hread.trans (Question.inOrder_pieces_of_mem h))

/-- A word outside ASCII, and the least integer that is read. -/
theorem selects_integers_lowest :
    IsWord "größe" ∧ Int64.minValue ∉ (Question.equals (-9223372036854775807)).integers ∧
      ∃ s, parse "größe=-9223372036854775807" = .ok s ∧
        s.selects [("größe", .int (-9223372036854775807))] = true := by
  have hname : IsWord "größe" :=
    ⟨⟨'g', rfl, by decide +kernel⟩, List.all_eq_true.1 (by decide +kernel), by decide +kernel⟩
  have hread : Int64.minValue ∉ (Question.equals (-9223372036854775807)).integers := by decide
  obtain ⟨written, whatever⟩ := selects_integers hname
  obtain ⟨s, hs, hselects⟩ := ((whatever _).2 _ (written (-9223372036854775807))).1 hread
  exact ⟨hname, hread, s, hs, (hselects [("größe", .int (-9223372036854775807))] nofun).2 ⟨_, rfl, rfl⟩⟩

/-- Not every integer of 64 bits can be asked for. -/
theorem selects_integers_least :
    ¬ ∀ name, IsWord name → ∀ (n : Int64) (headers : Headers), (∀ x, headers.get? name ≠ some (.float x)) →
      ∃ s, parse (name ++ "=" ++ toString n.toInt) = .ok s ∧
        (s.selects headers = true ↔ headers.get? name = some (.int n)) := by
  intro h
  have hname : IsWord "h" := ⟨⟨'h', rfl, rfl⟩, List.all_eq_true.1 (by decide), by decide +kernel⟩
  obtain ⟨s, hs, -⟩ := h "h" hname Int64.minValue [] nofun
  have hnone : (parse "h=-9223372036854775808").toOption.isNone = true := by decide +kernel
  have htext : "h" ++ "=" ++ toString Int64.minValue.toInt = "h=-9223372036854775808" := by decide +kernel
  rw [← htext, hs] at hnone
  cases hnone

end MessageBroker.Selector
