import MessageBroker.Proofs.Selector.Parsing
import MessageBroker.Proofs.Selector.Spelling
import MessageBroker.Selector
/-!
# Parsing undoes rendering

An expression is rendered with parentheses around its compound operands, a negative number as a minus sign and digits,
and a pattern with an escape character before whatever would be read as something else.  Whatever the spellings of the
tokens and the blanks between them, the text is parsed as the expression that was rendered (`parse_rendered`).
-/
namespace MessageBroker.Selector

variable {e : Expr} {v : HeaderValue} {w : List Token} {escape : Option Char} {ws : List Wildcard}

/-! ## Patterns -/

/-- What a wildcard is written as. -/
def Wildcard.written (escape : Option Char) : Wildcard → List Char
  | .anySequence => ['%']
  | .anyChar => ['_']
  | .exactly c => if c = '%' ∨ c = '_' ∨ some c = escape then escape.toList ++ [c] else [c]

def patternText (escape : Option Char) (ws : List Wildcard) : List Char := ws.flatMap (Wildcard.written escape)

/-- An escape character is the sign of no wildcard of the pattern; without one, no such sign stands for itself. -/
def Escapes : Option Char → List Wildcard → Prop
  | some c, ws => (c = '%' → .anySequence ∉ ws) ∧ (c = '_' → .anyChar ∉ ws)
  | none, ws => .exactly '%' ∉ ws ∧ .exactly '_' ∉ ws

theorem escapes_cons {x : Wildcard} : Escapes escape (x :: ws) ↔ Escapes escape [x] ∧ Escapes escape ws := by
  cases escape <;> simp only [Escapes, List.mem_cons, List.not_mem_nil, or_false] <;> grind

/-- Whatever text is read, what is read is what its escape character allows to write. -/
theorem escapes_compileLike (escape : Option Char) (cs : List Char) : Escapes escape (compileLike escape cs) := by
  fun_induction compileLike escape cs with
  | case1 => cases escape <;> simp [Escapes]
  | case2 => cases escape <;> simp [Escapes]
  | case3 e he c cs ih =>
    subst he
    exact escapes_cons.2 ⟨by simp [Escapes], ih⟩
  | case4 c cs hc w ih =>
    refine escapes_cons.2 ⟨?_, ih⟩
    cases escape <;> dsimp only [w] <;> split <;> simp_all [Escapes, eq_comm]

theorem compileLike_sign {x : Wildcard} {c : Char}
    (hx : (match c with | '%' => .anySequence | '_' => .anyChar | c => .exactly c) = x) (hc : some c ≠ escape)
    (cs : List Char) :
    compileLike escape (c :: cs) = x :: compileLike escape cs := by
  rw [compileLike.eq_def]
  dsimp only
  rw [if_neg hc]
  exact congrArg (· :: compileLike escape cs) hx

theorem compileLike_written {x : Wildcard} (h : Escapes escape [x]) (cs : List Char) :
    compileLike escape (x.written escape ++ cs) = x :: compileLike escape cs := by
  cases x with
  | anySequence =>
    refine compileLike_sign rfl ?_ cs
    rintro rfl
    exact h.1 rfl List.mem_cons_self
  | anyChar =>
    refine compileLike_sign rfl ?_ cs
    rintro rfl
    exact h.2 rfl List.mem_cons_self
  | exactly c =>
    rw [Wildcard.written]
    split
    · next hc =>
      cases escape with
      | none =>
        obtain rfl | rfl | hc := hc
        · exact absurd List.mem_cons_self h.1
        · exact absurd List.mem_cons_self h.2
        · cases hc
      | some e =>
        rw [compileLike.eq_def]
        exact if_pos rfl
    · next hc =>
      obtain ⟨hsequence, hc⟩ := not_or.1 hc
      obtain ⟨hchar, hescape⟩ := not_or.1 hc
      refine compileLike_sign ?_ hescape cs
      split
      · exact absurd rfl hsequence
      · exact absurd rfl hchar
      · rfl

theorem compileLike_patternText : compileLike escape (patternText escape ws) = ws ↔ Escapes escape ws := by
  constructor
  · intro h
    rw [← h]
    exact escapes_compileLike escape _
  · intro h
    induction ws with
    | nil => rw [patternText, List.flatMap_nil, compileLike]
    | cons x ws ih =>
      obtain ⟨hx, hws⟩ := escapes_cons.1 h
      rw [patternText, List.flatMap_cons, ← patternText, compileLike_written hx, ih hws]

/-! ## Expressions -/

/-- No float, and no integer without an opposite. -/
def PlainValue : HeaderValue → Prop
  | .int n => n.toInt.natAbs < 2 ^ 63
  | .float _ => False
  | _ => True

def literalTokens : HeaderValue → List Token
  | .int n => if n < 0 then [.minus, .literal (.int (-n))] else [.literal (.int n)]
  | v => [.literal v]

namespace Expr

/-- The trees that can be rendered. -/
def Plain : Expr → Prop
  | literal v => PlainValue v
  | null => True
  | identifier name => IsName name
  | compare l _ r | and l r | or l r => l.Plain ∧ r.Plain
  | not e | isNull e _ | like e _ _ => e.Plain
  | within e vs _ => e.Plain ∧ vs ≠ [] ∧ ∀ v ∈ vs, PlainValue v
  | between e low high _ => e.Plain ∧ low.Plain ∧ high.Plain

def isCompound : Expr → Bool
  | literal _ | null | identifier _ => false
  | _ => true

/-- The tokens of an operand, in parentheses if it is compound. -/
def enclose (e : Expr) (w : List Token) : List Token := if e.isCompound then .openParen :: (w ++ [.closeParen]) else w

/-- **The tokens that an expression is rendered as.** -/
inductive Rendered : Expr → List Token → Prop where
  | literal (v : HeaderValue) : Rendered (.literal v) (literalTokens v)
  | null : Rendered .null [.keyword .null]
  | identifier (name : String) : Rendered (.identifier name) [.identifier name]
  | compare {l r : Expr} {wl wr : List Token} (op : Comparison) (hl : Rendered l wl) (hr : Rendered r wr) :
      Rendered (.compare l op r) (l.enclose wl ++ .compare op :: r.enclose wr)
  | and {l r : Expr} {wl wr : List Token} (hl : Rendered l wl) (hr : Rendered r wr) :
      Rendered (.and l r) (l.enclose wl ++ .keyword .and :: r.enclose wr)
  | or {l r : Expr} {wl wr : List Token} (hl : Rendered l wl) (hr : Rendered r wr) :
      Rendered (.or l r) (l.enclose wl ++ .keyword .or :: r.enclose wr)
  | not {e : Expr} {w : List Token} (h : Rendered e w) : Rendered (.not e) (.keyword .not :: e.enclose w)
  | isNull {e : Expr} {w : List Token} (negated : Bool) (h : Rendered e w) :
      Rendered (.isNull e negated) (e.enclose w ++ .keyword .is :: (optional .not negated ++ [.keyword .null]))
  | within {e : Expr} {w : List Token} (negated : Bool) (v : HeaderValue) (vs : List HeaderValue) (h : Rendered e w) :
      Rendered (.within e (v :: vs) negated) (e.enclose w ++ (optional .not negated ++ .keyword .within :: .openParen ::
        (literalTokens v ++ (vs.flatMap (fun v => .comma :: literalTokens v) ++ [.closeParen]))))
  | like {e : Expr} {w : List Token} {escape : Option Char} {ws : List Wildcard} (negated : Bool) (h : Rendered e w)
      (escapes : Escapes escape ws) :
      Rendered (.like e ws negated) (e.enclose w ++ (optional .not negated ++ .keyword .like ::
        .literal (.string (String.ofList (patternText escape ws))) :: escapeClause escape))
  | between {e low high : Expr} {w wl wh : List Token} (negated : Bool) (h : Rendered e w) (hl : Rendered low wl)
      (hh : Rendered high wh) : Rendered (.between e low high negated) (e.enclose w ++ (optional .not negated ++
        .keyword .between :: (low.enclose wl ++ .keyword .and :: high.enclose wh)))

/-- **A text that an expression is rendered as**: its tokens, each in one of its spellings, with blanks around them. -/
def RenderedAs (e : Expr) (text : String) : Prop :=
  ∃ w lead cs, e.Rendered w ∧ (∀ c ∈ lead, Text.isBlank c = true) ∧ Written w cs ∧ text.toList = lead ++ cs

/-! ## What is rendered is derived -/

theorem exists_literal (v : HeaderValue) : ∃ l : Derivation .literal, l.meaning = v ∧ l.tokens = literalTokens v := by
  cases v with
  | int n =>
    by_cases hn : n < 0
    · exact ⟨.minusLiteral (.int (-n)), congrArg HeaderValue.int Int64.neg_neg, by rw [literalTokens, if_pos hn]; rfl⟩
    · exact ⟨.literal (.int n), rfl, by rw [literalTokens, if_neg hn]; rfl⟩
  | bool b => exact ⟨.literal (.bool b), rfl, rfl⟩
  | float x => exact ⟨.literal (.float x), rfl, rfl⟩
  | string s => exact ⟨.literal (.string s), rfl, rfl⟩

theorem exists_literals (vs : List HeaderValue) : ∃ more : Derivation (.further .comma),
    more.meaning = vs ∧ more.tokens = vs.flatMap fun v => .comma :: literalTokens v := by
  induction vs with
  | nil => exact ⟨.done, rfl, rfl⟩
  | cons v vs ih =>
    obtain ⟨l, rfl, hl⟩ := exists_literal v
    obtain ⟨more, rfl, hmore⟩ := ih
    exact ⟨.next l more, rfl, by rw [List.flatMap_cons, ← hmore, ← hl]; rfl⟩

/-- An expression and its tokens, which are derived as a whole and, in parentheses if need be, as an operand. -/
structure Derived (e : Expr) (w : List Token) : Prop where
  whole : ∃ d : Derivation .disjunction, d.meaning = e ∧ d.tokens = w
  operand : ∃ d : Derivation .operand, d.meaning = e ∧ d.tokens = e.enclose w

theorem derived_of_operand (simple : e.isCompound = false) (d : Derivation .operand) (hmeaning : d.meaning = e)
    (htokens : d.tokens = w) : Derived e w where
  whole := ⟨.disjunction (.conjunction (.predicate (.operand d)) .done) .done, hmeaning, by
    rw [← htokens]
    exact (List.append_nil _).trans (List.append_nil _)⟩
  operand := ⟨d, hmeaning, by rw [enclose, simple]; exact htokens⟩

theorem derived_of_whole (compound : e.isCompound = true) (d : Derivation .disjunction) (hmeaning : d.meaning = e)
    (htokens : d.tokens = w) : Derived e w where
  whole := ⟨d, hmeaning, htokens⟩
  operand := ⟨.nested d, hmeaning, by rw [enclose, if_pos compound, ← htokens]; rfl⟩

theorem derived_of_predicate (compound : e.isCompound = true) (d : Derivation .predicate) (hmeaning : d.meaning = e)
    (htokens : d.tokens = w) : Derived e w :=
  derived_of_whole compound (.disjunction (.conjunction (.predicate d) .done) .done) hmeaning (by
    rw [← htokens]
    exact (List.append_nil _).trans (List.append_nil _))

theorem Rendered.derived (h : e.Rendered w) : Derived e w := by
  induction h with
  | literal v =>
    obtain ⟨l, rfl, hl⟩ := exists_literal v
    obtain ⟨d, hmeaning, htokens⟩ := l.operand_of_literal
    exact derived_of_operand rfl d hmeaning (htokens.trans hl)
  | null => exact derived_of_operand rfl .null rfl rfl
  | identifier name => exact derived_of_operand rfl (.identifier name) rfl rfl
  | compare op _ _ ihl ihr =>
    obtain ⟨dl, rfl, hl⟩ := ihl.operand
    obtain ⟨dr, rfl, hr⟩ := ihr.operand
    exact derived_of_predicate rfl (.compare dl op dr) rfl (by rw [← hl, ← hr]; rfl)
  | and _ _ ihl ihr =>
    obtain ⟨dl, rfl, hl⟩ := ihl.operand
    obtain ⟨dr, rfl, hr⟩ := ihr.operand
    let more : Derivation (.further .and) := @Derivation.next .and (.predicate (.operand dr)) .done
    exact derived_of_whole rfl (.disjunction (.conjunction (.predicate (.operand dl)) more) .done) rfl
      (by rw [← hl, ← hr]; simp [more, Derivation.tokens, Joint.token])
  | or _ _ ihl ihr =>
    obtain ⟨dl, rfl, hl⟩ := ihl.operand
    obtain ⟨dr, rfl, hr⟩ := ihr.operand
    let more : Derivation (.further .or) := @Derivation.next .or (.conjunction (.predicate (.operand dr)) .done) .done
    exact derived_of_whole rfl (.disjunction (.conjunction (.predicate (.operand dl)) .done) more) rfl
      (by rw [← hl, ← hr]; simp [more, Derivation.tokens, Joint.token])
  | not _ ih =>
    obtain ⟨d, rfl, hd⟩ := ih.operand
    exact derived_of_whole rfl (.disjunction (.conjunction (.not (.predicate (.operand d))) .done) .done)
      rfl (by rw [← hd]; simp [Derivation.tokens])
  | isNull negated _ ih =>
    obtain ⟨d, rfl, hd⟩ := ih.operand
    exact derived_of_predicate rfl (.isNull d negated) rfl (by rw [← hd]; rfl)
  | within negated v vs _ ih =>
    obtain ⟨d, rfl, hd⟩ := ih.operand
    obtain ⟨l, rfl, hl⟩ := exists_literal v
    obtain ⟨more, rfl, hmore⟩ := exists_literals vs
    exact derived_of_predicate rfl (.within d negated l more) rfl (by rw [← hd, ← hl, ← hmore]; rfl)
  | @like e w escape ws negated _ escapes ih =>
    obtain ⟨d, rfl, hd⟩ := ih.operand
    let text := String.ofList (patternText escape ws)
    refine derived_of_predicate rfl (.like d negated text escape) ?_ (by rw [← hd]; rfl)
    rw [Derivation.meaning, String.toList_ofList, compileLike_patternText.2 escapes]
  | between negated _ _ _ ih ihl ihh =>
    obtain ⟨d, rfl, hd⟩ := ih.operand
    obtain ⟨dl, rfl, hl⟩ := ihl.operand
    obtain ⟨dh, rfl, hh⟩ := ihh.operand
    exact derived_of_predicate rfl (.between d negated dl dh) rfl (by rw [← hd, ← hl, ← hh]; rfl)

/-! ## Every plain tree has a rendering -/

/-- Tokens that all have a spelling. -/
def Spellable (w : List Token) : Prop := ∀ t ∈ w, ∃ cs, t.Spelt cs

@[simp] theorem spellable_nil : Spellable [] := nofun

@[simp] theorem spellable_cons {t : Token} : Spellable (t :: w) ↔ (∃ cs, t.Spelt cs) ∧ Spellable w :=
  List.forall_mem_cons

@[simp] theorem spellable_append {w' : List Token} : Spellable (w ++ w') ↔ Spellable w ∧ Spellable w' :=
  List.forall_mem_append

@[simp] theorem spelt_keyword (w : Keyword) : ∃ cs, Token.Spelt (.keyword w) cs :=
  ⟨w.spelling.toList, .keyword (by cases w <;> decide)⟩

@[simp] theorem spelt_string (s : String) : ∃ cs, Token.Spelt (.literal (.string s)) cs := ⟨_, .string s⟩

@[simp] theorem spelt_compare (op : Comparison) : ∃ cs, Token.Spelt (.compare op) cs := ⟨_, .compare op⟩

@[simp] theorem spelt_openParen : ∃ cs, Token.Spelt .openParen cs := ⟨_, .openParen⟩

@[simp] theorem spelt_closeParen : ∃ cs, Token.Spelt .closeParen cs := ⟨_, .closeParen⟩

@[simp] theorem spelt_comma : ∃ cs, Token.Spelt .comma cs := ⟨_, .comma⟩

theorem spelt_int {n : Int64} (hn : 0 ≤ n) : ∃ cs, Token.Spelt (.literal (.int n)) cs := by
  rw [← Int64.ofNat_toNatClampNeg n hn]
  exact ⟨_, .int n.toNatClampNeg_lt⟩

@[simp] theorem spellable_optional (w : Keyword) (present : Bool) : Spellable (optional w present) := by
  cases present <;> simp [optional]

@[simp] theorem spellable_escapeClause (escape : Option Char) : Spellable (escapeClause escape) := by
  cases escape <;> simp [escapeClause]

@[simp] theorem spellable_enclose (h : Spellable w) : Spellable (e.enclose w) := by
  rw [enclose]
  split <;> simp [h]

theorem spellable_literal (plain : PlainValue v) : Spellable (literalTokens v) := by
  cases v with
  | int n =>
    rw [literalTokens]
    split
    · next hn =>
      have hnegative : n.toInt < 0 := Int64.lt_iff_toInt_lt.1 hn
      have hsmall : n.toInt.natAbs < 2 ^ 63 := plain
      have hopposite : 0 ≤ -n := by
        rw [Int64.le_iff_toInt_le, Int64.toInt_neg, Int.bmod_eq_of_le (by omega) (by omega)]
        exact Int.neg_nonneg.2 (Int.le_of_lt hnegative)
      exact spellable_cons.2 ⟨⟨_, .minus⟩, spellable_cons.2 ⟨spelt_int hopposite, spellable_nil⟩⟩
    · next hn => exact spellable_cons.2 ⟨spelt_int (Int64.not_lt.1 hn), spellable_nil⟩
  | bool b => exact spellable_cons.2 ⟨⟨(spellingOfBool b).toList, .bool (by cases b <;> decide)⟩, spellable_nil⟩
  | float x => cases plain
  | string s => simp [literalTokens]

theorem spellable_literals {vs : List HeaderValue} (plain : ∀ v ∈ vs, PlainValue v) :
    Spellable (vs.flatMap fun v => .comma :: literalTokens v) := by
  induction vs with
  | nil => exact spellable_nil
  | cons v vs ih =>
    obtain ⟨hv, hvs⟩ := List.forall_mem_cons.1 plain
    simp [spellable_literal hv, ih hvs]

theorem Plain.rendered (plain : e.Plain) : ∃ w, e.Rendered w ∧ Spellable w := by
  induction e with
  | literal v => exact ⟨_, .literal v, spellable_literal plain⟩
  | null => exact ⟨_, .null, by simp⟩
  | identifier name => exact ⟨_, .identifier name, spellable_cons.2 ⟨⟨_, .identifier plain⟩, spellable_nil⟩⟩
  | compare l op r ihl ihr =>
    obtain ⟨wl, hl, sl⟩ := ihl plain.1
    obtain ⟨wr, hr, sr⟩ := ihr plain.2
    exact ⟨_, .compare op hl hr, by simp [sl, sr]⟩
  | and l r ihl ihr =>
    obtain ⟨wl, hl, sl⟩ := ihl plain.1
    obtain ⟨wr, hr, sr⟩ := ihr plain.2
    exact ⟨_, .and hl hr, by simp [sl, sr]⟩
  | or l r ihl ihr =>
    obtain ⟨wl, hl, sl⟩ := ihl plain.1
    obtain ⟨wr, hr, sr⟩ := ihr plain.2
    exact ⟨_, .or hl hr, by simp [sl, sr]⟩
  | not e ih =>
    obtain ⟨w, h, sw⟩ := ih plain
    exact ⟨_, .not h, by simp [sw]⟩
  | isNull e negated ih =>
    obtain ⟨w, h, sw⟩ := ih plain
    exact ⟨_, .isNull negated h, by simp [sw]⟩
  | within e vs negated ih =>
    obtain ⟨he, hne, hvs⟩ := plain
    obtain ⟨w, h, sw⟩ := ih he
    obtain ⟨v, vs, rfl⟩ := List.exists_cons_of_ne_nil hne
    obtain ⟨hv, hvs⟩ := List.forall_mem_cons.1 hvs
    exact ⟨_, .within negated v vs h, by simp [sw, spellable_literal hv, spellable_literals hvs]⟩
  | like e ws negated ih =>
    obtain ⟨w, h, sw⟩ := ih plain
    have escapes : Escapes (some '\\') ws := ⟨nofun, nofun⟩
    exact ⟨_, .like negated h escapes, by simp [sw]⟩
  | between e low high negated ih ihl ihh =>
    obtain ⟨he, hlow, hhigh⟩ := plain
    obtain ⟨w, h, sw⟩ := ih he
    obtain ⟨wl, hl, sl⟩ := ihl hlow
    obtain ⟨wh, hh, sh⟩ := ihh hhigh
    exact ⟨_, .between negated h hl hh, by simp [sw, sl, sh]⟩

theorem Spellable.written (h : Spellable w) : ∃ cs, Written w cs := by
  induction w with
  | nil => exact ⟨[], .nil⟩
  | cons t w ih =>
    obtain ⟨⟨cs, hcs⟩, hw⟩ := spellable_cons.1 h
    obtain ⟨more, hmore⟩ := ih hw
    have blank : ∀ c ∈ [' '], Text.isBlank c = true := List.all_eq_true.1 (by decide)
    exact ⟨_, .cons hcs blank nofun hmore⟩

end Expr

/-- **Parsing undoes rendering.**  Every plain tree can be rendered, and each text that it is rendered as is parsed as
the tree. -/
theorem parse_rendered (e : Expr) (plain : e.Plain) :
    (∃ text, e.RenderedAs text) ∧ ∀ text, e.RenderedAs text → parse text = .ok ⟨text, e⟩ := by
  constructor
  · obtain ⟨w, hw, spelt⟩ := plain.rendered
    obtain ⟨cs, hcs⟩ := spelt.written
    exact ⟨String.ofList cs, w, [], cs, hw, nofun, hcs, String.toList_ofList⟩
  · rintro text ⟨w, lead, cs, hw, blank, hcs, htext⟩
    obtain ⟨located, hlocated, htokens⟩ := tokens_of_written hcs blank htext
    obtain ⟨d, rfl, hd⟩ := hw.derived.whole
    rw [parse, hlocated, ok_bind, ofTokens_of_derivation (hd.trans htokens.symm)]
    rfl

/-- A pattern with a percent sign of its own, quotes, and a negative number under `NOT`. -/
def discounted : Expr :=
  .and (.like (.identifier "$note") [.exactly '%', .anySequence, .exactly '\'', .exactly '\\'] false)
    (.not (.within (.identifier "price") [.int (-5), .string "it's", .bool true] true))

theorem parse_discounted :
    discounted.Plain ∧ ∃ text, discounted.RenderedAs text ∧ parse text = .ok ⟨text, discounted⟩ := by
  have note : IsName "$note" := ⟨⟨'$', rfl, rfl⟩, List.all_eq_true.1 (by decide), by decide +kernel⟩
  have price : IsName "price" := ⟨⟨'p', rfl, rfl⟩, List.all_eq_true.1 (by decide), by decide +kernel⟩
  have small : (-5 : Int64).toInt.natAbs < 2 ^ 63 := by decide
  have values : ∀ v ∈ [HeaderValue.int (-5), .string "it's", .bool true], PlainValue v :=
    List.forall_mem_cons.2 ⟨small, List.forall_mem_cons.2 ⟨trivial, List.forall_mem_cons.2 ⟨trivial, nofun⟩⟩⟩
  have plain : discounted.Plain := ⟨note, price, nofun, values⟩
  obtain ⟨⟨text, htext⟩, hparse⟩ := parse_rendered discounted plain
  exact ⟨plain, text, htext, hparse text htext⟩

end MessageBroker.Selector
