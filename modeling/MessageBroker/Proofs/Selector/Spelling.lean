import Mathlib.Algebra.Group.Nat.Defs
import MessageBroker.Selector.Token
/-!
# How tokens are written

A token has one spelling or several: a keyword stands in any mixture of cases, a number in digits, text in quotes that
are doubled inside it.  Written one after the other, with blanks between them, tokens are read back as they were
(`tokens_of_written`).
-/
namespace MessageBroker

namespace Text

/-- The members of a class that ends. -/
def members : List Nat → List Nat
  | b :: e :: bs => List.range' b (e - b) ++ members bs
  | _ => []

theorem mem_members : {bs : List Nat} → {c : Nat} → bs.length % 2 = 0 → inside bs c = true → c ∈ members bs
  | [], _, _, h => by cases h
  | [_], _, heven, _ => by cases heven
  | b :: e :: bs, c, heven, h => by
    have hb : b ≤ c := Nat.le_of_not_lt fun hlt => by rw [inside_of_lt _ hlt] at h; cases h
    rw [inside_of_le _ hb, Bool.not_eq_true'] at h
    rw [members, List.mem_append]
    by_cases he : e ≤ c
    · rw [inside_of_le _ he, Bool.not_eq_false'] at h
      rw [List.length_cons, List.length_cons] at heven
      exact .inr (mem_members (by omega) h)
    · exact .inl (List.mem_range'_1.2 (by omega))

end Text

namespace Selector

variable {c : Char} {cs : List Char} {a b s : Source}

/-! ## Spellings -/

/-- The same word but for the case of letters. -/
def Caseless (word : String) (cs : List Char) : Prop := cs.map Char.toUpper = word.toList
deriving Decidable

def Keyword.spelling : Keyword → String
  | .null => "NULL" | .and => "AND" | .or => "OR" | .not => "NOT" | .is => "IS" | .within => "IN"
  | .like => "LIKE" | .escape => "ESCAPE" | .between => "BETWEEN"

def spellingOfBool : Bool → String
  | true => "TRUE"
  | false => "FALSE"

def Comparison.spelling : Comparison → List Char
  | .eq => ['='] | .ne => ['<', '>'] | .lt => ['<'] | .le => ['<', '='] | .gt => ['>'] | .ge => ['>', '=']

def reserved : List String := ["NULL", "AND", "OR", "NOT", "IS", "IN", "LIKE", "ESCAPE", "BETWEEN", "TRUE", "FALSE"]

def startsName (c : Char) : Bool := c.isAlpha || c == '_' || c == '$'

def inName (c : Char) : Bool := c.isAlphanum || c == '_' || c == '$' || c == '.'

/-- A word of ASCII letters, digits, `_`, `$` and `.` that starts with none but a letter, `_` or `$`, and is no keyword
in any case. -/
structure IsName (name : String) : Prop where
  starts : ∃ c ∈ name.toList.head?, startsName c = true
  continues : ∀ c ∈ name.toList, inName c = true
  ordinary : ∀ word ∈ reserved, ¬ Caseless word name.toList

/-- Quotes inside a text are doubled. -/
def doubled (cs : List Char) : List Char := cs.flatMap fun c => if c = '\'' then ['\'', '\''] else [c]

/-- **The spellings of a token.** -/
inductive Token.Spelt : Token → List Char → Prop where
  | identifier {name : String} (h : IsName name) : Spelt (.identifier name) name.toList
  | keyword {w : Keyword} {cs : List Char} (h : Caseless w.spelling cs) : Spelt (.keyword w) cs
  | bool {b : Bool} {cs : List Char} (h : Caseless (spellingOfBool b) cs) : Spelt (.literal (.bool b)) cs
  | int {n : Nat} (h : n < 2 ^ 63) : Spelt (.literal (.int (Int64.ofNat n))) (Nat.toDigits 10 n)
  | string (text : String) : Spelt (.literal (.string text)) ('\'' :: (doubled text.toList ++ ['\'']))
  | minus : Spelt .minus ['-']
  | openParen : Spelt .openParen ['(']
  | closeParen : Spelt .closeParen [')']
  | comma : Spelt .comma [',']
  | compare (op : Comparison) : Spelt (.compare op) op.spelling

/-- Tokens with blanks after each of them; only after a minus sign, and at the end, there may be none. -/
inductive Written : List Token → List Char → Prop where
  | nil : Written [] []
  | cons {t : Token} {ts : List Token} {w gap cs : List Char} (spelt : t.Spelt w)
      (blank : ∀ c ∈ gap, Text.isBlank c = true) (apart : gap = [] → ts = [] ∨ t = .minus) (more : Written ts cs) :
      Written (t :: ts) (w ++ (gap ++ cs))

/-! ## The front of a text -/

/-- What no token goes on with. -/
def Stops (s : Source) : Prop := ∀ c ∈ s.head?, Text.isBlank c.2 = true

/-- What no word and no number goes on with. -/
def EndsWord (s : Source) : Prop := ∀ c ∈ s.head?, continuesWord c.2 = false

/-- No blank goes on with a word, a number, a sign or a text. -/
theorem not_goesOn_of_blank (h : Text.isBlank c = true) :
    continuesWord c = false ∧ c.isDigit = false ∧ c ≠ '.' ∧ c ≠ '\'' ∧ c ≠ '=' ∧ c ≠ '>' := by
  have key : ∀ n ∈ Text.members Text.blankBounds, continuesWord (Char.ofNat n) = false ∧
      (Char.ofNat n).isDigit = false ∧ Char.ofNat n ≠ '.' ∧ Char.ofNat n ≠ '\'' ∧ Char.ofNat n ≠ '=' ∧
      Char.ofNat n ≠ '>' := by decide +kernel
  have := key c.toNat (Text.mem_members rfl h)
  rwa [Char.ofNat_toNat] at this

theorem Stops.endsWord (h : Stops s) : EndsWord s := fun c hc => (not_goesOn_of_blank (h c hc)).1

theorem run_append {p : Char → Bool} (ha : ∀ c ∈ a.map Prod.snd, p c = true) (hb : ∀ c ∈ b.head?, p c.2 = false) :
    run p (a ++ b) = (a.map Prod.snd, b) := by
  have ha : ∀ c ∈ a, p c.2 = true := fun c hc => ha _ (List.mem_map_of_mem hc)
  rw [run, List.takeWhile_append_of_pos ha, List.dropWhile_append_of_pos ha]
  cases b with
  | nil => simp
  | cons c b => simp [hb c rfl]

/-- Two quotes are one, and a quote alone is the end. -/
theorem closeString_doubled (ha : a.map Prod.snd = doubled cs ++ ['\'']) (hb : ∀ c ∈ b.head?, c.2 ≠ '\'') :
    closeString (a ++ b) = some (cs, b) := by
  induction cs generalizing a with
  | nil =>
    obtain ⟨⟨offset, c⟩, a, rfl, rfl, hrest⟩ := List.map_eq_cons_iff.1 ha
    obtain rfl := List.map_eq_nil_iff.1 hrest
    obtain _ | ⟨⟨offset', c⟩, b⟩ := b
    · rfl
    · rw [List.singleton_append, closeString]
      rintro _ _ ⟨⟩
      exact hb _ rfl rfl
  | cons c cs ih =>
    rw [doubled, List.flatMap_cons, ← doubled, List.append_assoc] at ha
    split at ha
    · next hc =>
      obtain ⟨⟨offset, _⟩, a, rfl, rfl, hrest⟩ := List.map_eq_cons_iff.1 ha
      obtain ⟨⟨offset', _⟩, a, rfl, rfl, hmore⟩ := List.map_eq_cons_iff.1 hrest
      rw [List.cons_append, List.cons_append, closeString, ih hmore, hc]
      rfl
    · next hc =>
      obtain ⟨⟨offset, _⟩, a, rfl, rfl, hrest⟩ := List.map_eq_cons_iff.1 ha
      rw [List.cons_append, closeString, ih hrest]
      · rfl
      · exact fun _ _ _ h => absurd h hc
      · exact fun h => absurd h hc

/-! ## Each token is read from its spellings -/

theorem ascii_forall {P : Char → Prop} (h : ∀ n < 128, P (Char.ofNat n)) (hc : c.toNat < 128) : P c := by
  have := h c.toNat hc
  rwa [Char.ofNat_toNat] at this

theorem ascii_of_alphanum (h : c.isAlphanum = true) : c.toNat < 128 := by
  change ((decide (c.val ≥ 'A'.val ∧ c.val ≤ 'Z'.val) || (decide (c.val ≥ 'a'.val) && decide (c.val ≤ 'z'.val))) ||
    (decide (c.val ≥ '0'.val) && decide (c.val ≤ '9'.val))) = true at h
  simp only [Bool.or_eq_true, Bool.and_eq_true, decide_eq_true_eq, ge_iff_le, UInt32.le_iff_toNat_le] at h
  change ((65 ≤ c.toNat ∧ c.toNat ≤ 90) ∨ (97 ≤ c.toNat ∧ c.toNat ≤ 122)) ∨ (48 ≤ c.toNat ∧ c.toNat ≤ 57) at h
  omega

theorem ascii_of_inName (h : inName c = true) : c.toNat < 128 := by
  simp only [inName, Bool.or_eq_true, beq_iff_eq] at h
  obtain ((h | rfl) | rfl) | rfl := h
  · exact ascii_of_alphanum h
  all_goals decide

theorem inName_of_alphanum (h : c.isAlphanum = true) : inName c = true := by
  rw [inName, h]
  rfl

/-- What stands in a name goes on with a word. -/
theorem word_of_inName (h : inName c = true) : continuesWord c = true ∧ Text.isBlank c = false :=
  ascii_forall (P := fun c => inName c = true → continuesWord c = true ∧ Text.isBlank c = false)
    (by decide +kernel) (ascii_of_inName h) h

/-- What a name starts with begins a word. -/
theorem word_of_startsName (h : startsName c = true) : inName c = true ∧ beginsWord c = true ∧ c.isDigit = false := by
  have name : inName c = true := by
    simp only [startsName, inName, Char.isAlphanum, Bool.or_eq_true] at h ⊢
    rcases h with (h | h) | h <;> simp [h]
  exact ⟨name, ascii_forall (P := fun c => startsName c = true → beginsWord c = true ∧ c.isDigit = false)
    (by decide +kernel) (ascii_of_inName name) h⟩

theorem lexeme_word (h : beginsWord c = true) (hdigit : c.isDigit = false)
    (ha : ∀ c ∈ a.map Prod.snd, continuesWord c = true) (hb : EndsWord b) :
    lexeme c (a ++ b) = .ok (ofWord (String.ofList (c :: a.map Prod.snd)), b) := by
  have hrun := run_append ha hb
  unfold lexeme
  split
  case h_9 => simp [hdigit, h, hrun]
  all_goals cases h

/-- The digits of a number are read as that number, if it is one of 63 bits. -/
theorem ofNumber_digits (n : Nat) : ofNumber (Nat.toDigits 10 n) =
    if n < 2 ^ 63 then .ok (.literal (.int (Int64.ofNat n))) else .error .integerOutOfRange := by
  have hpoint : (Nat.toDigits 10 n).contains '.' = false := by
    rw [List.contains_eq_mem, decide_eq_false_iff_not]
    intro h
    exact absurd (Nat.isDigit_of_mem_toDigits (by decide) (by decide) h) (by decide)
  have hvalue : Decimal.natOfDigits (Nat.toDigits 10 n) = n := by
    have hdigits : Nat.ofDigitChars 10 (Nat.toDigits 10 n) 0 = n := Nat.ofDigitChars_ten_toDigits
    simpa only [Nat.ofDigitChars_eq_foldl, Nat.mul_comm, Decimal.natOfDigits, Decimal.digitValue] using hdigits
  simp only [ofNumber, hpoint, hvalue]
  rfl

theorem ofNumber_toDigits {n : Nat} (hn : n < 2 ^ 63) :
    ofNumber (Nat.toDigits 10 n) = .ok (.literal (.int (Int64.ofNat n))) := by
  rw [ofNumber_digits, if_pos hn]

/-- What goes on with a number goes on with a word. -/
theorem word_of_number (h : (c.isDigit || c == '.') = true) : continuesWord c = true := by
  rcases Bool.or_eq_true_iff.1 h with h | h
  · have alphanum : c.isAlphanum = true := by rw [Char.isAlphanum, h, Bool.or_true]
    exact (word_of_inName (inName_of_alphanum alphanum)).1
  · obtain rfl := beq_iff_eq.1 h
    decide

theorem lexeme_number (ha : ∀ c' ∈ c :: a.map Prod.snd, c'.isDigit = true) (hb : EndsWord b) :
    lexeme c (a ++ b) = (ofNumber (c :: a.map Prod.snd)).map fun t => (t, b) := by
  have hrun : run (fun c => c.isDigit || c == '.') (a ++ b) = (a.map Prod.snd, b) :=
    run_append (fun c' hc => by rw [ha c' (List.mem_cons_of_mem _ hc), Bool.true_or]) fun p hp =>
      Bool.eq_false_iff.2 fun h => Bool.eq_false_iff.1 (hb p hp) (word_of_number h)
  have hc := ha c List.mem_cons_self
  unfold lexeme
  split
  case h_9 => rw [if_pos hc, hrun]
  all_goals cases hc

/-! ## Keywords and names -/

theorem Caseless.toUpper {word : String} (h : Caseless word cs) : (String.ofList cs).toUpper = word := by
  rw [← String.toList_inj, String.toUpper, String.toList_map, String.toList_ofList]
  exact h

theorem isAlpha_of_toUpper (h : c.toUpper.isUpper = true) : c.isAlpha = true := by
  change (c.isUpper || c.isLower) = true
  by_cases hlower : c.isLower = true
  · rw [hlower, Bool.or_true]
  · rw [← show c.toUpper = c from ?_, h, Bool.true_or]
    refine dif_neg fun h => hlower ?_
    change (decide (c.val ≥ 'a'.val) && decide (c.val ≤ 'z'.val)) = true
    simpa only [Bool.and_eq_true, decide_eq_true_eq] using h

/-- A keyword in any mixture of cases is a word. -/
theorem isAlpha_of_caseless {word : String} (hword : word ∈ reserved) (h : Caseless word cs) :
    ∀ c ∈ cs, c.isAlpha = true := by
  intro c hc
  have hupper : ∀ word ∈ reserved, word.toList.all Char.isUpper = true := by decide
  have hmem : c.toUpper ∈ word.toList := by rw [← h]; exact List.mem_map_of_mem hc
  exact isAlpha_of_toUpper (List.all_eq_true.1 (hupper word hword) c.toUpper hmem)

theorem ofWord_keyword {w : Keyword} (h : Caseless w.spelling cs) : ofWord (String.ofList cs) = .keyword w := by
  rw [ofWord, keyword?, h.toUpper]
  cases w <;> rfl

theorem ofWord_bool {b : Bool} (h : Caseless (spellingOfBool b) cs) :
    ofWord (String.ofList cs) = .literal (.bool b) := by
  rw [ofWord, keyword?, h.toUpper]
  cases b <;> rfl

theorem ofWord_ordinary {name : String} (h : ∀ word ∈ reserved, ¬ Caseless word name.toList) :
    ofWord name = .identifier name := by
  have ordinary : ∀ word ∈ reserved, name.toUpper ≠ word := by
    rintro word hword rfl
    exact h _ hword (by rw [Caseless, String.toUpper, String.toList_map])
  rw [ofWord, keyword?]
  split <;> first | rfl | exact absurd ‹name.toUpper = _› (ordinary _ (by decide))

theorem lexeme_caseless {word : String} (hword : word ∈ reserved) (h : Caseless word (c :: a.map Prod.snd))
    (hb : EndsWord b) : lexeme c (a ++ b) = .ok (ofWord (String.ofList (c :: a.map Prod.snd)), b) := by
  have alpha := isAlpha_of_caseless hword h
  have starts : startsName c = true := by rw [startsName, alpha c List.mem_cons_self]; rfl
  have name : ∀ c' ∈ a.map Prod.snd, inName c' = true := fun c' hc => inName_of_alphanum (by
    rw [Char.isAlphanum, alpha c' (List.mem_cons_of_mem _ hc)]
    rfl)
  obtain ⟨-, hbegins, hdigit⟩ := word_of_startsName starts
  exact lexeme_word hbegins hdigit (fun c' hc => (word_of_inName (name c' hc)).1) hb

/-- No spelling begins with a blank. -/
theorem Token.Spelt.begins {t : Token} {w : List Char} (h : t.Spelt w) :
    ∃ c w', w = c :: w' ∧ Text.isBlank c = false := by
  have front {w : List Char} (hne : w ≠ []) (name : ∀ c ∈ w, inName c = true) :
      ∃ c w', w = c :: w' ∧ Text.isBlank c = false := by
    obtain ⟨c, w', rfl⟩ := List.exists_cons_of_ne_nil hne
    exact ⟨c, w', rfl, (word_of_inName (name c List.mem_cons_self)).2⟩
  have caseless {word : String} (hword : word ∈ reserved) (h : Caseless word w) :
      ∃ c w', w = c :: w' ∧ Text.isBlank c = false := by
    refine front ?_ fun c hc => inName_of_alphanum ?_
    · rintro rfl
      have hne : ∀ word ∈ reserved, word.toList ≠ [] := by decide
      exact hne word hword h.symm
    · rw [Char.isAlphanum, isAlpha_of_caseless hword h c hc]
      rfl
  cases h with
  | identifier h =>
    obtain ⟨c, hc, -⟩ := h.starts
    exact front (List.ne_nil_of_mem (List.mem_of_mem_head? hc)) h.continues
  | @keyword w' cs h => exact caseless (by cases w' <;> decide) h
  | @bool b' cs h => exact caseless (by cases b' <;> decide) h
  | int h =>
    refine front Nat.toDigits_ne_nil fun c hc => inName_of_alphanum ?_
    rw [Char.isAlphanum, Nat.isDigit_of_mem_toDigits (by decide) (by decide) hc, Bool.or_true]
  | compare op => cases op <;> exact ⟨_, _, rfl, rfl⟩
  | string | minus | openParen | closeParen | comma => exact ⟨_, _, rfl, rfl⟩

theorem lexeme_compare {op : Comparison} (h : op.spelling = c :: a.map Prod.snd) (hb : Stops b) :
    lexeme c (a ++ b) = .ok (.compare op, b) := by
  have sign : ∀ p ∈ b.head?, p.2 ≠ '=' ∧ p.2 ≠ '>' := fun p hp => (not_goesOn_of_blank (hb p hp)).2.2.2.2
  cases op with
  | eq =>
    obtain ⟨rfl, ha⟩ := List.cons.inj h
    obtain rfl := List.map_eq_nil_iff.1 ha.symm
    rfl
  | ne | le | ge =>
    obtain ⟨rfl, ha⟩ := List.cons.inj h
    obtain ⟨⟨offset, _⟩, a, rfl, rfl, hrest⟩ := List.map_eq_cons_iff.1 ha.symm
    obtain rfl := List.map_eq_nil_iff.1 hrest
    rfl
  | lt =>
    obtain ⟨rfl, ha⟩ := List.cons.inj h
    obtain rfl := List.map_eq_nil_iff.1 ha.symm
    rw [List.nil_append, lexeme]
    · rintro _ _ rfl
      exact (sign _ rfl).2 rfl
    · rintro _ _ rfl
      exact (sign _ rfl).1 rfl
  | gt =>
    obtain ⟨rfl, ha⟩ := List.cons.inj h
    obtain rfl := List.map_eq_nil_iff.1 ha.symm
    rw [List.nil_append, lexeme]
    rintro _ _ rfl
    exact (sign _ rfl).1 rfl

theorem lexeme_spelt {t : Token} {w : List Char} (h : t.Spelt w) (hw : w = c :: a.map Prod.snd)
    (hb : t ≠ .minus → Stops b) : lexeme c (a ++ b) = .ok (t, b) := by
  cases h with
  | @identifier name h =>
    obtain ⟨c', hc', hstarts⟩ := h.starts
    rw [hw] at hc'
    cases hc'
    obtain ⟨-, hbegins, hdigit⟩ := word_of_startsName hstarts
    have name : ∀ c' ∈ a.map Prod.snd, continuesWord c' = true := fun c' hc =>
      (word_of_inName (h.continues c' (hw ▸ List.mem_cons_of_mem _ hc))).1
    rw [lexeme_word hbegins hdigit name (hb nofun).endsWord, ← hw, String.ofList_toList, ofWord_ordinary h.ordinary]
  | @keyword w cs h =>
    subst hw
    rw [lexeme_caseless (by cases w <;> decide) h (hb nofun).endsWord, ofWord_keyword h]
  | @bool b' cs h =>
    subst hw
    rw [lexeme_caseless (by cases b' <;> decide) h (hb nofun).endsWord, ofWord_bool h]
  | @int n h =>
    have digits : ∀ c' ∈ c :: a.map Prod.snd, c'.isDigit = true := fun c' hc =>
      Nat.isDigit_of_mem_toDigits (by decide) (by decide) (hw ▸ hc)
    rw [lexeme_number digits (hb nofun).endsWord, ← hw, ofNumber_toDigits h]
    rfl
  | string text =>
    obtain ⟨rfl, ha⟩ := List.cons.inj hw
    rw [lexeme, closeString_doubled ha.symm fun p hp => (not_goesOn_of_blank (hb nofun p hp)).2.2.2.1]
    dsimp only
    rw [String.ofList_toList]
  | minus | openParen | closeParen | comma =>
    obtain ⟨rfl, ha⟩ := List.cons.inj hw
    obtain rfl := List.map_eq_nil_iff.1 ha.symm
    rfl
  | compare op => exact lexeme_compare hw (hb nofun)

/-! ## Texts -/

theorem tokensWithin_blank {fuel : Nat} (hb : ∀ p ∈ b, Text.isBlank p.2 = true) :
    tokensWithin (b.length + fuel) (b ++ s) = tokensWithin fuel s := by
  induction b with
  | nil => rw [List.length_nil, Nat.zero_add, List.nil_append]
  | cons p b ih =>
    rw [List.length_cons, Nat.succ_add, List.cons_append, tokensWithin, if_pos (hb p List.mem_cons_self)]
    exact ih fun p hp => hb p (List.mem_cons_of_mem _ hp)

/-- A source that begins with a spelling and blanks, and fuel that is enough for it and for what follows. -/
theorem exists_parts {w gap : List Char} {fuel : Nat} (hs : s.map Prod.snd = c :: w ++ (gap ++ cs))
    (hfuel : (c :: w ++ (gap ++ cs)).length ≤ fuel) :
    ∃ offset a b s' more, s = (offset, c) :: (a ++ (b ++ s')) ∧ a.map Prod.snd = w ∧ b.map Prod.snd = gap ∧
      s'.map Prod.snd = cs ∧ fuel = b.length + more + 1 ∧ cs.length ≤ more := by
  obtain ⟨⟨offset, c⟩, s, rfl, rfl, hrest⟩ := List.map_eq_cons_iff.1 hs
  obtain ⟨a, s, rfl, rfl, hrest'⟩ := List.map_eq_append_iff.1 hrest
  obtain ⟨b, s, rfl, rfl, hmore⟩ := List.map_eq_append_iff.1 hrest'
  simp only [List.cons_append, List.length_cons, List.length_append, List.length_map] at hfuel
  exact ⟨offset, a, b, s, fuel - (b.length + 1), rfl, rfl, rfl, hmore, by omega, by omega⟩

/-- What has been written is read back. -/
theorem tokensWithin_of_written {ts : List Token} (h : Written ts cs) {s : Source} (hs : s.map Prod.snd = cs)
    {fuel : Nat} (hfuel : cs.length ≤ fuel) :
    ∃ located, tokensWithin fuel s = .ok located ∧ located.map Prod.snd = ts := by
  induction h generalizing s fuel with
  | nil =>
    obtain rfl := List.map_eq_nil_iff.1 hs
    cases fuel <;> exact ⟨[], rfl, rfl⟩
  | @cons t ts w gap cs spelt blank apart written ih =>
    obtain ⟨c, w', rfl, hc⟩ := spelt.begins
    obtain ⟨offset, a, b, s, more, rfl, rfl, rfl, hmore, rfl, enough⟩ := exists_parts hs hfuel
    have stops : t ≠ .minus → Stops (b ++ s) := by
      intro hminus p hp
      obtain _ | ⟨p', b⟩ := b
      · obtain rfl := (apart rfl).resolve_right hminus
        cases written
        obtain rfl := List.map_eq_nil_iff.1 hmore
        cases hp
      · cases hp
        exact blank _ List.mem_cons_self
    have hb : ∀ p ∈ b, Text.isBlank p.2 = true := fun p hp => blank _ (List.mem_map_of_mem hp)
    obtain ⟨located, hlocated, hts⟩ := ih hmore enough
    refine ⟨(offset, t) :: located, ?_, congrArg (List.cons t) hts⟩
    rw [tokensWithin, if_neg (by simp [hc]), lexeme_spelt spelt rfl stops]
    simp only [tokensWithin_blank hb, hlocated]
    rfl

theorem map_snd_locate : ∀ (cs : List Char) (offset : Nat), (locate offset cs).map Prod.snd = cs
  | [], _ => rfl
  | c :: cs, offset => congrArg (List.cons c) (map_snd_locate cs (offset + c.utf8Size))

/-- Blanks at the front of a text are nothing. -/
theorem tokens_eq {text : String} {lead : List Char} (blank : ∀ c ∈ lead, Text.isBlank c = true)
    (htext : text.toList = lead ++ cs) : ∃ s, s.map Prod.snd = cs ∧ tokens text = tokensWithin cs.length s := by
  obtain ⟨b, s, hs, hb, hcs⟩ := List.map_eq_append_iff.1 ((map_snd_locate text.toList 0).trans htext)
  have hlen : text.toList.length = b.length + cs.length := by rw [htext, ← hb, List.length_append, List.length_map]
  refine ⟨s, hcs, ?_⟩
  rw [tokens, hlen, hs, tokensWithin_blank fun p hp => blank _ (hb ▸ List.mem_map_of_mem hp)]

/-- **Tokens that have been written, with any blanks before them, are read back.** -/
theorem tokens_of_written {ts : List Token} {text : String} {lead : List Char} (h : Written ts cs)
    (blank : ∀ c ∈ lead, Text.isBlank c = true) (htext : text.toList = lead ++ cs) :
    ∃ located, tokens text = .ok located ∧ located.map Prod.snd = ts := by
  obtain ⟨s, hs, heq⟩ := tokens_eq blank htext
  rw [heq]
  exact tokensWithin_of_written h hs (Nat.le_refl _)

end Selector
end MessageBroker
