import MessageBroker.Selector
/-!
# Bindings

A binding forwards from an exchange to a destination under a key.  Its arguments may hold a
selector, which filters by headers, and a routing key to forward with in place of the one that
arrived.
-/
namespace MessageBroker

abbrev DestinationId := Nat

/-- Named texts, sorted by name, each name once. -/
structure BindingArguments where
  entries : List (String × String)
deriving DecidableEq, Repr

namespace BindingArguments

def empty : BindingArguments := ⟨[]⟩

/-- Puts an entry in its place; an entry of the same name is replaced. -/
def insertSorted (name value : String) : List (String × String) → List (String × String)
  | [] => [(name, value)]
  | (n, v) :: es =>
    if name < n then (name, value) :: (n, v) :: es
    else if name = n then (name, value) :: es
    else (n, v) :: insertSorted name value es

def insert (a : BindingArguments) (name value : String) : BindingArguments :=
  ⟨insertSorted name value a.entries⟩

def ofList (entries : List (String × String)) : BindingArguments :=
  entries.foldl (fun a (n, v) => a.insert n v) empty

def get? (a : BindingArguments) (name : String) : Option String := a.entries.lookup name

theorem get?_insert_self (a : BindingArguments) (name value : String) :
    (a.insert name value).get? name = some value := by
  unfold insert get?
  generalize a.entries = es
  induction es with
  | nil => simp [insertSorted]
  | cons e es ih =>
    obtain ⟨n, v⟩ := e
    unfold insertSorted
    split
    · simp
    · split
      · simp
      · next h => simp [List.lookup_cons, beq_eq_false_iff_ne.2 h, ih]

theorem get?_insert_of_ne (a : BindingArguments) {name other : String} (h : other ≠ name)
    (value : String) : (a.insert name value).get? other = a.get? other := by
  unfold insert get?
  generalize a.entries = es
  induction es with
  | nil => simp [insertSorted, List.lookup_cons, beq_eq_false_iff_ne.2 h]
  | cons e es ih =>
    obtain ⟨n, v⟩ := e
    unfold insertSorted
    split
    · simp [List.lookup_cons, beq_eq_false_iff_ne.2 h]
    · split
      · next hn => subst hn; simp [List.lookup_cons, beq_eq_false_iff_ne.2 h]
      · simp [List.lookup_cons, ih]

def isEmpty (a : BindingArguments) : Bool := a.entries.isEmpty

def selectorName : String := "x-filter-jms-selector"

def replacementName : String := "x-replacement-routing-key"

/-- The text of the selector; a blank one filters nothing. -/
def selectorText (a : BindingArguments) : Option String :=
  (a.get? selectorName).filter fun s => !Text.isAllBlank s

def replacementKey (a : BindingArguments) : Option String := a.get? replacementName

/-- The selector that the arguments hold, if their text is one. -/
def selector (a : BindingArguments) : Except Selector.Error (Option Selector) :=
  match a.selectorText with
  | none => .ok none
  | some text => (Selector.parse text).map some

end BindingArguments

structure Binding where
  key : String
  destination : DestinationId
  arguments : BindingArguments
  selector : Option Selector
deriving Repr

/-- Without a selector everything passes. -/
def Binding.accepts (b : Binding) (headers : Headers) : Bool :=
  match b.selector with
  | none => true
  | some s => s.selects headers

end MessageBroker
