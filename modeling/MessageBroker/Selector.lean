import MessageBroker.Selector.Grammar
/-!
# Selectors

A selector is a text and the expression that it was read as.  It matches the headers under which
the expression is true.
-/
namespace MessageBroker

structure Selector where
  source : String
  expression : Selector.Expr
deriving Repr

namespace Selector

def parse (text : String) : Except Error Selector := do
  let ts ← tokens text
  let expression ← ofTokens text.utf8ByteSize ts
  pure ⟨text, expression⟩

def selects (s : Selector) (headers : Headers) : Bool := s.expression.selects headers

end Selector
end MessageBroker
