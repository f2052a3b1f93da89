import MessageBroker.Text.Hex
import MessageBroker.Text.Printable
/-!
# Quoted text

A text in double quotes, for a reader of diagnostics: quotes, backslashes and the common controls
have short escapes, and what cannot be shown on its own is given by its code point.
-/
namespace MessageBroker.Text

def escape (c : Char) : String :=
  match c with
  | '\x00' => "\\0"
  | '\t' => "\\t"
  | '\r' => "\\r"
  | '\n' => "\\n"
  | '\\' => "\\\\"
  | '"' => "\\\""
  | c =>
    if isPrintable c && !extendsGrapheme c then c.toString
    else "\\u\x7b" ++ hexDigits c.toNat ++ "\x7d"

def quoted (s : String) : String := "\"" ++ String.join (s.toList.map escape) ++ "\""

end MessageBroker.Text
