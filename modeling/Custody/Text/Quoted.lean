import Custody.Text.Digits
import Custody.Text.Unseen

/-!
# Quoted text

Text between double quotes, as diagnostics show it: a quote, a backslash and the common controls
have a short escape, every other character without a glyph of its own is written by its code point,
and all else stands for itself. `quote` writes it.
-/

set_option autoImplicit false

namespace Custody.Text

def quoteChar (c : Char) : String :=
  match c with
  | '\x00' => "\\0"
  | '\t' => "\\t"
  | '\r' => "\\r"
  | '\n' => "\\n"
  | '"' => "\\\""
  | '\\' => "\\\\"
  | c => if isUnseen c then "\\u\x7b" ++ hexDigits c.toNat ++ "\x7d" else c.toString

def quote (s : String) : String :=
  "\"" ++ String.join (s.toList.map quoteChar) ++ "\""

end Custody.Text
