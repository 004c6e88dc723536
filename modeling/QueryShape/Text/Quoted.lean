import QueryShape.Text.Hidden

/-!
# Quoted text

Text as messages quote it: between double quotes, with an escape for a quote, a backslash, a line
break, a tab, the null character and every character that shows nothing by itself.  The space stays
as it is.
-/

namespace QueryShape.Text

def escapedForQuote (c : Char) : List Char :=
  match c with
  | '\x00' => ['\\', '0']
  | '\t' => ['\\', 't']
  | '\r' => ['\\', 'r']
  | '\n' => ['\\', 'n']
  | '"' => ['\\', '"']
  | '\\' => ['\\', '\\']
  | ' ' => [' ']
  | c =>
      if isHidden c then
        ['\\', 'u', '\x7b'] ++ Nat.toDigits 16 c.toNat ++ ['\x7d']
      else
        [c]

def quoted (text : String) : String :=
  String.ofList ('"' :: text.toList.flatMap escapedForQuote ++ ['"'])

end QueryShape.Text
