import SenderPolicy.Text.Visible

/-!
Quoted text, as messages show it. The quotes are single ones unless the text holds a single and no
double quote; what is not visible is written as an escape.
-/
namespace SenderPolicy.Text

def escaped (quote c : Char) : Text :=
  if c = quote ∨ c = '\\' then ['\\', c]
  else if c = '\t' then "\\t"
  else if c = '\n' then "\\n"
  else if c = '\r' then "\\r"
  else if isVisible c then [c]
  else if c.toNat < 0x100 then phrase ["\\x", hexadecimal 2 c.toNat]
  else if c.toNat < 0x10000 then phrase ["\\u", hexadecimal 4 c.toNat]
  else phrase ["\\U", hexadecimal 8 c.toNat]

def quoted (t : Text) : Text :=
  let quote := if t.contains '\'' && !t.contains '"' then '"' else '\''
  quote :: t.flatMap (escaped quote) ++ [quote]

end SenderPolicy.Text
