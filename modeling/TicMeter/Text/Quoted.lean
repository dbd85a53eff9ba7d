import TicMeter.Text.Glyph
import TicMeter.Text.Numeral

/-!
# Quoted — texts in double quotes, with escapes for what a page cannot show

Quotes and backslashes get a backslash, the usual control characters their letter, and every other
character without a glyph its number in braces.
-/

namespace TicMeter
namespace Text

def quotedChar (c : Char) : List Char :=
  if c = '\x00' then ['\\', '0']
  else if c = '\t' then ['\\', 't']
  else if c = '\r' then ['\\', 'r']
  else if c = '\n' then ['\\', 'n']
  else if c = '"' || c = '\\' then ['\\', c]
  else if hasGlyph c then [c]
  else ['\\', 'u', '\x7b'] ++ Numeral.hex c.toNat ++ ['\x7d']

def quoted (s : String) : String :=
  String.ofList ('"' :: s.toList.flatMap quotedChar ++ ['"'])

end Text
end TicMeter
