import CoffeeTree.Json.Printer
import CoffeeTree.Text.Printable

/-!
# Quoted texts

How messages and trees show a text: in single quotes, or in double quotes if the text has a single
quote and no double quote. Backslashes and the enclosing quote are escaped, and so is everything
that is not printable, with as few hexadecimal digits as its code point needs.
-/

namespace CoffeeTree.Text

/-- How a character is shown between quotes. -/
def quotedChar (quote c : Char) : List Char :=
  if c = quote || c = '\\' then ['\\', c]
  else if c = '\n' then ['\\', 'n']
  else if c = '\r' then ['\\', 'r']
  else if c = '\t' then ['\\', 't']
  else if isPrintable c then [c]
  else if c.toNat < 0x100 then '\\' :: 'x' :: Json.hex 2 c.toNat
  else if c.toNat < 0x10000 then '\\' :: 'u' :: Json.hex 4 c.toNat
  else '\\' :: 'U' :: Json.hex 8 c.toNat

/-- A text in quotes. -/
def quoted (text : String) : String :=
  let chars := text.toList
  let quote := if chars.contains '\'' && !chars.contains '"' then '"' else '\''
  String.ofList (quote :: chars.flatMap (quotedChar quote) ++ [quote])

end CoffeeTree.Text
