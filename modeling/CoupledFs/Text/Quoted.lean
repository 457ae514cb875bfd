import CoupledFs.Text.GraphemeExtend
import CoupledFs.Text.Printable

/-! Text shown between double quotes, with every invisible character spelled out. -/

namespace CoupledFs.Text

/-- A backslash, the letter u, and the code point in hexadecimal between braces. -/
private def spelledOut (c : Char) : List Char :=
  ['\\', 'u', Char.ofNat 0x7B] ++ Nat.toDigits 16 c.toNat ++ [Char.ofNat 0x7D]

/-- How one character is written inside quotes. A character that extends the one before it is
spelled out even though it is printable: it would join the text around it. -/
def quotedChar (c : Char) : List Char :=
  if c = '\x00' then ['\\', '0']
  else if c = '\t' then ['\\', 't']
  else if c = '\r' then ['\\', 'r']
  else if c = '\n' then ['\\', 'n']
  else if c = '"' then ['\\', '"']
  else if c = '\\' then ['\\', '\\']
  else if extendsGrapheme c then spelledOut c
  else if isPrintable c then [c]
  else spelledOut c

def quoted (text : String) : String :=
  String.ofList ('"' :: text.toList.flatMap quotedChar ++ ['"'])

end CoupledFs.Text
