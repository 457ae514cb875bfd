import CoupledFs.Text.Ranges

/-! Characters that count as blank. -/

namespace CoupledFs.Text

/-- Code points with the property White_Space. -/
def blankRanges : Array (Nat × Nat) := #[
  (0x9, 0xD), (0x20, 0x20), (0x85, 0x85), (0xA0, 0xA0), (0x1680, 0x1680), (0x2000, 0x200A),
  (0x2028, 0x2029), (0x202F, 0x202F), (0x205F, 0x205F), (0x3000, 0x3000)]

def isBlankChar (c : Char) : Bool :=
  inRanges blankRanges c

/-- Whether a text holds nothing but white space. -/
def isBlank (text : String) : Bool :=
  text.toList.all isBlankChar

/-- A text without the white space at its two ends. -/
def trim (text : String) : String :=
  let start := text.toList.dropWhile isBlankChar
  String.ofList (start.reverse.dropWhile isBlankChar).reverse

end CoupledFs.Text
