/-!
# Blank characters

The characters that count as white space, and texts without them at either end.
-/

namespace Throttle.Text

/-- Whether a character is white space in the sense of the Unicode property `White_Space`. -/
def isBlank (c : Char) : Bool :=
  let n := c.toNat
  (0x9 ≤ n && n ≤ 0xD) || n = 0x20 || n = 0x85 || n = 0xA0 || n = 0x1680 || (0x2000 ≤ n && n ≤ 0x200A) ||
    n = 0x2028 || n = 0x2029 || n = 0x202F || n = 0x205F || n = 0x3000

/-- The text without white space at its ends. -/
def trim (s : String) : String :=
  String.ofList ((s.toList.dropWhile isBlank).reverse.dropWhile isBlank).reverse

/-- The text with small ASCII letters made large. -/
def upper (s : String) : String := String.ofList (s.toList.map Char.toUpper)

/-- The text with large ASCII letters made small. -/
def lower (s : String) : String := String.ofList (s.toList.map Char.toLower)

end Throttle.Text
