/-! Blank characters: the characters with the Unicode White_Space property, and trimming
them from both ends of a text. -/
namespace SoundCard.Text

/-- The Unicode White_Space property. -/
def isBlank (c : Char) : Bool :=
  let n := c.toNat
  (0x09 ≤ n && n ≤ 0x0D) || n == 0x20 || n == 0x85 || n == 0xA0 || n == 0x1680 ||
    (0x2000 ≤ n && n ≤ 0x200A) || n == 0x2028 || n == 0x2029 || n == 0x202F ||
    n == 0x205F || n == 0x3000

def trimBlank (s : String) : String :=
  String.ofList ((s.toList.dropWhile isBlank).reverse.dropWhile isBlank).reverse

/-- ASCII letters in upper case; every other character unchanged. -/
def asciiUpper (s : String) : String := String.ofList (s.toList.map Char.toUpper)

/-- ASCII letters in lower case; every other character unchanged. -/
def asciiLower (s : String) : String := String.ofList (s.toList.map Char.toLower)

end SoundCard.Text
