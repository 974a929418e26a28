import SoundCard.Text.GraphemeExtend
/-! Structure dumps: type names, fields between braces, lists between brackets and quoted text
with escapes. -/
namespace SoundCard.Text

/-- Lower-case hexadecimal digits of a number, most significant first. -/
def hexDigits (n : Nat) : String := String.ofList (Nat.toDigits 16 n)

/-- The written form of one character inside a quoted text. -/
def escapeChar (c : Char) : String :=
  match c with
  | '"' => "\\\""
  | '\\' => "\\\\"
  | '\t' => "\\t"
  | '\r' => "\\r"
  | '\n' => "\\n"
  | '\x00' => "\\0"
  | c =>
    if isGraphemeExtend c || !isPrintable c then "\\u" ++ "\x7b" ++ hexDigits c.toNat ++ "\x7d"
    else c.toString

def quote (s : String) : String := "\"" ++ String.join (s.toList.map escapeChar) ++ "\""

def dumpFields (name : String) (fields : List (String × String)) : String :=
  name ++ " \x7b " ++ ", ".intercalate (fields.map fun (k, v) => k ++ ": " ++ v) ++ " \x7d"

def dumpList (items : List String) : String := "[" ++ ", ".intercalate items ++ "]"

end SoundCard.Text
