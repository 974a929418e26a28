import SoundCard.Wire.Value
import SoundCard.Number.Shortest
/-! Writing a JSON value as one line of text: no blanks, fields in the order held, text
with its quote, backslash and control characters escaped and everything else as is. -/
namespace SoundCard.Wire

open SoundCard.Number

def hex4 (n : Nat) : String :=
  String.ofList ((List.range 4).reverse.map fun i => Nat.digitChar (n / Nat.pow 16 i % 16))

/-- The written form of one character of a JSON string. -/
def jsonEscape (c : Char) : String :=
  match c with
  | '"' => "\\\""
  | '\\' => "\\\\"
  | '\n' => "\\n"
  | '\r' => "\\r"
  | '\t' => "\\t"
  | '\x08' => "\\b"
  | '\x0c' => "\\f"
  | c => if c.toNat < 0x20 then "\\u" ++ hex4 c.toNat else c.toString

def jsonString (s : String) : String := "\"" ++ String.join (s.toList.map jsonEscape) ++ "\""

mutual

/-- The text of a value. -/
def Value.render : Value → String
  | .null => "null"
  | .bool b => toString b
  | .int i => toString i
  | .float x => x.text
  | .str s => jsonString s
  | .arr items => "[" ++ renderItems items ++ "]"
  | .obj fields => "\x7b" ++ renderFields fields ++ "\x7d"

/-- The texts of array items, comma separated. -/
def renderItems : List Value → String
  | [] => ""
  | [v] => v.render
  | v :: rest => v.render ++ "," ++ renderItems rest

/-- The texts of object fields, comma separated. -/
def renderFields : List (String × Value) → String
  | [] => ""
  | [(k, v)] => jsonString k ++ ":" ++ v.render
  | (k, v) :: rest => jsonString k ++ ":" ++ v.render ++ "," ++ renderFields rest

end

end SoundCard.Wire
