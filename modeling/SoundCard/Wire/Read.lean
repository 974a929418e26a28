import SoundCard.Wire.Value
import SoundCard.Number.Binary64
/-! Reading one line of text as a JSON document; a refusal names its reason and the byte column
where reading stopped. -/
namespace SoundCard.Wire

open SoundCard.Number

/-- Why a text is not a JSON document. -/
inductive Problem where
  | eofValue
  | eofList
  | eofObject
  | eofString
  | expectedColon
  | expectedListEnd
  | expectedObjectEnd
  | expectedIdent
  | expectedValue
  | invalidEscape
  | invalidNumber
  | outOfRange
  | controlCharacter
  | keyNotString
  | loneSurrogate
  | trailingComma
  | trailingCharacters
  | hexEscapeEnd
  | depthLimit
  deriving DecidableEq, Repr

/-- The text of a reason. -/
def Problem.text : Problem → String
  | .eofValue => "EOF while parsing a value"
  | .eofList => "EOF while parsing a list"
  | .eofObject => "EOF while parsing an object"
  | .eofString => "EOF while parsing a string"
  | .expectedColon => "expected `:`"
  | .expectedListEnd => "expected `,` or `]`"
  | .expectedObjectEnd => "expected `,` or `\x7d`"
  | .expectedIdent => "expected ident"
  | .expectedValue => "expected value"
  | .invalidEscape => "invalid escape"
  | .invalidNumber => "invalid number"
  | .outOfRange => "number out of range"
  | .controlCharacter => "control character (\\u0000-\\u001F) found while parsing a string"
  | .keyNotString => "key must be a string"
  | .loneSurrogate => "lone leading surrogate in hex escape"
  | .trailingComma => "trailing comma"
  | .trailingCharacters => "trailing characters"
  | .hexEscapeEnd => "unexpected end of hex escape"
  | .depthLimit => "recursion limit exceeded"

/-- A refusal: its reason and the byte column where reading stopped. -/
structure ReadError where
  problem : Problem
  column : Nat
  deriving DecidableEq, Repr

def ReadError.message (e : ReadError) : String :=
  s!"{e.problem.text} at line 1 column {e.column}"

abbrev Reading := Except ReadError

/-- A place in the text: the characters left, the byte offset of the first of them, and
the byte length of the whole text. -/
structure Cursor where
  rest : List Char
  offset : Nat
  size : Nat

namespace Cursor

def peek? (c : Cursor) : Option Char := c.rest.head?

/-- Takes one character. -/
def next (c : Cursor) : Cursor :=
  match c.rest with
  | [] => c
  | ch :: rest => { c with rest := rest, offset := c.offset + ch.utf8Size }

def skipAscii (c : Cursor) (rest : List Char) : Cursor :=
  { c with rest := rest, offset := c.offset + (c.rest.length - rest.length) }

def stop {α : Type} (c : Cursor) (p : Problem) : Reading α := .error ⟨p, c.offset⟩

/-- Refuses one byte past the offset reached, but not past the end. -/
def stopAfter {α : Type} (c : Cursor) (p : Problem) : Reading α :=
  .error ⟨p, min c.size (c.offset + 1)⟩

def isBlank (ch : Char) : Bool := ch == ' ' || ch == '\n' || ch == '\t' || ch == '\r'

def skipBlank (c : Cursor) : Cursor := c.skipAscii (c.rest.dropWhile isBlank)

end Cursor

def u64Max : Nat := 18446744073709551615

def i32Max : Nat := 2147483647

def overflows (a d limit : Nat) : Bool := a ≥ limit / 10 && (a > limit / 10 || d > limit % 10)

def digitOf? (ch : Char) : Option Nat :=
  if ch.isDigit then some (ch.toNat - '0'.toNat) else none

/-- The integer digits after the first: the significand while it fits 64 bits, then the
count of digits dropped. -/
def integerRun : Nat → Nat → List Char → Nat × Nat × List Char
  | sig, dropped, ch :: rest =>
    match digitOf? ch with
    | some d =>
      if dropped > 0 || overflows sig d u64Max then integerRun sig (dropped + 1) rest
      else integerRun (sig * 10 + d) dropped rest
    | none => (sig, dropped, ch :: rest)
  | sig, dropped, [] => (sig, dropped, [])

/-- The fraction digits: each one kept while the significand fits 64 bits, counted as a
place; after the first that does not fit, the rest are skipped. -/
def fractionRun : Nat → Nat → Bool → List Char → Nat × Nat × Bool × List Char
  | sig, places, full, ch :: rest =>
    match digitOf? ch with
    | some d =>
      if full || overflows sig d u64Max then fractionRun sig places true rest
      else fractionRun (sig * 10 + d) (places + 1) false rest
    | none => (sig, places, full, ch :: rest)
  | sig, places, full, [] => (sig, places, full, [])

/-- The exponent digits after the first while the exponent fits 32 bits signed; at the
first digit that does not fit, `none` and the text after that digit, which is taken. -/
def exponentRun : Nat → List Char → Option Nat × List Char
  | e, ch :: rest =>
    match digitOf? ch with
    | some d => if overflows e d i32Max then (none, rest) else exponentRun (e * 10 + d) rest
    | none => (some e, ch :: rest)
  | e, [] => (some e, [])

/-- A whole number as read: unsigned when positive, signed when negative and in range;
`-0` and larger negative numbers are binary64 values. -/
def integerValue (negative : Bool) (sig : Nat) : Value :=
  if !negative then .int sig
  else if sig = 0 then .float (Binary64.zero true)
  else if sig ≤ 9223372036854775808 then .int (-(sig : Int))
  else .float (Binary64.ofNat sig).negate

/-- The binary64 value of `±sig * 10 ^ scale`, or a refusal when out of range. -/
def scaledValue (negative : Bool) (sig : Nat) (scale : Int) (c : Cursor) :
    Reading (Value × Cursor) :=
  match Binary64.ofDecimal negative sig scale with
  | some x => .ok (.float x, c)
  | none => c.stop .outOfRange

def saturate (e : Int) : Int := max (-2147483648) (min 2147483647 e)

/-- Reads an exponent, at its `e`, and finishes the number. -/
def readExponent (negative : Bool) (sig : Nat) (scale : Int) (c : Cursor) :
    Reading (Value × Cursor) :=
  let c := c.next
  let (up, c) := match c.peek? with
    | some '+' => (true, c.next)
    | some '-' => (false, c.next)
    | _ => (true, c)
  match c.rest with
  | [] => c.stop .eofValue
  | ch :: rest =>
    match digitOf? ch with
    | none => c.stopAfter .invalidNumber
    | some d =>
      match exponentRun d rest with
      | (some e, rest) =>
        scaledValue negative sig (saturate (if up then scale + e else scale - e)) (c.skipAscii rest)
      | (none, rest) =>
        let here := c.skipAscii rest
        if sig != 0 && up then here.stop .outOfRange
        else .ok (.float (Binary64.zero negative), here.skipAscii (rest.dropWhile Char.isDigit))

/-- Finishes a number after its integer digits: a fraction, an exponent, or nothing more.
`whole` says whether all integer digits were kept. -/
def finishNumber (negative : Bool) (sig : Nat) (scale : Int) (whole : Bool) (c : Cursor) :
    Reading (Value × Cursor) :=
  match c.peek? with
  | some '.' =>
    let c := c.next
    let (sig, places, full, rest) := fractionRun sig 0 false c.rest
    let c := c.skipAscii rest
    if places == 0 && !full then
      if c.rest.isEmpty then c.stopAfter .eofValue else c.stopAfter .invalidNumber
    else
      match c.peek? with
      | some 'e' | some 'E' => readExponent negative sig (scale - places) c
      | _ => scaledValue negative sig (scale - places) c
  | some 'e' | some 'E' => readExponent negative sig scale c
  | _ => if whole then .ok (integerValue negative sig, c) else scaledValue negative sig scale c

/-- Reads a number from its first digit; the sign is already taken. -/
def readNumber (negative : Bool) (c : Cursor) : Reading (Value × Cursor) :=
  match c.rest with
  | [] => c.stop .eofValue
  | ch :: rest =>
    match digitOf? ch with
    | none => c.stopAfter .invalidNumber
    | some 0 =>
      let c := c.next
      match c.peek?.bind digitOf? with
      | some _ => c.stopAfter .invalidNumber
      | none => finishNumber negative 0 0 true c
    | some d =>
      let (sig, dropped, rest) := integerRun d 0 rest
      finishNumber negative sig dropped (dropped == 0) (c.skipAscii rest)

/-- The value of a hexadecimal digit. -/
def hexOf? (ch : Char) : Option Nat :=
  if ch.isDigit then some (ch.toNat - '0'.toNat)
  else if 'a' ≤ ch && ch ≤ 'f' then some (ch.toNat - 'a'.toNat + 10)
  else if 'A' ≤ ch && ch ≤ 'F' then some (ch.toNat - 'A'.toNat + 10)
  else none

/-- Reads the four hexadecimal digits of a `\u` escape. Fewer than four bytes left is the
end of the text; four bytes that are not all digits are a bad escape. -/
def readHex4 (c : Cursor) : Reading (Nat × Cursor) :=
  if c.size - c.offset < 4 then .error ⟨.eofString, c.size⟩
  else
    match c.rest with
    | a :: b :: d :: e :: rest =>
      match hexOf? a, hexOf? b, hexOf? d, hexOf? e with
      | some a, some b, some d, some e => .ok (((a * 16 + b) * 16 + d) * 16 + e, c.skipAscii rest)
      | _, _, _, _ => .error ⟨.invalidEscape, c.offset + 4⟩
    | _ => .error ⟨.invalidEscape, c.offset + 4⟩

def isLeadingSurrogate (n : Nat) : Bool := 0xD800 ≤ n && n ≤ 0xDBFF

def isTrailingSurrogate (n : Nat) : Bool := 0xDC00 ≤ n && n ≤ 0xDFFF

/-- Requires the next character to be `ch`, for the second half of a surrogate pair. -/
def expectChar (ch : Char) (c : Cursor) : Reading Cursor :=
  match c.rest with
  | [] => .error ⟨.eofString, c.offset⟩
  | x :: _ => if x == ch then .ok c.next else .error ⟨.hexEscapeEnd, c.offset + 1⟩

/-- Reads a `\u` escape after its `u`: one code unit, or a leading surrogate with the
escape of its trailing one. -/
def readUnicodeEscape (c : Cursor) : Reading (Char × Cursor) := do
  let (n, c) ← readHex4 c
  if isTrailingSurrogate n then .error ⟨.loneSurrogate, c.offset⟩
  else if !isLeadingSurrogate n then .ok (Char.ofNat n, c)
  else
    let c ← expectChar '\\' c
    let c ← expectChar 'u' c
    let (m, c) ← readHex4 c
    if !isTrailingSurrogate m then .error ⟨.loneSurrogate, c.offset⟩
    else .ok (Char.ofNat ((n - 0xD800) * 1024 + (m - 0xDC00) + 0x10000), c)

/-- Reads an escape after its backslash. -/
def readEscape (c : Cursor) : Reading (Char × Cursor) :=
  match c.rest with
  | [] => .error ⟨.eofString, c.offset⟩
  | '"' :: _ => .ok ('"', c.next)
  | '\\' :: _ => .ok ('\\', c.next)
  | '/' :: _ => .ok ('/', c.next)
  | 'b' :: _ => .ok ('\x08', c.next)
  | 'f' :: _ => .ok ('\x0c', c.next)
  | 'n' :: _ => .ok ('\n', c.next)
  | 'r' :: _ => .ok ('\r', c.next)
  | 't' :: _ => .ok ('\t', c.next)
  | 'u' :: _ => readUnicodeEscape c.next
  | _ :: _ => .error ⟨.invalidEscape, c.offset + 1⟩

/-- Reads the rest of a string after its opening quote, one character or escape a step;
`fuel` bounds the steps by the characters left. -/
def readStringWith : Nat → Cursor → List Char → Reading (String × Cursor)
  | 0, c, _ => .error ⟨.eofString, c.size⟩
  | fuel + 1, c, acc =>
    match c.rest with
    | [] => .error ⟨.eofString, c.offset⟩
    | '"' :: _ => .ok (String.ofList acc.reverse, c.next)
    | '\\' :: _ => do
      let (ch, c) ← readEscape c.next
      readStringWith fuel c (ch :: acc)
    | ch :: _ =>
      if ch.toNat < 0x20 then .error ⟨.controlCharacter, c.offset + 1⟩
      else readStringWith fuel c.next (ch :: acc)

def readString (c : Cursor) : Reading (String × Cursor) :=
  readStringWith (c.rest.length + 1) c []

/-- Reads the letters of `null`, `true` or `false` after the first. -/
def readWord : List Char → Cursor → Reading Cursor
  | [], c => .ok c
  | w :: ws, c =>
    match c.rest with
    | [] => c.stop .eofValue
    | ch :: _ => if ch == w then readWord ws c.next else .error ⟨.expectedIdent, c.offset + 1⟩

/-- Sets a field of an object kept in key order; a key written again takes the later
value in its place. -/
def setField (k : String) (v : Value) : List (String × Value) → List (String × Value)
  | [] => [(k, v)]
  | (k', v') :: rest =>
    if k = k' then (k, v) :: rest
    else if k < k' then (k, v) :: (k', v') :: rest
    else (k', v') :: setField k v rest

mutual

/-- Reads one value. `fuel` bounds the nested and repeated readings by the characters
left; `depth` is the nesting still allowed. -/
def readValue : Nat → Nat → Cursor → Reading (Value × Cursor)
  | 0, _, c => c.stop .depthLimit
  | fuel + 1, depth, c =>
    let c := c.skipBlank
    match c.rest with
    | [] => c.stopAfter .eofValue
    | 'n' :: _ => do return (.null, ← readWord ['u', 'l', 'l'] c.next)
    | 't' :: _ => do return (.bool true, ← readWord ['r', 'u', 'e'] c.next)
    | 'f' :: _ => do return (.bool false, ← readWord ['a', 'l', 's', 'e'] c.next)
    | '-' :: _ => readNumber true c.next
    | '"' :: _ => do
      let (s, c) ← readString c.next
      return (.str s, c)
    | '[' :: _ =>
      if depth ≤ 1 then c.stopAfter .depthLimit
      else do
        let (items, c) ← readItems fuel (depth - 1) c.next [] true
        return (.arr items, c.next)
    | '{' :: _ =>
      if depth ≤ 1 then c.stopAfter .depthLimit
      else do
        let (fields, c) ← readMembers fuel (depth - 1) c.next [] true
        return (.obj fields, c.next)
    | ch :: _ => if ch.isDigit then readNumber false c else c.stopAfter .expectedValue

/-- Reads the items of an array up to its closing bracket, which it leaves. -/
def readItems : Nat → Nat → Cursor → List Value → Bool → Reading (List Value × Cursor)
  | 0, _, c, _, _ => c.stop .depthLimit
  | fuel + 1, depth, c, acc, first =>
    let c := c.skipBlank
    match c.rest with
    | [] => c.stopAfter .eofList
    | ']' :: _ => .ok (acc.reverse, c)
    | ch :: _ => do
      let c ← if ch == ',' && !first then pure c.next.skipBlank
        else if first then pure c
        else c.stopAfter .expectedListEnd
      match c.rest with
      | [] => c.stopAfter .eofValue
      | ']' :: _ => c.stopAfter .trailingComma
      | _ :: _ =>
        let (v, c) ← readValue fuel depth c
        readItems fuel depth c (v :: acc) false

/-- Reads the fields of an object up to its closing brace, which it leaves. -/
def readMembers : Nat → Nat → Cursor → List (String × Value) → Bool →
    Reading (List (String × Value) × Cursor)
  | 0, _, c, _, _ => c.stop .depthLimit
  | fuel + 1, depth, c, acc, first =>
    let c := c.skipBlank
    match c.rest with
    | [] => c.stopAfter .eofObject
    | '}' :: _ => .ok (acc, c)
    | ch :: _ => do
      let c ← if ch == ',' && !first then pure c.next.skipBlank
        else if first then pure c
        else c.stopAfter .expectedObjectEnd
      match c.rest with
      | [] => c.stopAfter .eofValue
      | '}' :: _ => c.stopAfter .trailingComma
      | '"' :: _ =>
        let (k, c) ← readString c.next
        let c := c.skipBlank
        match c.rest with
        | [] => c.stopAfter .eofObject
        | ':' :: _ =>
          let (v, c) ← readValue fuel depth c.next
          readMembers fuel depth c (setField k v acc) false
        | _ :: _ => c.stopAfter .expectedColon
      | _ :: _ => c.stopAfter .keyNotString

end

def depthAllowed : Nat := 128

/-- Reads a whole document: one value, then only blanks. -/
def Value.read (text : String) : Reading Value := do
  let chars := text.toList
  let (v, c) ← readValue (chars.length + 2) depthAllowed ⟨chars, 0, text.utf8ByteSize⟩
  let c := c.skipBlank
  if c.rest.isEmpty then pure v else c.stopAfter .trailingCharacters

end SoundCard.Wire
