/-! UTF-8 text in fixed byte fields: lossy decoding, and a cap that keeps the longest prefix that
fits a byte budget and ends on a character boundary. -/
namespace SoundCard.Text

/-- The replacement character that stands for an undecodable byte run. -/
def replacement : Char := '�'

def isCont (b : UInt8) : Bool := 0x80 ≤ b && b ≤ 0xBF

private def low6 (b : UInt8) : Nat := (b &&& 0x3F).toNat

/-- Whether `b1` may follow the lead byte `b0` of a three-byte sequence: no overlong form
and no surrogate. -/
private def secondOf3 (b0 b1 : UInt8) : Bool :=
  if b0 = 0xE0 then 0xA0 ≤ b1 && b1 ≤ 0xBF
  else if b0 = 0xED then 0x80 ≤ b1 && b1 ≤ 0x9F
  else isCont b1

/-- Whether `b1` may follow the lead byte `b0` of a four-byte sequence: no overlong form
and nothing above U+10FFFF. -/
private def secondOf4 (b0 b1 : UInt8) : Bool :=
  if b0 = 0xF0 then 0x90 ≤ b1 && b1 ≤ 0xBF
  else if b0 = 0xF4 then 0x80 ≤ b1 && b1 ≤ 0x8F
  else isCont b1

/-- The character a byte sequence starts with, and how many bytes after the lead it takes; a bad
sequence yields the replacement character. -/
def headChar (b0 : UInt8) (rest : List UInt8) : Char × Nat :=
  if b0 < 0x80 then (Char.ofNat b0.toNat, 0)
  else if 0xC2 ≤ b0 && b0 ≤ 0xDF then
    match rest with
    | b1 :: _ =>
      if isCont b1 then (Char.ofNat ((b0 &&& 0x1F).toNat * 64 + low6 b1), 1)
      else (replacement, 0)
    | [] => (replacement, 0)
  else if 0xE0 ≤ b0 && b0 ≤ 0xEF then
    match rest with
    | b1 :: b2 :: _ =>
      if !secondOf3 b0 b1 then (replacement, 0)
      else if isCont b2 then
        (Char.ofNat ((b0 &&& 0x0F).toNat * 4096 + low6 b1 * 64 + low6 b2), 2)
      else (replacement, 1)
    | [b1] => (replacement, if secondOf3 b0 b1 then 1 else 0)
    | [] => (replacement, 0)
  else if 0xF0 ≤ b0 && b0 ≤ 0xF4 then
    match rest with
    | b1 :: b2 :: b3 :: _ =>
      if !secondOf4 b0 b1 then (replacement, 0)
      else if !isCont b2 then (replacement, 1)
      else if isCont b3 then
        (Char.ofNat ((b0 &&& 0x07).toNat * 262144 + low6 b1 * 4096 + low6 b2 * 64
          + low6 b3), 3)
      else (replacement, 2)
    | [b1, b2] =>
      (replacement, if !secondOf4 b0 b1 then 0 else if isCont b2 then 2 else 1)
    | [b1] => (replacement, if secondOf4 b0 b1 then 1 else 0)
    | [] => (replacement, 0)
  else (replacement, 0)

/-- Decodes bytes, replacing each maximal invalid subsequence by one replacement character. -/
def decodeLossy : List UInt8 → List Char
  | [] => []
  | b0 :: rest =>
    let (c, n) := headChar b0 rest
    c :: decodeLossy (rest.drop n)
termination_by bs => bs.length
decreasing_by simp only [List.length_drop, List.length_cons]; omega

def utf8 (s : String) : List UInt8 := s.toUTF8.toList

def ofBytesLossy (bs : List UInt8) : String := String.ofList (decodeLossy bs)

/-- The text of a NUL-terminated fixed field: the bytes before the first NUL (all of them
if there is none), decoded lossily. -/
def cstrFixed (bs : List UInt8) : String := ofBytesLossy (bs.takeWhile (· != 0))

/-- The longest run of leading characters whose encodings fit in `budget` bytes. -/
def takeFitting : List Char → Nat → List Char
  | [], _ => []
  | c :: cs, budget =>
    if c.utf8Size ≤ budget then c :: takeFitting cs (budget - c.utf8Size) else []

/-- The longest prefix of `text` of at most `max` bytes that ends on a character boundary. -/
def cap (text : String) (max : Nat) : String := String.ofList (takeFitting text.toList max)

end SoundCard.Text
