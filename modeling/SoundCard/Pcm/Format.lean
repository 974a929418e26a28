import SoundCard.Text.Blank
/-! Sample formats: the 22 linear and floating-point layouts a stream can carry, with
their kernel codes, container widths and names. -/
namespace SoundCard.Pcm

/-- A sample layout: signedness, width and byte order. The `3` formats pack 24 bits into
three bytes; the other 24-bit formats use a 32-bit container. -/
inductive SampleFormat where
  | s8 | u8 | s16le | s16be | u16le | u16be | s24le | s24be | u24le | u24be
  | s32le | s32be | u32le | u32be | floatLe | floatBe | float64Le | float64Be
  | s24le3 | s24be3 | u24le3 | u24be3
  deriving DecidableEq, Repr, Inhabited

namespace SampleFormat

/-- Every format, in kernel-code order. -/
def all : List SampleFormat :=
  [.s8, .u8, .s16le, .s16be, .u16le, .u16be, .s24le, .s24be, .u24le, .u24be,
   .s32le, .s32be, .u32le, .u32be, .floatLe, .floatBe, .float64Le, .float64Be,
   .s24le3, .s24be3, .u24le3, .u24be3]

/-- The kernel code: 0 to 17, then 32 to 35 for the packed 24-bit formats. -/
def code : SampleFormat → Nat
  | .s8 => 0 | .u8 => 1 | .s16le => 2 | .s16be => 3 | .u16le => 4 | .u16be => 5
  | .s24le => 6 | .s24be => 7 | .u24le => 8 | .u24be => 9 | .s32le => 10 | .s32be => 11
  | .u32le => 12 | .u32be => 13 | .floatLe => 14 | .floatBe => 15 | .float64Le => 16
  | .float64Be => 17 | .s24le3 => 32 | .s24be3 => 33 | .u24le3 => 34 | .u24be3 => 35

def ofCode? (n : Nat) : Option SampleFormat := all.find? (·.code == n)

/-- Bits of the container one sample occupies. -/
def physicalBits : SampleFormat → Nat
  | .s8 | .u8 => 8
  | .s16le | .s16be | .u16le | .u16be => 16
  | .s24le3 | .s24be3 | .u24le3 | .u24be3 => 24
  | .s24le | .s24be | .u24le | .u24be | .s32le | .s32be | .u32le | .u32be
  | .floatLe | .floatBe => 32
  | .float64Le | .float64Be => 64

def bytesPerSample (f : SampleFormat) : Nat := f.physicalBits / 8

/-- The conventional name, such as `S16_LE`. -/
def name : SampleFormat → String
  | .s8 => "S8" | .u8 => "U8" | .s16le => "S16_LE" | .s16be => "S16_BE"
  | .u16le => "U16_LE" | .u16be => "U16_BE" | .s24le => "S24_LE" | .s24be => "S24_BE"
  | .u24le => "U24_LE" | .u24be => "U24_BE" | .s32le => "S32_LE" | .s32be => "S32_BE"
  | .u32le => "U32_LE" | .u32be => "U32_BE" | .floatLe => "FLOAT_LE"
  | .floatBe => "FLOAT_BE" | .float64Le => "FLOAT64_LE" | .float64Be => "FLOAT64_BE"
  | .s24le3 => "S24_3LE" | .s24be3 => "S24_3BE" | .u24le3 => "U24_3LE"
  | .u24be3 => "U24_3BE"

/-- The identifier a structure dump shows, such as `S16Le`. -/
def debugName : SampleFormat → String
  | .s8 => "S8" | .u8 => "U8" | .s16le => "S16Le" | .s16be => "S16Be"
  | .u16le => "U16Le" | .u16be => "U16Be" | .s24le => "S24Le" | .s24be => "S24Be"
  | .u24le => "U24Le" | .u24be => "U24Be" | .s32le => "S32Le" | .s32be => "S32Be"
  | .u32le => "U32Le" | .u32be => "U32Be" | .floatLe => "FloatLe"
  | .floatBe => "FloatBe" | .float64Le => "Float64Le" | .float64Be => "Float64Be"
  | .s24le3 => "S24Le3" | .s24be3 => "S24Be3" | .u24le3 => "U24Le3"
  | .u24be3 => "U24Be3"

def ofName? (s : String) : Option SampleFormat := all.find? (·.name == s)

/-- Reads a format name, ignoring surrounding blanks and the case of ASCII letters. -/
def parse? (s : String) : Option SampleFormat := ofName? (Text.asciiUpper (Text.trimBlank s))

end SampleFormat

end SoundCard.Pcm
