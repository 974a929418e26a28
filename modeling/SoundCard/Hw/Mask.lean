/-! Bit masks of the hardware-parameter record: 256 bits as eight 32-bit words; bits beyond
256 do not exist. -/
namespace SoundCard.Hw

/-- A set of small naturals below 256. -/
structure Mask where
  bits : BitVec 256
  deriving DecidableEq, Repr, Inhabited

namespace Mask

def width : Nat := 256

def empty : Mask := ⟨0⟩

def full : Mask := ⟨BitVec.allOnes 256⟩

def test (m : Mask) (b : Nat) : Bool := b < width && m.bits.getLsbD b

def set (m : Mask) (b : Nat) : Mask :=
  if b < width then ⟨m.bits ||| BitVec.twoPow 256 b⟩ else m

/-- Makes bit `b` the only member; a bit beyond the mask leaves the mask unchanged. -/
def setOnly (m : Mask) (b : Nat) : Mask :=
  if b < width then ⟨BitVec.twoPow 256 b⟩ else m

def isEmpty (m : Mask) : Bool := m.bits == 0

def inter (m o : Mask) : Mask := ⟨m.bits &&& o.bits⟩

def members (m : Mask) : List Nat := (List.range width).filter m.test

def first? (m : Mask) : Option Nat := (List.range width).find? m.test

def word (m : Mask) (i : Nat) : Nat := (m.bits.toNat >>> (32 * i)) % 4294967296

def words (m : Mask) : List Nat := (List.range 8).map m.word

/-- The mask stored as the given words, word 0 first; missing words are zero and words
past the eighth are ignored. Each word is taken modulo 2^32. -/
def ofWords (ws : List Nat) : Mask :=
  ⟨BitVec.ofNat 256 ((ws.take 8).zipIdx.foldl (fun acc (w, i) => acc ||| ((w % 4294967296) <<< (32 * i))) 0)⟩

def ofBits64 (n : Nat) : Mask := ofWords [n % 4294967296, (n >>> 32) % 4294967296]

end Mask

end SoundCard.Hw
