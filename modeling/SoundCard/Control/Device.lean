import SoundCard.Control.Element
import SoundCard.Os.Errno
/-! The requests a control registry makes of a card with state `σ`; an element's numeric id is
its position plus one. -/
namespace SoundCard.Control

open SoundCard.Os

abbrev CardM (σ : Type) := ExceptT IoError (StateM σ)

/-- The requests of a card's control interface. -/
structure ControlDevice (σ : Type) where
  /-- The card's identity. -/
  cardInfo : CardM σ CardInfo
  /-- How many elements the card has. -/
  elemCount : CardM σ UInt32
  /-- The ids of at most `space` elements from list position `offset`. -/
  elemIds : UInt32 → UInt32 → CardM σ (List ElemId)
  /-- Fills an info record for the element its id names; for an enumeration, the name of
  the item the record selects. -/
  elemInfo : ElemInfo → CardM σ ElemInfo
  elemRead : ElemValue → CardM σ ElemValue
  elemWrite : ElemValue → CardM σ ElemValue
  /-- Reads TLV bytes into the buffer, which fixes how many. -/
  tlvRead : UInt32 → List UInt8 → CardM σ (List UInt8)
  tlvWrite : UInt32 → List UInt8 → CardM σ Unit
  /-- Turns change notifications on or off. -/
  subscribe : Bool → CardM σ Unit
  /-- Waits up to the given milliseconds for an event; `false` on a timeout. -/
  waitEvent : Int → CardM σ Bool
  /-- The next queued event, if any. -/
  readEvent : CardM σ (Option Event)
  /-- How many events can still be read: a read that answers an event lowers it. -/
  queued : σ → Nat

end SoundCard.Control
