import SoundCard.Control.Device
import SoundCard.Control.Error
/-! The control registry of a card: one entry per element in the card's order, appended by
scans, against a card whose state a failed operation keeps as it left it. -/
namespace SoundCard.Control

open SoundCard.Os

/-- A registry entry: the info record the element was last read with, its name, and the
names of its items once an operation needed them. -/
structure Entry where
  info : ElemInfo
  name : String
  enumNames : Option (List String) := none
  deriving DecidableEq, Repr

namespace Entry

def ofInfo (info : ElemInfo) : Entry := { info := info, name := info.id.nameText }

def ctlId (c : Entry) : Nat := c.info.id.numid.toNat - 1
def numid (c : Entry) : UInt32 := c.info.id.numid
def index (c : Entry) : UInt32 := c.info.id.index
def elemType (c : Entry) : ElemType := c.info.elemType
def numValues (c : Entry) : Nat := c.info.count.toNat
def tlvReadWrite (c : Entry) : Bool := c.info.access &&& Access.tlvReadWrite != 0
def rangeMin? (c : Entry) : Option Int :=
  if c.elemType.isInteger then some c.info.integerMin else none
def rangeMax? (c : Entry) : Option Int :=
  if c.elemType.isInteger then some c.info.integerMax else none
def step? (c : Entry) : Option Int :=
  if c.elemType.isInteger then some c.info.integerStep else none
def numItems (c : Entry) : Nat := if c.elemType = .enum then c.info.enumItems.toNat else 0

end Entry

/-- A registry: the card's identity and its elements. -/
structure Mixer where
  cardInfo : CardInfo
  controls : List Entry := []
  deriving DecidableEq, Repr

/-- A value together with the state of the card it is read from. -/
structure OnCard (σ α : Type) where
  card : σ
  subject : α

/-- An operation on `α` that may send requests to a card with state `σ`. -/
abbrev OnCardM (σ α : Type) := ExceptT MixerError (StateM (OnCard σ α))

/-- Sends a request to the card; a failure is reported with `context`. -/
def OnCardM.ask {σ α β : Type} (context : String) (m : CardM σ β) : OnCardM σ α β := do
  let s ← get
  let (r, card) := (m.run).run s.card
  set { s with card := card }
  match r with
  | .ok v => pure v
  | .error e => throw (.driver context e)

def OnCardM.check {σ α β : Type} : Except MixerError β → OnCardM σ α β
  | .ok b => pure b
  | .error e => throw e

def OnCardM.exec {σ α β : Type} (m : OnCardM σ α β) (card : σ) (a : α) :
    Except MixerError β × OnCard σ α :=
  (m.run).run { card := card, subject := a }

abbrev MixerM (σ : Type) := OnCardM σ Mixer

namespace Mixer

variable {σ : Type} (D : ControlDevice σ)

def push (m : Mixer) (c : Entry) : Mixer := { m with controls := m.controls ++ [c] }

/-- Reads the info record of the element an id names, and appends its entry. -/
def fetch (id : ElemId) : MixerM σ Unit := do
  let info ← OnCardM.ask s!"cannot get info for control {id.numid.toNat}"
    (D.elemInfo (ElemInfo.forNumid id.numid))
  modify fun s => { s with subject := s.subject.push (Entry.ofInfo info) }

/-- Reads the elements the card reports beyond those held: the count, then their ids,
then each one's info record, appended as it arrives. Answers how many were added. -/
def scan : MixerM σ Nat := do
  let cached := (← get).subject.controls.length
  let reported := (← OnCardM.ask "cannot count controls" D.elemCount).toNat
  if reported = cached then return 0
  if reported < cached then throw (.controlsRemoved cached reported)
  let ids ← OnCardM.ask "cannot list controls"
    (D.elemIds (UInt32.ofNat cached) (UInt32.ofNat (reported - cached)))
  ids.forM (fetch D)
  return ids.length

/-- Opens a registry: reads the card's identity, then scans its elements. -/
def openWith (card : σ) : Except MixerError Mixer × σ :=
  match ((D.cardInfo).run).run card with
  | (.error e, card) => (.error (.driver "cannot get card info" e), card)
  | (.ok info, card) =>
    match (scan D).exec card { cardInfo := info } with
    | (.ok _, s) => (.ok s.subject, s.card)
    | (.error e, s) => (.error e, s.card)

/-- Opens a registry on the control node at `path`, given what opening the node gave. -/
def openAt (path : String) : Except IoError σ → Except MixerError Mixer × Option σ
  | .error e => (.error (.openFailed path e), none)
  | .ok card => let (r, card) := openWith D card; (r, some card)

def name (m : Mixer) : String := Text.cstrFixed m.cardInfo.name
def longName (m : Mixer) : String := Text.cstrFixed m.cardInfo.longName
def mixerName (m : Mixer) : String := Text.cstrFixed m.cardInfo.mixerName
def driverName (m : Mixer) : String := Text.cstrFixed m.cardInfo.driver
def cardNumber (m : Mixer) : Int := m.cardInfo.card
def numControls (m : Mixer) : Nat := m.controls.length

def countNamed (m : Mixer) (name : String) : Nat :=
  (m.controls.filter fun c => c.name == name).length

/-- The position of the `index`-th element called `name`, counting in list order. -/
def position (m : Mixer) (name : String) (index : Nat) : Option Nat :=
  ((List.range m.controls.length).filter fun n =>
    (m.controls[n]?.map (·.name)) == some name)[index]?

def subscribe (enable : Bool) : MixerM σ Unit :=
  OnCardM.ask "cannot subscribe to events" (D.subscribe enable)

/-- Waits up to `timeout` milliseconds for an event; `false` on a timeout. -/
def waitEvent (timeout : Int) : MixerM σ Bool :=
  OnCardM.ask "cannot wait for events" (D.waitEvent timeout)

/-- Reads queued events until one about an element, skipping the others; `none` when the
queue runs dry or `fuel` reads have been made. -/
def readEventWithin : Nat → MixerM σ (Option ElemEvent)
  | 0 => pure none
  | fuel + 1 => do
    match ← OnCardM.ask "cannot read event" D.readEvent with
    | none => pure none
    | some e => if e.type = 0 then pure (some (ElemEvent.ofEvent e)) else readEventWithin fuel

/-- The next event about an element, if one is queued. One read more than the card has
queued always reaches the end of the queue. -/
def readEvent : MixerM σ (Option ElemEvent) := do
  readEventWithin D (D.queued (← get).card + 1)

end Mixer

end SoundCard.Control
