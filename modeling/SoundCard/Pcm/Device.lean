import SoundCard.Pcm.Records
import SoundCard.Hw.Params
import SoundCard.Os.Trap
/-! What a stream needs from its device: requests over the device's state `σ`, each answering a
value or a device error, and the status and control records it shares once they are mapped. -/
namespace SoundCard.Pcm

open SoundCard.Os SoundCard.Hw

/-- A request to a device with state `σ`: it may change the state and answers a value or
a device error, or it stops the program when its arithmetic overflows. -/
abbrev DeviceM (σ : Type) := ExceptT IoError (StateT σ Trapping)

/-- The requests of a stream device. -/
structure PcmDevice (σ : Type) where
  /-- What the device is. -/
  info : DeviceM σ PcmInfo
  /-- Narrows a parameter record to what the device supports. -/
  refine : HwParams → DeviceM σ HwParams
  /-- Installs one configuration chosen from the record; answers the installed record. -/
  install : HwParams → DeviceM σ HwParams
  /-- Installs software parameters; answers them as the device keeps them. -/
  software : SwParams → DeviceM σ SwParams
  /-- Exchanges pointers through a synchronisation record. -/
  syncPtr : SyncRecord → DeviceM σ SyncRecord
  prepare : DeviceM σ Unit
  start : DeviceM σ Unit
  /-- Stops at once, dropping what is queued. -/
  stop : DeviceM σ Unit
  /-- Stops after what is queued has played. -/
  drain : DeviceM σ Unit
  /-- Offers frames for playback from the bytes; answers how many were taken. -/
  writei : ByteArray → Nat → DeviceM σ Nat
  /-- Captures at most the given frames into the bytes; answers how many, and the bytes. -/
  readi : ByteArray → Nat → DeviceM σ (Nat × ByteArray)
  /-- Frames between the application and the hardware pointer. -/
  delay : DeviceM σ Int
  /-- Chooses the clock of the timestamps. -/
  setTstampType : Int → DeviceM σ Unit
  /-- Starts and stops together with the stream behind a descriptor. -/
  link : Int → DeviceM σ Unit
  unlink : DeviceM σ Unit
  /-- Maps `len` bytes at a device-defined offset, writable or not. -/
  map : UInt64 → Nat → Bool → DeviceM σ Region
  /-- Waits up to the given milliseconds for progress; `false` on a timeout. -/
  wait : Int → DeviceM σ Bool
  /-- The descriptor number of the device, if it has one. -/
  descriptor : σ → Option Int
  /-- The mapped status record. -/
  status : σ → StatusRecord
  /-- The mapped control record. -/
  control : σ → ControlRecord
  /-- Writes the mapped control record. -/
  setControl : ControlRecord → σ → σ

/-- Everything a device can do: the record that admits everything, narrowed by it. -/
def PcmDevice.capabilities {σ : Type} (D : PcmDevice σ) : DeviceM σ HwParams :=
  D.refine HwParams.any

end SoundCard.Pcm
