import SoundCard.Pcm.Device
/-! The pointer ring of a stream: the device's mapped status and control records, or a copy the
stream keeps and exchanges through synchronisation requests. -/
namespace SoundCard.Pcm

open SoundCard.Os

/-- The two ways of sharing the pointers. -/
inductive Ring where
  /-- The records are mapped memory shared with the device. -/
  | mapped
  /-- The ring keeps a copy, exchanged by synchronisation requests. -/
  | synced (record : SyncRecord)
  deriving DecidableEq, Repr, Inhabited

namespace Ring

variable {σ : Type}

def isMapped : Ring → Bool
  | .mapped => true
  | .synced _ => false

/-- Exchanges pointers with the device under the given flags; a mapped ring is always
current and asks nothing. -/
def sync (D : PcmDevice σ) (flags : UInt32) : Ring → DeviceM σ Ring
  | .mapped => pure .mapped
  | .synced r => do return .synced (← D.syncPtr { r with flags := flags })

def statusOf (D : PcmDevice σ) (s : σ) : Ring → StatusRecord
  | .mapped => D.status s
  | .synced r => r.status

def controlOf (D : PcmDevice σ) (s : σ) : Ring → ControlRecord
  | .mapped => D.control s
  | .synced r => r.control

def hwPtr (D : PcmDevice σ) (s : σ) (r : Ring) : UInt64 := (r.statusOf D s).hwPtr

def state (D : PcmDevice σ) (s : σ) (r : Ring) : Int := (r.statusOf D s).state

def tstamp (D : PcmDevice σ) (s : σ) (r : Ring) : Timespec := (r.statusOf D s).tstamp

def applPtr (D : PcmDevice σ) (s : σ) (r : Ring) : UInt64 := (r.controlOf D s).applPtr

def availMin (D : PcmDevice σ) (s : σ) (r : Ring) : UInt64 := (r.controlOf D s).availMin

/-- Changes the control record: in the mapped memory, or in the ring's copy. -/
def modifyControl (D : PcmDevice σ) (f : ControlRecord → ControlRecord) :
    Ring → σ → Ring × σ
  | .mapped, s => (.mapped, D.setControl (f (D.control s)) s)
  | .synced r, s => (.synced { r with control := f r.control }, s)

def setApplPtr (D : PcmDevice σ) (v : UInt64) (r : Ring) (s : σ) : Ring × σ :=
  r.modifyControl D (fun c => { c with applPtr := v }) s

def setAvailMin (D : PcmDevice σ) (v : UInt64) (r : Ring) (s : σ) : Ring × σ :=
  r.modifyControl D (fun c => { c with availMin := v }) s

/-- Maps the status page and then the control page; fails with "out of memory" when
either region is too small for its record. -/
def mapPages (D : PcmDevice σ) : DeviceM σ Unit := do
  let status ← D.map MapOffset.status pageSize false
  let control ← D.map MapOffset.control pageSize true
  unless status.holds statusBytes && control.holds controlBytes do
    throw (.os Errno.noMemory)

/-- Sets up the ring: the mapped records unless `syncOnly`, falling back to a kept copy that is
synchronised once. -/
def establish (D : PcmDevice σ) (syncOnly : Bool) (availMin : UInt64) : DeviceM σ Ring := do
  let mapped ← if syncOnly then pure false
    else tryCatch (do mapPages D; pure true) (fun _ => pure false)
  if mapped then
    modifyGet fun s => setAvailMin D availMin .mapped s
  else
    sync D 0 (.synced { control := { availMin := availMin } })

end Ring

end SoundCard.Pcm
