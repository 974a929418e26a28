import SoundCard.Control.Bytes
import SoundCard.Control.Device
import SoundCard.Control.Dump
import SoundCard.Control.Element
import SoundCard.Control.Error
import SoundCard.Control.Mixer
import SoundCard.Control.Tlv
import SoundCard.Control.Value
import SoundCard.Device.Directory
import SoundCard.Device.FileNode
import SoundCard.Device.Name
import SoundCard.Device.Open
import SoundCard.Device.Tree
import SoundCard.Hw.Constraints
import SoundCard.Hw.Interval
import SoundCard.Hw.Mask
import SoundCard.Hw.Params
import SoundCard.Number.Binary64
import SoundCard.Number.Shortest
import SoundCard.Os.Errno
import SoundCard.Os.Trap
import SoundCard.Pcm.Area
import SoundCard.Pcm.Config
import SoundCard.Pcm.Device
import SoundCard.Pcm.Error
import SoundCard.Pcm.Flags
import SoundCard.Pcm.Format
import SoundCard.Pcm.Pointer
import SoundCard.Pcm.Records
import SoundCard.Pcm.Ring
import SoundCard.Pcm.State
import SoundCard.Pcm.Stream.Basic
import SoundCard.Pcm.Stream.Control
import SoundCard.Pcm.Stream.Dump
import SoundCard.Pcm.Stream.Mapped
import SoundCard.Pcm.Stream.Open
import SoundCard.Pcm.Stream.Transfer
import SoundCard.Proofs.CardRequests
import SoundCard.Proofs.FramePlacement
import SoundCard.Proofs.MappedPointer
import SoundCard.Proofs.MappedRounds
import SoundCard.Proofs.MappedTransfer
import SoundCard.Proofs.PlainTransfer
import SoundCard.Proofs.Recording
import SoundCard.Proofs.RegistryMirror
import SoundCard.Proofs.RegistryScan
import SoundCard.Proofs.StoredError
import SoundCard.Proofs.StreamRun
import SoundCard.Proofs.TlvRoundTrip
import SoundCard.Proofs.TransferCall
import SoundCard.Proofs.VirtualPointer
import SoundCard.Proofs.XrunRecovery
import SoundCard.Service.Answer
import SoundCard.Service.Fault
import SoundCard.Service.Mixer
import SoundCard.Service.Nodes
import SoundCard.Service.Params
import SoundCard.Service.Pure
import SoundCard.Service.Records
import SoundCard.Service.Render
import SoundCard.Service.Ring
import SoundCard.Service.Script
import SoundCard.Service.Stream
import SoundCard.Service.Typed
import SoundCard.Service.Virtual
import SoundCard.Text.Blank
import SoundCard.Text.GraphemeExtend
import SoundCard.Text.Printable
import SoundCard.Text.Quote
import SoundCard.Text.Utf8
import SoundCard.Virtual.Card
import SoundCard.Virtual.Pcm
import SoundCard.Wire.Read
import SoundCard.Wire.Value
import SoundCard.Wire.Write
import SoundCard.Proofs.PointerWrap
import SoundCard.Proofs.Refinement
import SoundCard.Proofs.ByteArea
import SoundCard.Proofs.PercentScale
import SoundCard.Proofs.TransferSizes
import SoundCard.Proofs.EventQueue
import SoundCard.Proofs.ValueAccess
import SoundCard.Proofs.EnumNames
import SoundCard.Proofs.ItemCalls
import SoundCard.Proofs.Narrowing
import SoundCard.Proofs.NodeNames
import SoundCard.Proofs.ValueBounds
import SoundCard.Proofs.ChoicePoint
import SoundCard.Proofs.ParamChoice
import SoundCard.Proofs.Negotiation
import SoundCard.Proofs.StreamOpening
import SoundCard.Proofs.RingCopy
import SoundCard.Proofs.TextCap
import SoundCard.Proofs.DeviceStates
import SoundCard.Proofs.FlagSoundness
import SoundCard.Proofs.TransferStates
import SoundCard.Proofs.MappedProgress
import SoundCard.Proofs.MappedSteps
import SoundCard.Proofs.MappedEnding
import SoundCard.Proofs.FaithfulDevice
import SoundCard.Proofs.MappedReach
