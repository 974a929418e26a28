import SoundCard.Control.Mixer
import SoundCard.Text.Quote
/-! Structure dumps of the registry and its entries. An info record's type-dependent area
shows only its size; the fields a card never fills show their zeros. -/
namespace SoundCard.Control

open SoundCard.Text

/-- The dump of an element id. -/
def ElemId.debugText (id : ElemId) : String :=
  dumpFields "SndCtlElemId"
    [("numid", toString id.numid), ("iface", toString id.iface),
     ("device", toString id.device), ("subdevice", toString id.subdevice),
     ("name", dumpList (id.name.map toString)), ("index", toString id.index)]

/-- The dump of an info record. -/
def ElemInfo.debugText (i : ElemInfo) : String :=
  dumpFields "SndCtlElemInfo"
    [("id", i.id.debugText), ("type_", toString i.type), ("access", toString i.access),
     ("count", toString i.count), ("owner", "0"),
     ("value", s!"ValueArea<{infoAreaBytes}>"), ("dimen", dumpList (List.replicate 4 "0")),
     ("reserved", dumpList (List.replicate 56 "0"))]

/-- The dump of a registry entry. -/
def Entry.debugText (c : Entry) : String :=
  let names := match c.enumNames with
    | none => "None"
    | some ns => "Some(" ++ dumpList (ns.map quote) ++ ")"
  dumpFields "Control" [("info", c.info.debugText), ("name", quote c.name), ("enum_names", names)]

def Entry.handleDebugText (c : Entry) : String :=
  dumpFields "MixerCtl" [("ctl", c.debugText)]

/-- The dump of a registry: the card's name and how many elements it holds. -/
def Mixer.debugText (m : Mixer) : String :=
  dumpFields "Mixer" [("name", quote m.name), ("controls", toString m.numControls)]

end SoundCard.Control
