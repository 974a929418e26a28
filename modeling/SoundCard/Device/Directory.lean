import SoundCard.Device.Name
import SoundCard.Device.Tree
/-! The sound directory: `snd` in a private tree made afresh for each request, with the node
and directory names asked for; names may hold slashes, and a leading slash names a system path. -/
namespace SoundCard.Device

open SoundCard.Os SoundCard.Pcm

def systemRoot : Node :=
  .dir [("dev", .dir [("null", .device .null), ("zero", .device .zero), ("full", .device .full)]),
        ("tmp", .dir [])]

/-- The sound directory: its path in the working tree, the working tree, and the tree of
the system. -/
structure Directory where
  path : String
  root : Node
  system : Node := systemRoot
  deriving Inhabited

def sndDirName : String := "snd"

namespace Directory

/-- Whether a path is found from the root of the system rather than the working tree. -/
def isAbsolute (path : String) : Bool := path.startsWith "/"

def treeOf (d : Directory) (path : String) : Node :=
  if isAbsolute path then d.system else d.root

/-- Changes the tree a path is found in. -/
def change (d : Directory) (path : String) (f : Node → Except IoError Node) :
    Except IoError Directory :=
  if isAbsolute path then return { d with system := ← f d.system }
  else return { d with root := ← f d.root }

def absent : Directory := { path := sndDirName, root := .dir [] }

def fresh : Directory := { path := sndDirName, root := .dir [(sndDirName, .dir [])] }

def nodePath (d : Directory) (name : String) : String := joinPath d.path name

/-- Adds an empty file at `name` inside the directory, as creating a file for writing
does: an existing file is emptied. -/
def addNode (d : Directory) (name : String) : Except IoError Directory :=
  d.change (d.nodePath name) fun t => t.writeFile (d.nodePath name) []

/-- Adds the directory `name` inside the directory, with any missing parents. -/
def addDirs (d : Directory) (name : String) : Except IoError Directory :=
  d.change (d.nodePath name) fun t => t.makeDirs (d.nodePath name)

/-- Makes the sound directory, its empty files named by `nodes`, then the directories
named by `dirs`; when `present` is false nothing is made. The first failure stops it. -/
def create (present : Bool) (nodes dirs : List String) : Except IoError Directory := do
  if !present then return absent
  let d ← nodes.foldlM addNode fresh
  dirs.foldlM addDirs d

/-- Opens a name for reading and writing: a regular file's bytes or a device. -/
def openNode (d : Directory) (name : String) : Except IoError Contents :=
  (d.treeOf (d.nodePath name)).openFile (d.nodePath name)

/-- Writes `content` into the file `name`, creating it when there is none. -/
def write (d : Directory) (name : String) (content : List UInt8) : Except IoError Directory :=
  d.change (d.nodePath name) fun t => t.writeFile (d.nodePath name) content

def names (d : Directory) : Except IoError (List String) := (d.treeOf d.path).listDir d.path

end Directory

/-- A stream node found in the directory. -/
structure PcmNode where
  card : Nat
  device : Nat
  direction : Direction
  path : String
  deriving DecidableEq, Repr

/-- Whether a node sorts no later than another: by card, then device, playback before
capture. -/
def PcmNode.le (a b : PcmNode) : Bool :=
  let key (n : PcmNode) := (n.card, n.device, n.direction == .capture)
  let (c₁, d₁, k₁) := key a
  let (c₂, d₂, k₂) := key b
  c₁ < c₂ || (c₁ == c₂ && (d₁ < d₂ || (d₁ == d₂ && (!k₁ || k₂))))

/-- The stream nodes of the directory, by card, device and direction; entries of one key
keep their creation order. -/
def Directory.pcmNodes (d : Directory) : Except IoError (List PcmNode) := do
  let names ← d.names
  let nodes := names.filterMap fun n =>
    (parseNodeName? n).map fun (c, v, dir) =>
      { card := c, device := v, direction := dir, path := d.nodePath n }
  return nodes.mergeSort PcmNode.le

end SoundCard.Device
