import SoundCard.Os.Errno
/-! A file system tree and the calls made on it, with the system's path rules: components,
`.` and `..`, name and path length limits, and a trailing slash asking for a directory. -/
namespace SoundCard.Device

open SoundCard.Os

/-- The character devices every system offers: `null`, `zero`, and `full`, which refuses
every write for want of space. -/
inductive Special where
  | null
  | zero
  | full
  deriving DecidableEq, Repr, Inhabited

/-- A node of the tree: a regular file with its contents, a character device, or a
directory with its entries in creation order. -/
inductive Node where
  | file (content : List UInt8)
  | device (kind : Special)
  | dir (entries : List (String × Node))
  deriving Inhabited

/-- What an opened path reads from: the bytes of a regular file, or a device. -/
inductive Contents where
  | bytes (data : List UInt8)
  | device (kind : Special)
  deriving DecidableEq, Repr, Inhabited

namespace Node

/-- The node at a path of names from this one. -/
def get? : Node → List String → Option Node
  | n, [] => some n
  | .dir es, c :: cs => match es.lookup c with
    | some n => n.get? cs
    | none => none
  | _, _ :: _ => none

/-- Sets the entry `name` of a directory's entries, in place or at the end. -/
def setEntry (name : String) (n : Node) (es : List (String × Node)) : List (String × Node) :=
  if es.any (·.1 == name) then es.map fun (k, v) => if k == name then (k, n) else (k, v)
  else es ++ [(name, n)]

/-- Changes the entries of the directory at a path of names. -/
def updateDir : Node → List String → (List (String × Node) → List (String × Node)) → Node
  | .dir es, [], f => .dir (f es)
  | .dir es, c :: cs, f => .dir (es.map fun (k, v) => if k == c then (k, v.updateDir cs f) else (k, v))
  | n, _, _ => n

end Node

def nameMax : Nat := 255

def pathMax : Nat := 4096

def osError (n : Int) : IoError := .os n

/-- Follows components that must all be directories from `cur`, whose names from the root are
`here`, last first; answers the names of the directory reached. -/
def Node.walkFrom (root : Node) : List String → Node → List String → Except IoError (List String)
  | here, _, [] => .ok here.reverse
  | here, cur, c :: cs =>
    if c == "." then root.walkFrom here cur cs
    else if c == ".." then
      let up := here.drop 1
      root.walkFrom up ((root.get? up.reverse).getD root) cs
    else if c.utf8ByteSize > nameMax then .error (osError Errno.nameTooLong)
    else match cur with
      | .dir es => match es.lookup c with
        | some (.dir d) => root.walkFrom (c :: here) (.dir d) cs
        | some _ => .error (osError Errno.notDirectory)
        | none => .error (osError Errno.noEntry)
      | _ => .error (osError Errno.noEntry)

/-- What a path names: a directory reached by `.` or `..`, or an entry of a directory,
which may not exist yet. -/
inductive Place where
  | self (names : List String)
  | entry (parent : List String) (name : String)

/-- A path's place and whether it ends in a slash. -/
structure Located where
  place : Place
  slash : Bool

def components (path : String) : List String := (path.splitOn "/").filter (· != "")

/-- Finds what a path names. -/
def Node.locate (root : Node) (path : String) : Except IoError Located :=
  if path.contains '\x00' then .error .nulInPath
  else if path.utf8ByteSize ≥ pathMax then .error (osError Errno.nameTooLong)
  else
    let comps := components path
    let slash := path.endsWith "/"
    match comps.getLast? with
    | none => if path.isEmpty then .error (osError Errno.noEntry) else .ok ⟨.self [], slash⟩
    | some last => do
      let parent ← root.walkFrom [] root comps.dropLast
      if last == "." then pure ⟨.self parent, slash⟩
      else if last == ".." then pure ⟨.self parent.dropLast, slash⟩
      else if last.utf8ByteSize > nameMax then .error (osError Errno.nameTooLong)
      else pure ⟨.entry parent last, slash⟩

namespace Node

/-- Creates or empties a regular file and writes `content`; a device takes the write, which
only `full` refuses. -/
def writeFile (root : Node) (path : String) (content : List UInt8) : Except IoError Node := do
  let ⟨place, slash⟩ ← root.locate path
  match place with
  | .self _ => .error (osError Errno.isDirectory)
  | .entry parent name =>
    match root.get? (parent ++ [name]) with
    | some (.dir _) => .error (osError Errno.isDirectory)
    | some (.file _) =>
      if slash then .error (osError Errno.notDirectory)
      else pure (root.updateDir parent (setEntry name (.file content)))
    | some (.device k) =>
      if slash then .error (osError Errno.notDirectory)
      else if k = .full ∧ content ≠ [] then .error (osError Errno.noSpace)
      else pure root
    | none =>
      if slash then .error (osError Errno.isDirectory)
      else pure (root.updateDir parent (setEntry name (.file content)))

/-- Opens an existing regular file or device for reading and writing. -/
def openFile (root : Node) (path : String) : Except IoError Contents := do
  let ⟨place, slash⟩ ← root.locate path
  match place with
  | .self _ => .error (osError Errno.isDirectory)
  | .entry parent name =>
    match root.get? (parent ++ [name]) with
    | some (.dir _) => .error (osError Errno.isDirectory)
    | some (.file c) => if slash then .error (osError Errno.notDirectory) else pure (.bytes c)
    | some (.device k) =>
      if slash then .error (osError Errno.notDirectory) else pure (.device k)
    | none => .error (osError Errno.noEntry)

/-- Makes a directory; any existing name is `EEXIST`. -/
def makeDir (root : Node) (path : String) : Except IoError Node := do
  let ⟨place, _⟩ ← root.locate path
  match place with
  | .self _ => .error (osError Errno.fileExists)
  | .entry parent name =>
    match root.get? (parent ++ [name]) with
    | some _ => .error (osError Errno.fileExists)
    | none => pure (root.updateDir parent (setEntry name (.dir [])))

/-- Whether a path names a directory. -/
def isDirAt (root : Node) (path : String) : Bool :=
  match root.locate path with
  | .ok ⟨.self _, _⟩ => true
  | .ok ⟨.entry parent name, _⟩ =>
    match root.get? (parent ++ [name]) with
    | some (.dir _) => true
    | _ => false
  | .error _ => false

/-- The names in a directory, in creation order. -/
def listDir (root : Node) (path : String) : Except IoError (List String) := do
  let ⟨place, _⟩ ← root.locate path
  let names := match place with
    | .self names => names
    | .entry parent name => parent ++ [name]
  match root.get? names with
  | some (.dir es) => pure (es.map (·.1))
  | some _ => .error (osError Errno.notDirectory)
  | none => .error (osError Errno.noEntry)

/-- Makes a directory and the missing ones above it, given its components last first. -/
def makeDirsBelow (root : Node) : List String → Except IoError Node
  | [] => .ok root
  | c :: above =>
    let path := "/".intercalate (c :: above).reverse
    match root.makeDir path with
    | .ok r => .ok r
    | .error e =>
      if e == osError Errno.noEntry then do
        let root ← root.makeDirsBelow above
        match root.makeDir path with
        | .ok r => .ok r
        | .error e => if root.isDirAt path then .ok root else .error e
      else if root.isDirAt path then .ok root else .error e

/-- Makes a directory at a path and every missing directory above it. -/
def makeDirs (root : Node) (path : String) : Except IoError Node :=
  match root.makeDir path with
  | .ok r => .ok r
  | .error e =>
    if e == osError Errno.noEntry then do
      let above := ((components path).filter (· != ".")).dropLast.reverse
      let root ← root.makeDirsBelow above
      match root.makeDir path with
      | .ok r => .ok r
      | .error e => if root.isDirAt path then .ok root else .error e
    else if root.isDirAt path then .ok root else .error e

end Node

end SoundCard.Device
