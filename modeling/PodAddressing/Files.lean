import PodAddressing.Fault
import PodAddressing.Table
import PodAddressing.Text.Basic
import PodAddressing.Text.Quoted
/-!
Paths of files. A path that is read from a text loses its empty parts and its single dots; the parts that lead
upwards are kept, since where they lead depends on what is there.
-/

namespace PodAddressing

structure FilePath where
  /-- The slashes in front. Two of them, and no more than two, are kept as two. -/
  slashes : Nat := 0
  names : List String
  deriving DecidableEq, Repr

namespace FilePath

def upwards : String := ".."

def ofText (s : String) : FilePath where
  slashes :=
    match (s.toList.takeWhile (· == '/')).length with
    | 0 => 0
    | 2 => 2
    | _ => 1
  names := (Text.pieces '/' s).filter fun name => name ≠ "" && name ≠ "."

def text (p : FilePath) : String :=
  if p.slashes = 0 && p.names.isEmpty then "."
  else String.ofList (List.replicate p.slashes '/') ++ String.intercalate "/" p.names

def isAbsolute (p : FilePath) : Bool := p.slashes != 0

def parent (p : FilePath) : FilePath := { p with names := p.names.dropLast }

def extended? (p : FilePath) (more : String) : Option FilePath :=
  p.names.getLast?.map fun name => { p with names := p.names.dropLast ++ [name ++ more] }

/-- Whether the path itself says that there is a directory. -/
def endsUpwards (p : FilePath) : Bool := p.names.getLast?.all (· == upwards)

/-- The longest name in bytes, and the longest text of a path. -/
def nameLimit : Nat := 255
def textLimit : Nat := 4095

/-- What is wrong with a path wherever it leads, if something is. -/
def fault? (p : FilePath) : Option Fault :=
  let s := p.text
  if s.toList.any fun c => Text.isHalf c && !Text.isByteHalf c then some .unencodable
  else if '\x00' ∈ s.toList then some (.bad .nullInPath)
  else if textLimit < s.utf8ByteSize then some (.file .nameTooLong s)
  else none

end FilePath

/-!
A tree of directories and files. A path is followed name by name from the root or from the directory that the
program works in: every name but the last has to be a directory's, and two dots lead to the directory above.
-/

inductive Node
  | directory
  | file (bytes : ByteArray)

namespace Node

def isDirectory : Node → Bool
  | directory => true
  | file _ => false

def isSame : Node → Node → Bool
  | directory, directory => true
  | file bytes, file other => bytes.data == other.data
  | _, _ => false

end Node

/-- The names that lead from the root to a node, the last one first. -/
abbrev Place := List String

structure Files where
  nodes : Table Place Node := []
  /-- The directory that relative paths start from. -/
  here : Place := []

namespace Files
variable (f : Files)

-- The root is there without being listed.
def node? : Place → Option Node
  | [] => some .directory
  | place => f.nodes.get? place

def put (place : Place) (node : Node) : Files := { f with nodes := f.nodes.put place node }

def erase (place : Place) : Files := { f with nodes := f.nodes.erase place }

def start (p : FilePath) : Place := if p.isAbsolute then [] else f.here

/-- The path from the root that is left if two dots take back the name before them. -/
def settled (p : FilePath) : FilePath :=
  let step (dir : Place) (name : String) := if name = FilePath.upwards then dir.drop 1 else name :: dir
  ⟨1, (p.names.foldl step (f.start p)).reverse⟩

def below (dir : Place) (name : String) : Except FileFault Place :=
  if name = FilePath.upwards then .ok (dir.drop 1)
  else if FilePath.nameLimit < name.utf8ByteSize then .error .nameTooLong
  else .ok (name :: dir)

def enter (dir : Place) (name : String) : Except FileFault Place := do
  let place ← below dir name
  match f.node? place with
  | some .directory => pure place
  | some (.file _) => throw .notDirectory
  | none => throw .missing

def follow : Place → List String → Except FileFault Place
  | dir, [] => .ok dir
  | dir, [name] => below dir name
  | dir, name :: rest => do follow (← f.enter dir name) rest

/-- The place that a path leads to; its last name need not be in use. -/
def place (p : FilePath) : Except Fault Place :=
  match p.fault? with
  | some fault => .error fault
  | none => (f.follow (f.start p) p.names).mapError fun fault => .file fault p.text

def find (p : FilePath) : Except Fault Node := do
  match f.node? (← f.place p) with
  | some node => pure node
  | none => throw (.file .missing p.text)

-- A path that leads nowhere has nothing, and neither has one that cannot be; a name that is too long
-- is a fault.
def find? (p : FilePath) : Except Fault (Option Node) :=
  match f.find p with
  | .ok node => .ok (some node)
  | .error (.file .missing _) | .error (.file .notDirectory _) => .ok none
  | .error .unencodable | .error (.bad .nullInPath) => .ok none
  | .error fault => .error fault

def has (p : FilePath) : Except Fault Bool := (f.find? p).map (·.isSome)

def hasDirectory (p : FilePath) : Except Fault Bool := (f.find? p).map (·.any Node.isDirectory)

def read (p : FilePath) : Except Fault ByteArray := do
  match ← f.find p with
  | .file bytes => pure bytes
  | .directory => throw (.file .directory p.text)

def content? (p : FilePath) : Except Fault (Option ByteArray) := do
  if ← f.has p then some <$> f.read p else pure none

def filesHere : List FilePath :=
  f.nodes.filterMap fun (place, node) =>
    let names := place.take (place.length - f.here.length)
    if !node.isDirectory && names ++ f.here = place then some ⟨0, names.reverse⟩ else none

end Files

/-!
Changing the tree: writing, moving and removing files, and making directories. Only the making of several
directories can fail halfway; the other changes are made as a whole or not at all.
-/

namespace Files
variable (f : Files)

def write (p : FilePath) (bytes : ByteArray) : Except Fault Files := do
  let place ← f.place p
  match f.node? place with
  | some .directory => throw (.file .directory p.text)
  | _ => pure (f.put place (.file bytes))

def remove (p : FilePath) : Except Fault Files := do
  let place ← f.place p
  match f.node? place with
  | none => throw (.file .missing p.text)
  | some .directory => throw (.file .directory p.text)
  | some (.file _) => pure (f.erase place)

def move (source target : FilePath) : Except Fault Files := do
  let left ← f.place source
  let taken ← f.place target
  match f.node? left with
  | none => throw (.file .missing source.text)
  | some node =>
      if target.endsUpwards then throw (.file .busy target.text)
      if (f.node? taken).any Node.isDirectory then throw (.file .directory target.text)
      pure ((f.erase left).put taken node)

section Directories

def makeDirectory (p : FilePath) : Except Fault Files := do
  let place ← f.place p
  if (f.node? place).isSome then throw (.file .occupied p.text)
  pure (f.put place .directory)

/-- Whatever kept a directory from being made does not count if it is there. -/
def accept (p : FilePath) : Except Fault Files → Except Fault Unit × Files
  | .ok f => (.ok (), f)
  | .error fault =>
      match f.hasDirectory p with
      | .ok true => (.ok (), f)
      | .ok false => (.error fault, f)
      | .error fault => (.error fault, f)

-- The directories above are only made where the one asked for cannot be made without them.
def makeAll (f : Files) (slashes : Nat) : List String → Except Fault Unit × Files
  | [] => f.accept ⟨slashes, []⟩ (f.makeDirectory ⟨slashes, []⟩)
  | name :: above =>
      let p : FilePath := ⟨slashes, (name :: above).reverse⟩
      match f.makeDirectory p with
      | .error (.file .missing _) =>
          match makeAll f slashes above with
          | (.error fault, f) => (.error fault, f)
          | (.ok (), f) => f.accept p (f.makeDirectory p)
      | made => f.accept p made

def makeDirectories (p : FilePath) : Except Fault Unit × Files :=
  f.makeAll p.slashes p.names.reverse

end Directories

end Files

end PodAddressing
