import PodAddressing.Agent.Program
import PodAddressing.Resync
import PodAddressing.Settings.Readers
/-!
The agent at work on real files. Frames are not put on a wire here: no interface is known, so addresses that
are to be checked before use are reported as unusable.
-/

namespace PodAddressing

def textOfPlace (place : Place) : String := FilePath.text ⟨1, place.reverse⟩

def nodeOnDisk? (place : Place) : IO (Option Node) := do
  try
    let bytes ← IO.FS.readBinFile (textOfPlace place)
    pure (some (.file bytes))
  catch
    | .noFileOrDirectory .. => pure none
    | .inappropriateType .. => pure (some .directory)
    | fault => throw fault

def lookAlong (files : Files) (place : Place) : List String → IO Files
  | [] => pure files
  | name :: rest => do
      let place := name :: place
      match ← nodeOnDisk? place with
      | none => pure files
      | some (.file bytes) => pure (files.put place (.file bytes))
      | some .directory => lookAlong (files.put place .directory) place rest

def readFiles (paths : List FilePath) : IO Files := do
  let here := (FilePath.ofText (← IO.currentDir).toString).names
  let files ← lookAlong { here := here.reverse } [] here
  paths.foldlM (fun files path => lookAlong files [] (files.settled path).names) files

def writeFile (path : String) (bytes : ByteArray) : IO Unit := do
  IO.FS.writeBinFile (path ++ ".tmp") bytes
  IO.FS.rename (path ++ ".tmp") path

def writeChanged (before after : Files) : IO Unit :=
  after.nodes.forM fun (place, node) =>
    if (before.node? place).any (·.isSame node) then pure ()
    else
      match node with
      | .directory => IO.FS.createDirAll (textOfPlace place)
      | .file bytes => writeFile (textOfPlace place) bytes

/-- A source of hardware addresses; the seed makes one agent's differ from another's. -/
def seededMacs (seed : UInt64) : MacSource where
  nth n := Mac.ofOctets ((List.range 6).map fun i => (mixHash seed (hash (n, i))).toNat % 256)

def randomSeed : IO UInt64 := do
  let bytes ← IO.getRandomBytes 8
  pure (bytes.foldl (fun n b => n * 256 + b.toUInt64) 0)

def WatchedFile.isDue (w : WatchedFile) (second : Nat) : Bool :=
  match w.interval with
  | .finite false m e => second % max 1 (Number.Binary64.truncate false m e).toNat == 0
  | _ => true

namespace Agent

def namedFiles (args : List String) : IO (List FilePath) := do
  match CommandLine.parse grammar args with
  | .error _ => pure []
  | .ok arguments =>
      let source := Source.ofArguments arguments
      let named := source.path?.toList
      match source.settings .usual (← readFiles named) with
      | .error _ => pure named
      | .ok settings => pure (named ++ filesOf settings)

def pollDue (a : Agent) (second : Nat) : Agent :=
  let due := (List.range a.watched.length).filter fun i =>
    (a.watched[i]?).any (·.isDue second)
  due.foldl (fun a i => (a.poll i).2) a

def takeResyncs (a : Agent) : List String × Agent :=
  let w := Resync.Worker.rounds a.site.queue.size { queue := a.site.queue, plan := {} }
  (w.worked.reverse, { a with site := { a.site with queue := w.queue } })

/-- Polls the files again and again, each at its interval. -/
partial def serve (a : Agent) (paths : List FilePath) (second : Nat) : IO Unit := do
  let (keys, a) := a.takeResyncs
  keys.forM fun key => IO.println s!"resync requested: {key}"
  (← IO.getStdout).flush
  IO.sleep 1000
  let files ← readFiles paths
  let a := pollDue { a with site := { a.site with files } } second
  writeChanged files a.site.files
  serve a paths (second + 1)

end Agent

def report : Ending → IO UInt32
  | .status code => pure code.toUInt32
  | .refused code => pure code.toUInt32
  | .failed fault => do
      IO.eprintln fault.message
      pure 1

end PodAddressing

open PodAddressing in
def main (args : List String) : IO UInt32 := do
  let paths ← Agent.namedFiles args
  let files ← readFiles paths
  let run := Agent.run .usual files .isolated (seededMacs (← randomSeed)) args
  if let some agent := run.agent then
    writeChanged files agent.site.files
    if run.ending = .status 0 then agent.serve paths 1
  report run.ending
