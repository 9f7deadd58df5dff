import PodAddressing.Document
import PodAddressing.Files
import PodAddressing.Record
/-!
The file in which records outlive the agent: one document with a list of records, ordered by subnet and
address. An entry that is no record is left out when the file is read. The file is written under another
name first and then takes its place.
-/

namespace PodAddressing.RecordFile

def entries? : Json → Option (List Json)
  | .object fields =>
      match Json.lookup? "records" fields with
      | some (.list entries) => some entries
      | _ => none
  | _ => none

-- An entry that is missing something or has a bad value is left out; other faults end the reading.
def readEntries : List Json → Except Fault (List Record)
  | [] => .ok []
  | entry :: rest =>
      match Record.ofJson entry with
      | .ok r => (readEntries rest).map (r :: ·)
      | .error fault => if fault.spoilsEntryOnly then readEntries rest else .error fault

def ofDocument (path : FilePath) (document : Json) : Except Fault (List Record) :=
  match entries? document with
  | some entries => readEntries entries
  | none => .error (.bad (.noRecordList path.text))

def load (files : Files) (path : FilePath) : Except Fault (List Record) := do
  match ← files.content? path with
  | none => pure []
  | some bytes => ofDocument path (← Document.ofBytes bytes)

def precedes (r s : Record) : Bool :=
  if r.subnet ≠ s.subnet then r.subnet < s.subnet else r.address ≤ s.address

def toDocument (records : List Record) : Json :=
  .object [("records", .list ((records.mergeSort precedes).map Record.toJson))]

def temporary? (path : FilePath) : Option FilePath := path.extended? ".tmp"

/-- Writes a file under its temporary name and moves it to its path. -/
def replace (files : Files) (path temporary : FilePath) (bytes : ByteArray) : Except Fault Unit × Files :=
  match files.write temporary bytes with
  | .error fault => (.error fault, files)
  | .ok written =>
      match written.move temporary path with
      | .error fault => (.error fault, written)
      | .ok moved => (.ok (), moved)

-- What was written before something failed stays.
def save (files : Files) (path : FilePath) (records : List Record) : Except Fault Unit × Files :=
  match files.makeDirectories path.parent, temporary? path with
  | (.error fault, files), _ => (.error fault, files)
  | (.ok (), files), none => (.error (.bad (.noFileName path.text)), files)
  | (.ok (), files), some temporary => replace files path temporary (toDocument records).write.toUTF8

end PodAddressing.RecordFile
