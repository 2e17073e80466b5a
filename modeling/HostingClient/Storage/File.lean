import HostingClient.Storage.Basic
import HostingClient.Storage.FileSystem
import HostingClient.Text.Blank
import HostingClient.Json.Printer

/-! # Storage in a file

The keys and texts are the members of a JSON object in one file. A file that is missing or blank holds none.
Each change reads the file, changes what it holds and replaces it; a file that cannot be decoded counts as empty
then, while one that cannot be read at all makes the change fail. -/

namespace HostingClient

/-- A storage in a file of a file system. -/
structure FileStorage where
  /-- Where the file is. -/
  path : String
  disk : FileSystem

namespace FileStorage

/-- The name of the file. -/
def fileName : String := "session.json"

/-- The storage in a directory. -/
def inDirectory (directory : String) (disk : FileSystem) : FileStorage := ⟨FileSystem.join directory fileName, disk⟩

/-- The path of the file. -/
def location (s : FileStorage) : Path := s.disk.resolve s.path

/-- How the file holds the items. -/
def codec : Codec (Dict String) := .dict .text

/-- The items in a text. -/
def itemsOfText (s : List Char) : Except Failure (Dict String) :=
  if s.all Text.isBlank then .ok .empty
  else (codec.decode.run (String.ofList s)).mapError Failure.ofDecode

/-- The items in the file. -/
def readAll (s : FileStorage) : Except Failure (Dict String) :=
  match s.disk.readText s.location with
  | .ok text => itemsOfText text
  | .error .missing => .ok .empty
  | .error .other => .error Failure.io

/-- Puts items into the file. -/
def writeAll (items : Dict String) (s : FileStorage) : Except Failure Unit × FileStorage :=
  match s.disk.makeDirectories s.location.dropLast with
  | none => (.error Failure.io, s)
  | some disk =>
    match disk.replaceFile s.location (Text.Utf8.encode (codec.encode items).indented.toList) with
    | (.ok (), disk) => (.ok (), { s with disk })
    | (.error (), disk) => (.error Failure.io, { s with disk })

/-- Changes the items. -/
def modify (change : Dict String → Dict String) (s : FileStorage) : Except Failure Unit × FileStorage :=
  match s.readAll with
  | .ok items => writeAll (change items) s
  | .error f => if f.kind = .serialization then writeAll (change .empty) s else (.error f, s)

end FileStorage

instance : Storage FileStorage where
  get key s := (s.readAll.map fun items => items.find? key, s)
  set key value := FileStorage.modify fun items => items.insert key value
  remove key := FileStorage.modify fun items => items.erase key

end HostingClient
