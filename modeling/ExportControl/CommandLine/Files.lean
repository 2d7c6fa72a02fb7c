/-
ExportControl.CommandLine.Files — the files that the program reads and writes.

* `FileAccess` is what the program needs of a file system: it reads a file as a
  whole and writes a file as a whole.
* `Folder` is a folder of text files. `Folder.access` reads and writes in it, by
  paths that start in the folder.
-/
import ExportControl.Register
import ExportControl.Text.Glyph

namespace ExportControl

open Text (Glyph)

/-- What reading a file gives. -/
inductive FileReading where
  | content (gs : List Glyph)
  /-- There is something, but it has no content. -/
  | unreadable
  | refused (reason : String)

/-- What the program needs of a file system. -/
structure FileAccess (m : Type → Type) where
  read : String → m FileReading
  /-- Writes a file as a whole; gives the reason if it cannot be written. -/
  write : String → String → m (Option String)

/-! ## Folders -/

/-- A text file by its path. -/
structure TextFile where
  path : List String
  content : String
  deriving DecidableEq, Repr

instance : Keyed TextFile (List String) := ⟨TextFile.path⟩

/-- A folder of text files. -/
abbrev Folder := Register TextFile

/-- Why a path leads nowhere. -/
inductive PathError where
  | missing
  | notFolder
  | isFolder
  deriving DecidableEq, Repr

/-- What is said about the path. -/
def PathError.message : PathError → String
  | missing => "No such file or directory (os error 2)"
  | notFolder => "Not a directory (os error 20)"
  | isFolder => "Is a directory (os error 21)"

/-- Where a path leads. -/
inductive Location where
  | folder
  | file (path : List String)
  /-- A file that is not there, in a folder that is. -/
  | vacant (path : List String)
  /-- A folder that is not there. -/
  | vacantFolder
  deriving DecidableEq, Repr

namespace Folder

/-- Whether there are files in a folder below this one. -/
def hasFolder (folder : Folder) (path : List String) : Bool :=
  folder.entries.any fun file => path.isPrefixOf file.path && path.length < file.path.length

/-- Follows a path from a folder on; outside of the outermost folder there is nothing. -/
def locate (folder : Folder) (here : List String) : List String → Except PathError Location
  | [] => .ok .folder
  | name :: rest =>
    if name = "" ∨ name = "." then folder.locate here rest
    else if name = ".." then
      if here.isEmpty then .error .missing else folder.locate here.dropLast rest
    else if folder.hasFolder (here ++ [name]) then folder.locate (here ++ [name]) rest
    else if folder.has (here ++ [name]) then
      if rest.isEmpty then .ok (.file (here ++ [name])) else .error .notFolder
    else if rest.isEmpty then .ok (.vacant (here ++ [name]))
    else if rest.all (· = "") then .ok .vacantFolder
    else .error .missing

/-- The parts of a path; a path from the root leads nowhere. -/
def locatePath (folder : Folder) (path : String) : Except PathError Location :=
  match (path.toList.splitOn '/').map String.ofList with
  | [""] => .error .missing
  | "" :: _ => .error .missing
  | parts => folder.locate [] parts

/-- Reads a file. -/
def read (folder : Folder) (path : String) : FileReading :=
  match folder.locatePath path with
  | .ok (.file path) =>
    match folder.find? path with
    | some file => .content (Glyph.ofString file.content)
    | none => .refused PathError.missing.message
  | .ok .folder => .unreadable
  | .ok (.vacant _) | .ok .vacantFolder => .refused PathError.missing.message
  | .error e => .refused e.message

/-- Writes a file; gives the reason if it cannot be written. -/
def write (folder : Folder) (path content : String) : Folder × Option String :=
  match folder.locatePath path with
  | .ok (.file path) | .ok (.vacant path) => (folder.put { path, content }, none)
  | .ok .folder | .ok .vacantFolder => (folder, some PathError.isFolder.message)
  | .error e => (folder, some e.message)

/-- Reading and writing in a folder that changes. -/
def access : FileAccess (StateM Folder) where
  read path folder := (folder.read path, folder)
  write path content folder :=
    let (folder, reason) := folder.write path content
    (reason, folder)

end Folder

end ExportControl
