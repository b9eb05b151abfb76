/-!
Contract: where a report goes that is saved under a path.

A path is followed name by name, from the folder in which the program starts or,
behind a leading slash, from the root. The names that are passed have to be folders;
the last one is the report's own. Nothing is in the folder of the start. It lies in
one of the usual folders of the root, of which only the devices have known names.

Owns:
- the faults of writing a file;
- the folders and devices that a path may lead to;
- what becomes of a report under each path.

Does not own: the report.
-/

namespace ContextCache.CommandLine

/-- Why a file could not be written, in the words of the operating system. -/
structure FileFault where
  code : Nat
  kind : String
  message : String
deriving DecidableEq, Repr

namespace FileFault

def notFound : FileFault :=
  ⟨2, "NotFound", "No such file or directory"⟩

def denied : FileFault :=
  ⟨13, "PermissionDenied", "Permission denied"⟩

/-- A name on the way to the file is no folder's. -/
def notDirectory : FileFault :=
  ⟨20, "NotADirectory", "Not a directory"⟩

def isDirectory : FileFault :=
  ⟨21, "IsADirectory", "Is a directory"⟩

def full : FileFault :=
  ⟨28, "StorageFull", "No space left on device"⟩

def readOnly : FileFault :=
  ⟨30, "ReadOnlyFilesystem", "Read-only file system"⟩

/-- A name, or the whole path, is longer than a file system allows. -/
def nameTooLong : FileFault :=
  ⟨36, "InvalidFilename", "File name too long"⟩

def all : List FileFault :=
  [notFound, denied, notDirectory, isDirectory, full, readOnly, nameTooLong]

def ofCode? (code : Nat) : Option FileFault :=
  all.find? fun fault => fault.code == code

end FileFault

inductive Device where
  | sink
  | full
  | output
  | errors
deriving DecidableEq, Repr

/-- The folders that a path passes. -/
inductive Folder where
  /-- The folder in which the program starts. -/
  | own
  /-- A usual folder of the root, such as the one around the program's own. -/
  | shared
  | devices
  | root
deriving DecidableEq, Repr

/-- What becomes of a report that can be saved. -/
inductive Destination where
  /-- It is a file of the folder in which the program starts. -/
  | file (name : String)
  /-- It is not in that folder. -/
  | elsewhere
  /-- It is printed. -/
  | output
  /-- It is printed among the notes. -/
  | errors
deriving DecidableEq, Repr

def maxNameBytes : Nat := 255

def maxPathBytes : Nat := 4095

/-- The usual folders of the root, without the devices. -/
def usualFolders : List String :=
  ["bin", "boot", "etc", "home", "lib", "lib64", "media", "mnt", "opt", "proc", "root", "run",
    "sbin", "srv", "sys", "tmp", "usr", "var"]

def Device.write : Device → Except FileFault Destination
  | sink => .ok .elsewhere
  | full => .error .full
  | output => .ok .output
  | errors => .ok .errors

namespace Folder

/-- The folder around a folder; the root is around itself. -/
def parent : Folder → Folder
  | own => shared
  | shared => root
  | devices => root
  | root => root

def folder? (folder : Folder) (name : String) : Option Folder :=
  match folder with
  | root =>
    if name = "dev" then some devices
    else if name ∈ usualFolders then some shared
    else none
  | _ => none

def device? (folder : Folder) (name : String) : Option Device :=
  match folder with
  | devices =>
    if name = "null" ∨ name = "zero" then some .sink
    else if name = "full" then some .full
    else if name = "stdout" then some .output
    else if name = "stderr" then some .errors
    else none
  | _ => none

def enter (folder : Folder) (name : String) : Except FileFault Folder :=
  if name = "." then .ok folder
  else if name = ".." then .ok folder.parent
  else if maxNameBytes < name.utf8ByteSize then .error .nameTooLong
  else
    match folder.folder? name with
    | some inner => .ok inner
    | none => if (folder.device? name).isSome then .error .notDirectory else .error .notFound

/-- Saves a report in a folder. A name with a slash behind it is refused as a
folder's before it is looked up. -/
def save (folder : Folder) (name : String) (slashed : Bool) : Except FileFault Destination :=
  if name = "." ∨ name = ".." ∨ slashed then .error .isDirectory
  else if maxNameBytes < name.utf8ByteSize then .error .nameTooLong
  else if (folder.folder? name).isSome then .error .isDirectory
  else
    match folder.device? name with
    | some device => device.write
    | none => if folder = own then .ok (.file name) else .ok .elsewhere

/-- Follows names from a folder and saves the report under the last one. Without a
name it is the folder itself that is meant. -/
def follow (slashed : Bool) : Folder → List String → Except FileFault Destination
  | _, [] => .error .isDirectory
  | folder, [name] => folder.save name slashed
  | folder, name :: next :: others =>
    match folder.enter name with
    | .ok inner => inner.follow slashed (next :: others)
    | .error fault => .error fault

end Folder

def pathNames (path : String) : List String :=
  (path.splitOn "/").filter fun name => name ≠ ""

def destination (path : String) : Except FileFault Destination :=
  if maxPathBytes < path.utf8ByteSize then .error .nameTooLong
  else
    let start := if path.startsWith "/" then Folder.root else Folder.own
    start.follow (path.endsWith "/") (pathNames path)

end ContextCache.CommandLine
