import DispatchGen.FilePath
import DispatchGen.Text.Quoted
import DispatchGen.Text.Sorted
import DispatchGen.Wire.Varint

/-! # A tree of files

Files and directories around a working directory. The directories above it exist; nothing else is
known of them. Every operation follows its path from directory to directory, so a path fails at the
first name that is missing or is no directory.
-/
namespace DispatchGen
open Wire

inductive Anchor where
  | top
  | above (levels : Nat)
  deriving Repr, DecidableEq, Inhabited

/-- A file or directory by the names that lead down to it from its anchor. -/
structure Place where
  anchor : Anchor
  names : List String := []
  deriving Repr, DecidableEq, Inhabited

namespace Place

def working : Place := ⟨.above 0, []⟩

/-- The directory a place is in; the top is in itself. -/
def outer (place : Place) : Place :=
  match place.names, place.anchor with
  | [], .top => place
  | [], .above levels => ⟨.above (levels + 1), []⟩
  | names, anchor => ⟨anchor, names.dropLast⟩

def inner (place : Place) (name : String) : Place :=
  { place with names := place.names ++ [name] }

def text (place : Place) : String :=
  match place.anchor with
  | .top => "/" ++ "/".intercalate place.names
  | .above levels => "/".intercalate (List.replicate levels ".." ++ place.names)

end Place

inductive Entry where
  | directory
  | file (content : Bytes)
  deriving Repr, DecidableEq, Inhabited

/-- Why an operation on a path fails. No path with a null character can be used at all. -/
inductive FileFault where
  | missing | present | notDirectory | isDirectory | nameTooLong | nullCharacter
  deriving Repr, DecidableEq, Inhabited

structure FileError where
  fault : FileFault
  path : FilePath
  deriving Repr, DecidableEq, Inhabited

namespace FileError

def numbered (error : FileError) (number : Nat) (reason : String) : String :=
  "[Errno " ++ toString number ++ "] " ++ reason ++ ": " ++ Text.quoted error.path.text

def message (error : FileError) : String :=
  match error.fault with
  | .missing => error.numbered 2 "No such file or directory"
  | .present => error.numbered 17 "File exists"
  | .notDirectory => error.numbered 20 "Not a directory"
  | .isDirectory => error.numbered 21 "Is a directory"
  | .nameTooLong => error.numbered 36 "File name too long"
  | .nullCharacter => "embedded null byte"

end FileError

structure FileStore where
  entries : List (Place × Entry) := []
  deriving Repr, Inhabited

namespace FileStore

/-- What stands at a place. Anchors are directories. -/
def entry? (store : FileStore) (place : Place) : Option Entry :=
  if place.names = [] then some .directory else store.entries.lookup place

/-- Puts an entry at a place, instead of what stood there. -/
def put (store : FileStore) (place : Place) (entry : Entry) : FileStore :=
  if store.entries.any (·.1 = place) then
    ⟨store.entries.map fun (p, e) => if p = place then (p, entry) else (p, e)⟩
  else ⟨store.entries ++ [(place, entry)]⟩

def nameLimit : Nat := 255

def pathLimit : Nat := 4095

/-- One name taken from a place, which has to be a directory. -/
def enter (store : FileStore) (place : Place) (name : String) : Except FileFault Place :=
  match store.entry? place with
  | none => .error .missing
  | some (.file _) => .error .notDirectory
  | some .directory =>
    if name = ".." then .ok place.outer
    else if name.utf8ByteSize > nameLimit then .error .nameTooLong
    else .ok (place.inner name)

/-- The place a path leads to. The last name need not exist. -/
def follow (store : FileStore) (path : FilePath) : Except FileFault Place :=
  if path.text.toList.contains '\x00' then .error .nullCharacter
  else if path.text.utf8ByteSize > pathLimit then .error .nameTooLong
  else path.names.foldlM store.enter (if path.root = "" then .working else ⟨.top, []⟩)

def isDirectory (store : FileStore) (path : FilePath) : Bool :=
  match store.follow path with
  | .ok place => store.entry? place = some .directory
  | .error _ => false

def makeDirectory (store : FileStore) (path : FilePath) : Except FileFault FileStore := do
  let place ← store.follow path
  match store.entry? place with
  | some _ => .error .present
  | none => .ok (store.put place .directory)

def ensureDirectory (store : FileStore) (path : FilePath) : Except FileError FileStore :=
  match store.makeDirectory path with
  | .ok store => .ok store
  | .error fault =>
    if fault ≠ .missing ∧ store.isDirectory path then .ok store else .error ⟨fault, path⟩

/-- Makes a directory with all that lead to it; `names` are those of the path, nearest first. -/
def ensureDirectories (store : FileStore) (root : String) : List String → Except FileError FileStore
  | [] => store.ensureDirectory ⟨root, []⟩
  | name :: outer =>
    let path : FilePath := ⟨root, (name :: outer).reverse⟩
    match store.ensureDirectory path with
    | .ok store => .ok store
    | .error error =>
      if error.fault = .missing then
        (ensureDirectories store root outer).bind fun store => store.ensureDirectory path
      else .error error

def read (store : FileStore) (path : FilePath) : Except FileError Bytes :=
  match store.follow path with
  | .error fault => .error ⟨fault, path⟩
  | .ok place =>
    match store.entry? place with
    | none => .error ⟨.missing, path⟩
    | some .directory => .error ⟨.isDirectory, path⟩
    | some (.file content) => .ok content

def write (store : FileStore) (path : FilePath) (content : Bytes) : Except FileError FileStore :=
  match store.follow path with
  | .error fault => .error ⟨fault, path⟩
  | .ok place =>
    match store.entry? place with
    | some .directory => .error ⟨.isDirectory, path⟩
    | _ => .ok (store.put place (.file content))

/-- Writes a file, after making the directories that lead to it. -/
def deliver (store : FileStore) (path : FilePath) (content : Bytes) : Except FileError FileStore := do
  let store ← store.ensureDirectories path.root path.parent.names.reverse
  store.write path content

/-- All files by their paths from the working directory, in code-point order. -/
def files (store : FileStore) : List (String × Bytes) :=
  let files := store.entries.filterMap fun
    | (place, .file content) => some (place.text, content)
    | _ => none
  files.mergeSort fun a b => decide (a.1 ≤ b.1)

/-- A working directory with the given files in it; what cannot be there is left out. -/
def ofFiles (files : List (String × Bytes)) : FileStore :=
  files.foldl (fun store (name, content) =>
    match store.deliver (FilePath.ofString name) content with
    | .ok store => store
    | .error _ => store) {}

end FileStore
end DispatchGen
