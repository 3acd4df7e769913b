import CustomerNotice.Text.Bytes

/-!
The directory that settings are looked up in, and the files around the program from which it is
taken.
-/

namespace CustomerNotice

inductive DirectoryEntry
  | file (content : Bytes)
  | folder
  deriving DecidableEq, Repr

structure Directory where
  path : List String
  entries : List (String × DirectoryEntry)
  deriving DecidableEq, Repr

namespace Directory

/-- The content of the file with the given name. A folder of that name is no file. -/
def file? (directory : Directory) (name : String) : Option Bytes :=
  match directory.entries.lookup name with
  | some (.file content) => some content
  | _ => none

def shown (directory : Directory) (name : String) : String :=
  "/".intercalate (directory.path ++ [name])

end Directory

abbrev Location := List String

/-- The files around the program. Without a working directory nothing is found. -/
structure Files where
  present : Bool
  entries : List (Location × DirectoryEntry)
  deriving DecidableEq, Repr

namespace Files

/-- The folder of the settings always exists. -/
def settingsFolder : String := "configuration"

def splitPath (path : String) : Location :=
  let rec split : List Char → List Char → List (List Char)
    | part, [] => [part]
    | part, character :: rest =>
        if character = '/' then part :: split [] rest else split (part ++ [character]) rest
  ((split [] path.toList).map String.ofList).filter fun part => part != "" && part != "."

def empty : Files := ⟨true, []⟩

def put (files : Files) (location : Location) (entry : DirectoryEntry) : Files :=
  { files with
      entries := files.entries.filter (fun other => other.1 != location) ++ [(location, entry)] }

def remove (files : Files) (location : Location) : Files :=
  { files with entries := files.entries.filter fun other => other.1 != location }

/-- A folder is one by itself or because something is below it. -/
def isFolder (files : Files) (location : Location) : Bool :=
  location = [] || location = [settingsFolder]
    || files.entries.any fun (other, entry) =>
        (other = location && entry = .folder)
          || (location.isPrefixOf other && location.length < other.length)

/-- Follows a path from a location. Two dots lead back to the surrounding folder. -/
def follow? (files : Files) (location : Location) : List String → Option Location
  | [] => some location
  | part :: rest =>
      if part = ".." then
        if location.isEmpty then none else files.follow? location.dropLast rest
      else
        let next := location ++ [part]
        if files.isFolder next then files.follow? next rest else none

def directlyIn (files : Files) (location : Location) : List (String × DirectoryEntry) :=
  files.entries.filterMap fun (other, entry) =>
    match other.getLast? with
    | some name => if other = location ++ [name] then some (name, entry) else none
    | none => none

def isAbsolute (path : String) : Bool := path.toList.head? = some '/'

/-- The directory that a path leads to from the working directory; an empty one if there is
none. -/
def directory (files : Files) (path : String) : Directory :=
  let parts := splitPath path
  { path := parts
    entries :=
      match files.follow? [] parts with
      | some location =>
          if files.present && !isAbsolute path then files.directlyIn location else []
      | none => [] }

end Files
end CustomerNotice
