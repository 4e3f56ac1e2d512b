import EnvTemplate.FileSystem.Path

/-!
# File systems

A file system holds files and directories, each at its location, which is the list of the names
that lead to it from the root. A path is followed name by name, and what it passes through must be
directories; names and paths have a greatest length. Reading changes nothing; writing a file and
making a directory change one location.
-/
namespace EnvTemplate

/-- The names from the root to a file or a directory. -/
abbrev Location := List String

/-- What is at a location. -/
inductive Entry
  /-- A file with its bytes. -/
  | file (content : List UInt8)
  /-- A directory. -/
  | directory
deriving DecidableEq

/-- The files and directories below the root. -/
structure FileSystem where
  /-- Each location that is taken, with what is there. -/
  entries : List (Location × Entry)
deriving DecidableEq

/-- Why an operation on a file system fails. -/
inductive Fault
  /-- Nothing is there. -/
  | notFound
  /-- Something that is no directory is passed through. -/
  | notDirectory
  /-- A directory is there. -/
  | isDirectory
  /-- Something is there already. -/
  | alreadyExists
  /-- The bytes of a file are no text. -/
  | notText
  /-- A name or a whole path is longer than the system allows. -/
  | tooLong
  /-- A path holds the character that ends texts of the system. -/
  | zeroInPath
deriving DecidableEq, Repr

/-- The wording of a fault. -/
def Fault.message : Fault → String
  | notFound => "No such file or directory (os error 2)"
  | notDirectory => "Not a directory (os error 20)"
  | isDirectory => "Is a directory (os error 21)"
  | alreadyExists => "File exists (os error 17)"
  | notText => "stream did not contain valid UTF-8"
  | tooLong => "File name too long (os error 36)"
  | zeroInPath => "file name contained an unexpected NUL byte"

namespace FileSystem

/-- What is at a location; the root is a directory. -/
def entry? (fs : FileSystem) : Location → Option Entry
  | [] => some .directory
  | name :: names => fs.entries.lookup (name :: names)

/-- The entries after one of them is set: in its place, or at the end. -/
def setEntry (location : Location) (entry : Entry) :
    List (Location × Entry) → List (Location × Entry)
  | [] => [(location, entry)]
  | (other, held) :: rest =>
    if other = location then (location, entry) :: rest
    else (other, held) :: setEntry location entry rest

/-- The file system after something is put at a location. -/
def put (fs : FileSystem) (location : Location) (entry : Entry) : FileSystem :=
  ⟨setEntry location entry fs.entries⟩

/-- The most bytes that a name can have. -/
def maxNameBytes : Nat := 255

/-- The most bytes that a path can have. -/
def maxPathBytes : Nat := 4095

/-- What is wrong with a path whatever the file system holds. -/
def pathFault? (path : String) : Option Fault :=
  if path.toList.contains '\x00' then some .zeroInPath
  else if maxPathBytes < path.utf8ByteSize then some .tooLong
  else none

/-- The location that one name of a path leads to from that of a directory. -/
def step (here : Location) (name : String) : Except Fault Location :=
  if maxNameBytes < name.utf8ByteSize then .error .tooLong
  else .ok (if name = "." then here else if name = ".." then here.dropLast else here ++ [name])

/-- The location that one name of a path leads to from a location that must be a directory. -/
def enter (fs : FileSystem) (here : Location) (name : String) : Except Fault Location :=
  match fs.entry? here with
  | none => .error .notFound
  | some (.file _) => .error .notDirectory
  | some .directory => step here name

/-- The location that names lead to; what is there is not asked for. -/
def follow (fs : FileSystem) (here : Location) : List String → Except Fault Location
  | [] => .ok here
  | name :: names =>
    match fs.enter here name with
    | .error fault => .error fault
    | .ok next => fs.follow next names

/-- The location that the given names of an absolute path lead to. -/
def locate (fs : FileSystem) (path : String) (names : List String) : Except Fault Location :=
  match pathFault? path with
  | some fault => .error fault
  | none => fs.follow [] names

/-- The location of an absolute path and what is there. -/
def find (fs : FileSystem) (path : String) : Except Fault (Location × Entry) :=
  match fs.locate path (Path.names path) with
  | .error fault => .error fault
  | .ok location =>
    match fs.entry? location with
    | none => .error .notFound
    | some (.file content) =>
      if Path.endsWithSlash path then .error .notDirectory else .ok (location, .file content)
    | some .directory => .ok (location, .directory)

/-- Whether something is at an absolute path. -/
def exists? (fs : FileSystem) (path : String) : Bool := (fs.find path).toOption.isSome

/-- Whether a file is at an absolute path. -/
def isFile (fs : FileSystem) (path : String) : Bool :=
  match fs.find path with
  | .ok (_, .file _) => true
  | _ => false

/-- The text of the file at an absolute path. -/
def readText (fs : FileSystem) (path : String) : Except Fault String :=
  match fs.find path with
  | .error fault => .error fault
  | .ok (_, .directory) => .error .isDirectory
  | .ok (_, .file content) =>
    match String.fromUTF8? ⟨content.toArray⟩ with
    | some text => .ok text
    | none => .error .notText

/-- The bytes of a text. -/
def bytesOf (text : String) : List UInt8 := text.toUTF8.data.toList

/-- Write a text to the file at an absolute path, which is created when nothing is there. A path
with a slash at its end is refused like that of a directory, once the directory around it is met. -/
def writeText (fs : FileSystem) (path text : String) : Except Fault FileSystem :=
  if Path.endsWithSlash path then
    match fs.locate path ((Path.names path).dropLast ++ ["."]) with
    | .error fault => .error fault
    | .ok _ => .error .isDirectory
  else
    match fs.locate path (Path.names path) with
    | .error fault => .error fault
    | .ok location =>
      if fs.entry? location = some .directory then .error .isDirectory
      else .ok (fs.put location (.file (bytesOf text)))

/-- Make the directories that names lead to from a location where one is. A directory that is there
already is no fault, and what was made before a fault stays. A file in the way is told as something
that is no directory when names after it were to be followed at once, that is when nothing was
`made` before it. -/
def makeAlong (fs : FileSystem) (here : Location) (made : Bool) :
    List String → FileSystem × Option Fault
  | [] => (fs, none)
  | name :: names =>
    match step here name with
    | .error fault => (fs, some fault)
    | .ok next =>
      match fs.entry? next with
      | some .directory => fs.makeAlong next made names
      | some (.file _) =>
        (fs, some (if made ∨ names = [] then .alreadyExists else .notDirectory))
      | none => (fs.put next .directory).makeAlong next true names

/-- Make the directory at an absolute path and those around it. -/
def makePath (fs : FileSystem) (path : String) : FileSystem × Option Fault :=
  match pathFault? path with
  | some fault => (fs, some fault)
  | none => fs.makeAlong [] false (Path.names path)

end FileSystem

end EnvTemplate
