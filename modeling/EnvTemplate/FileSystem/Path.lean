import EnvTemplate.Text.Blank
import EnvTemplate.Text.Case

/-!
# Paths

A path is a text of names with slashes between them. An absolute path begins with a slash. The
name of one dot stands for the place where it is met and that of two dots for the place around it;
a slash at the end asks for a directory.
-/
namespace EnvTemplate.Path

/-- Whether a path begins at the root. -/
def isAbsolute (path : String) : Bool := path.toList.head? == some '/'

/-- Whether a path asks for a directory. -/
def endsWithSlash (path : String) : Bool := path.toList.getLast? == some '/'

/-- The names of a path, dots included. -/
def names (path : String) : List String :=
  ((Text.splitOn '/' path.toList).filter (· ≠ [])).map String.ofList

/-- The names of a path without those that stand for the place where they are met. -/
def steps (path : String) : List String := (names path).filter (· ≠ ".")

/-- Names with slashes between them. -/
def joined (names : List String) : String := "/".intercalate names

/-- The absolute path of names from the root. -/
def ofNames (names : List String) : String := "/" ++ joined names

/-- A path seen from a directory. -/
def join (directory path : String) : String :=
  if isAbsolute path then path
  else if endsWithSlash directory then directory ++ path
  else directory ++ "/" ++ path

/-- What an absolute path begins with: two slashes at its front are kept, any other number counts
as one. -/
def root (path : String) : String :=
  match path.toList with
  | '/' :: '/' :: '/' :: _ => "/"
  | '/' :: '/' :: _ => "//"
  | _ => "/"

/-- A directory for more names, with a slash at its end. -/
def asLead (directory : String) : String :=
  if endsWithSlash directory then directory else directory ++ "/"

/-- The absolute form of a path, seen from a directory. Names of one dot and repeated slashes go,
names of two dots and a slash at the end stay. An empty path has no absolute form. -/
def absolute? (directory path : String) : Option String :=
  if path.isEmpty then none
  else
    let names := steps path
    let base := if isAbsolute path then root path else directory
    let whole := if names = [] then base else asLead base ++ joined names
    some (if endsWithSlash path then asLead whole else whole)

/-- The path of the directory around an absolute path, if it is not the root. -/
def parent? (path : String) : Option String :=
  match steps path with
  | [] => none
  | name :: rest =>
    let around := (name :: rest).dropLast
    some (if around = [] then root path else asLead (root path) ++ joined around)

/-- The names that lead from one place to another: one of two dots for each name left behind, then
the names ahead. -/
def between : List String → List String → List String
  | h :: here, t :: there =>
    if h = t then between here there else (h :: here).map (fun _ => "..") ++ (t :: there)
  | here, there => here.map (fun _ => "..") ++ there

/-- An absolute path as it is shown in a directory: by the names that lead there from the directory,
unless that takes more of them than the path has after the root. -/
def shownFrom (directory path : String) : String :=
  let ahead := between (steps directory) (steps path)
  if ahead.length ≤ (steps path).length then joined ahead else path

/-- The part of a name after its last dot, unless the name begins with that dot or has none. -/
def nameExtension? (name : String) : Option String :=
  let reversed := name.toList.reverse
  let after := reversed.takeWhile (· ≠ '.')
  match reversed.dropWhile (· ≠ '.') with
  | _ :: _ :: _ => if name = ".." then none else some (String.ofList after.reverse)
  | _ => none

/-- The extension of the last name of a path in small letters, or an empty text. -/
def extension (path : String) : String :=
  let found := ((steps path).getLast?.bind nameExtension?).getD ""
  String.ofList (Text.toLower found.toList)

/-- A path without one of two endings: the first that it has is dropped. -/
def withoutEnding? (path : String) (endings : List String) : Option String :=
  let reversed := path.toList.reverse
  endings.findSome? fun ending =>
    let backwards := ending.toList.reverse
    if backwards.isPrefixOf reversed then
      some (String.ofList (reversed.drop backwards.length).reverse)
    else none

end EnvTemplate.Path
