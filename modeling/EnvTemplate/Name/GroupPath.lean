import EnvTemplate.Name.Basic
import EnvTemplate.Text.Blank

/-!
# Group paths

A group path is written as segments with dots between them, the outermost group first. A segment
is trimmed and must then hold something, and only ASCII letters and digits, underscores, hyphens
and blanks. Each run of blanks inside it counts as a hyphen, and the camel case of the result is
the name of the group.
-/
namespace EnvTemplate.Name

/-- Why a text is no group path. -/
inductive GroupPathError
  /-- A segment of the path holds nothing but blanks. -/
  | emptySegment (path : String)
  /-- A segment holds a character that no segment may hold. -/
  | unexpectedCharacter (found : Char) (segment : String)
deriving DecidableEq, Repr

/-- The wording of a cause. -/
def GroupPathError.message : GroupPathError → String
  | emptySegment path => "empty segment in group path \"" ++ path ++ "\""
  | unexpectedCharacter found segment =>
    "unexpected character '" ++ String.ofList [found] ++ "' in group segment \"" ++ segment ++ "\""

/-- The characters a segment may hold. -/
def isSegmentChar (c : Char) : Bool := c.isAlphanum || c == '_' || c == '-' || Text.isBlank c

/-- Each run of blanks as one hyphen; `afterBlank` tells that the text follows a blank. -/
def hyphenateFrom (afterBlank : Bool) : List Char → List Char
  | [] => []
  | c :: rest =>
    if Text.isBlank c then
      if afterBlank then hyphenateFrom true rest else '-' :: hyphenateFrom true rest
    else c :: hyphenateFrom false rest

/-- Each run of blanks as one hyphen. -/
def hyphenate (segment : List Char) : List Char := hyphenateFrom false segment

/-- The group name of one segment of the given path. -/
def groupName? (path segment : List Char) : Except GroupPathError String :=
  let trimmed := Text.trim segment
  if trimmed = [] then .error (.emptySegment (String.ofList path))
  else
    match trimmed.find? fun c => !isSegmentChar c with
    | some found => .error (.unexpectedCharacter found (String.ofList trimmed))
    | none => .ok (String.ofList (camelChars (hyphenate trimmed)))

/-- The group names of the segments of a path, or the cause of the first bad segment. -/
def groupNames? (path : List Char) : List (List Char) → Except GroupPathError (List String)
  | [] => .ok []
  | segment :: segments =>
    match groupName? path segment with
    | .error cause => .error cause
    | .ok name =>
      match groupNames? path segments with
      | .error cause => .error cause
      | .ok names => .ok (name :: names)

/-- Read a group path. -/
def groupPath? (text : List Char) : Except GroupPathError (List String) :=
  let path := Text.trim text
  groupNames? path (Text.splitOn '.' path)

end EnvTemplate.Name
