import EnvTemplate.Name.GroupPath

/-!
# Items, diagnostics and options of a template

A template declares environment keys, one item each, with a sample of the value and, where they
are known, the group of the key and the values it may take. Reading a template never stops at a
bad line: what is wrong is told in diagnostics, each with its line and its cause.
-/
namespace EnvTemplate.Template

/-- A declared key. -/
structure Item where
  /-- The environment key. -/
  key : String
  /-- The text after the equals sign. -/
  sample : String
  /-- The name of the value in the generated module. -/
  property : String
  /-- The groups around the value, the outermost first. -/
  group : Option (List String)
  /-- The values allowed, when the sample lists them. -/
  choices : Option (List String)
deriving DecidableEq, Repr

/-- Whether the item lies inside at least one group. -/
def Item.isGrouped (item : Item) : Bool :=
  match item.group with
  | some (_ :: _) => true
  | _ => false

/-- How much a diagnostic weighs: an error prevents that a module is written. -/
inductive Severity
  /-- The template can still be used. -/
  | warning
  /-- The template cannot be used. -/
  | error
deriving DecidableEq, Repr

/-- The word in front of a displayed diagnostic. -/
def Severity.label : Severity → String
  | warning => "WARNING"
  | error => "ERROR"

/-- The name of a severity in a report. -/
def Severity.name : Severity → String
  | warning => "warning"
  | error => "error"

/-- What is wrong with a line. -/
inductive Cause
  /-- The line is no comment and no assignment. -/
  | malformedLine (line : String)
  /-- An earlier line assigns the same key. -/
  | repeatedKey (key : String)
  /-- A group directive names no group path. -/
  | badGroup (reason : Name.GroupPathError)
deriving DecidableEq, Repr

/-- Only a bad group is an error. -/
def Cause.severity : Cause → Severity
  | malformedLine _ => .warning
  | repeatedKey _ => .warning
  | badGroup _ => .error

/-- The wording of a cause. -/
def Cause.message : Cause → String
  | malformedLine line =>
    "Invalid env line format: \"" ++ line ++ "\". Expected KEY=VALUE."
  | repeatedKey key => "Duplicate key detected: \"" ++ key ++ "\""
  | badGroup reason => "Invalid group directive: " ++ reason.message

/-- A problem on a line of a template. -/
structure Diagnostic where
  /-- The number of the line, from one. -/
  line : Nat
  /-- What is wrong. -/
  cause : Cause
deriving DecidableEq, Repr

/-- How much the diagnostic weighs. -/
def Diagnostic.severity (diagnostic : Diagnostic) : Severity := diagnostic.cause.severity

/-- The wording of the diagnostic. -/
def Diagnostic.message (diagnostic : Diagnostic) : String := diagnostic.cause.message

/-- Whether the diagnostic is an error. -/
def Diagnostic.isError (diagnostic : Diagnostic) : Bool := diagnostic.severity == .error

/-- The diagnostic as a line of its own. -/
def Diagnostic.display (diagnostic : Diagnostic) : String :=
  diagnostic.severity.label ++ " (line " ++ toString diagnostic.line ++ "): " ++
    diagnostic.message

/-- What assigns groups to keys. -/
inductive Grouping
  /-- Directives open groups. -/
  | explicit
  /-- The part of a key before its first underscore is its group. -/
  | pattern
deriving DecidableEq, Repr

/-- A mode name: blanks around it and letter case do not count. -/
def modeName (name : String) : String := String.ofList (Text.toLower (Text.trim name.toList))

/-- The grouping of a name. -/
def Grouping.ofName? (name : String) : Option Grouping :=
  match modeName name with
  | "explicit" => some explicit
  | "pattern" => some pattern
  | _ => none

/-- How a template is read. -/
structure Options where
  /-- Whether keys are grouped at all. -/
  grouped : Bool
  /-- What assigns the groups. -/
  grouping : Grouping
  /-- Whether a blank line closes the group that is open. -/
  blankCloses : Bool
  /-- Whether groups and repeated keys are disregarded altogether. -/
  flat : Bool
deriving DecidableEq, Repr

namespace Options

/-- Groups are opened by directives and closed by blank lines. -/
def standard : Options := ⟨true, .explicit, true, false⟩

/-- No groups. -/
def flattened : Options := { standard with grouped := false, flat := true }

/-- Groups are taken from the keys. -/
def patterned : Options := { standard with grouping := .pattern }

/-- Whether directives open groups. -/
def followsDirectives (options : Options) : Bool :=
  !options.flat && options.grouped && options.grouping == .explicit

/-- Whether keys name their own groups. -/
def followsPattern (options : Options) : Bool :=
  !options.flat && options.grouped && options.grouping == .pattern

variable {options : Options}

/-- Directives count when keys are grouped by them and groups are not disregarded. -/
theorem followsDirectives_iff :
    options.followsDirectives = true ↔
      options.flat = false ∧ options.grouped = true ∧ options.grouping = .explicit := by
  simp [followsDirectives, and_assoc]

/-- Keys name their own groups when they are grouped by pattern and groups are not disregarded. -/
theorem followsPattern_iff :
    options.followsPattern = true ↔
      options.flat = false ∧ options.grouped = true ∧ options.grouping = .pattern := by
  simp [followsPattern, and_assoc]

/-- Where keys name their own groups, directives do not count. -/
theorem followsDirectives_of_followsPattern (patterned : options.followsPattern = true) :
    options.followsDirectives = false := by
  obtain ⟨_, _, pattern⟩ := followsPattern_iff.mp patterned
  simp [followsDirectives, pattern]

end Options

/-- What a template declares and what is wrong with it. -/
structure Reading where
  /-- The declared keys, in the order of their lines. -/
  items : List Item
  /-- The problems, in the order of their lines. -/
  diagnostics : List Diagnostic
deriving DecidableEq, Repr

namespace Reading

/-- The diagnostics that are errors. -/
def errors (reading : Reading) : List Diagnostic := reading.diagnostics.filter (·.isError)

/-- The diagnostics that are warnings. -/
def warnings (reading : Reading) : List Diagnostic := reading.diagnostics.filter (!·.isError)

/-- Whether some diagnostic is an error. -/
def hasErrors (reading : Reading) : Bool := reading.diagnostics.any (·.isError)

end Reading

end EnvTemplate.Template
