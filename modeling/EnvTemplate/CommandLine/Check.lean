import EnvTemplate.CommandLine.Examine
import EnvTemplate.Text.Quoted

/-!
# Checking a template

The command reads a template and reports on it, as lines of text or as a JSON document, and changes
nothing. It fails when the template has errors.
-/
namespace EnvTemplate.CommandLine

open Settings (Preferences)

/-- A diagnostic in a JSON report. -/
def jsonDiagnostic (found : Template.Diagnostic) : String :=
  "    \x7b\n      \"line\": " ++ toString found.line ++
    ",\n      \"message\": " ++ Text.jsonString found.message ++
    ",\n      \"severity\": " ++ Text.jsonString found.severity.name ++ "\n    \x7d"

/-- The diagnostics in a JSON report. -/
def jsonDiagnostics (found : List Template.Diagnostic) : String :=
  match found with
  | [] => "[]"
  | _ => "[\n" ++ ",\n".intercalate (found.map jsonDiagnostic) ++ "\n  ]"

/-- The JSON report on a template. -/
def jsonReport (examined : Examined) : String :=
  "\x7b\n  \"diagnostics\": " ++ jsonDiagnostics examined.reading.diagnostics ++
    ",\n  \"file\": " ++ Text.jsonString examined.path ++
    ",\n  \"items\": " ++ toString examined.reading.items.length ++ "\n\x7d"

/-- The messages of the report on a template as lines of text. -/
def textReport (examined : Examined) : List Message :=
  examined.diagnostics ++
    [.title ("Checked " ++ examined.path),
      .entry "Keys:" (toString examined.reading.items.length),
      .entry "Warnings:" (toString examined.reading.warnings.length),
      .entry "Errors:" (toString examined.reading.errors.length)] ++
    if examined.reading.hasErrors then [] else [.gap, .success "Template is valid"]

/-- The messages of the report on a template. -/
def report (format : ReportFormat) (examined : Examined) : List Message :=
  match format with
  | .json => [.document (jsonReport examined ++ "\n")]
  | .text => textReport examined

/-- Check a template. -/
def check (place : Place) (preferences : Preferences) (flags : CheckFlags) : Outcome :=
  match examine place preferences flags.about with
  | .error failure => ⟨[], some failure, place.files⟩
  | .ok examined =>
    ⟨examined.warnings ++ report flags.format examined, examined.failure?, place.files⟩

end EnvTemplate.CommandLine
