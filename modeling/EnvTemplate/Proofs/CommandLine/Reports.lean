import EnvTemplate.Proofs.CommandLine.Voices
import EnvTemplate.Proofs.Text.JsonDocument

/-!
# The two forms of a report

A check reports on a template as lines of text or as a JSON document. The document has one member
on a line, and read by the grammar of JSON it stands for the path of the template, the number of
its items, and its diagnostics in their order, whatever characters their messages quote. The lines
of text tell the same: the diagnostics with the problems, and with the results figures that agree
with the entries of the document. Both forms end with the same status.
-/
namespace EnvTemplate.CommandLine

open FileSystem (bytesOf)
open Settings (Environment Preferences)
open Text (JsonValue)
open Text.JsonValue (Reads ReadsMember)

/-- A diagnostic as a JSON object. -/
def diagnosticValue (found : Template.Diagnostic) : JsonValue :=
  .object [("line", .natural found.line), ("message", .string found.message),
    ("severity", .string found.severity.name)]

/-- A report as a JSON object. -/
def reportValue (examined : Examined) : JsonValue :=
  .object [("diagnostics", .array (examined.reading.diagnostics.map diagnosticValue)),
    ("file", .string examined.path), ("items", .natural examined.reading.items.length)]

/-- The line break before a member at a depth. -/
def breakAt (depth : Nat) : List Char := '\n' :: List.replicate (2 * depth) ' '

/-- A line break is blank. -/
theorem isSpace_of_mem_breakAt (depth : Nat) :
    ∀ c ∈ breakAt depth, Settings.Json.isSpace c = true := by
  intro c member
  rcases List.mem_cons.mp member with rfl | blank
  · rfl
  · rw [List.eq_of_mem_replicate blank]
    rfl

/-- A member on a line of its own. -/
def memberLine (depth : Nat) (name : String) (value : List Char) : List Char :=
  breakAt depth ++ '"' :: (name.toList ++ '"' :: ':' :: ' ' :: value)

/-- A member on a line of its own is read as the member. -/
theorem readsMember_memberLine {name : String} {text : List Char} {value : JsonValue}
    (plain : name.toList.flatMap Text.jsonEscape = name.toList) (reads : Reads text value)
    (depth : Nat) : ReadsMember (memberLine depth name text) (name, value) := by
  refine ⟨breakAt depth, ' ' :: text, isSpace_of_mem_breakAt depth, ?_, ?_⟩
  · exact Reads.after_blanks (List.forall_mem_singleton.mpr rfl) reads
  · rw [memberLine, plain]

/-- A number is spelled by its digits. -/
theorem toList_toString (number : Nat) : (toString number).toList = Nat.toDigits 10 number :=
  String.toList_ofList

/-- The entry of a diagnostic. -/
theorem toList_jsonDiagnostic (found : Template.Diagnostic) :
    (jsonDiagnostic found).toList = List.replicate 4 ' ' ++ '\x7b' ::
      ([','].intercalate [memberLine 3 "line" (Nat.toDigits 10 found.line),
        memberLine 3 "message" (Text.jsonString found.message).toList,
        memberLine 3 "severity" (Text.jsonString found.severity.name).toList] ++
        (breakAt 2 ++ ['\x7d'])) := by
  -- Each piece of text between two values ends with the name of the next member.
  have first : "    \x7b\n      \"line\": ".toList =
      List.replicate 4 ' ' ++ '\x7b' :: memberLine 3 "line" [] := by decide
  have second : ",\n      \"message\": ".toList = ',' :: memberLine 3 "message" [] := by decide
  have third : ",\n      \"severity\": ".toList = ',' :: memberLine 3 "severity" [] := by decide
  have last : "\n    \x7d".toList = breakAt 2 ++ ['\x7d'] := by decide
  unfold jsonDiagnostic
  simp only [String.toList_append, first, second, third, last, toList_toString]
  simp only [JsonValue.intercalate_comma, List.intercalate_singleton]
  simp only [memberLine, List.append_assoc, List.cons_append, List.nil_append]

/-- A string literal reads as its text. -/
theorem reads_jsonString (text : String) : Reads (Text.jsonString text).toList (.string text) := by
  rw [Text.jsonString, String.toList_ofList, List.cons_append]
  exact JsonValue.reads_string text

/-- The entry of a diagnostic reads as the diagnostic. -/
theorem reads_jsonDiagnostic (found : Template.Diagnostic) :
    Reads (jsonDiagnostic found).toList (diagnosticValue found) := by
  rw [toList_jsonDiagnostic]
  have spaces : ∀ c ∈ List.replicate 4 ' ', Settings.Json.isSpace c = true :=
    List.all_eq_true.mp (by decide)
  refine Reads.after_blanks spaces (JsonValue.reads_object ?_ (by simp) (isSpace_of_mem_breakAt 2))
  refine .cons ?_ (.cons ?_ (.cons ?_ .nil))
  · exact readsMember_memberLine (by decide) (JsonValue.reads_natural _) 3
  · exact readsMember_memberLine (by decide) (reads_jsonString _) 3
  · exact readsMember_memberLine (by decide) (reads_jsonString _) 3

/-- Texts with a comma and a line break between them and a line break before them begin with a line
break each. -/
theorem intercalate_line {texts : List (List Char)} (filled : texts ≠ []) :
    '\n' :: [',', '\n'].intercalate texts = [','].intercalate (texts.map ('\n' :: ·)) := by
  induction texts with
  | nil => contradiction
  | cons first others ih =>
    cases others with
    | nil => simp
    | cons second others =>
      have later := ih (by simp)
      simp only [List.map_cons, JsonValue.intercalate_comma] at later ⊢
      rw [← later]
      simp [List.intercalate]

/-- The list of one or more diagnostics. -/
theorem toList_jsonDiagnostics {found : List Template.Diagnostic} (filled : found ≠ []) :
    (jsonDiagnostics found).toList =
      '[' :: ([','].intercalate (found.map fun each => '\n' :: (jsonDiagnostic each).toList) ++
        (breakAt 1 ++ [']'])) := by
  have opening : "[\n".toList = ['[', '\n'] := by decide
  have closing : "\n  ]".toList = breakAt 1 ++ [']'] := by decide
  have between : ",\n".toList = [',', '\n'] := by decide
  have spelled : jsonDiagnostics found =
      "[\n" ++ ",\n".intercalate (found.map jsonDiagnostic) ++ "\n  ]" := by
    cases found with
    | nil => contradiction
    | cons first others => rfl
  have some : (found.map fun each => (jsonDiagnostic each).toList) ≠ [] := by simpa using filled
  have lines := intercalate_line some
  rw [spelled, String.toList_append, String.toList_append, String.toList_intercalate, opening,
    closing, between]
  rw [List.map_map] at lines ⊢
  rw [← Function.comp_def ('\n' :: ·), ← lines]
  rfl

/-- The list of the diagnostics reads as the diagnostics. -/
theorem reads_jsonDiagnostics (found : List Template.Diagnostic) :
    Reads (jsonDiagnostics found).toList (.array (found.map diagnosticValue)) := by
  by_cases filled : found = []
  · subst filled
    exact JsonValue.reads_emptyArray
  · rw [toList_jsonDiagnostics filled]
    refine JsonValue.reads_array ?_ (by simpa using filled) (isSpace_of_mem_breakAt 1)
    rw [List.forall₂_map_left_iff, List.forall₂_map_right_iff, List.forall₂_same]
    intro each _
    exact Reads.after_blanks (List.forall_mem_singleton.mpr rfl) (reads_jsonDiagnostic each)

/-- A report. -/
theorem toList_jsonReport (examined : Examined) :
    (jsonReport examined).toList = '\x7b' ::
      ([','].intercalate
        [memberLine 1 "diagnostics" (jsonDiagnostics examined.reading.diagnostics).toList,
          memberLine 1 "file" (Text.jsonString examined.path).toList,
          memberLine 1 "items" (Nat.toDigits 10 examined.reading.items.length)] ++
        (breakAt 0 ++ ['\x7d'])) := by
  have first : "\x7b\n  \"diagnostics\": ".toList = '\x7b' :: memberLine 1 "diagnostics" [] := by
    decide
  have second : ",\n  \"file\": ".toList = ',' :: memberLine 1 "file" [] := by decide
  have third : ",\n  \"items\": ".toList = ',' :: memberLine 1 "items" [] := by decide
  have last : "\n\x7d".toList = breakAt 0 ++ ['\x7d'] := by decide
  unfold jsonReport
  simp only [String.toList_append, first, second, third, last, toList_toString]
  simp only [JsonValue.intercalate_comma, List.intercalate_singleton]
  simp only [memberLine, List.append_assoc, List.cons_append, List.nil_append]

/-- **A report is a JSON document.** It stands for the facts of the report and for nothing else,
whatever the characters of its texts are. -/
theorem ofDocument?_jsonReport (examined : Examined) :
    JsonValue.ofDocument? (jsonReport examined ++ "\n").toList = some (reportValue examined) := by
  have reads : Reads (jsonReport examined).toList (reportValue examined) := by
    rw [toList_jsonReport]
    refine JsonValue.reads_object ?_ (by simp) (isSpace_of_mem_breakAt 0)
    refine .cons ?_ (.cons ?_ (.cons ?_ .nil))
    · exact readsMember_memberLine (by decide) (reads_jsonDiagnostics _) 1
    · exact readsMember_memberLine (by decide) (reads_jsonString _) 1
    · exact readsMember_memberLine (by decide) (JsonValue.reads_natural _) 1
  rw [String.toList_append]
  exact JsonValue.ofDocument?_of_reads reads (List.all_eq_true.mp (by decide))

section Text

variable {build : Build} {place : Place} {environment : Environment} {settings : Option String}
  {flags : TemplateFlags} {preferences : Preferences} {examined : Examined}

/-- The figures of a report as lines of text. -/
def figures (path : String) (keys warnings errors : Nat) : String :=
  "\nChecked " ++ path ++ "\n  Keys: " ++ toString keys ++ "\n  Warnings: " ++ toString warnings ++
    "\n  Errors: " ++ toString errors ++ "\n"

/-- What ends the report on a template without errors, after an empty line. -/
def approval : String := "\n✔ Template is valid\n"

/-- The results of a report as lines of text: its figures, and that the template has no errors. -/
theorem results_textReport (examined : Examined) :
    String.join (((textReport examined).filter (·.channel = .output)).map Message.text) =
      figures examined.path examined.reading.items.length examined.reading.warnings.length
        examined.reading.errors.length ++
        if examined.reading.hasErrors then "" else approval := by
  have diagnosed : examined.diagnostics.filter (·.channel = .output) = [] := by
    refine filter_problems_output fun message member => ?_
    obtain ⟨found, _, rfl⟩ := List.mem_map.mp member
    rfl
  have title : "\nChecked " = "\n" ++ "Checked " := by decide
  have keys : "\n  Keys: " = "\n" ++ ("  " ++ ("Keys:" ++ " ")) := by decide
  have warnings : "\n  Warnings: " = "\n" ++ ("  " ++ ("Warnings:" ++ " ")) := by decide
  have errors : "\n  Errors: " = "\n" ++ ("  " ++ ("Errors:" ++ " ")) := by decide
  have valid : approval = "\n" ++ ("✔ " ++ ("Template is valid" ++ "\n")) := by decide
  unfold textReport figures
  rw [List.filter_append, List.filter_append, diagnosed, title, keys, warnings, errors, valid]
  cases examined.reading.hasErrors <;>
    simp only [List.filter, Message.channel, List.map, Message.text, String.join_cons,
      String.join_nil, String.append_assoc, List.nil_append, List.append_nil, List.cons_append,
      String.append_empty,
      decide_true, if_true, Bool.false_eq_true, if_false]

/-- The results of a check are those of its report. -/
theorem on_output_check (build : Build) (voice : Voice) (format : ReportFormat)
    (begun : examineAt place environment settings flags = .ok (preferences, examined)) :
    (run build place environment ⟨settings, voice, some (.check ⟨flags, format⟩)⟩).on .output =
      (report format examined).filter (·.channel = .output) := by
  have problems := channel_of_examined begun
  rw [on_output_eq, run_check, begun]
  refine (List.filter_append _ _).trans ?_
  rw [filter_problems_output fun message member => problems message (List.mem_append_left _ member),
    List.nil_append]

/-- What a check with a report as lines of text shows with its results. -/
theorem output_check_text (build : Build) (verbosity : Nat) (voice : Voice)
    (begun : examineAt place environment settings flags = .ok (preferences, examined)) :
    (run build place environment ⟨settings, voice, some (.check ⟨flags, .text⟩)⟩).output
        ⟨verbosity, false⟩ =
      figures examined.path examined.reading.items.length examined.reading.warnings.length
        examined.reading.errors.length ++
        if examined.reading.hasErrors then "" else approval := by
  rw [output_loud, on_output_check build voice .text begun, List.filter_eq_self.mpr]
  · exact results_textReport examined
  · intro message member
    obtain ⟨told, result⟩ := List.mem_filter.mp member
    rw [(plain_of_mem_report told (of_decide_eq_true result)).2]
    rfl

/-- What a check with a report as a JSON document shows with its results. -/
theorem output_check_json (build : Build) (voice : Voice)
    (begun : examineAt place environment settings flags = .ok (preferences, examined)) :
    (run build place environment ⟨settings, voice, some (.check ⟨flags, .json⟩)⟩).output voice =
      jsonReport examined ++ "\n" := by
  have only := on_output_check build voice .json begun
  rw [Outcome.output, shownOn_eq, only]
  exact (String.join_cons).trans String.append_empty

/-- A problem appears unless only errors are asked for. -/
theorem appears_problem {message : Message} (problem : message.channel = .errors)
    (verbosity : Nat) : message.appears ⟨verbosity, false⟩ = true := by
  rw [Message.appears_loud]
  cases message with
  | note text => cases problem
  | _ => rfl

/-- What a check with a report as lines of text shows with its problems: the warning about an
unknown grouping, the diagnostics in their order, and the failure. -/
theorem errors_check_text (build : Build) (verbosity : Nat) {reading : Template.Reading}
    (read : reading? place environment settings flags = some (preferences, reading)) :
    let voice : Voice := ⟨verbosity, false⟩
    let checked := run build place environment ⟨settings, voice, some (.check ⟨flags, .text⟩)⟩
    checked.errors voice =
      String.join ((flags.groupingOf preferences).2.map Message.text) ++
        String.join (reading.diagnostics.map fun found => found.display ++ "\n") ++
          String.join ((failureMessages checked.failure).map Message.text) := by
  intro voice checked
  have appear : ∀ message ∈ problems flags preferences reading ++ failureMessages checked.failure,
      message.appears voice = true := by
    intro message member
    rcases List.mem_append.mp member with problem | failed
    · exact appears_problem (channel_of_mem_problems problem) verbosity
    · obtain ⟨reason, _, rfl⟩ := Option.map_eq_some_iff.mp (Option.mem_toList.mp failed)
      rfl
  have shown : checked.shown .errors voice =
      problems flags preferences reading ++ failureMessages checked.failure :=
    (shown_check_of_reading? build voice read).trans (List.filter_eq_self.mpr appear)
  rw [Outcome.errors_eq, shown, problems, List.map_append, List.map_append, String.join_append,
    String.join_append, List.map_map]
  rfl

/-- Whether an entry of a report has a severity. -/
def hasSeverity (severity : String) (entry : JsonValue) : Bool :=
  match entry.member? "severity" with
  | some (.string name) => name = severity
  | _ => false

/-- The entry of a diagnostic has its severity. -/
theorem hasSeverity_diagnosticValue (found : Template.Diagnostic) :
    hasSeverity "error" (diagnosticValue found) = found.isError ∧
      hasSeverity "warning" (diagnosticValue found) = !found.isError := by
  have named : (diagnosticValue found).member? "severity" = some (.string found.severity.name) :=
    rfl
  unfold hasSeverity Template.Diagnostic.isError
  rw [named]
  cases found.severity <;> decide

/-- The warnings and the errors of a template are counted by the entries of its report. -/
theorem countP_hasSeverity (reading : Template.Reading) :
    (reading.diagnostics.map diagnosticValue).countP (hasSeverity "warning") =
        reading.warnings.length ∧
      (reading.diagnostics.map diagnosticValue).countP (hasSeverity "error") =
        reading.errors.length := by
  rw [List.countP_map, List.countP_map, Template.Reading.warnings, Template.Reading.errors,
    ← List.countP_eq_length_filter, ← List.countP_eq_length_filter]
  exact ⟨List.countP_congr fun found _ => by simp [hasSeverity_diagnosticValue found],
    List.countP_congr fun found _ => by simp [hasSeverity_diagnosticValue found]⟩

/-- Each diagnostic is a warning or an error. -/
theorem length_warnings_add_length_errors (reading : Template.Reading) :
    reading.warnings.length + reading.errors.length = reading.diagnostics.length := by
  have split := List.length_eq_length_filter_add (l := reading.diagnostics) (·.isError)
  rw [Template.Reading.warnings, Template.Reading.errors]
  omega

/-- A template that is found has the absolute form of its path. -/
theorem absolute?_of_readTemplate {path full text : String}
    (found : readTemplate place path = .ok (full, text)) : place.absolute? path = some full := by
  unfold readTemplate at found
  cases resolved : place.absolute? path with
  | none =>
    rw [resolved] at found
    cases found
  | some path =>
    simp only [resolved] at found
    by_cases present : place.files.exists? path = true
    · rw [if_pos present] at found
      cases read : place.files.readText path with
      | error fault =>
        rw [read] at found
        cases found
      | ok text =>
        rw [read] at found
        cases found
        rfl
    · rw [if_neg present] at found
      cases found

/-- What was examined was found at the path of the template. -/
theorem absolute?_of_examineAt
    (begun : examineAt place environment settings flags = .ok (preferences, examined)) :
    place.absolute? (flags.path preferences) = some examined.path := by
  unfold examineAt at begun
  cases loaded : Settings.load place.files place.directory environment settings with
  | error reason =>
    rw [loaded] at begun
    cases begun
  | ok held =>
    simp only [loaded, examine] at begun
    cases found : readTemplate place (flags.path held) with
    | error failure =>
      rw [found] at begun
      cases begun
    | ok pair =>
      rw [found] at begun
      cases begun
      exact absolute?_of_readTemplate found

/-- **Both forms of a report tell the same.** A check with a report as a JSON document and a check
with a report as lines of text, which shows more than errors, end with the same status. When the
template is read, the document is an object with the path of the template, the number of its items,
and one entry for each diagnostic, in their order and with their line, message and severity. The
other report shows these diagnostics with the problems, in their order, between the warning about
an unknown grouping and the failure. Its figures are the number of items and the numbers of entries
with the severity of a warning and with that of an error, which are all entries. -/
theorem reports_agree (build : Build) (place : Place) (environment : Environment)
    (settings : Option String) (flags : TemplateFlags) (voice : Voice) (verbosity : Nat) :
    let loud : Voice := ⟨verbosity, false⟩
    let json := run build place environment ⟨settings, voice, some (.check ⟨flags, .json⟩)⟩
    let lines := run build place environment ⟨settings, loud, some (.check ⟨flags, .text⟩)⟩
    json.status = lines.status ∧
      ∀ preferences reading,
        reading? place environment settings flags = some (preferences, reading) →
          ∃ document path entries,
            JsonValue.ofDocument? (json.output voice).toList = some document ∧
            place.absolute? (flags.path preferences) = some path ∧
            document.member? "file" = some (.string path) ∧
            document.member? "items" = some (.natural reading.items.length) ∧
            document.member? "diagnostics" = some (.array entries) ∧
            entries = reading.diagnostics.map diagnosticValue ∧
            lines.errors loud =
              String.join ((flags.groupingOf preferences).2.map Message.text) ++
                String.join (reading.diagnostics.map fun found => found.display ++ "\n") ++
                  String.join ((failureMessages lines.failure).map Message.text) ∧
            lines.output loud =
              figures path reading.items.length (entries.countP (hasSeverity "warning"))
                (entries.countP (hasSeverity "error")) ++
                (if reading.hasErrors then "" else approval) ∧
            entries.countP (hasSeverity "warning") + entries.countP (hasSeverity "error") =
              reading.diagnostics.length := by
  intro loud json lines
  have status : json.status = lines.status :=
    (status_check build place environment settings voice ⟨flags, .json⟩).trans
      (status_check build place environment settings loud ⟨flags, .text⟩).symm
  refine ⟨status, ?_⟩
  intro preferences reading read
  obtain ⟨examined, begun, rfl⟩ := examineAt_of_reading? read
  obtain ⟨warnings, errors⟩ := countP_hasSeverity examined.reading
  refine ⟨reportValue examined, examined.path, examined.reading.diagnostics.map diagnosticValue,
    ?_, absolute?_of_examineAt begun, rfl, rfl, rfl, rfl,
    errors_check_text build verbosity read, ?_, ?_⟩
  · rw [output_check_json build voice begun]
    exact ofDocument?_jsonReport examined
  · rw [warnings, errors]
    exact output_check_text build verbosity loud begun
  · rw [warnings, errors]
    exact length_warnings_add_length_errors examined.reading

/-- A place with a template that has a warning about a line with a quote, a backslash and a control
character, and an error. -/
def faultyTemplate : Place where
  files := ⟨[([], .directory),
    ([".env.example"], .file (bytesOf "PORT=1\nsay \"\\\x07\n# @group: a..b\n"))]⟩
  directory := []

/-- Both forms of the report on this template have one item, one warning and one error. -/
theorem reports_agree_faulty :
    let build : Build := ⟨"x86_64", "release"⟩
    let flags : TemplateFlags := ⟨none, none, false⟩
    let json := run build faultyTemplate [] ⟨none, ⟨0, true⟩, some (.check ⟨flags, .json⟩)⟩
    let lines := run build faultyTemplate [] ⟨none, ⟨0, false⟩, some (.check ⟨flags, .text⟩)⟩
    let found : List Template.Diagnostic :=
      [⟨2, .malformedLine "say \"\\\x07"⟩, ⟨3, .badGroup (.emptySegment "a..b")⟩]
    reading? faultyTemplate [] none flags =
        some (.standard, ⟨[⟨"PORT", "1", "port", none, none⟩], found⟩) ∧
      json.status = 4 ∧ lines.status = 4 ∧
      lines.output ⟨0, false⟩ = figures "/.env.example" 1 1 1 ∧
      ∃ document,
        JsonValue.ofDocument? (json.output ⟨0, true⟩).toList = some document ∧
        document.member? "diagnostics" = some (.array (found.map diagnosticValue)) := by
  intro build flags json lines found
  have read : reading? faultyTemplate [] none flags =
      some (.standard, ⟨[⟨"PORT", "1", "port", none, none⟩], found⟩) := by decide +kernel
  have failed : lines.status = 4 := by decide +kernel
  obtain ⟨same, agree⟩ :=
    reports_agree build faultyTemplate [] none flags ⟨0, true⟩ 0
  obtain ⟨document, path, entries, decoded, resolved, _, _, listed, rfl, _, shown, _⟩ :=
    agree _ _ read
  have place : faultyTemplate.absolute? (flags.path .standard) = some "/.env.example" := by
    decide +kernel
  rw [place] at resolved
  cases resolved
  refine ⟨read, same.trans failed, failed, ?_, document, decoded, listed⟩
  exact shown.trans (by decide +kernel)

end Text

end EnvTemplate.CommandLine
