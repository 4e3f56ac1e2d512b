import EnvTemplate.Name.Basic
import EnvTemplate.Proofs.Module.Listing

/-!
# Reading the entries of a module

Each reader takes one part of the source from the front of a text and returns the text after it.
Reading what an entry is written as returns the entry and the text after it, whatever values the
entry holds: a quoted literal ends at its own closing apostrophe, and no other part can hold the
character that ends it.
-/
namespace EnvTemplate.Module

open Name (afterLead? afterLead?_eq_some_iff)
open Schema (Inference)

variable {rest word : List Char} {stop : Char}

/-- A text that starts with a lead is read up to the end of the lead. -/
theorem afterLead?_append (lead rest : List Char) : afterLead? lead (lead ++ rest) = some rest :=
  afterLead?_eq_some_iff.mpr rfl

/-- Read up to a character, which is dropped. -/
def readUntil (stop : Char) : List Char → Option (List Char × List Char)
  | [] => none
  | c :: text =>
    if c = stop then some ([], text)
    else (readUntil stop text).map fun (word, rest) => (c :: word, rest)

/-- A word is read up to the first character it does not hold. -/
theorem readUntil_append (absent : stop ∉ word) (rest : List Char) :
    readUntil stop (word ++ stop :: rest) = some (word, rest) := by
  induction word with
  | nil => simp [readUntil]
  | cons c word ih =>
    obtain ⟨other, later⟩ := not_or.mp (mt List.mem_cons.mpr absent)
    simp [readUntil, Ne.symm other, ih later]

/-- Read quoted values with commas between them, up to a closing bracket. -/
def readChoices : Nat → List Char → Option (List String × List Char)
  | 0, _ => none
  | rounds + 1, text => do
    let (value, text) ← Text.readQuoted text
    match text with
    | ',' :: ' ' :: text =>
      let (values, text) ← readChoices rounds text
      some (String.ofList value :: values, text)
    | ']' :: text => some ([String.ofList value], text)
    | _ => none

/-- Quoted values with commas between them. -/
def listed (values : List String) : List Char := (", ".intercalate (values.map Text.quoted)).toList

/-- The first value of several is followed by a comma. -/
theorem listed_cons (first second : String) (others : List String) :
    listed (first :: second :: others) =
      (Text.quoted first).toList ++ ',' :: ' ' :: listed (second :: others) := by
  simp [listed, String.toList_intercalate]

/-- Reading a list of values returns the values. -/
theorem readChoices_listed {values : List String} (filled : values ≠ []) {rounds : Nat}
    (enough : values.length ≤ rounds) (rest : List Char) :
    readChoices rounds (listed values ++ ']' :: rest) = some (values, rest) := by
  induction values generalizing rounds with
  | nil => contradiction
  | cons first others ih =>
    obtain ⟨rounds, rfl⟩ : ∃ fewer, rounds = fewer + 1 := ⟨rounds - 1, by simp at enough; omega⟩
    cases others with
    | nil => simp [listed, readChoices, Text.readQuoted_append]
    | cons second others =>
      have fewer : (second :: others).length ≤ rounds := Nat.le_of_succ_le_succ enough
      have later := ih (by simp) fewer
      simp [listed_cons, readChoices, Text.readQuoted_append, later]

/-- A list of values is at least as long as it has values. -/
theorem length_le_length_listed (values : List String) : values.length ≤ (listed values).length := by
  induction values with
  | nil => simp
  | cons first others ih =>
    cases others with
    | nil => simp [listed, Text.quoted]
    | cons second others =>
      rw [listed_cons]
      simp only [List.length_cons, List.length_append] at ih ⊢
      omega

namespace Content

/-- The name of the type. -/
def type : Content → String
  | .choices _ => "string"
  | .inferred inference => inference.valueType.name

/-- The call after the type. -/
def call : Content → String
  | .choices _ => "enum"
  | .inferred inference => if inference.isRequired then "required" else "default"

/-- What stands between the parentheses of that call. -/
def argument : Content → List Char
  | .choices values => '[' :: listed values ++ [']']
  | .inferred inference => (inference.default?.getD "").toList

/-- A value is required exactly when it has no default. -/
theorem isRequired_eq (inference : Inference) :
    inference.isRequired = inference.default?.isNone := by
  cases inference <;> rfl

/-- The calls of choices. -/
theorem calls_choices (values : List String) :
    (Content.choices values).calls =
      ".string().enum([" ++ ", ".intercalate (values.map Text.quoted) ++ "])" := rfl

/-- The calls of an entry have one shape. -/
theorem toList_calls (content : Content) :
    content.calls.toList = '.' :: content.type.toList ++ '(' :: ')' :: '.' :: content.call.toList ++
      '(' :: content.argument ++ [')'] := by
  cases content with
  | choices values => simp [calls_choices, type, call, argument, listed]
  | inferred inference =>
    cases found : inference.default? with
    | none => simp [calls, Schema.inferredCalls, type, call, argument, isRequired_eq, found]
    | some literal => simp [calls, Schema.inferredCalls, type, call, argument, isRequired_eq, found]

/-- No part of an entry but a quoted literal holds the character that ends it: choices name a
value, and the literal of a number has no parenthesis. -/
def Legible : Content → Prop
  | .choices values => values ≠ []
  | .inferred (.number literal) => ')' ∉ literal.toList
  | .inferred _ => True

end Content

/-- Read what stands between the parentheses of the call after a type. -/
def readArgument (type call : String) (text : List Char) : Option (Content × List Char) :=
  match type, call with
  | "string", "enum" => do
    let text ← afterLead? ['['] text
    let (values, text) ← readChoices text.length text
    some (.choices values, text)
  | "string", "required" => some (.inferred .required, text)
  | "string", "default" => do
    let (value, text) ← Text.readQuoted text
    some (.inferred (.text (String.ofList value)), text)
  | "boolean", "default" =>
    match afterLead? ['t', 'r', 'u', 'e'] text with
    | some text => some (.inferred (.boolean true), text)
    | none => do
      let text ← afterLead? ['f', 'a', 'l', 's', 'e'] text
      some (.inferred (.boolean false), text)
  | "number", "default" => do
    let (literal, text) ← readUntil ')' text
    some (.inferred (.number (String.ofList literal)), ')' :: text)
  | _, _ => none

/-- Read the calls after a key. -/
def readCalls (text : List Char) : Option (Content × List Char) := do
  let text ← afterLead? ['.'] text
  let (type, text) ← readUntil '(' text
  let text ← afterLead? [')', '.'] text
  let (call, text) ← readUntil '(' text
  let (content, text) ← readArgument (String.ofList type) (String.ofList call) text
  let text ← afterLead? [')'] text
  some (content, text)

/-- Read an entry. -/
def readEntry (text : List Char) : Option (Entry × List Char) := do
  let text ← afterLead? "schema(\"".toList text
  let (key, text) ← readUntil '"' text
  let text ← afterLead? [')'] text
  let (content, text) ← readCalls text
  some (⟨String.ofList key, content⟩, text)

/-- Reading the argument of a call returns what the entry says. -/
theorem readArgument_append {content : Content} (legible : content.Legible) (rest : List Char) :
    readArgument content.type content.call (content.argument ++ ')' :: rest) =
      some (content, ')' :: rest) := by
  cases content with
  | choices values =>
    have enough : values.length ≤ (listed values).length + (rest.length + 1 + 1) :=
      Nat.le_add_right_of_le (length_le_length_listed values)
    have inside := readChoices_listed legible enough (')' :: rest)
    simp [readArgument, Content.type, Content.call, Content.argument, afterLead?, inside]
  | inferred inference =>
    cases inference with
    | required =>
      simp [readArgument, Content.type, Content.call, Content.argument, Inference.valueType,
        Schema.ValueType.name, Inference.isRequired, Inference.default?]
    | boolean value =>
      cases value <;>
        simp [readArgument, Content.type, Content.call, Content.argument, Inference.valueType,
          Schema.ValueType.name, Inference.isRequired, Inference.default?, afterLead?]
    | number literal =>
      have inside := readUntil_append legible rest
      simp [readArgument, Content.type, Content.call, Content.argument, Inference.valueType,
        Schema.ValueType.name, Inference.isRequired, Inference.default?, inside]
    | text value =>
      have inside := Text.readQuoted_append value (')' :: rest)
      simp [readArgument, Content.type, Content.call, Content.argument, Inference.valueType,
        Schema.ValueType.name, Inference.isRequired, Inference.default?, inside]

/-- The names of types and calls hold no parenthesis. -/
theorem parenthesis_notMem (content : Content) :
    '(' ∉ content.type.toList ∧ '(' ∉ content.call.toList := by
  cases content with
  | choices values => simp [Content.type, Content.call]
  | inferred inference =>
    cases inference <;>
      simp [Content.type, Content.call, Inference.valueType, Schema.ValueType.name,
        Inference.isRequired]

/-- Reading the calls of an entry returns what it says. -/
theorem readCalls_append {content : Content} (legible : content.Legible) (rest : List Char) :
    readCalls (content.calls.toList ++ rest) = some (content, rest) := by
  obtain ⟨type, call⟩ := parenthesis_notMem content
  simp [readCalls, Content.toList_calls, afterLead?, readUntil_append type, readUntil_append call,
    readArgument_append legible]

/-- The key has no quote, and the rest can be told from it. -/
structure Entry.Legible (entry : Entry) : Prop where
  /-- The key ends at the first quote. -/
  key : '"' ∉ entry.key.toList
  /-- What is said besides the key. -/
  content : entry.content.Legible

/-- Reading the builder chain of an entry returns the entry. -/
theorem readEntry_append {entry : Entry} (legible : entry.Legible) (rest : List Char) :
    readEntry (entry.chain.toList ++ rest) = some (entry, rest) := by
  have shape : entry.chain.toList ++ rest = "schema(\"".toList ++
      (entry.key.toList ++ '"' :: ([')'] ++ (entry.content.calls.toList ++ rest))) := by
    simp [Entry.chain]
  rw [shape, readEntry, afterLead?_append]
  simp [readUntil_append legible.key, afterLead?, readCalls_append legible.content]

end EnvTemplate.Module
