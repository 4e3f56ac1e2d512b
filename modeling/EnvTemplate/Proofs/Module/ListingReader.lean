import EnvTemplate.Proofs.Module.EntryReader
import EnvTemplate.Proofs.Name.Alphabet

/-!
# Reading a module back

The members of an object are read until its closing brace, each with the members of its own before
the members after it; the lines of values and of groups begin alike and differ after the colon. As
names hold neither blanks nor braces, and entries end where they should, reading the source of a
listing returns the listing.
-/
namespace EnvTemplate.Module

open Name (IsName afterLead?)

variable {rest : List Char} {outline : Outline} {rounds : Nat}

namespace Outline

/-- The names and the entries of all members can be told from what follows them. -/
def Legible : Outline → Prop
  | empty => True
  | entry name value rest => IsName name.toList ∧ value.Legible ∧ rest.Legible
  | group name members rest => IsName name.toList ∧ members.Legible ∧ rest.Legible

/-- How many members there are at all depths, the end of each object counted as one more. -/
def size : Outline → Nat
  | empty => 1
  | entry _ _ rest => rest.size + 1
  | group _ members rest => members.size + rest.size + 1

end Outline

/-- Read the members of an object and its closing brace; a round reads one member or the brace. -/
def readMembers : Nat → List Char → Option (Outline × List Char)
  | 0, _ => none
  | rounds + 1, text =>
    let text := text.dropWhile (· = ' ')
    if text.head? = some '\x7d' then some (.empty, text.tail)
    else do
      let (name, text) ← readUntil ':' text
      match afterLead? [' ', '\x7b', '\n'] text with
      | some text =>
        let (members, text) ← readMembers rounds text
        let text ← afterLead? [',', '\n'] text
        let (rest, text) ← readMembers rounds text
        some (.group (String.ofList name) members rest, text)
      | none =>
        let text ← afterLead? [' '] text
        let (value, text) ← readEntry text
        let text ← afterLead? [',', '\n'] text
        let (rest, text) ← readMembers rounds text
        some (.entry (String.ofList name) value rest, text)

/-- The indentation is dropped up to a character that is no blank. -/
theorem dropWhile_indent {c : Char} (filled : c ≠ ' ') (blanks : Nat) (rest : List Char) :
    (List.replicate blanks ' ' ++ c :: rest).dropWhile (· = ' ') = c :: rest := by
  rw [List.dropWhile_append_of_pos fun d member => by simp [List.eq_of_mem_replicate member]]
  simp [filled]

/-- A closing brace ends the members. -/
theorem readMembers_brace (rounds blanks : Nat) (rest : List Char) :
    readMembers (rounds + 1) (List.replicate blanks ' ' ++ '\x7d' :: rest) = some (.empty, rest) := by
  rw [readMembers, dropWhile_indent (by decide)]
  rfl

/-- A name and a colon begin a member. -/
theorem readMembers_name {name : List Char} (named : IsName name) (rounds blanks : Nat)
    (rest : List Char) :
    readMembers (rounds + 1) (List.replicate blanks ' ' ++ (name ++ ':' :: rest)) =
      (match afterLead? [' ', '\x7b', '\n'] rest with
      | some text => do
        let (members, text) ← readMembers rounds text
        let text ← afterLead? [',', '\n'] text
        let (rest, text) ← readMembers rounds text
        some (.group (String.ofList name) members rest, text)
      | none => do
        let text ← afterLead? [' '] rest
        let (value, text) ← readEntry text
        let text ← afterLead? [',', '\n'] text
        let (rest, text) ← readMembers rounds text
        some (.entry (String.ofList name) value rest, text)) := by
  have absent : ':' ∉ name := fun member => absurd (named ':' member) (by decide)
  obtain ⟨first, later, begins, blank, brace⟩ : ∃ first later,
      name ++ ':' :: rest = first :: later ∧ first ≠ ' ' ∧ first ≠ '\x7d' := by
    cases name with
    | nil => exact ⟨':', rest, rfl, by decide, by decide⟩
    | cons c name =>
      have valid := named c List.mem_cons_self
      exact ⟨c, name ++ ':' :: rest, rfl, by rintro rfl; exact absurd valid (by decide),
        by rintro rfl; exact absurd valid (by decide)⟩
  have reads := readUntil_append absent rest
  rw [begins] at reads ⊢
  rw [readMembers, dropWhile_indent blank]
  simp only [List.head?_cons, Option.some.injEq, brace, ↓reduceIte, reads]
  rfl

/-- The blanks before a line. -/
theorem toList_indent (depth : Nat) : (indent depth).toList = List.replicate (2 * depth) ' ' := by
  simp [indent]

/-- A builder chain does not start with a brace. -/
theorem afterLead?_chain (value : Entry) (rest : List Char) :
    afterLead? [' ', '\x7b', '\n'] (' ' :: (value.chain.toList ++ rest)) = none := by
  simp [Entry.chain, afterLead?]

/-- Reading the lines of members and a closing brace returns the members. -/
theorem readMembers_source (legible : outline.Legible) (enough : outline.size ≤ rounds)
    (depth blanks : Nat) (rest : List Char) :
    readMembers rounds ((outline.source depth).toList ++
      (List.replicate blanks ' ' ++ '\x7d' :: rest)) = some (outline, rest) := by
  induction outline generalizing rounds depth blanks rest with
  | empty =>
    obtain ⟨rounds, rfl⟩ := Nat.exists_eq_add_of_le' enough
    rw [Outline.source, String.toList_empty, List.nil_append]
    exact readMembers_brace rounds blanks rest
  | entry name value others ih =>
    obtain ⟨named, entry, others_legible⟩ := legible
    obtain ⟨rounds, rfl⟩ := Nat.exists_eq_add_of_le' (Nat.le_trans (Nat.le_add_left _ _) enough)
    have later := ih others_legible (Nat.le_of_succ_le_succ enough) depth blanks rest
    generalize List.replicate blanks ' ' ++ '\x7d' :: rest = ending at later ⊢
    have shape : ((Outline.entry name value others).source depth).toList ++ ending =
        List.replicate (2 * depth) ' ' ++ (name.toList ++ ':' :: ' ' :: (value.chain.toList ++
          (',' :: '\n' :: ((others.source depth).toList ++ ending)))) := by
      simp [Outline.source, toList_indent]
    rw [shape, readMembers_name named, afterLead?_chain]
    simp [afterLead?, readEntry_append entry, later]
  | group name members others inner outer =>
    obtain ⟨named, members_legible, others_legible⟩ := legible
    obtain ⟨rounds, rfl⟩ := Nat.exists_eq_add_of_le' (Nat.le_trans (Nat.le_add_left _ _) enough)
    have room : members.size + others.size ≤ rounds := Nat.le_of_succ_le_succ enough
    have inner_room : members.size ≤ rounds := by omega
    have outer_room : others.size ≤ rounds := by omega
    have later := outer others_legible outer_room depth blanks rest
    generalize List.replicate blanks ' ' ++ '\x7d' :: rest = ending at later ⊢
    have inside := inner members_legible inner_room (depth + 1) (2 * depth)
      (',' :: '\n' :: ((others.source depth).toList ++ ending))
    have shape : ((Outline.group name members others).source depth).toList ++ ending =
        List.replicate (2 * depth) ' ' ++ (name.toList ++ ':' :: ' ' :: '\x7b' :: '\n' ::
          ((members.source (depth + 1)).toList ++ (List.replicate (2 * depth) ' ' ++ '\x7d' ::
            ',' :: '\n' :: ((others.source depth).toList ++ ending)))) := by
      simp [Outline.source, toList_indent]
    rw [shape, readMembers_name named]
    simp [afterLead?, inside, later]

/-- There are no more members than characters in their lines. -/
theorem Outline.size_le_length (outline : Outline) (depth : Nat) :
    outline.size ≤ (outline.source depth).toList.length + 1 := by
  have ending : ",\n".toList.length = 2 := rfl
  have closing : "\x7d,\n".toList.length = 3 := rfl
  induction outline generalizing depth with
  | empty => exact Nat.le_add_left 1 _
  | entry name value rest ih =>
    have later := ih depth
    simp only [size, source, String.toList_append, List.length_append]
    omega
  | group name members rest inner outer =>
    have inside := inner (depth + 1)
    have later := outer depth
    simp only [size, source, String.toList_append, List.length_append]
    omega

/-- Read the import at the top of a module. -/
def readHeader (text : List Char) : Option (Convention × List Char) :=
  match afterLead? Convention.commonJs.header.toList text with
  | some text => some (.commonJs, text)
  | none =>
    (afterLead? Convention.esModule.header.toList text).map fun text => (.esModule, text)

/-- The imports of the conventions differ at once. -/
theorem Convention.header_begins :
    (∃ later, commonJs.header.toList = 'c' :: later) ∧
      ∃ later, esModule.header.toList = 'i' :: later := by
  have calls : commonJs.header =
      "const \x7b loadEnv, defineConfig, schema \x7d = require(\"" ++ runtimePackage ++
        "\");\n\n" := rfl
  have statements : esModule.header =
      "import \x7b loadEnv, defineConfig, schema \x7d from \"" ++ runtimePackage ++
        "\";\n\n" := rfl
  rw [calls, statements]
  simp only [String.toList_append]
  exact ⟨⟨_, rfl⟩, ⟨_, rfl⟩⟩

/-- Reading an import returns its convention. -/
theorem readHeader_append (convention : Convention) (rest : List Char) :
    readHeader (convention.header.toList ++ rest) = some (convention, rest) := by
  cases convention with
  | commonJs => rw [readHeader, afterLead?_append]
  | esModule =>
    have other : afterLead? Convention.commonJs.header.toList
        (Convention.esModule.header.toList ++ rest) = none := by
      obtain ⟨⟨calls, first⟩, statements, second⟩ := Convention.header_begins
      rw [first, second]
      rfl
    rw [readHeader, other, afterLead?_append]
    rfl

/-- Read a module. -/
def readModule (text : List Char) : Option Listing := do
  let (convention, text) ← readHeader text
  let text ← afterLead? convention.lead.toList text
  let (members, text) ← readMembers text.length text
  if text = ");\n".toList then some ⟨convention, members.groups, members.entries⟩ else none

end EnvTemplate.Module
