import EnvTemplate.Proofs.Module.Members
import EnvTemplate.Proofs.Schema.QuotedTexts
import EnvTemplate.Proofs.Text.StringLiteral

/-!
# The literals of a module

The literals between apostrophes in a module are those of the choices and the string defaults of
its items, in the order of the module. Each stands for its choice or for the trimmed sample, unless
the sample has a carriage return inside, as a line of a template may: it is written as it is, and a
literal with a carriage return is none.
-/
namespace EnvTemplate.Module

open Name (IsName)
open Schema (quotedTexts)
open Template (Item Options read)
open Text (Holds literalsIn quoted isQuote)
open Text.StringLiteral (units? breaksLine)

variable {item : Item} {outline : Outline} {values : List String}

/-- The literals of texts. -/
def literalsOf (texts : List String) : List (List Char) :=
  texts.map fun text => (quoted text).toList

/-- The texts in what a module says about a value. -/
def Content.texts : Content → List String
  | .choices values => values
  | .inferred (.text value) => [value]
  | .inferred _ => []

/-- The literals of texts after others follow those of the others. -/
@[simp] theorem literalsOf_append (first second : List String) :
    literalsOf (first ++ second) = literalsOf first ++ literalsOf second := List.map_append

/-- Choices hold their literals. -/
theorem holds_listed (values : List String) : Holds (listed values) (literalsOf values) := by
  have comma : Holds [',', ' '] [] := by decide
  induction values with
  | nil => exact (by decide : Holds [] [])
  | cons first others ih =>
    cases others with
    | nil => simpa [listed, literalsOf] using Holds.of_quoted first
    | cons second others =>
      rw [listed_cons]
      exact (Holds.of_quoted first).append (comma.append ih)

/-- No character of the literal of a number begins another literal. -/
theorem isQuote_of_isNumberChar {c : Char} (numeric : Schema.isNumberChar c = true) :
    isQuote c = false := by
  refine Bool.eq_false_iff.mpr fun quote => ?_
  rw [isQuote, Bool.or_eq_true, beq_iff_eq, beq_iff_eq] at quote
  rcases quote with rfl | rfl <;> exact absurd numeric (by decide)

/-- What stands between the parentheses of the last call holds the literals of an item. -/
theorem holds_argument (item : Item) :
    Holds (Content.ofItem item).argument (literalsOf (Content.ofItem item).texts) := by
  unfold Content.ofItem
  split
  · next first others _ =>
    have opening : Holds ['['] [] := by decide
    have closing : Holds [']'] [] := by decide
    simpa [Content.argument, Content.texts] using
      opening.append ((holds_listed (first :: others)).append closing)
  · cases inferred : Schema.Inference.ofSample item.sample with
    | required => exact (by decide : Holds "".toList [])
    | boolean value =>
      cases value with
      | true => exact (by decide : Holds "true".toList [])
      | false => exact (by decide : Holds "false".toList [])
    | number literal =>
      exact Holds.of_unquoted fun c member =>
        isQuote_of_isNumberChar (Schema.isNumeric_of_ofSample inferred c member)
    | text value => exact Holds.of_quoted value

/-- The names of types and calls have no quotes. -/
theorem unquoted_type_call (content : Content) :
    (∀ c ∈ content.type.toList, isQuote c = false) ∧
      ∀ c ∈ content.call.toList, isQuote c = false := by
  cases content with
  | choices values => simp [Content.type, Content.call, isQuote]
  | inferred inference =>
    cases inference <;>
      simp [Content.type, Content.call, Schema.Inference.valueType, Schema.ValueType.name,
        Schema.Inference.isRequired, isQuote]

/-- Names have no characters that begin or end a literal. -/
theorem unquoted_of_isName {name : List Char} (named : IsName name) :
    ∀ c ∈ name, c ≠ '\\' ∧ isQuote c = false := by
  intro c member
  exact Name.of_table (p := fun c => c ≠ '\\' ∧ isQuote c = false) (by decide) (named c member)

/-- The builder chain of an item holds the literals of the item. -/
theorem holds_chain (legible : item.Legible) :
    Holds (Entry.ofItem item).chain.toList (literalsOf (Content.ofItem item).texts) := by
  obtain ⟨type, call⟩ := unquoted_type_call (Content.ofItem item)
  have key : ∀ c ∈ item.key.toList, c ≠ '\\' ∧ c ≠ '"' := fun c member => by
    have plain := unquoted_of_isName legible.key c member
    exact ⟨plain.1, fun same => absurd plain.2 (by rw [same]; decide)⟩
  have builder : Holds "schema(".toList [] := by decide
  have behind : Holds [')', '.'] [] := by decide
  have between : Holds ['(', ')', '.'] [] := by decide
  have opening : Holds ['('] [] := by decide
  have closing : Holds [')'] [] := by decide
  have shape : (Entry.ofItem item).chain.toList =
      "schema(".toList ++ (('"' :: item.key.toList ++ ['"']) ++ ([')', '.'] ++
        ((Content.ofItem item).type.toList ++ (['(', ')', '.'] ++
          ((Content.ofItem item).call.toList ++ (['('] ++
            ((Content.ofItem item).argument ++ [')']))))))) := by
    simp [Entry.chain, Entry.ofItem, Content.toList_calls]
  rw [shape]
  simpa using builder.append ((Holds.of_doubled key).append (behind.append
    ((Holds.of_unquoted type).append (between.append ((Holds.of_unquoted call).append
      (opening.append ((holds_argument item).append closing)))))))

/-- The lines of members hold the literals of the values, when each chain holds those of its
value. -/
theorem holds_source (names : ∀ name ∈ outline.keys, IsName name.toList)
    (chains : ∀ entry ∈ outline.values,
      Holds entry.chain.toList (literalsOf entry.content.texts)) (depth : Nat) :
    Holds (outline.source depth).toList
      (literalsOf (outline.values.flatMap fun entry => entry.content.texts)) := by
  have blanks (depth : Nat) : Holds (indent depth).toList [] := by
    refine Holds.of_unquoted fun c member => ?_
    rw [toList_indent] at member
    rw [List.eq_of_mem_replicate member]
    rfl
  have unquoted (name : String) (named : IsName name.toList) : Holds name.toList [] :=
    Holds.of_unquoted fun c member => (unquoted_of_isName named c member).2
  have colon : Holds ": ".toList [] := by decide
  have comma : Holds ",\n".toList [] := by decide
  have opening : Holds ": \x7b\n".toList [] := by decide
  have closing : Holds "\x7d,\n".toList [] := by decide
  induction outline generalizing depth with
  | empty => exact (by decide : Holds "".toList [])
  | entry name value rest ih =>
    obtain ⟨named, names⟩ := List.forall_mem_cons.mp names
    obtain ⟨chain, chains⟩ := List.forall_mem_cons.mp chains
    have later := ih names chains depth
    simpa [Outline.source, Outline.values] using (blanks depth).append
      ((unquoted name named).append (colon.append (chain.append (comma.append later))))
  | group name members rest inner outer =>
    obtain ⟨named, names⟩ := List.forall_mem_cons.mp names
    obtain ⟨inside, behind⟩ := List.forall_mem_append.mp names
    obtain ⟨within, others⟩ := List.forall_mem_append.mp chains
    have members_hold := inner inside within (depth + 1)
    have later := outer behind others depth
    simpa [Outline.source, Outline.values] using (blanks depth).append
      ((unquoted name named).append (opening.append (members_hold.append
        ((blanks depth).append (closing.append later)))))

/-- Nothing but its members holds a literal in a module. -/
theorem holds_convention (convention : Convention) :
    Holds convention.header.toList [] ∧ Holds convention.lead.toList [] := by
  cases convention with
  | esModule => exact ⟨by decide, by decide⟩
  | commonJs => exact ⟨by decide, by decide⟩

/-- The items that have a value in the module, in the order of the module. -/
def written (items : List Item) : List Item :=
  (Tree.ofItems items).leaves.map (·.2) ++ topLevel items

/-- The items in the module are those that stay. -/
theorem written_perm_staying (items : List Item) : (written items).Perm (staying items) := by
  refine .trans ?_ (perm_staying items)
  have leaves := (leaves_perm_lasting items).map (·.2)
  exact .append_right _ (by simpa [Function.comp_def] using leaves)

/-- The values of the module are those of the items in it. -/
theorem values_members (dialect : Dialect) (items : List Item) :
    (Listing.ofItems dialect items).members.values = (written items).map Entry.ofItem := by
  simp [Listing.members, Listing.ofItems, written, Tree.values_outline, Function.comp_def]

/-- The module of a template holds the literals of the items in it. -/
theorem holds_source_read (dialect : Dialect) (options : Options) (text : String) :
    Holds (source dialect (read options text).items).toList
      (literalsOf ((written (read options text).items).flatMap fun item =>
        (Content.ofItem item).texts)) := by
  have each {item : Item} (stays : item ∈ staying (read options text).items) : item.Legible :=
    Template.legible_of_mem_items (mem_of_mem_staying stays)
  have names : ∀ name ∈ (Listing.ofItems dialect (read options text).items).members.keys,
      IsName name.toList := by
    intro name listed
    obtain ⟨item, stays, leads⟩ := Listing.mem_keys_members_iff.mp listed
    exact (each stays).place name leads
  have chains : ∀ entry ∈ (Listing.ofItems dialect (read options text).items).members.values,
      Holds entry.chain.toList (literalsOf entry.content.texts) := by
    intro entry listed
    rw [values_members, List.mem_map] at listed
    obtain ⟨item, member, rfl⟩ := listed
    exact holds_chain (each ((written_perm_staying _).mem_iff.mp member))
  have inside := holds_source names chains 1
  have ending : Holds "\x7d);\n".toList [] := by decide
  obtain ⟨header, lead⟩ :=
    holds_convention (Listing.ofItems dialect (read options text).items).convention
  rw [values_members, List.flatMap_map] at inside
  rw [← Listing.source_ofItems, Listing.source]
  simpa [Listing.members, Entry.ofItem] using header.append (lead.append (inside.append ending))

/-- What a module says about an item quotes the texts of the item. -/
theorem texts_ofItem (item : Item) : (Content.ofItem item).texts = quotedTexts item := by
  unfold Content.ofItem quotedTexts
  rcases item.choices with _ | _ | ⟨first, others⟩
  -- Without choices the default of a string is the only text.
  · cases found : Schema.Inference.ofSample item.sample with
    | text value => simp only [Content.texts, Schema.eq_trim_of_ofSample found]
    | _ => rfl
  · cases found : Schema.Inference.ofSample item.sample with
    | text value => simp only [Content.texts, Schema.eq_trim_of_ofSample found]
    | _ => rfl
  · rfl

/-- The literal of a text on one line stands for the text when it has no carriage return. -/
theorem units?_quoted_of_single {value : String} (single : '\n' ∉ value.toList) :
    units? (quoted value).toList =
      if '\r' ∈ value.toList then none else some (Text.textUnits value.toList) := by
  rw [Text.StringLiteral.units?_quoted]
  refine if_congr ?_ rfl rfl
  rw [List.any_eq_true]
  constructor
  · rintro ⟨c, held, ends⟩
    rw [breaksLine, Bool.or_eq_true, beq_iff_eq, beq_iff_eq] at ends
    rcases ends with rfl | rfl
    · exact absurd held single
    · exact held
  · exact fun held => ⟨'\r', held, rfl⟩

/-- The literals of the module of a template are those of the texts that the items in it quote. -/
theorem literalsIn_source (dialect : Dialect) (options : Options) (text : String) :
    literalsIn (source dialect (read options text).items).toList =
      literalsOf ((written (read options text).items).flatMap quotedTexts) := by
  have holds := holds_source_read dialect options text
  simp only [texts_ofItem] at holds
  exact holds.literalsIn_eq

/-- The literals between apostrophes in the module of a template are those of the choices and the
trimmed samples that its items quote, in the order of the module, and each stands for its text unless
that has a carriage return; then it is no literal. So all of them are literals exactly when no item in
the module has a carriage return inside its sample. -/
theorem literals_stand_iff (dialect : Dialect) (options : Options) (text : String) :
    let items := (read options text).items
    let literals := literalsIn (source dialect items).toList
    (written items).Perm (staying items) ∧
      literals.map units? =
        ((written items).flatMap quotedTexts).map (fun value =>
          if '\r' ∈ value.toList then none else some (Text.textUnits value.toList)) ∧
      ((∀ literal ∈ literals, (units? literal).isSome) ↔
        ∀ item ∈ staying items, '\r' ∉ Text.trim item.sample.toList) := by
  intro items literals
  have order : (written items).Perm (staying items) := written_perm_staying items
  have listed : ∀ item ∈ written items, item ∈ items := fun item stays =>
    mem_of_mem_staying (order.mem_iff.mp stays)
  have stand : literals.map units? =
      ((written items).flatMap quotedTexts).map (fun value =>
        if '\r' ∈ value.toList then none else some (Text.textUnits value.toList)) := by
    rw [show literals = literalsOf _ from literalsIn_source dialect options text, literalsOf,
      List.map_map]
    refine List.map_congr_left fun value quotes => ?_
    obtain ⟨item, stays, quotes⟩ := List.mem_flatMap.mp quotes
    exact units?_quoted_of_single (Schema.lineFeed_notMem_of_quotes (listed item stays) quotes)
  refine ⟨order, stand, ?_⟩
  have each : (∀ literal ∈ literals, (units? literal).isSome) ↔
      ∀ value ∈ (written items).flatMap quotedTexts, '\r' ∉ value.toList := by
    have mapped : (∀ literal ∈ literals, (units? literal).isSome) ↔
        ∀ read ∈ literals.map units?, read.isSome := by
      rw [List.forall_mem_map]
    rw [mapped, stand, List.forall_mem_map]
    refine forall₂_congr fun value _ => ?_
    split <;> simp [*]
  rw [each, List.forall_mem_flatMap]
  constructor
  · intro absent item stays
    have member := order.mem_iff.mpr stays
    exact (Schema.return_notMem_quotedTexts_iff (listed item member)).mp (absent item member)
  · intro absent item member
    exact (Schema.return_notMem_quotedTexts_iff (listed item member)).mpr
      (absent item (order.mem_iff.mp member))

/-- Nothing is told about a carriage return inside a line, and the literal that it stands in is
none. -/
theorem return_in_literal :
    (read .standard "FOO=a\rb\n").diagnostics = [] ∧
      ∃ literal ∈ literalsIn (source .js (read .standard "FOO=a\rb\n").items).toList,
        units? literal = none := by
  refine ⟨by decide, (quoted "a\rb").toList, ?_, by decide⟩
  rw [literalsIn_source]
  decide

end EnvTemplate.Module
