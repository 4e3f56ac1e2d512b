import EnvTemplate.Settings.Value

/-!
# Tables under construction

While a TOML document is read, each table remembers how it came about, because that decides what
may still be added to it. A table named only inside a longer header may get a header of its own
later; one made by a dotted name may be extended by dotted names only; a table with a header and an
inline table are closed to both.
-/
namespace EnvTemplate.Settings.Toml

/-- How a table came about. -/
inductive Origin
  /-- It has a header of its own, or is the top of the document. -/
  | headed
  /-- It is named inside a longer header. -/
  | passed
  /-- It is named inside a dotted name. -/
  | dotted
deriving DecidableEq, Repr

/-- A value, a table or an array of tables under construction. -/
inductive Node
  /-- A finished value. -/
  | value (value : Value)
  /-- A table. -/
  | table (origin : Origin) (members : List (String × Node))
  /-- The tables of equal headers in double brackets, the last first. -/
  | tables (last : List (String × Node)) (earlier : List Node)

/-- The members of a table under construction. -/
abbrev Nodes := List (String × Node)

/-- Replace the node of a name, or add it at the end. -/
def Nodes.set (name : String) (node : Node) : Nodes → Nodes
  | [] => [(name, node)]
  | (other, held) :: rest =>
    if other = name then (name, node) :: rest else (other, held) :: Nodes.set name node rest

/-- Put a value under a name of a table that came about in the given way, from a path of dotted
names in front of it; fails when the name is taken or a table on the way is closed. -/
def Nodes.assign (name : String) (value : Value) : List String → Nodes → Option Nodes
  | [], nodes =>
    match nodes.lookup name with
    | some _ => none
    | none => some (nodes.set name (.value value))
  | step :: path, nodes =>
    match nodes.lookup step with
    | none => do
      return nodes.set step (.table .dotted (← Nodes.assign name value path []))
    | some (.table .dotted members) => do
      return nodes.set step (.table .dotted (← Nodes.assign name value path members))
    | some (.table .passed members) =>
      if path = [] then none
      else do
        return nodes.set step (.table .passed (← Nodes.assign name value path members))
    | some (.tables last earlier) =>
      if path = [] then none
      else do
        return nodes.set step (.tables (← Nodes.assign name value path last) earlier)
    | _ => none

/-- Change the members of the table at the end of a path of header names, passing through the last
table of each array of tables. -/
def Nodes.descend (change : Nodes → Option Nodes) : List String → Nodes → Option Nodes
  | [], nodes => change nodes
  | step :: path, nodes =>
    match nodes.lookup step with
    | none => do
      return nodes.set step (.table .passed (← Nodes.descend change path []))
    | some (.table origin members) => do
      return nodes.set step (.table origin (← Nodes.descend change path members))
    | some (.tables last earlier) => do
      return nodes.set step (.tables (← Nodes.descend change path last) earlier)
    | some (.value _) => none

/-- Open the table of a header: a new one, or one that was only passed through. -/
def Nodes.openTable (name : String) (nodes : Nodes) : Option Nodes :=
  match nodes.lookup name with
  | none => some (nodes.set name (.table .headed []))
  | some (.table .passed members) => some (nodes.set name (.table .headed members))
  | _ => none

/-- Open one more table of a header in double brackets. -/
def Nodes.openElement (name : String) (nodes : Nodes) : Option Nodes :=
  match nodes.lookup name with
  | none => some (nodes.set name (.tables [] []))
  | some (.tables last earlier) =>
    some (nodes.set name (.tables [] (.table .headed last :: earlier)))
  | _ => none

mutual

/-- The value of a node. -/
def Node.finish? : Node → Option Value
  | .value value => some value
  | .table _ members => do Value.ofMembers? (← finishMembers? members)
  | .tables last earlier => do
    let found ← Value.ofMembers? (← finishMembers? last)
    return .sequence (found :: (← finishAll? earlier)).reverse

/-- The values of nodes. -/
def finishAll? : List Node → Option (List Value)
  | [] => some []
  | node :: rest => do return (← node.finish?) :: (← finishAll? rest)

/-- The values of named nodes. -/
def finishMembers? : List (String × Node) → Option Members
  | [] => some []
  | (name, node) :: rest => do return (name, ← node.finish?) :: (← finishMembers? rest)

end

/-- The value of a finished table. -/
def finishTable? (members : Nodes) : Option Value := do Value.ofMembers? (← finishMembers? members)

end EnvTemplate.Settings.Toml
