/-!
# Readers of text

A reader takes a value from the front of a text and leaves the rest, or fails. A repeated step is
bounded by the length of the text: each round but the last is meant to take a character.
-/
namespace EnvTemplate.Text

/-- A reader of values. -/
abbrev Reader (α : Type) : Type := StateT (List Char) Option α

namespace Reader

variable {α β : Type}

/-- The value read from a whole text. -/
def whole? (reader : Reader α) (text : List Char) : Option α :=
  match reader.run text with
  | some (value, []) => some value
  | _ => none

/-- The next character, which stays in the text. -/
def peek? : Reader (Option Char) := do return (← get).head?

/-- Take the next character. -/
def next : Reader Char := do
  match ← get with
  | c :: rest => set rest; return c
  | [] => failure

/-- Take the given character when it is the next one. -/
def accept (wanted : Char) : Reader Bool := do
  match ← get with
  | c :: rest => if c = wanted then set rest; return true else return false
  | [] => return false

/-- Take the given character or fail. -/
def expect (wanted : Char) : Reader Unit := do
  if !(← accept wanted) then failure

/-- The rest of a text that starts with the given one. -/
def after? : List Char → List Char → Option (List Char)
  | [], text => some text
  | _ :: _, [] => none
  | l :: lead, c :: text => if l = c then after? lead text else none

/-- Take the given text when the text starts with it. -/
def acceptText (wanted : String) : Reader Bool := do
  match after? wanted.toList (← get) with
  | some rest => set rest; return true
  | none => return false

/-- Take the characters up to the first that fails the test. -/
def takeWhile (test : Char → Bool) : Reader (List Char) := do
  let text ← get
  set (text.dropWhile test)
  return text.takeWhile test

/-- Drop the characters up to the first that fails the test. -/
def skipWhile (test : Char → Bool) : Reader Unit := modify (·.dropWhile test)

/-- Take one or more characters that pass the test. -/
def takeSome (test : Char → Bool) : Reader (List Char) := do
  match ← takeWhile test with
  | [] => failure
  | taken => return taken

/-- Whether the text is used up. -/
def atEnd : Reader Bool := do return (← get).isEmpty

/-- Try a reader; when it fails, the text stays as it is. -/
def attempt (reader : Reader α) : Reader (Option α) := fun text =>
  match reader.run text with
  | some (value, rest) => some (some value, rest)
  | none => some (none, text)

/-- Whether a repeated step goes on with a new state or ends with a result. -/
inductive Step (α β : Type)
  /-- Go on. -/
  | more (state : α)
  /-- End. -/
  | done (result : β)

/-- Repeat a step at most the given number of times; `σ` is what is read from. -/
def repeatAtMost {σ : Type} (step : α → StateT σ Option (Step α β)) :
    Nat → α → StateT σ Option β
  | 0, _ => failure
  | rounds + 1, state => do
    match ← step state with
    | .more later => repeatAtMost step rounds later
    | .done result => return result

/-- Repeat a step until it ends. -/
def repeatUntil (step : α → Reader (Step α β)) (start : α) : Reader β := do
  repeatAtMost step ((← get).length + 1) start

end Reader

end EnvTemplate.Text
