import EnvTemplate.CommandLine.Invocation
import EnvTemplate.Template.Basic

/-!
# Messages

What a run tells is a list of messages, the same however much is asked for. Only when they are
shown does the voice decide which of them appear. Errors, help and documents appear always, notes
when more is asked for, and all other messages unless only errors are asked for.
-/
namespace EnvTemplate.CommandLine

/-- A message of a run. -/
inductive Message
  /-- Something was done. -/
  | success (text : String)
  /-- A step on the way. -/
  | note (text : String)
  /-- Something is replaced by a default. -/
  | warning (text : String)
  /-- A problem of a template. -/
  | diagnostic (found : Template.Diagnostic)
  /-- The run failed. -/
  | failure (text : String)
  /-- A title with an empty line before it. -/
  | title (text : String)
  /-- A label with a value. -/
  | entry (label value : String)
  /-- An empty line. -/
  | gap
  /-- A document that was asked for. -/
  | document (text : String)
deriving DecidableEq, Repr

/-- Where a message is shown. -/
inductive Channel
  /-- With the results. -/
  | output
  /-- With the problems. -/
  | errors
deriving DecidableEq, Repr

namespace Message

/-- Where a message is shown. -/
def channel : Message → Channel
  | warning _ => .errors
  | diagnostic _ => .errors
  | failure _ => .errors
  | _ => .output

/-- The text of a message. -/
def text : Message → String
  | success text => "✔ " ++ text ++ "\n"
  | note text => "ℹ " ++ text ++ "\n"
  | warning text => "⚠ " ++ text ++ "\n"
  | diagnostic found => found.display ++ "\n"
  | failure text => "✖ " ++ text ++ "\n"
  | title text => "\n" ++ text ++ "\n"
  | entry label value => "  " ++ label ++ " " ++ value ++ "\n"
  | gap => "\n"
  | document text => text

/-- Whether a voice lets a message appear. -/
def appears (voice : Voice) : Message → Bool
  | note _ => !voice.quiet && voice.verbosity ≠ 0
  | diagnostic found => !voice.quiet || found.isError
  | failure _ => true
  | document _ => true
  | _ => !voice.quiet

end Message

/-- What messages show on a channel. -/
def shownOn (channel : Channel) (voice : Voice) (messages : List Message) : String :=
  String.join ((messages.filter fun message =>
    message.channel = channel && message.appears voice).map Message.text)

end EnvTemplate.CommandLine
