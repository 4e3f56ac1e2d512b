import EnvTemplate.Main
import EnvTemplate.Proofs.CommandLine.Again
import EnvTemplate.Proofs.CommandLine.Agreement
import EnvTemplate.Proofs.CommandLine.Masking
import EnvTemplate.Proofs.CommandLine.Reports
import EnvTemplate.Proofs.CommandLine.VoiceSwitches
import EnvTemplate.Proofs.CommandLine.Voices
import EnvTemplate.Proofs.Decimal.Nearest
import EnvTemplate.Proofs.Decimal.Notation
import EnvTemplate.Proofs.Decimal.Rounding
import EnvTemplate.Proofs.Decimal.Shortest
import EnvTemplate.Proofs.FileSystem.Again
import EnvTemplate.Proofs.Module.Entries
import EnvTemplate.Proofs.Module.FlatNames
import EnvTemplate.Proofs.Module.Keys
import EnvTemplate.Proofs.Module.Lasting
import EnvTemplate.Proofs.Module.Literals
import EnvTemplate.Proofs.Module.Nodes
import EnvTemplate.Proofs.Module.Order
import EnvTemplate.Proofs.Module.ReadBack
import EnvTemplate.Proofs.Module.Siblings
import EnvTemplate.Proofs.Name.Joining
import EnvTemplate.Proofs.Name.Letters
import EnvTemplate.Proofs.Name.Segments
import EnvTemplate.Proofs.Name.Words
import EnvTemplate.Proofs.Schema.Literal
import EnvTemplate.Proofs.Schema.NumberForm
import EnvTemplate.Proofs.Schema.NumberLiteral
import EnvTemplate.Proofs.Settings.Lookup
import EnvTemplate.Proofs.Template.Alphabet
import EnvTemplate.Proofs.Template.Choices
import EnvTemplate.Proofs.Template.Composition
import EnvTemplate.Proofs.Template.Diagnostics
import EnvTemplate.Proofs.Template.Directive
import EnvTemplate.Proofs.Template.Independence
import EnvTemplate.Proofs.Template.Layout
import EnvTemplate.Proofs.Template.LineByLine
import EnvTemplate.Proofs.Template.OpenGroup
import EnvTemplate.Proofs.Template.Refusal
import EnvTemplate.Proofs.Template.Reprint
import EnvTemplate.Proofs.Template.Seam
import EnvTemplate.Proofs.Template.WordedGroup
import EnvTemplate.Proofs.Text.JsonDocument
import EnvTemplate.Proofs.Text.JsonString
import EnvTemplate.Proofs.Text.Quoted
