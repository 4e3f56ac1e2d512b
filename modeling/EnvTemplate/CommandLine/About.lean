import EnvTemplate.CommandLine.Message
import EnvTemplate.Module.Dialect

/-!
# The program about itself

The name and the version of the program, the build it comes from, and its help.
-/
namespace EnvTemplate.CommandLine

/-- The name of the program. -/
def programName : String := "envus"

/-- The version of the program. -/
def programVersion : String := "1.0.0"

/-- The build that a program comes from. -/
structure Build where
  /-- The machine it is built for. -/
  target : String
  /-- The way it is built. -/
  profile : String
deriving DecidableEq, Repr

/-- The messages about the version. -/
def versionMessages (build : Build) : List Message :=
  [.title (programName ++ " v" ++ programVersion),
    .title "About",
    .entry "Description:" "Generate validated envus config from .env.example templates",
    .entry "Repository:" "https://github.com/envus/envus",
    .entry "Runtime package:" Module.runtimePackage,
    .title "Build Information",
    .entry "Target:" build.target,
    .entry "Profile:" build.profile,
    .gap]

/-- The line that tells the version of a program of the given name. -/
def versionLine (program : String) : String := program ++ " " ++ programVersion ++ "\n"

/-- The help on the program. -/
def helpText : String :=
  "Generate validated envus config from .env.example templates\n\n" ++
  "Usage: envus [OPTIONS] [COMMAND]\n\n" ++
  "Commands:\n" ++
  "  init     Generate envus config file from .env.example\n" ++
  "  check    Parse .env.example and report diagnostics without writing anything\n" ++
  "  version  Show version information\n" ++
  "  help     Print this message or the help of the given subcommand(s)\n\n" ++
  "Options:\n" ++
  "      --config <FILE>  Configuration file path\n" ++
  "  -v, --verbose...     Increase verbosity (can be repeated)\n" ++
  "  -q, --quiet          Suppress non-error output\n" ++
  "  -h, --help           Print help\n" ++
  "  -V, --version        Print version\n"

end EnvTemplate.CommandLine
