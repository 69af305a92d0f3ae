import SpecLint.CommandLine.Arguments

/-!
# Help

The help of the program and of its command, and the lines that point to it.
-/
namespace SpecLint.CommandLine

namespace Place

/-- The words that a usage line starts with. -/
def title : Place → String
  | program => "specparity"
  | check => "specparity check"

def usage : Place → String
  | program => "Usage: specparity [OPTIONS] COMMAND [ARGS]..."
  | check => "Usage: specparity check [OPTIONS] [PATHS]..."

def hint (place : Place) : String := "Try '" ++ place.title ++ " --help' for help."

/-- The help text by lines. -/
def help : Place → List String
  | program =>
    [program.usage, "", "  specparity - checks that Rails code and its RSpec suite stay in step.",
      "", "Options:", "  --version      Show the version and exit.",
      "  -v, --verbose  Enable debug logging", "  --help         Show this message and exit.", "",
      "Commands:", "  check  Check Ruby files against their specs."]
  | check =>
    [check.usage, "", "  Check Ruby files against their specs.", "",
      "  PATHS are files or directories to check (default: the project root). Exits",
      "  with status 1 when any offense is found.", "", "Options:",
      "  --root DIRECTORY  Project root holding app/, spec/ and .specparity.yml",
      "  --check TEXT      Check ID to run, e.g. RSpecParity/FileHasSpec (repeatable)",
      "  --json            Output as JSON", "  --help            Show this message and exit."]

/-- What is said about a fault in the arguments. -/
def complaint (place : Place) (fault : UsageFault) : List String :=
  [place.usage, place.hint, "", "Error: " ++ fault.message]

end Place

def versionLine : String := "specparity, version 0.1.0"

end SpecLint.CommandLine
