import TreeBundle.CommandLine.Arguments

/-!
# Texts about the command line
-/
namespace TreeBundle.CommandLine
set_option autoImplicit false

def versionText : String := "fencepack 0.1.0\n"

def usageLine : String := "Usage: fencepack [OPTIONS] [COMMAND]\n"

def helpText : String :=
  String.intercalate "\n"
    ["Pack the files your rule tables admit into one fenced text artifact.",
      "",
      usageLine,
      "Commands:",
      "  pack     Write admitted files to the output artifact (default command)",
      "  explain  Show which rule decides each path",
      "  rules    Print the effective rule tables as TOML",
      "",
      "Options:",
      "      --root <ROOT>   Root directory to traverse [default: .]",
      "      --rules <FILE>  Rules file (TOML) [env: FENCEPACK_RULES]",
      "  -q, --quiet         Quiet mode (no per-file size lines)",
      "  -v, --verbose       Verbose mode (debug logging)",
      "  -h, --help          Print help",
      "  -V, --version       Print version",
      "",
      "Options of pack:",
      "  -o, --output <FILE>  Output artifact path [default: output.md]",
      "      --stats          Show pack statistics on stderr",
      "",
      "Arguments and options of explain:",
      "  <PATH>...  Paths to explain (relative to ROOT unless absolute)",
      "  --pretty   Pretty-print JSON output",
      ""]

/-- What the operator is told when nothing is run. -/
def Refusal.message : Refusal → String
  | .showHelp => helpText
  | .showVersion => versionText
  | .unknownArgument => "error: unexpected argument\n\n" ++ usageLine
  | .unknownCommand => "error: unrecognized subcommand\n\n" ++ usageLine
  | .invalidValue => "error: a value is required\n\n" ++ usageLine
  | .missingArgument => "error: required arguments were not provided\n\n" ++ usageLine
  | .repeatedArgument => "error: an argument cannot be used multiple times\n\n" ++ usageLine
  | .unneededValue => "error: unexpected value for an argument\n\n" ++ usageLine

end TreeBundle.CommandLine
