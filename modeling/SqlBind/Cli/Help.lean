import SqlBind.Cli.Arguments

/-!
Owns: the help on the program and its commands.
-/

set_option autoImplicit false

namespace SqlBind.Cli.HelpTopic

def lines : HelpTopic → List String
  | root => [
    "dbbind - named-placeholder SQL tooling",
    "",
    "USAGE:",
    "  dbbind <COMMAND> [OPTIONS]",
    "",
    "COMMANDS:",
    "  compile       Show the driver-native form of a statement",
    "  load          Bulk-write a JSON file into PostgreSQL",
    "  init          Write a template dbbind.toml",
    "",
    "Run `dbbind <command> --help` for more."]
  | compile => [
    "USAGE:",
    "  dbbind compile [OPTIONS] <SQL>",
    "",
    "OPTIONS:",
    "  --style <STYLE>       qmark | format | numeric | named | dollar (default: qmark)",
    "  -h, --help            Print help"]
  | load => [
    "USAGE:",
    "  dbbind load [OPTIONS] --sql <SQL> <FILE>",
    "",
    "FILE is a JSON array of records or one JSON record per line (.jsonl).",
    "Records are objects keyed by placeholder name, or arrays in placeholder order.",
    "",
    "OPTIONS:",
    "  --config <FILE>       Config file path (default: dbbind.toml)",
    "  --database <URL>      Override database.url from config",
    "  --chunk-size <N>      Override executor.chunk_size",
    "  --isolate             Skip failing records and report them at the end",
    "  -h, --help            Print help"]
  | init => [
    "USAGE:",
    "  dbbind init [OPTIONS]",
    "",
    "OPTIONS:",
    "  --config <FILE>       Config file path (default: dbbind.toml)",
    "  -h, --help            Print help"]

def text (topic : HelpTopic) : String := String.join (topic.lines.map (· ++ "\n"))

end SqlBind.Cli.HelpTopic
