import Fiction.CommandLine.Arguments

/-!
# Fiction.CommandLine.Help

The texts that describe the command line.
-/

namespace Fiction.CommandLine

/-- The name and version of the program. -/
def versionText : String :=
  "firelight 0.1.0\n"

/-- The line on the settings file. -/
def settingsHelp : String :=
  "      --config <FILE>  YAML engine configuration (recursion limit, seed, extra modules)\n"

/-- The lines on the options that every verb takes. -/
def commonHelp : String :=
  "  -v, --verbose        Log engine activity to stderr. FIRELIGHT_LOG overrides the filter\n" ++
  "  -h, --help           Print help\n"

/-- The help on a topic. -/
def Topic.text : Topic → String
  | program =>
      "Plays and checks macro-driven interactive fiction.\n\n" ++
      "Usage: firelight [OPTIONS] <COMMAND>\n\n" ++
      "Commands:\n" ++
      "  render  Render one node and print its text and links\n" ++
      "  play    Play a story interactively on stdin\n" ++
      "  check   Load every story under a path and check its markup\n" ++
      "  help    Print this message or the help of the given subcommand(s)\n\n" ++
      "Options:\n" ++ settingsHelp ++ commonHelp ++
      "  -V, --version        Print version\n"
  | render =>
      "Render one node and print its text and links\n\n" ++
      "Usage: firelight render [OPTIONS] <STORY>\n\n" ++
      "Arguments:\n" ++
      "  <STORY>  A \x60.fls\x60 or \x60.flj\x60 story file\n\n" ++
      "Options:\n" ++ settingsHelp ++
      "      --node <NODE>    Node to render; defaults to the story's start node\n" ++ commonHelp
  | play =>
      "Play a story interactively on stdin\n\n" ++
      "Usage: firelight play [OPTIONS] <STORY>\n\n" ++
      "Arguments:\n" ++
      "  <STORY>  \n\n" ++
      "Options:\n" ++ settingsHelp ++ commonHelp
  | check =>
      "Load every story under a path and check its markup\n\n" ++
      "Usage: firelight check [OPTIONS] [PATH]\n\n" ++
      "Arguments:\n" ++
      "  [PATH]  [default: .]\n\n" ++
      "Options:\n" ++ settingsHelp ++ commonHelp
  | help =>
      "Print this message or the help of the given subcommand(s)\n\n" ++
      "Usage: firelight help [COMMAND]...\n\n" ++
      "Arguments:\n" ++
      "  [COMMAND]...  Print help for the subcommand(s)\n"

end Fiction.CommandLine
