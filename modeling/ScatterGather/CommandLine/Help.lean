/-!
# The help texts

What is printed when help is asked for, in short and at length.
-/

namespace ScatterGather.CommandLine

/-- The opening of both texts. -/
def helpOpening : String :=
  "Shardline - distributed statement execution and result merging\n\n"
    ++ "Usage: shardline [OPTIONS]\n\nOptions:\n"

/-- The help in short: a line for each option. -/
def shortHelp : String :=
  helpOpening
    ++ "  -c, --config <CONFIG>  Configuration file (defaults to ./shardline.toml when present)\n"
    ++ "  -p, --port <PORT>      Port to listen on\n"
    ++ "      --mode <MODE>      Dispatch mode [possible values: connection, forward]\n"
    ++ "      --show-sql         Log every physical statement\n"
    ++ "  -h, --help             Print help (see more with '--help')\n"

/-- The help at length: a paragraph for each option. -/
def longHelp : String :=
  helpOpening
    ++ "  -c, --config <CONFIG>\n"
    ++ "          Configuration file (defaults to ./shardline.toml when present)\n\n"
    ++ "  -p, --port <PORT>\n"
    ++ "          Port to listen on\n\n"
    ++ "      --mode <MODE>\n"
    ++ "          Dispatch mode\n\n"
    ++ "          Possible values:\n"
    ++ "          - connection: The engine owns one connection per data source per statement\n"
    ++ "          - forward:    "
    ++ "Units are forwarded over shared channels and replies are collected\n\n"
    ++ "      --show-sql\n"
    ++ "          Log every physical statement\n\n"
    ++ "  -h, --help\n"
    ++ "          Print help (see a summary with '-h')\n"

/-- The help that was asked for. -/
def help (long : Bool) : String := if long then longHelp else shortHelp

end ScatterGather.CommandLine
