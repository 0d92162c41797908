import QuadDaq.Cli.Arguments
import QuadDaq.Cli.Report

/-!
# Help and misuse

What is printed instead of carrying out a request: descriptions of the program and
its commands, its version, and what is wrong with the words of a command line.
-/

namespace QuadDaq.Cli

/-- The name of the program. -/
def programName : String := "timeswipe"

/-- The version of the program. -/
def version : String := programName ++ " 0.1.0"

/-- Lines as one text. -/
def page (lines : List String) : String := "\n".intercalate lines

/-- How a command is called. -/
def Topic.usage : Topic → String
  | program => "Usage: timeswipe [OPTIONS] <COMMAND>"
  | stream => "Usage: timeswipe stream [OPTIONS]"
  | settings => "Usage: timeswipe settings <DOCUMENT>"
  | selfCheck => "Usage: timeswipe self-check"
  | help => "Usage: timeswipe help [COMMAND]..."

/-- What a command is for. -/
def Topic.purpose : Topic → String
  | program => "TimeSwipe acquisition CLI"
  | stream => "Stream calibrated batches for a fixed time"
  | settings => "Run a settings document, e.g. '\x7b\"Gain\":\"?\",\"Bridge\":1\x7d'"
  | selfCheck => "Open the configured backend, read one batch and report"
  | help => "Print this message or the help of the given subcommand(s)"

/-- The commands and options of the program. -/
def programDetails : List String := [
  "Commands:",
  "  stream      " ++ Topic.stream.purpose,
  "  settings    " ++ Topic.settings.purpose,
  "  self-check  " ++ Topic.selfCheck.purpose,
  "  help        " ++ Topic.help.purpose,
  "",
  "Options:",
  "      --config <FILE>       Path to config TOML (typed) [default: etc/timeswipe.toml]",
  "      --calibration <FILE>  Optional calibration CSV (strict header)",
  "      --input <NAME>        Named input profile from [profiles.NAME]; overrides [calibration]",
  "      --json                Log and print as JSON lines instead of pretty",
  "      --log-level <LEVEL>   Console log level (error|warn|info|debug|trace) [default: info]",
  "  -h, --help                Print help",
  "  -V, --version             Print version"]

/-- The options of a stream. -/
def streamDetails : List String := [
  "Options:",
  "      --seconds <SECONDS>  Seconds to stream before stopping (Ctrl-C stops early) [default: 1]",
  "      --bridge <B>         Bridge selection (0 or 1) applied before start",
  "      --stats              Print sampling stats on completion",
  "      --rt                 Enable real-time mode (SCHED_FIFO, affinity, mlockall)",
  "      --rt-prio <PRIO>     Real-time priority for SCHED_FIFO (1..=max)",
  "      --rt-lock <MODE>     Memory locking mode for --rt: none, current, or all [default: current] "
    ++ "[possible values: none, current, all]",
  "      --rt-cpu <CPU>       CPU index to pin to with --rt (default 0)",
  "  -h, --help               Print help (see more with '--help')"]

/-- The options of a stream in many words. -/
def streamLongDetails : List String := [
  "Options:",
  "      --seconds <SECONDS>",
  "          Seconds to stream before stopping (Ctrl-C stops early)",
  "          ",
  "          [default: 1]",
  "",
  "      --bridge <B>",
  "          Bridge selection (0 or 1) applied before start",
  "",
  "      --stats",
  "          Print sampling stats on completion",
  "",
  "      --rt",
  "          Enable real-time mode on Linux.",
  "          ",
  "          Attempts SCHED_FIFO priority, pins the process to one CPU and locks memory before the "
    ++ "acquisition thread starts, so the thread inherits all three. May require CAP_SYS_NICE, "
    ++ "CAP_IPC_LOCK or a raised 'ulimit -l'. Failures are logged and streaming continues.",
  "",
  "      --rt-prio <PRIO>",
  "          Real-time priority for SCHED_FIFO (1..=max)",
  "",
  "      --rt-lock <MODE>",
  "          Memory locking mode for --rt: none, current, or all",
  "",
  "          Possible values:",
  "          - none:    Do not lock memory",
  "          - current: Lock currently resident pages",
  "          - all:     Lock current and future pages",
  "          ",
  "          [default: current]",
  "",
  "      --rt-cpu <CPU>",
  "          CPU index to pin to with --rt (default 0)",
  "",
  "  -h, --help",
  "          Print help (see a summary with '-h')"]

/-- Everything about a topic behind its usage. -/
def Topic.details (long : Bool) : Topic → List String
  | program => programDetails
  | stream => if long then streamLongDetails else streamDetails
  | settings => [
      "Arguments:",
      "  <DOCUMENT>  JSON object of setting names to values or \"?\"",
      "",
      "Options:",
      "  -h, --help  Print help"]
  | selfCheck => ["Options:", "  -h, --help  Print help"]
  | help => ["Arguments:", "  [COMMAND]...  Print help for the subcommand(s)"]

/-- The help on a topic. -/
def Topic.manual (t : Topic) (long : Bool) : String :=
  page ([t.purpose, "", t.usage, ""] ++ t.details long)

/-- What is wrong with the words. -/
def Misuse.message : Misuse → String
  | noWords | noCommand => "'timeswipe' requires a subcommand but one was not provided"
  | noDocument => "the following required arguments were not provided:\n  <DOCUMENT>"
  | unexpected word => s!"unexpected argument '{word}' found"
  | unknownCommand word => s!"unrecognized subcommand '{word}'"
  | missingValue option => s!"a value is required for '--{option}' but none was supplied"
  | unwantedValue option => s!"unexpected value for '--{option}' found; no more were expected"
  | unusableValue option value => s!"invalid value '{value}' for '--{option}'"
  | repeated option => s!"the argument '--{option}' cannot be used multiple times"

/-- What is printed instead of carrying out a request. Help that is asked for is no
failure; misuse has the exit code 2. -/
def Diversion.report : Diversion → Report
  | help topic long => ⟨[.out (topic.manual long)], .exit 0⟩
  | version => ⟨[.out Cli.version], .exit 0⟩
  | misuse topic .noWords => ⟨[.err (topic.manual false)], .exit 2⟩
  | misuse topic m =>
    ⟨[.err (page [s!"error: {m.message}", "", topic.usage, "",
      "For more information, try '--help'."])], .exit 2⟩

end QuadDaq.Cli
