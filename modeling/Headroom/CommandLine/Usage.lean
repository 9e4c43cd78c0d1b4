/-!
# Why a command line is refused

Asking for help or for the version is among the reasons: it ends the reading of the command line as
well.
-/

namespace Headroom.CommandLine

/-- What can be set on the command line. -/
inductive Setting where
  | help
  | version
  | debug
  | count
  | cpu
  | memory
  | toleration
  | nodeSelector
  | spreadBy
  | liveTopology
  | syncLimit
  | listLimit
  | output
deriving DecidableEq

namespace Setting

/-- The name of a setting after two hyphens. -/
def long : Setting → String
  | help => "help"
  | version => "version"
  | debug => "debug"
  | count => "count"
  | cpu => "cpu"
  | memory => "memory"
  | toleration => "toleration"
  | nodeSelector => "node-selector"
  | spreadBy => "spread-by"
  | liveTopology => "live-topology"
  | syncLimit => "sync-timeout"
  | listLimit => "list-timeout"
  | output => "output"

/-- The letter of a setting after one hyphen, if it has one. -/
def short? : Setting → Option Char
  | help => some 'h'
  | version => some 'V'
  | count => some 'n'
  | _ => none

/-- Whether a setting takes a value. -/
def takesValue : Setting → Bool
  | help | version | debug | liveTopology => false
  | _ => true

/-- The settings of the program as a whole. -/
def ofProgram : List Setting := [help, version, debug]

/-- The settings of an estimate. -/
def ofEstimate : List Setting :=
  [help, debug, count, cpu, memory, toleration, nodeSelector, spreadBy, liveTopology, syncLimit,
    listLimit, output]

end Setting

/-- Why a command line is refused. -/
inductive UsageError where
  | helpWanted
  | versionWanted
  /-- There is neither a command nor a setting. -/
  | nothingAsked
  | commandMissing
  | unknownCommand (word : String)
  | settingMissing (setting : Setting)
  | unknownArgument (argument : String)
  /-- A setting that counts once was given again. -/
  | repeated (setting : Setting)
  | valueMissing (setting : Setting)
  /-- The value is none of those that can be chosen from. -/
  | notAmongChoices (setting : Setting) (value : String)
  /-- The value cannot be read. -/
  | unreadable (setting : Setting) (value : String)
  /-- The setting takes no value. -/
  | valueUnwanted (setting : Setting) (value : String)
deriving DecidableEq

/-- The reason in words. -/
def UsageError.message : UsageError → String
  | helpWanted | versionWanted | nothingAsked => ""
  | commandMissing => "a command is required"
  | unknownCommand word => "unrecognized command '" ++ word ++ "'"
  | settingMissing setting => "--" ++ setting.long ++ " is required"
  | unknownArgument argument => "unexpected argument '" ++ argument ++ "'"
  | repeated setting => "--" ++ setting.long ++ " cannot be given more than once"
  | valueMissing setting => "--" ++ setting.long ++ " needs a value"
  | notAmongChoices setting value =>
      "'" ++ value ++ "' is not a choice for --" ++ setting.long
  | unreadable setting value => "invalid value '" ++ value ++ "' for --" ++ setting.long
  | valueUnwanted setting value =>
      "--" ++ setting.long ++ " takes no value, but '" ++ value ++ "' was given"

end Headroom.CommandLine
