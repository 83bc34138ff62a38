/-!
# Wrong usage

Why a command line is not understood. Asking for help is among the reasons, since then nothing is
run either; it alone is no failure.
-/

namespace ProfilingSession.CommandLine

inductive UsageFault where
  /-- Help was asked for. -/
  | help
  /-- There is nothing on the line. -/
  | nothingGiven
  /-- There is no command. -/
  | noCommand
  | unknownCommand
  | unknownArgument
  /-- An option was given twice, or beside one that excludes it. -/
  | conflict
  /-- An argument that is needed is missing. -/
  | missingArgument
  /-- The value of an option is missing, or is an empty path. -/
  | missingValue
  /-- A value that is no number or no name as it has to be. -/
  | badValue
  /-- A value for an option that takes none. -/
  | needlessValue
  deriving DecidableEq, Repr

def UsageFault.message : UsageFault → String
  | .help => "Commands: run, generate, gen-frontend, help"
  | .nothingGiven => "Nothing is asked for; try help."
  | .noCommand => "There is no command; try help."
  | .unknownCommand => "There is no such command; try help."
  | .unknownArgument => "There is an argument that is not known."
  | .conflict => "An option is given twice, or beside one that excludes it."
  | .missingArgument => "An argument is missing that is needed."
  | .missingValue => "An option lacks its value."
  | .badValue => "A value is not of the kind that its option takes."
  | .needlessValue => "A value is given for an option that takes none."

def UsageFault.exitCode : UsageFault → Nat
  | .help => 0
  | _ => 2

end ProfilingSession.CommandLine
