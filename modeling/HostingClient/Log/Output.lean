import HostingClient.Log.Filter

/-! # Log output

The filter of the log lines comes from the environment if that names one, else from the configuration, else it shows
information and what is more severe. It is chosen once: later attempts are refused. -/

namespace HostingClient

/-- Settings of the log output. -/
structure LogConfig where
  /-- The filter that is used if the environment names none. -/
  level : String
  /-- Whether lines are written as data. -/
  json : Bool
deriving DecidableEq, Repr, Inhabited

namespace LogConfig

/-- The settings for users. -/
def standard : LogConfig := ⟨"info", false⟩

/-- The settings for work on the program. -/
def development : LogConfig := ⟨"fancyspaces_core=debug,fancyspaces_http=debug,info", false⟩

/-- The filter of some settings, given the one that the environment names. -/
def filter (c : LogConfig) (environment : Option String) : LogFilter :=
  ((environment.bind LogFilter.read).orElse fun _ => LogFilter.read c.level).getD [⟨false, .info⟩]

end LogConfig

/-- The log output of the program: the filter, once one is chosen. -/
structure LogOutput where
  filter : Option LogFilter
deriving DecidableEq, Repr, Inhabited

namespace LogOutput

/-- Chooses the filter; whether it was accepted, which only happens the first time. -/
def install (o : LogOutput) (c : LogConfig) (environment : Option String) : Bool × LogOutput :=
  match o.filter with
  | some _ => (false, o)
  | none => (true, ⟨some (c.filter environment)⟩)

end LogOutput

end HostingClient
