import RpcTransport.Observe.LogFilter
import RpcTransport.Observe.LogLine
import RpcTransport.Program.CommandLine
import RpcTransport.Program.Launch

/-! # The host program

The command line of a program that launches a host, what it logs and how it exits.
-/

namespace RpcTransport

structure LogOutput where
  format : LogFormat
  events : List Event
  deriving Repr, DecidableEq

def LogOutput.ofNotices (config : ObservabilityConfig) (requested : Option String)
    (notices : List Notice) : LogOutput :=
  let filter := LogFilter.choose requested config.logLevel
  ⟨config.logFormat, (notices.map (·.event)).filter filter.passes⟩

def LogOutput.lines (output : LogOutput) : List String :=
  match output.format with
  | .json => output.events.map (·.jsonLine)
  | .pretty => output.events.map (·.prettyLine)

/-- What a launch logs; nothing before logging is set up. -/
def LaunchReport.output (report : LaunchReport) (requested : Option String) : LogOutput :=
  match report.logging with
  | some config => .ofNotices config requested report.world.sockets.journal.notices
  | none => ⟨.pretty, []⟩

namespace Daemon

def options : List OptionSpec :=
  [⟨"config", some 'c', .path⟩, ⟨"system-config", some 's', .path⟩]

inductive Outcome where
  | help
  | misuse
  | launched (report : LaunchReport)

def run (environment : LaunchEnvironment) (arguments : List String) : Outcome :=
  match CommandLine.parse options 0 arguments with
  | .help => .help
  | .misuse => .misuse
  | .arguments options _ =>
    .launched (launch environment (options.lookup "config") (options.lookup "system-config"))

def configPaths (arguments : List String) : List String :=
  match CommandLine.parse options 0 arguments with
  | .arguments options _ => (options.lookup "config").toList
  | _ => []

def systemPaths (environment : LaunchEnvironment) (arguments : List String) : List String :=
  match CommandLine.parse options 0 arguments with
  | .arguments options _ =>
    match Launch.readConfig environment (options.lookup "config") with
    | .ok config =>
      [Launch.systemPath environment (options.lookup "system-config") config.system.path]
    | .error _ => []
  | _ => []

def exitCodeOf (report : LaunchReport) : Nat :=
  match report.result with
  | .ok () => 0
  | .error _ => 1

def Outcome.exitCode : Outcome → Nat
  | help => 0
  | misuse => 2
  | launched report => exitCodeOf report

end Daemon

end RpcTransport
