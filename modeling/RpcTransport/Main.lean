import RpcTransport.Listener.LocalNetwork
import RpcTransport.Program.Probe

/-! # The command line

`host` launches a host and `probe` checks one, each with the arguments behind it. Files and
environment are real. Sockets are not opened: every bind succeeds unless two listeners of
the process conflict, the signal to shut down arrives as soon as it is waited for, and no
target can be reached.
-/

open RpcTransport

def readFileBytes (path : String) : IO (Except FileError ByteArray) := do
  try
    return .ok (← IO.FS.readBinFile path)
  catch
    | .noFileOrDirectory .. => return .error .missing
    | .inappropriateType .. => return .error .isDirectory
    | e => return .error (.other (toString e))

def isPathPresent (path : String) : IO Bool := do
  try
    let _ ← IO.FS.Handle.mk path .read
    return true
  catch
    | .noFileOrDirectory .. => return false
    | _ => return true

/-- A view of the files at some paths, and of whether some others are there. -/
def viewFiles (paths directories : List String) : IO Files := do
  let contents ← paths.mapM fun path => return (path, ← readFileBytes path)
  let present ← directories.mapM fun path => return (path, ← isPathPresent path)
  return {
    bytes := fun path => (contents.lookup path).getD (.error .missing)
    isPresent := fun path => (present.lookup path).getD false }

def writeLines (output : LogOutput) : IO Unit :=
  output.lines.forM fun line => IO.println line

def writeFailure (message : Option String) : IO Unit :=
  IO.eprintln ("Error: " ++ message.getD "malformed input")

def quietNetwork : Network := LocalNetwork.network { taken := [], firstPort := 49152 }

def runDaemon (arguments : List String) : IO UInt32 := do
  let directory ← IO.getEnv SystemConfig.directoryVariable
  let requested ← IO.getEnv "RUST_LOG"
  let environment (files : Files) : LaunchEnvironment :=
    ⟨⟨quietNetwork, fun _ _ => .clean⟩, files, directory, false⟩
  let configs := Daemon.configPaths arguments
  let first ← viewFiles configs directory.toList
  let files ← viewFiles (configs ++ Daemon.systemPaths (environment first) arguments)
    directory.toList
  let outcome := Daemon.run (environment files) arguments
  match outcome with
  | .launched report =>
    writeLines (report.output requested)
    match report.result with
    | .ok () => pure ()
    | .error e => writeFailure e.message?
  | _ => IO.eprintln "usage: host [--config FILE] [--system-config FILE]"
  return UInt32.ofNat outcome.exitCode

def runProbe (arguments : List String) : IO UInt32 := do
  let requested ← IO.getEnv "RUST_LOG"
  let files ← viewFiles (Probe.configPaths arguments) []
  let transport : Transport := { fallback := some "transport error" }
  let report := Probe.run files ⟨[]⟩ transport requested arguments
  writeLines report.output
  match report.status, report.failure with
  | some status, _ => IO.println status.name
  | none, some failure => writeFailure failure.message?
  | none, none => IO.eprintln "usage: probe [TARGET] [--service NAME] [--config FILE]"
  return UInt32.ofNat report.exitCode

def main : List String → IO UInt32
  | "host" :: arguments => runDaemon arguments
  | "probe" :: arguments => runProbe arguments
  | _ => do
    IO.eprintln "usage: host | probe"
    return 2
