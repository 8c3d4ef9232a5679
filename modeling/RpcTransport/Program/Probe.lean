import RpcTransport.Dial.Endpoint
import RpcTransport.Host.Health
import RpcTransport.Program.Daemon

/-! # The probe program

Checks the health of one service through a client, prints its status, and exits with 0 only
if it is serving.
-/

namespace RpcTransport.Probe

def options : List OptionSpec :=
  [⟨"service", some 's', .text⟩, ⟨"config", some 'c', .path⟩,
   ⟨"connect-timeout-ms", none, .word64⟩, ⟨"request-timeout-ms", none, .word64⟩,
   ⟨"log-level", none, .text⟩]

structure Request where
  target : String := "127.0.0.1:50051"
  service : String := ""
  config : Option String := none
  connectTimeoutMs : Option UInt64 := none
  requestTimeoutMs : Option UInt64 := none
  logLevel : Option String := none
  deriving Repr, DecidableEq

def Request.ofArguments (options : List (String × String)) (positional : List String) :
    Request :=
  let missing : Request := {}
  let word (name : String) : Option UInt64 :=
    (options.lookup name).bind CommandLine.readWord64?
  { target := positional.headD missing.target
    service := (options.lookup "service").getD missing.service
    config := options.lookup "config"
    connectTimeoutMs := word "connect-timeout-ms"
    requestTimeoutMs := word "request-timeout-ms"
    logLevel := options.lookup "log-level" }

def Request.override (request : Request) (config : Config) : Config :=
  { config with
    client := { config.client with
      connectTimeoutMs := request.connectTimeoutMs.getD config.client.connectTimeoutMs
      requestTimeoutMs := request.requestTimeoutMs.getD config.client.requestTimeoutMs }
    observability := { config.observability with
      logLevel := request.logLevel.getD config.observability.logLevel } }

inductive Failure where
  | config (source : ConfigError)
  | client (source : ClientError)
  deriving Repr, DecidableEq

structure Report where
  exitCode : Nat
  status : Option ServingStatus := none
  failure : Option Failure := none
  output : LogOutput := ⟨.pretty, []⟩
  deriving Repr, DecidableEq

def configPaths (arguments : List String) : List String :=
  match CommandLine.parse options 1 arguments with
  | .arguments options _ => (options.lookup "config").toList
  | _ => []

def Failure.message? : Failure → Option String
  | .config source => source.message?
  | .client source => some source.message

/-- A transport on which a malformed target cannot be dialed. -/
def reach (target : DialTarget) (transport : Transport) : Transport :=
  match target.endpoint with
  | .error e => { transport with script := [], fallback := some e.message }
  | .ok _ => transport

def check (request : Request) (config : Config) (table : HealthTable) (transport : Transport)
    (requested : Option String) : Report :=
  let config := request.override config
  let target := config.client.dialTarget request.target
  let (result, transport) :=
    table.probe request.service "rpc-probe" target (reach target transport)
  let output := LogOutput.ofNotices config.observability requested transport.journal.notices
  match result with
  | .error e => { exitCode := 1, failure := some (.client e), output }
  | .ok status => { exitCode := if status = .serving then 0 else 1, status := some status, output }

/-- Run the program. `table` is what the host behind the target knows, and `requested` the
    log filter that the environment asks for. -/
def run (files : Files) (table : HealthTable) (transport : Transport)
    (requested : Option String) (arguments : List String) : Report :=
  match CommandLine.parse options 1 arguments with
  | .help => { exitCode := 0 }
  | .misuse => { exitCode := 2 }
  | .arguments options positional =>
    let request := Request.ofArguments options positional
    let loaded := match request.config with
      | some path => Config.load files path
      | none => .ok {}
    match loaded with
    | .error e => { exitCode := 1, failure := some (.config e) }
    | .ok config => check request config table transport requested

end RpcTransport.Probe
