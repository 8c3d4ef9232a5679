import RpcTransport.Client.Resilient

/-! # Health checks

A host answers for each service that it knows whether it is serving. The empty name stands
for the whole server, which serves unless it says otherwise.
-/

namespace RpcTransport

inductive ServingStatus where
  | unknown
  | serving
  | notServing
  deriving Repr, DecidableEq

namespace ServingStatus

def name : ServingStatus → String
  | unknown => "UNKNOWN"
  | serving => "SERVING"
  | notServing => "NOT_SERVING"

def ofName? : String → Option ServingStatus
  | "UNKNOWN" => some unknown
  | "SERVING" => some serving
  | "NOT_SERVING" => some notServing
  | _ => none

end ServingStatus

structure HealthTable where
  entries : List (String × ServingStatus)
  deriving Repr, DecidableEq

namespace HealthTable

def check (table : HealthTable) (service : String) : Except Status ServingStatus :=
  match table.entries.lookup service with
  | some status => .ok status
  | none =>
    if service = "" then .ok .serving else .error ⟨.notFound, "service not registered"⟩

def call (table : HealthTable) (service : String) : Call ServingStatus :=
  fun _ _ => ⟨table.check service, false⟩

/-- Connect to a host, check one of its services and close. A failure lets go of the client
    without closing it. -/
def probe (table : HealthTable) (service client : String) (target : DialTarget)
    (transport : Transport) : Except ClientError ServingStatus × Transport :=
  match Client.connect "health" target transport with
  | (.error e, transport) => (.error e, transport)
  | (.ok connected, transport) =>
    let report := (connected.named client).call (table.call service) transport
    match report.result with
    | .error e => (.error e, report.client.release report.transport)
    | .ok status => (.ok status, report.client.close report.transport)

end HealthTable

end RpcTransport
