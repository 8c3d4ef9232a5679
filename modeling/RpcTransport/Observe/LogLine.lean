import RpcTransport.Json.Printer
import RpcTransport.Observe.Notice

/-! # Log lines

An event as one JSON object, or as a line for people.
-/

namespace RpcTransport.Event

def jsonLine (event : Event) : String :=
  let fields := ("message", Json.Value.string event.message) ::
    event.fields.map fun field => (field.1, Json.Value.string field.2)
  (Json.Value.object [("level", .string event.level.name), ("target", .string event.source),
    ("fields", .object fields)]).text

def prettyLine (event : Event) : String :=
  event.fields.foldl (fun line field => line ++ " " ++ field.1 ++ "=" ++ field.2)
    s!"{event.level.name} {event.source}: {event.message}"

end RpcTransport.Event
