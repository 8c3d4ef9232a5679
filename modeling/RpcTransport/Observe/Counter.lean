/-! # Counters

What the library counts: calls by client and outcome, reconnects by client and result,
and bind targets refused by reason. A report sums the counts of equal labels.
-/

namespace RpcTransport

inductive CallOutcome where
  | ok
  | failed
  /-- The second attempt, on a new connection, succeeded. -/
  | recoveredOk
  /-- The second attempt, on a new connection, failed too. -/
  | recoveredFailed
  | dialFailed
  deriving Repr, DecidableEq

namespace CallOutcome

def all : List CallOutcome := [ok, failed, recoveredOk, recoveredFailed, dialFailed]

def label : CallOutcome → String
  | ok => "ok"
  | failed => "failed"
  | recoveredOk => "recovered_ok"
  | recoveredFailed => "recovered_failed"
  | dialFailed => "dial_failed"

end CallOutcome

inductive Count where
  | call (client : String) (outcome : CallOutcome)
  | reconnect (client : String) (succeeded : Bool)
  | rejection (reason : String)
  deriving Repr, DecidableEq

structure Series where
  name : String
  labels : List (String × String)
  deriving Repr, DecidableEq

def Count.series : Count → Series
  | .call client outcome =>
    ⟨"foundation_rpc_calls_total", [("client", client), ("outcome", outcome.label)]⟩
  | .reconnect client succeeded =>
    ⟨"foundation_rpc_reconnects_total",
      [("client", client), ("result", if succeeded then "ok" else "failed")]⟩
  | .rejection reason => ⟨"foundation_listener_rejections_total", [("reason", reason)]⟩

namespace Series

/-- Series are in the order of their names, then of their labels. -/
def key (series : Series) : List String :=
  series.name :: series.labels.flatMap fun (label, value) => [label, value]

def increment (series : Series) : List (Series × Nat) → List (Series × Nat)
  | [] => [(series, 1)]
  | entry :: rest =>
    if series = entry.1 then (series, entry.2 + 1) :: rest
    else if series.key < entry.1.key then (series, 1) :: entry :: rest
    else entry :: increment series rest

def report (counts : List Count) : List (Series × Nat) :=
  counts.foldl (fun sums count => count.series.increment sums) []

end Series

end RpcTransport
