import RpcTransport.Rpc.Status

/-! # Retry decisions

What the caller of a failed call may do about it, a function of the status code alone.
`unavailable` is the only code that asks for a new connection.
-/

namespace RpcTransport

inductive RetryDecision where
  | noRetry
  /-- A passing condition of the server; the connection is still good. -/
  | retryOnly
  /-- Nothing answers behind the target any more; only a new connection can help. -/
  | retryWithReconnect
  deriving Repr, DecidableEq

namespace RetryDecision

def all : List RetryDecision := [noRetry, retryOnly, retryWithReconnect]

def label : RetryDecision → String
  | noRetry => "no_retry"
  | retryOnly => "retry_only"
  | retryWithReconnect => "retry_with_reconnect"

def isRetryable (decision : RetryDecision) : Bool := decision != .noRetry

def needsReconnect (decision : RetryDecision) : Bool := decision == .retryWithReconnect

end RetryDecision

def Code.retry : Code → RetryDecision
  | .unavailable => .retryWithReconnect
  | .deadlineExceeded | .resourceExhausted | .failedPrecondition | .aborted | .dataLoss =>
    .retryOnly
  | _ => .noRetry

def Status.retry (status : Status) : RetryDecision := status.code.retry

/-- The decision for the number of a code as it came over the wire. -/
def retryOfNumber (number : Int) : RetryDecision := (Code.ofInt number).retry

theorem Code.needsReconnect_retry_iff (code : Code) :
    code.retry.needsReconnect = true ↔ code = .unavailable := by
  cases code <;> decide

end RpcTransport
