import RpcTransport.Text.Quoted

/-! # Status of a remote call

The seventeen status codes of gRPC and the status a failed call ends with. A number that
is no code reads as `unknown`.
-/

namespace RpcTransport

inductive Code where
  | ok
  | cancelled
  | unknown
  | invalidArgument
  | deadlineExceeded
  | notFound
  | alreadyExists
  | permissionDenied
  | resourceExhausted
  | failedPrecondition
  | aborted
  | outOfRange
  | unimplemented
  | internal
  | unavailable
  | dataLoss
  | unauthenticated
  deriving Repr, DecidableEq

namespace Code

def all : List Code :=
  [ok, cancelled, unknown, invalidArgument, deadlineExceeded, notFound, alreadyExists,
   permissionDenied, resourceExhausted, failedPrecondition, aborted, outOfRange,
   unimplemented, internal, unavailable, dataLoss, unauthenticated]

/-- The code with a number; `unknown` for every number beyond 0 to 16. -/
def ofInt (number : Int) : Code :=
  if 0 ≤ number then (all[number.toNat]?).getD unknown else unknown

def name : Code → String
  | ok => "Ok"
  | cancelled => "Cancelled"
  | unknown => "Unknown"
  | invalidArgument => "InvalidArgument"
  | deadlineExceeded => "DeadlineExceeded"
  | notFound => "NotFound"
  | alreadyExists => "AlreadyExists"
  | permissionDenied => "PermissionDenied"
  | resourceExhausted => "ResourceExhausted"
  | failedPrecondition => "FailedPrecondition"
  | aborted => "Aborted"
  | outOfRange => "OutOfRange"
  | unimplemented => "Unimplemented"
  | internal => "Internal"
  | unavailable => "Unavailable"
  | dataLoss => "DataLoss"
  | unauthenticated => "Unauthenticated"

end Code

/-- How a failed call ended. On the wire a status can also carry details and metadata, which
    nothing here acts on; a `Status` is one that has neither. -/
structure Status where
  code : Code
  message : String
  deriving Repr, DecidableEq

/-- The status as diagnostics show it, with its message quoted and the two parts that it does
    not have as empty. -/
def Status.text (status : Status) : String :=
  "status: " ++ status.code.name ++ ", message: " ++ Quoted.encode status.message ++
    ", details: [], metadata: MetadataMap \x7b headers: \x7b\x7d \x7d"

end RpcTransport
