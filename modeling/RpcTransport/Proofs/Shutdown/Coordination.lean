import RpcTransport.Proofs.Shutdown.Indistinct

/-! # What triggering comes to

Of all that has been done, a signal minds two things only: that a coordinator of its family has
been triggered, whenever that was, and that none is left. Coordinators answer for the former.
Once one has been triggered, triggering it again makes no difference to anybody.
-/

namespace RpcTransport

namespace ShutdownRun

section Flags

variable {run : ShutdownRun}

theorem Tallied.acts (tallied : run.Tallied []) (history : List ShutdownAction) :
    (run.acts history).Tallied [] := by
  induction history generalizing run with
  | nil => exact tallied
  | cons action rest ih => exact ih (tallied.act action)

end Flags

end ShutdownRun

end RpcTransport
