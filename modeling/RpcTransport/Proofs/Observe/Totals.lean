import Mathlib.Algebra.GroupWithZero.Nat
import RpcTransport.Observe.Journal

/-! # Totals of counters

A report gives every series the number of its counts. Sums over some series of a report are
therefore numbers of counts: of the calls of some clients that had an outcome, of their
reconnects with a result, or of the bind targets refused for a reason.
-/

namespace RpcTransport

namespace Series

def total (chosen : Series → Bool) (sums : List (Series × Nat)) : Nat :=
  ((sums.filter fun entry => chosen entry.1).map (·.2)).sum

theorem total_cons (chosen : Series → Bool) (entry : Series × Nat)
    (rest : List (Series × Nat)) :
    total chosen (entry :: rest) = (if chosen entry.1 then entry.2 else 0) + total chosen rest := by
  by_cases taken : chosen entry.1 = true <;> simp [total, taken]

theorem total_increment (chosen : Series → Bool) (series : Series)
    (sums : List (Series × Nat)) :
    total chosen (series.increment sums) =
      total chosen sums + if chosen series then 1 else 0 := by
  induction sums with
  | nil => by_cases taken : chosen series = true <;> simp [increment, total, taken]
  | cons entry rest ih =>
      simp only [increment]
      split
      · next same =>
          simp only [total_cons, ← same]
          split <;> omega
      · split
        · simp only [total_cons]
          omega
        · simp only [total_cons, ih]
          omega

/-- A report counts: its sum over the chosen series is the number of counts in them. -/
theorem total_report (chosen : Series → Bool) (counts : List Count) :
    total chosen (report counts) = counts.countP fun count => chosen count.series := by
  have onto : ∀ sums, total chosen
      (counts.foldl (fun sums count => count.series.increment sums) sums) =
        total chosen sums + counts.countP fun count => chosen count.series := by
    induction counts with
    | nil => simp
    | cons count rest ih =>
        intro sums
        rw [List.foldl_cons, ih, total_increment, List.countP_cons]
        omega
  simpa [report, total] using onto []

def isCall (clients : String → Bool) (outcome : CallOutcome) (series : Series) : Bool :=
  series.name == "foundation_rpc_calls_total" &&
    (series.labels.lookup "client").any clients &&
    series.labels.lookup "outcome" == some outcome.label

def isReconnect (clients : String → Bool) (succeeded : Bool) (series : Series) : Bool :=
  series.name == "foundation_rpc_reconnects_total" &&
    (series.labels.lookup "client").any clients &&
    series.labels.lookup "result" == some (if succeeded then "ok" else "failed")

def isRejection (reason : String) (series : Series) : Bool :=
  series.name == "foundation_listener_rejections_total" &&
    series.labels.lookup "reason" == some reason

end Series

theorem CallOutcome.label_inj {outcome other : CallOutcome} :
    outcome.label = other.label ↔ outcome = other := by
  cases outcome <;> cases other <;> decide

namespace Count

def isCall (clients : String → Bool) (outcome : CallOutcome) : Count → Bool
  | .call client other => clients client && other == outcome
  | _ => false

def isReconnect (clients : String → Bool) (succeeded : Bool) : Count → Bool
  | .reconnect client other => clients client && other == succeeded
  | _ => false

def isRejection (reason : String) : Count → Bool
  | .rejection other => other == reason
  | _ => false

theorem isCall_series (clients : String → Bool) (outcome : CallOutcome) (count : Count) :
    count.series.isCall clients outcome = count.isCall clients outcome := by
  cases count with
  | call client other =>
      simp [series, Series.isCall, isCall, List.lookup_cons, Bool.beq_eq_decide_eq,
        CallOutcome.label_inj]
  | reconnect client succeeded => simp [series, Series.isCall, isCall]
  | rejection reason => simp [series, Series.isCall, isCall]

theorem isReconnect_series (clients : String → Bool) (succeeded : Bool) (count : Count) :
    count.series.isReconnect clients succeeded = count.isReconnect clients succeeded := by
  cases count with
  | call client outcome => simp [series, Series.isReconnect, isReconnect]
  | reconnect client other =>
      cases other <;> cases succeeded <;>
        simp [series, Series.isReconnect, isReconnect, List.lookup_cons]
  | rejection reason => simp [series, Series.isReconnect, isReconnect]

theorem isRejection_series (reason : String) (count : Count) :
    count.series.isRejection reason = count.isRejection reason := by
  cases count with
  | call client outcome => simp [series, Series.isRejection, isRejection]
  | reconnect client succeeded => simp [series, Series.isRejection, isRejection]
  | rejection other => simp [series, Series.isRejection, isRejection]

end Count

namespace Journal

def calls (journal : Journal) (clients : String → Bool) (outcome : CallOutcome) : Nat :=
  Series.total (Series.isCall clients outcome) (Series.report journal.counts)

def reconnects (journal : Journal) (clients : String → Bool) (succeeded : Bool) : Nat :=
  Series.total (Series.isReconnect clients succeeded) (Series.report journal.counts)

theorem calls_eq (journal : Journal) (clients : String → Bool) (outcome : CallOutcome) :
    journal.calls clients outcome = journal.counts.countP (·.isCall clients outcome) := by
  simp only [calls, Series.total_report, Count.isCall_series]

theorem reconnects_eq (journal : Journal) (clients : String → Bool) (succeeded : Bool) :
    journal.reconnects clients succeeded =
      journal.counts.countP (·.isReconnect clients succeeded) := by
  simp only [reconnects, Series.total_report, Count.isReconnect_series]

def rejections (journal : Journal) (reason : String) : Nat :=
  Series.total (Series.isRejection reason) (Series.report journal.counts)

theorem rejections_eq (journal : Journal) (reason : String) :
    journal.rejections reason = journal.counts.countP (·.isRejection reason) := by
  simp only [rejections, Series.total_report, Count.isRejection_series]

end Journal

end RpcTransport
