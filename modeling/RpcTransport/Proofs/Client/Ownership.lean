import RpcTransport.Proofs.Client.Reached

/-! # Who keeps a connection live

Every reference to a connection belongs to somebody: to a client, which has one in its
handle and one in its stub, or to a caller, who has one in each stub it keeps. A client
gives both of its references up before it dials, so that at the start of a dial only the
stubs of callers keep connections live.
-/

namespace RpcTransport

variable {α : Type}

namespace Transport

/-- The references are those that an owner has and those of the stubs that callers keep,
    and it was only the latter whenever a dial began. -/
structure Accounts (transport : Transport) (owned : List Nat) : Prop where
  references : transport.references.Perm (owned ++ transport.kept)
  dials : ∀ record ∈ transport.dials, ∀ connection,
    connection ∈ record.live ↔ connection ∈ record.kept

namespace Accounts

variable {transport : Transport} {owned : List Nat} {connection : Nat}

theorem mem_live_iff (accounts : transport.Accounts owned) :
    connection ∈ transport.live ↔ connection ∈ owned ∨ connection ∈ transport.kept := by
  rw [live, List.mem_eraseDups, accounts.references.mem_iff, List.mem_append]

/-- An owner of one connection, and nobody else, keeps no more than one live. -/
theorem length_live_le_one (accounts : transport.Accounts owned)
    (kept : transport.kept = []) (single : ∀ first ∈ owned, ∀ second ∈ owned, first = second) :
    transport.live.length ≤ 1 := by
  have referred : ∀ connection ∈ transport.references, connection ∈ owned := by
    intro connection member
    simpa [kept] using accounts.references.mem_iff.mp member
  rw [live]
  cases references : transport.references with
  | nil => simp
  | cons first rest =>
      rw [references] at referred
      have same : rest.filter (fun second => !second == first) = [] := by
        rw [List.filter_eq_nil_iff]
        intro second member
        simp [single first (referred first (by simp)) second (referred second (by simp [member]))]
      rw [List.eraseDups_cons, same]
      simp

theorem perm (accounts : transport.Accounts owned) {others : List Nat}
    (same : owned.Perm others) : transport.Accounts others :=
  ⟨accounts.references.trans (same.append_right _), accounts.dials⟩

theorem note (accounts : transport.Accounts owned) (notice : Notice) :
    (transport.note notice).Accounts owned :=
  ⟨accounts.references, accounts.dials⟩

theorem count (accounts : transport.Accounts owned) (event : Count) :
    (transport.count event).Accounts owned :=
  ⟨accounts.references, accounts.dials⟩

theorem enter (accounts : transport.Accounts owned) (connection : Nat) :
    (transport.enter connection).Accounts owned :=
  ⟨accounts.references, accounts.dials⟩

theorem acquire (accounts : transport.Accounts owned) (connection : Nat) :
    (transport.acquire connection).Accounts (connection :: owned) :=
  ⟨accounts.references.cons connection, accounts.dials⟩

theorem release (accounts : transport.Accounts (connection :: owned)) :
    (transport.release connection).Accounts owned := by
  refine ⟨?_, accounts.dials⟩
  have erased := accounts.references.erase connection
  rwa [List.cons_append, List.erase_cons_head] at erased

theorem keep (accounts : transport.Accounts owned) (connection : Nat) :
    (transport.keep connection).Accounts owned :=
  ⟨(accounts.references.cons connection).trans List.perm_middle.symm, accounts.dials⟩

theorem letGo (accounts : transport.Accounts owned) (connection : Nat) :
    (transport.letGo connection).Accounts owned := by
  simp only [Transport.letGo]
  split
  · next kept =>
      refine ⟨?_, accounts.dials⟩
      -- the reference that goes is that of the kept stub, whoever else has one as well
      have found : transport.kept.Perm (connection :: transport.kept.erase connection) :=
        List.perm_cons_erase kept
      have moved : transport.references.Perm
          (connection :: (owned ++ transport.kept.erase connection)) :=
        accounts.references.trans ((found.append_left owned).trans List.perm_middle)
      have erased := moved.erase connection
      rwa [List.erase_cons_head] at erased
  · exact accounts

theorem releaseAll {connections : List Nat}
    (accounts : transport.Accounts (connections ++ owned)) :
    (transport.releaseAll connections).Accounts owned := by
  induction connections generalizing transport with
  | nil => exact accounts
  | cons connection rest ih => exact ih accounts.release

theorem letGoAll (accounts : transport.Accounts owned) :
    transport.letGoAll.Accounts owned := by
  have unkept : Accounts { transport with kept := [] } (transport.kept ++ owned) := by
    refine ⟨?_, accounts.dials⟩
    rw [List.append_nil]
    exact accounts.references.trans List.perm_append_comm
  exact unkept.releaseAll

theorem recordDial (accounts : transport.Accounts []) (target : DialTarget) :
    (transport.recordDial target).Accounts [] := by
  refine ⟨accounts.references, ?_⟩
  intro record member connection
  rcases List.mem_append.mp member with earlier | latest
  · exact accounts.dials record earlier connection
  · rw [List.mem_singleton.mp latest]
    simp [accounts.mem_live_iff]

theorem established (accounts : transport.Accounts []) (target : DialTarget) :
    (transport.established target).Accounts [transport.generation + 1] := by
  have recorded := accounts.recordDial target
  exact ⟨recorded.references.cons _, recorded.dials⟩

end Accounts

end Transport

namespace Client

def owned (client : Client) : List Nat :=
  match client.live with
  | some live => [live.stub.connection, live.handle.connection]
  | none => []

theorem owned_of_connected {client : Client} {live : Live}
    (connected : client.live = some live) :
    client.owned = [live.stub.connection, live.handle.connection] := by
  rw [owned, connected]

theorem owned_of_disconnected {client : Client} (disconnected : client.live = none) :
    client.owned = [] := by
  rw [owned, disconnected]

section Accounts

variable {client : Client} {transport : Transport}

theorem accounts_beforeDial (accounts : transport.Accounts client.owned) :
    (client.beforeDial transport).Accounts [] := by
  have announced := accounts.note (.reconnecting client.name client.target.address)
  rw [beforeDial, vacate]
  cases connection : client.live with
  | none => rwa [owned_of_disconnected connection] at announced
  | some live =>
      rw [owned_of_connected connection] at announced
      have noted := announced.note (.closingConnection client.name live.handle.id)
      -- first the reference of the stub goes, then that of the handle
      exact (noted.release.note _).release

theorem accounts_renewedTransport (accounts : transport.Accounts client.owned) :
    (client.renewedTransport transport).Accounts (client.renewed transport).owned := by
  have dialed := (accounts_beforeDial accounts).established client.redialTarget
  rw [generation_beforeDial] at dialed
  exact ((dialed.acquire (transport.generation + 1)).note _).count _

theorem accounts_lostTransport (accounts : transport.Accounts client.owned)
    (failure : String) : (client.lostTransport failure transport).Accounts [] :=
  (((accounts_beforeDial accounts).recordDial client.redialTarget).note _).count _

theorem accounts_invoked {owned : List Nat} (accounts : transport.Accounts owned)
    (call : Call α) (attempt : Nat) (stub : Stub) :
    (invoked call attempt stub transport).Accounts owned := by
  simp only [invoked, invoke]
  split
  · exact (accounts.enter stub.connection).keep stub.connection
  · exact accounts.enter stub.connection

theorem accounts_concluded {owned : List Nat} (accounts : transport.Accounts owned)
    (answer : Except Status α) : (client.concluded transport answer).Accounts owned := by
  cases answer with
  | ok value => exact accounts.count _
  | error status =>
      simp only [concluded]
      split
      · exact ((accounts.note _).note _).count _
      · exact (accounts.note _).count _

theorem accounts_retried {owned : List Nat} (accounts : transport.Accounts owned)
    (answer : Except Status α) : (client.retried transport answer).Accounts owned := by
  cases answer with
  | ok value => exact accounts.count _
  | error status => exact (accounts.note _).count _

theorem CallPath.accounts {call : Call α} {report : CallReport α}
    (path : CallPath client call transport report)
    (accounts : transport.Accounts client.owned) :
    report.transport.Accounts report.client.owned := by
  cases path with
  | concluded live connected final =>
      exact accounts_concluded (accounts_invoked accounts call 0 live.stub) _
  | lost live status failure connected answered unavailable refused =>
      have failed := (accounts_invoked accounts call 0 live.stub).note
        (.callFailed client.name status)
      exact (accounts_lostTransport failed failure).count _
  | retried live status connected answered unavailable accepted =>
      have failed := (accounts_invoked accounts call 0 live.stub).note
        (.callFailed client.name status)
      have renewed := (accounts_renewedTransport failed).note (.retryingCall client.name)
      exact accounts_retried (accounts_invoked renewed call 1 _) _
  | refused failure disconnected refused =>
      exact (accounts_lostTransport accounts failure).count _
  | entered disconnected accepted =>
      have renewed := accounts_renewedTransport accounts
      exact accounts_concluded (accounts_invoked renewed call 0 _) _

theorem accounts_close (accounts : transport.Accounts client.owned) :
    (client.close transport).Accounts [] := by
  have noted := accounts.note (.clientClosed client.name client.target.address)
  rw [close, release]
  cases connection : client.live with
  | none => rwa [owned_of_disconnected connection] at noted
  | some live =>
      rw [owned_of_connected connection] at noted
      have swapped := noted.perm (List.Perm.swap live.handle.connection live.stub.connection [])
      exact (swapped.note _).release.release

end Accounts

def Matched (client : Client) : Prop :=
  ∀ live, client.live = some live → live.stub.connection = live.handle.connection

theorem Matched.single {client : Client} (matched : client.Matched) :
    ∀ first ∈ client.owned, ∀ second ∈ client.owned, first = second := by
  cases connection : client.live with
  | none => simp [owned_of_disconnected connection]
  | some live => simp [owned_of_connected connection, matched live connection]

theorem matched_renewed (client : Client) (transport : Transport) :
    (client.renewed transport).Matched := by
  intro live connected
  cases connected
  rfl

theorem CallPath.matched {client : Client} {call : Call α} {transport : Transport}
    {report : CallReport α} (path : CallPath client call transport report) (matched : client.Matched) :
    report.client.Matched := by
  cases path with
  | concluded => exact matched
  | lost => exact fun _ connected => nomatch connected
  | retried => exact client.matched_renewed _
  | refused => exact fun _ connected => nomatch connected
  | entered => exact client.matched_renewed transport

end Client

namespace ClientRun

def owned (run : ClientRun) : List Nat :=
  match run.client with
  | some client => client.owned
  | none => []

structure Accounted (run : ClientRun) : Prop where
  accounts : run.transport.Accounts run.owned
  matched : ∀ client, run.client = some client → client.Matched

theorem accounted_started (name : String) (target : DialTarget)
    (script : List (Option String)) (fallback : Option String) (identities : Nat)
    (journal : Journal) :
    (started name target (.unused script fallback identities journal)).Accounted := by
  constructor
  · have unused : (Transport.unused script fallback identities journal).Accounts [] :=
      ⟨List.Perm.refl [], fun _ absent => nomatch absent⟩
    exact ((unused.established target).acquire _).note _
  · intro client same live connected
    cases same
    cases connected
    rfl

theorem Accounted.act {run : ClientRun} (accounted : run.Accounted) (action : ClientAction α) :
    (run.act action).2.Accounted := by
  obtain ⟨client?, transport⟩ := run
  obtain ⟨accounts, matched⟩ := accounted
  cases action with
  | call call =>
      cases client? with
      | none => exact ⟨accounts, matched⟩
      | some client =>
          have path := client.callPath call transport
          refine ⟨path.accounts accounts, fun report same => ?_⟩
          cases same
          exact path.matched (matched client rfl)
  | rename name =>
      cases client? with
      | none => exact ⟨accounts, matched⟩
      | some client =>
          refine ⟨accounts, fun renamed same => ?_⟩
          cases same
          exact matched client rfl
  | close =>
      cases client? with
      | none => exact ⟨accounts, matched⟩
      | some client =>
          exact ⟨Client.accounts_close accounts, fun _ absent => nomatch absent⟩
  | keepStub =>
      simp only [ClientRun.act]
      split
      · exact ⟨accounts, matched⟩
      · exact ⟨accounts.keep _, matched⟩
  | releaseStub connection => exact ⟨accounts.letGo connection, matched⟩
  | releaseStubs => exact ⟨accounts.letGoAll, matched⟩
  | script outcomes => exact ⟨⟨accounts.references, accounts.dials⟩, matched⟩
  | fallback outcome => exact ⟨⟨accounts.references, accounts.dials⟩, matched⟩

/-- Only the connection that the client has and those of the stubs that its caller keeps
    are live, and at the start of a dial not even the former. -/
structure LiveByNeed (run : ClientRun) : Prop where
  dialing : ∀ record ∈ run.transport.dials, ∀ connection,
    connection ∈ record.live ↔ connection ∈ record.kept
  connected : ∀ client live, run.client = some client → client.live = some live →
    ∀ connection, connection ∈ run.transport.live ↔
      connection = live.handle.connection ∨ connection ∈ run.transport.kept
  disconnected : ∀ client, run.client = some client → client.isConnected = false →
    ∀ connection, connection ∈ run.transport.live ↔ connection ∈ run.transport.kept
  closed : run.client = none →
    ∀ connection, connection ∈ run.transport.live ↔ connection ∈ run.transport.kept
  /-- If the caller keeps nothing, nothing is live when a dial starts. -/
  dialingAlone : ∀ record ∈ run.transport.dials, record.kept = [] → record.live = []
  /-- If the caller keeps nothing, no two connections are live. -/
  alone : run.transport.kept = [] → run.transport.live.length ≤ 1

theorem Accounted.liveByNeed {run : ClientRun} (accounted : run.Accounted) :
    run.LiveByNeed where
  dialing := accounted.accounts.dials
  connected := by
    intro client live current connected connection
    have owned : run.owned = [live.stub.connection, live.handle.connection] := by
      rw [ClientRun.owned, current]
      exact Client.owned_of_connected connected
    rw [accounted.accounts.mem_live_iff, owned, accounted.matched client current live connected]
    simp
  disconnected := by
    intro client current disconnected connection
    have owned : run.owned = [] := by
      rw [ClientRun.owned, current]
      exact Client.owned_of_disconnected (by simpa [Client.isConnected] using disconnected)
    simp [accounted.accounts.mem_live_iff, owned]
  closed := by
    intro closed connection
    simp [accounted.accounts.mem_live_iff, ClientRun.owned, closed]
  dialingAlone := by
    intro record member nothing
    apply List.eq_nil_iff_forall_not_mem.mpr
    intro connection live
    rw [accounted.accounts.dials record member, nothing] at live
    cases live
  alone := by
    intro nothing
    apply accounted.accounts.length_live_le_one nothing
    rw [ClientRun.owned]
    cases current : run.client with
    | none => simp
    | some client => exact (accounted.matched client current).single

/-- From its construction on, a client keeps no connection live but its current one, and
    none while it dials. -/
theorem acts_liveByNeed {name : String} {target : DialTarget} {script : List (Option String)}
    {fallback : Option String} {identities : Nat} {journal : Journal} {run : ClientRun}
    {after : Transport}
    (success : start name target (.unused script fallback identities journal) =
      (.ok run, after))
    (actions : List (ClientAction α)) : (run.acts actions).LiveByNeed := by
  obtain ⟨-, rfl⟩ := eq_started success
  have accounted : ((started name target _).acts actions).Accounted :=
    acts_induction (fun _ action accounted => accounted.act action)
      (accounted_started name target script fallback identities journal) actions
  exact accounted.liveByNeed

/-- A caller that keeps its stub, finds the endpoint gone and then lets go of the stub. -/
theorem liveByNeed_kept_refused :
    let target := DialTarget.ofAddress "inventory:50051"
    let transport := Transport.unused [none, some "refused"] none 0 {}
    let run := started "inventory" target transport
    start "inventory" target transport = (.ok run, run.transport) ∧
      (run.acts [.call fun _ _ => (⟨.error ⟨.unavailable, "gone"⟩, true⟩ : Reply Unit),
        .rename "stock", .releaseStub 1, .close]).LiveByNeed := by
  intro target transport run
  have success : start "inventory" target transport = (.ok run, run.transport) :=
    start_eq "inventory" target transport
  exact ⟨success, acts_liveByNeed success _⟩

end ClientRun

end RpcTransport
