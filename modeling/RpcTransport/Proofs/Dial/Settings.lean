import RpcTransport.Dial.Endpoint
import RpcTransport.Proofs.Text.Split

/-! # Settings of an endpoint

Every option writes the one setting of its kind, so a setting is that of the last option of its
kind, and options of different kinds may stand in any order. Only a user agent can be refused;
it is looked at also where a later one takes its place.
-/

namespace RpcTransport

inductive OptionKind where
  | connectTimeout
  | requestTimeout
  | tcpNoDelay
  | tcpKeepalive
  | http2KeepAliveInterval
  | keepAliveTimeout
  | keepAliveWhileIdle
  | userAgent
  | concurrencyLimit
  deriving Repr, DecidableEq

def OptionKind.Setting : OptionKind → Type
  | connectTimeout | requestTimeout | tcpKeepalive => Option Duration
  | http2KeepAliveInterval | keepAliveTimeout => Option Duration
  | tcpNoDelay => Bool
  | keepAliveWhileIdle => Option Bool
  | userAgent => Option String
  | concurrencyLimit => Option Nat

namespace DialOption

def kind : DialOption → OptionKind
  | connectTimeout _ => .connectTimeout
  | requestTimeout _ => .requestTimeout
  | tcpNoDelay _ => .tcpNoDelay
  | tcpKeepalive _ => .tcpKeepalive
  | http2KeepAliveInterval _ => .http2KeepAliveInterval
  | keepAliveTimeout _ => .keepAliveTimeout
  | keepAliveWhileIdle _ => .keepAliveWhileIdle
  | userAgent _ => .userAgent
  | concurrencyLimit _ => .concurrencyLimit

def setting : (option : DialOption) → option.kind.Setting
  | connectTimeout limit => some limit
  | requestTimeout limit => some limit
  | tcpNoDelay enabled => enabled
  | tcpKeepalive interval => interval
  | http2KeepAliveInterval interval => some interval
  | keepAliveTimeout limit => some limit
  | keepAliveWhileIdle enabled => some enabled
  | userAgent agent => some agent
  | concurrencyLimit limit => some limit

end DialOption

def Endpoint.setting (endpoint : Endpoint) : (kind : OptionKind) → kind.Setting
  | .connectTimeout => endpoint.connectTimeout
  | .requestTimeout => endpoint.requestTimeout
  | .tcpNoDelay => endpoint.tcpNoDelay
  | .tcpKeepalive => endpoint.tcpKeepalive
  | .http2KeepAliveInterval => endpoint.http2KeepAliveInterval
  | .keepAliveTimeout => endpoint.keepAliveTimeout
  | .keepAliveWhileIdle => endpoint.keepAliveWhileIdle
  | .userAgent => endpoint.userAgent
  | .concurrencyLimit => endpoint.concurrencyLimit

theorem Endpoint.eq_of_settings {first second : Endpoint} (uri : first.uri = second.uri)
    (settings : ∀ kind, first.setting kind = second.setting kind) : first = second := by
  cases first
  cases second
  rw [Endpoint.mk.injEq]
  exact ⟨uri, settings .connectTimeout, settings .requestTimeout, settings .tcpNoDelay,
    settings .tcpKeepalive, settings .http2KeepAliveInterval, settings .keepAliveTimeout,
    settings .keepAliveWhileIdle, settings .userAgent, settings .concurrencyLimit⟩

def IsHeaderValue (text : String) : Prop :=
  ∀ c ∈ text.toList, c = '\t' ∨ 0x20 ≤ c.toNat ∧ c.toNat ≠ 0x7F

theorem isValue_eq_true_iff {text : String} : Http.isValue text = true ↔ IsHeaderValue text := by
  simp only [Http.isValue, isPlain, IsHeaderValue, List.all_eq_true, Bool.or_eq_true,
    Bool.and_eq_true, beq_iff_eq, decide_eq_true_eq, bne_iff_ne]

/-- An option that can be applied: if it is a user agent, then the value of a header. -/
def DialOption.Applicable (option : DialOption) : Prop :=
  ∀ agent, option = .userAgent agent → IsHeaderValue agent

section Steps

variable {start next result : Endpoint} {option : DialOption} {options : List DialOption}

/-- What an option makes of an endpoint: it writes one setting and leaves the rest. -/
structure Endpoint.Writes (start : Endpoint) (option : DialOption) (next : Endpoint) : Prop where
  uri : next.uri = start.uri
  own : next.setting option.kind = option.setting
  others (kind : OptionKind) : kind ≠ option.kind → next.setting kind = start.setting kind

/-- An option writes its setting if it can be applied, and is refused otherwise. -/
theorem Endpoint.apply_cases (start : Endpoint) (option : DialOption) :
    option.Applicable ∧ (∃ next, start.apply option = .ok next ∧ start.Writes option next) ∨
      ¬ option.Applicable ∧ start.apply option = .error .invalidUserAgent := by
  cases option with
  | userAgent agent =>
      by_cases valid : IsHeaderValue agent
      · refine .inl ⟨fun _ same => DialOption.userAgent.inj same ▸ valid, _,
          if_pos (isValue_eq_true_iff.mpr valid), rfl, rfl, fun kind other => ?_⟩
        cases kind <;> first | rfl | exact absurd rfl other
      · exact .inr ⟨fun applicable => valid (applicable agent rfl),
          if_neg (mt isValue_eq_true_iff.mp valid)⟩
  | _ =>
      refine .inl ⟨fun _ same => (nomatch same), _, rfl, rfl, rfl, fun kind other => ?_⟩
      cases kind <;> first | rfl | exact absurd rfl other

def ofKind (kind : OptionKind) (options : List DialOption) : List DialOption :=
  options.filter fun option => option.kind = kind

theorem ofKind_cons_of_eq {kind : OptionKind} (same : option.kind = kind) :
    ofKind kind (option :: options) = option :: ofKind kind options :=
  List.filter_cons_of_pos (decide_eq_true same)

theorem ofKind_cons_of_ne {kind : OptionKind} (other : option.kind ≠ kind) :
    ofKind kind (option :: options) = ofKind kind options :=
  List.filter_cons_of_neg (mt of_decide_eq_true other)

structure Endpoint.Settled (start : Endpoint) (options : List DialOption) (result : Endpoint) :
    Prop where
  uri : result.uri = start.uri
  /-- Of each kind the last option counts. -/
  last (option : DialOption) : (ofKind option.kind options).getLast? = some option →
    result.setting option.kind = option.setting
  /-- Without an option of its kind, a setting stays as it is. -/
  unset (kind : OptionKind) : ofKind kind options = [] →
    result.setting kind = start.setting kind

theorem Endpoint.Settled.cons (written : start.Writes option next)
    (settled : next.Settled options result) : start.Settled (option :: options) result := by
  constructor
  case uri => exact settled.uri.trans written.uri
  case last =>
    intro other last
    -- the first option is the last of its kind only where no later one is of that kind
    by_cases same : option.kind = other.kind
    · rw [ofKind_cons_of_eq same] at last
      cases later : ofKind other.kind options with
      | nil =>
          rw [later] at last
          cases last
          exact (settled.unset option.kind later).trans written.own
      | cons first rest =>
          rw [later, List.getLast?_cons_cons, ← later] at last
          exact settled.last other last
    · rw [ofKind_cons_of_ne same] at last
      exact settled.last other last
  case unset =>
    intro kind none
    by_cases same : option.kind = kind
    · rw [ofKind_cons_of_eq same] at none
      cases none
    · rw [ofKind_cons_of_ne same] at none
      exact (settled.unset kind none).trans (written.others kind (Ne.symm same))

theorem Endpoint.applyAll_of_applicable (start : Endpoint)
    (applicable : ∀ option ∈ options, option.Applicable) :
    ∃ result, start.applyAll options = .ok result ∧ start.Settled options result := by
  induction options generalizing start with
  | nil => exact ⟨start, rfl, rfl, fun _ last => (nomatch last), fun _ _ => rfl⟩
  | cons option options ih =>
      obtain ⟨first, others⟩ := List.forall_mem_cons.mp applicable
      obtain ⟨-, next, applied, written⟩ | ⟨refused, -⟩ := start.apply_cases option
      · obtain ⟨result, all, settled⟩ := ih next others
        exact ⟨result, by rw [applyAll, applied]; exact all, settled.cons written⟩
      · exact absurd first refused

theorem Endpoint.applyAll_of_refused (start : Endpoint) (among : option ∈ options)
    (refused : ¬ option.Applicable) : start.applyAll options = .error .invalidUserAgent := by
  induction options generalizing start with
  | nil => cases among
  | cons first options ih =>
      rw [applyAll]
      obtain ⟨applicable, next, applied, -⟩ | ⟨-, failed⟩ := start.apply_cases first
      · rw [applied]
        rcases List.mem_cons.mp among with rfl | later
        · exact absurd applicable refused
        · exact ih next later
      · rw [failed]

/-- The order of options counts within each kind only. -/
theorem Endpoint.Settled.unique {others : List DialOption} {other : Endpoint}
    (settled : start.Settled options result) (again : start.Settled others other)
    (alike : ∀ kind, ofKind kind others = ofKind kind options) : result = other := by
  refine eq_of_settings (settled.uri.trans again.uri.symm) fun kind => ?_
  cases last : (ofKind kind options).getLast? with
  | none =>
      have none := List.getLast?_eq_none_iff.mp last
      exact (settled.unset kind none).trans (again.unset kind ((alike kind).trans none)).symm
  | some option =>
      obtain ⟨-, same⟩ := List.mem_filter.mp (List.mem_of_getLast? last)
      cases of_decide_eq_true same
      rw [settled.last option last, again.last option (alike option.kind ▸ last)]

end Steps

section Targets

inductive EndpointUri (text : List Char) : Http.Uri → Prop where
  /-- What follows `unix:` is the path of a socket file. -/
  | socketFile (start : "unix:".toList <+: text) : EndpointUri text Endpoint.socketFileUri
  | target {uri : Http.Uri} (other : ¬ "unix:".toList <+: text)
      (read : Http.Uri.read? text = some uri) : EndpointUri text uri

theorem ofUri_of_uri {text : List Char} {uri : Http.Uri} (valid : EndpointUri text uri) :
    Endpoint.ofUri text = .ok { uri } := by
  cases valid with
  | socketFile start =>
      obtain ⟨path, rfl⟩ := start
      rw [Endpoint.ofUri, dropStart?_eq_some_iff.mpr rfl]
  | target other read => rw [Endpoint.ofUri, dropStart?_eq_none_iff.mpr other, read]

theorem ofUri_of_invalid {text : List Char} (invalid : ¬ ∃ uri, EndpointUri text uri) :
    Endpoint.ofUri text = .error .invalidUri := by
  rw [Endpoint.ofUri]
  split
  · next path start =>
      exact absurd ⟨_, .socketFile ⟨path, (dropStart?_eq_some_iff.mp start).symm⟩⟩ invalid
  · next other =>
      split
      · next uri read =>
          exact absurd ⟨uri, .target (dropStart?_eq_none_iff.mp other) read⟩ invalid
      · rfl

inductive Addition where
  | one (option : DialOption)
  | several (options : List DialOption)
  deriving Repr, DecidableEq

namespace Addition

def options : Addition → List DialOption
  | one option => [option]
  | several options => options

def sequence (additions : List Addition) : List DialOption :=
  additions.flatMap options

end Addition

namespace DialTarget

def add (target : DialTarget) : Addition → DialTarget
  | .one option => target.withOption option
  | .several options => target.withOptions options

def assemble (address : String) (additions : List Addition) : DialTarget :=
  additions.foldl add (ofAddress address)

theorem add_eq (target : DialTarget) (addition : Addition) :
    target.add addition = target.withOptions addition.options := by
  cases addition <;> rfl

theorem foldl_add (target : DialTarget) (additions : List Addition) :
    additions.foldl add target = target.withOptions (Addition.sequence additions) := by
  induction additions generalizing target with
  | nil => exact congrArg (DialTarget.mk target.address) (List.append_nil target.options).symm
  | cons addition additions ih =>
      rw [List.foldl_cons, ih, add_eq, ← withOptions_append]
      rfl

theorem assemble_eq (address : String) (additions : List Addition) :
    assemble address additions = ⟨address, Addition.sequence additions⟩ :=
  foldl_add (ofAddress address) additions

variable {target : DialTarget} {uri : Http.Uri}

theorem endpoint_of_invalid (invalid : ¬ ∃ uri, EndpointUri target.uriText uri) :
    target.endpoint = .error .invalidUri := by
  rw [endpoint, ofUri_of_invalid invalid]

theorem endpoint_of_uri (valid : EndpointUri target.uriText uri) :
    target.endpoint = Endpoint.applyAll { uri } target.options := by
  rw [endpoint, ofUri_of_uri valid]

def Misnamed (target : DialTarget) : Prop :=
  ∃ agent, .userAgent agent ∈ target.options ∧ ¬ IsHeaderValue agent

theorem endpoint_of_misnamed (valid : EndpointUri target.uriText uri) (misnamed : target.Misnamed) :
    target.endpoint = .error .invalidUserAgent := by
  obtain ⟨agent, among, invalid⟩ := misnamed
  rw [endpoint_of_uri valid]
  exact Endpoint.applyAll_of_refused _ among fun applicable => invalid (applicable agent rfl)

theorem endpoint_of_named (valid : EndpointUri target.uriText uri) (named : ¬ target.Misnamed) :
    ∃ result, target.endpoint = .ok result ∧ Endpoint.Settled { uri } target.options result := by
  rw [endpoint_of_uri valid]
  refine Endpoint.applyAll_of_applicable _ fun option among agent same => ?_
  exact Classical.byContradiction fun invalid => named ⟨agent, same ▸ among, invalid⟩

/-- A target has an endpoint, or one of two faults, of which that of the URI goes first. -/
theorem endpoint_cases (target : DialTarget) :
    ((¬ ∃ uri, EndpointUri target.uriText uri) ∧ target.endpoint = .error .invalidUri) ∨
      ∃ uri, EndpointUri target.uriText uri ∧
        (target.Misnamed ∧ target.endpoint = .error .invalidUserAgent ∨
          ¬ target.Misnamed ∧ ∃ result, target.endpoint = .ok result ∧
            Endpoint.Settled { uri } target.options result) := by
  by_cases valid : ∃ uri, EndpointUri target.uriText uri
  · obtain ⟨uri, valid⟩ := valid
    refine .inr ⟨uri, valid, ?_⟩
    by_cases misnamed : target.Misnamed
    · exact .inl ⟨misnamed, endpoint_of_misnamed valid misnamed⟩
    · exact .inr ⟨misnamed, endpoint_of_named valid misnamed⟩
  · exact .inl ⟨valid, endpoint_of_invalid valid⟩

theorem misnamed_iff_ofKind : target.Misnamed ↔
    ∃ agent, .userAgent agent ∈ ofKind .userAgent target.options ∧ ¬ IsHeaderValue agent := by
  refine exists_congr fun agent => and_congr_left' ?_
  rw [ofKind, List.mem_filter]
  exact (and_iff_left (decide_eq_true rfl)).symm

theorem endpoint_eq_of_ofKind {other : DialTarget} (address : other.address = target.address)
    (alike : ∀ kind, ofKind kind other.options = ofKind kind target.options) :
    other.endpoint = target.endpoint := by
  have text : other.uriText = target.uriText := by rw [uriText, uriText, address]
  have named : other.Misnamed ↔ target.Misnamed := by
    rw [misnamed_iff_ofKind, misnamed_iff_ofKind, alike]
  rcases target.endpoint_cases with
    ⟨invalid, failed⟩ | ⟨uri, valid, ⟨misnamed, failed⟩ | ⟨proper, result, built, settled⟩⟩
  · rw [failed, endpoint_of_invalid (text ▸ invalid)]
  · rw [failed, endpoint_of_misnamed (text ▸ valid) (named.mpr misnamed)]
  · obtain ⟨again, rebuilt, resettled⟩ :=
      endpoint_of_named (text ▸ valid) (mt named.mp proper)
    rw [built, rebuilt, settled.unique resettled alike]

structure SettlesByKind (address : String) (options : List DialOption) (target : DialTarget) :
    Prop where
  /-- The options are kept in their order. -/
  kept : target = ⟨address, options⟩
  /-- The URI is looked at before all options. -/
  invalidUri : target.endpoint = .error .invalidUri ↔ ¬ ∃ uri, EndpointUri target.uriText uri
  /-- Behind a URI every user agent is looked at, also one that another takes the place of. -/
  invalidAgent : target.endpoint = .error .invalidUserAgent ↔
    (∃ uri, EndpointUri target.uriText uri) ∧
      ∃ agent, .userAgent agent ∈ options ∧ ¬ IsHeaderValue agent
  /-- Without such faults there is an endpoint, with the last option of each kind. -/
  settled (uri : Http.Uri) : EndpointUri target.uriText uri →
    (∀ agent, .userAgent agent ∈ options → IsHeaderValue agent) →
      ∃ result, target.endpoint = .ok result ∧ Endpoint.Settled { uri } options result
  /-- Options of different kinds may change places. -/
  alike (others : List Addition) :
    (∀ kind, ofKind kind (Addition.sequence others) = ofKind kind options) →
      (assemble address others).endpoint = target.endpoint
  /-- The targets are different then all the same. -/
  same (others : List Addition) :
    assemble address others = target ↔ Addition.sequence others = options

/-- Each setting is that of the last option of its kind, in whatever ways options are added. -/
theorem assemble_settlesByKind (address : String) (additions : List Addition) :
    SettlesByKind address (Addition.sequence additions) (assemble address additions) := by
  rw [assemble_eq]
  constructor
  case kept => rfl
  case invalidUri =>
    rcases endpoint_cases ⟨address, Addition.sequence additions⟩ with
      ⟨invalid, failed⟩ | ⟨uri, valid, ⟨-, failed⟩ | ⟨-, result, built, -⟩⟩
    · exact ⟨fun _ => invalid, fun _ => failed⟩
    · simp only [failed, Except.error.injEq, reduceCtorEq, false_iff]
      exact not_not_intro ⟨uri, valid⟩
    · simp only [built, reduceCtorEq, false_iff]
      exact not_not_intro ⟨uri, valid⟩
  case invalidAgent =>
    rcases endpoint_cases ⟨address, Addition.sequence additions⟩ with
      ⟨invalid, failed⟩ | ⟨uri, valid, ⟨misnamed, failed⟩ | ⟨named, result, built, -⟩⟩
    · simp only [failed, Except.error.injEq, reduceCtorEq, false_iff]
      exact fun both => invalid both.1
    · exact ⟨fun _ => ⟨⟨uri, valid⟩, misnamed⟩, fun _ => failed⟩
    · simp only [built, reduceCtorEq, false_iff]
      exact fun both => named both.2
  case settled =>
    intro uri valid proper
    exact endpoint_of_named valid fun ⟨agent, among, invalid⟩ => invalid (proper agent among)
  case alike =>
    intro others alike
    rw [assemble_eq]
    exact endpoint_eq_of_ofKind rfl alike
  case same =>
    intro others
    rw [assemble_eq, DialTarget.mk.injEq]
    exact and_iff_right rfl

example : (assemble "localhost:1" [.one (.userAgent "a\nb"), .one (.userAgent "ab")]).endpoint =
    .error .invalidUserAgent := rfl

end DialTarget

end Targets

end RpcTransport
