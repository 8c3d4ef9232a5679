import RpcTransport.Program.Probe
import RpcTransport.Proofs.Dial.Settings

/-! # The options of a configured client

A limit is kept to the nanosecond, and a limit of zero shows in that its option is missing. So
what a client is configured with can be read off its options, and two configurations have the
same options only where they are the same. This goes for what a probe is told on its command
line, too, which stands in for what the file says.
-/

namespace RpcTransport

namespace Duration

/-- The span has that many nanoseconds in all, and less than a second of them beside its
    seconds. -/
structure Lasts (span : Duration) (nanoseconds : Nat) : Prop where
  below : span.nanoseconds < 1000000000
  total : span.seconds * 1000000000 + span.nanoseconds = nanoseconds

variable {span : Duration} {m n : Nat}

theorem lasts_ofMillis (n : Nat) : (ofMillis n).Lasts (n * 1000000) := by
  constructor
  · simp only [ofMillis]
    omega
  · simp only [ofMillis]
    omega

theorem lasts_ofSeconds (n : Nat) : (ofSeconds n).Lasts (n * 1000000000) :=
  ⟨Nat.zero_lt_succ _, Nat.add_zero _⟩

theorem Lasts.unique {other : Duration} (first : span.Lasts n) (second : other.Lasts n) :
    span = other := by
  obtain ⟨below, total⟩ := first
  obtain ⟨otherBelow, otherTotal⟩ := second
  have seconds : span.seconds = other.seconds := by omega
  have nanoseconds : span.nanoseconds = other.nanoseconds := by omega
  cases span
  cases other
  rw [mk.injEq]
  exact ⟨seconds, nanoseconds⟩

theorem Lasts.eq_iff {other : Duration} (known : other.Lasts n) : span = other ↔ span.Lasts n := by
  constructor
  · rintro rfl
    exact known
  · intro lasts
    exact lasts.unique known

theorem exists_lasts (n : Nat) : ∃ span : Duration, span.Lasts n := by
  refine ⟨⟨n / 1000000000, n % 1000000000⟩, ?_, ?_⟩
  · exact Nat.mod_lt n (by decide)
  · exact Nat.div_add_mod' n 1000000000

theorem eq_of_lasts_iff (same : ∀ span : Duration, span.Lasts m ↔ span.Lasts n) : m = n := by
  obtain ⟨span, lasts⟩ := exists_lasts m
  rw [← lasts.total, ((same span).mp lasts).total]

theorem eq_of_unlessZero {first second : UInt64} {k : Nat} (positive : 0 < k)
    (same : ∀ span : Duration, (first ≠ 0 ∧ span.Lasts (first.toNat * k)) ↔
      (second ≠ 0 ∧ span.Lasts (second.toNat * k))) : first = second := by
  by_cases off : first = 0
  · by_cases other : second = 0
    · rw [off, other]
    · obtain ⟨span, lasts⟩ := exists_lasts (second.toNat * k)
      exact absurd off ((same span).mpr ⟨other, lasts⟩).1
  · obtain ⟨span, lasts⟩ := exists_lasts (first.toNat * k)
    have again := ((same span).mp ⟨off, lasts⟩).2
    apply UInt64.toNat_inj.mp
    apply Nat.eq_of_mul_eq_mul_right positive
    rw [← lasts.total, again.total]

end Duration

namespace ClientConfig

variable {config other : ClientConfig} {options : List DialOption}

theorem mem_unlessZero {value : UInt64} {make : Nat → DialOption} {option : DialOption} :
    option ∈ unlessZero value make ↔ value ≠ 0 ∧ option = make value.toNat := by
  rw [unlessZero]
  split
  · next off => simp [off]
  · next on => simp [on]

theorem mem_dialOptions {option : DialOption} : option ∈ config.dialOptions ↔
    option = .connectTimeout (.ofMillis config.connectTimeoutMs.toNat) ∨
      option = .tcpNoDelay config.tcpNoDelay ∨
      (config.requestTimeoutMs ≠ 0 ∧
        option = .requestTimeout (.ofMillis config.requestTimeoutMs.toNat)) ∨
      (config.keepaliveIntervalSecs ≠ 0 ∧
        option = .http2KeepAliveInterval (.ofSeconds config.keepaliveIntervalSecs.toNat)) := by
  simp only [dialOptions, List.mem_append, mem_unlessZero, List.mem_cons, List.not_mem_nil,
    or_false, or_assoc]

theorem kinds_unlessZero (value : UInt64) {make : Nat → DialOption} {kind : OptionKind}
    (same : ∀ n, (make n).kind = kind) :
    ((unlessZero value make).map DialOption.kind).Sublist [kind] := by
  rw [unlessZero]
  split
  · exact List.nil_sublist [kind]
  · have single : [make value.toNat].map DialOption.kind = [kind] := by
      rw [List.map_singleton, same]
    exact single ▸ List.Sublist.refl [kind]

structure ToldBy (config : ClientConfig) (options : List DialOption) : Prop where
  connectTimeout (limit : Duration) : .connectTimeout limit ∈ options ↔
    limit.Lasts (config.connectTimeoutMs.toNat * 1000000)
  tcpNoDelay (enabled : Bool) : .tcpNoDelay enabled ∈ options ↔ enabled = config.tcpNoDelay
  requestTimeout (limit : Duration) : .requestTimeout limit ∈ options ↔
    config.requestTimeoutMs ≠ 0 ∧ limit.Lasts (config.requestTimeoutMs.toNat * 1000000)
  keepAlive (interval : Duration) : .http2KeepAliveInterval interval ∈ options ↔
    config.keepaliveIntervalSecs ≠ 0 ∧
      interval.Lasts (config.keepaliveIntervalSecs.toNat * 1000000000)
  /-- There is at most one option of a kind, in this order, and none of another kind. -/
  kinds : (options.map DialOption.kind).Sublist
    [.connectTimeout, .tcpNoDelay, .requestTimeout, .http2KeepAliveInterval]

theorem toldBy_dialOptions (config : ClientConfig) : config.ToldBy config.dialOptions where
  connectTimeout limit := by simp [mem_dialOptions, (Duration.lasts_ofMillis _).eq_iff]
  tcpNoDelay enabled := by simp [mem_dialOptions]
  requestTimeout limit := by simp [mem_dialOptions, (Duration.lasts_ofMillis _).eq_iff]
  keepAlive interval := by simp [mem_dialOptions, (Duration.lasts_ofSeconds _).eq_iff]
  kinds := by
    have always := List.Sublist.refl [OptionKind.connectTimeout, OptionKind.tcpNoDelay]
    rw [dialOptions, List.map_append, List.map_append]
    exact (always.append (kinds_unlessZero config.requestTimeoutMs fun _ => rfl)).append
      (kinds_unlessZero config.keepaliveIntervalSecs fun _ => rfl)

theorem ToldBy.unique (first : config.ToldBy options) (second : other.ToldBy options) :
    config = other := by
  have connectTimeout : config.connectTimeoutMs = other.connectTimeoutMs := by
    apply UInt64.toNat_inj.mp
    apply Nat.eq_of_mul_eq_mul_right (m := 1000000) (by decide)
    apply Duration.eq_of_lasts_iff
    intro limit
    rw [← first.connectTimeout, second.connectTimeout]
  have tcpNoDelay : config.tcpNoDelay = other.tcpNoDelay := by
    rw [← second.tcpNoDelay, first.tcpNoDelay]
  have requestTimeout : config.requestTimeoutMs = other.requestTimeoutMs := by
    apply Duration.eq_of_unlessZero (k := 1000000) (by decide)
    intro limit
    rw [← first.requestTimeout, second.requestTimeout]
  have keepAlive : config.keepaliveIntervalSecs = other.keepaliveIntervalSecs := by
    apply Duration.eq_of_unlessZero (k := 1000000000) (by decide)
    intro interval
    rw [← first.keepAlive, second.keepAlive]
  cases config
  cases other
  rw [mk.injEq]
  exact ⟨connectTimeout, requestTimeout, tcpNoDelay, keepAlive⟩

theorem dialOptions_eq_iff : config.dialOptions = other.dialOptions ↔ config = other := by
  constructor
  · intro same
    have told := toldBy_dialOptions other
    rw [← same] at told
    exact (toldBy_dialOptions config).unique told
  · rintro rfl
    rfl

theorem dialTarget_eq_iff {address place : String} :
    config.dialTarget address = other.dialTarget place ↔ address = place ∧ config = other := by
  simp only [dialTarget, DialTarget.withOptions, DialTarget.ofAddress, List.nil_append,
    DialTarget.mk.injEq, dialOptions_eq_iff]

end ClientConfig

namespace Probe

/-- Two probes go by the same settings, each taken from the request or else from the file. -/
structure SettingsAgree (request again : Request) (file other : ClientConfig) : Prop where
  connectTimeout : request.connectTimeoutMs.getD file.connectTimeoutMs =
    again.connectTimeoutMs.getD other.connectTimeoutMs
  requestTimeout : request.requestTimeoutMs.getD file.requestTimeoutMs =
    again.requestTimeoutMs.getD other.requestTimeoutMs
  tcpNoDelay : file.tcpNoDelay = other.tcpNoDelay
  keepAlive : file.keepaliveIntervalSecs = other.keepaliveIntervalSecs

theorem client_override_eq_iff {request again : Request} {config other : Config} :
    (request.override config).client = (again.override other).client ↔
      SettingsAgree request again config.client other.client := by
  simp only [Request.override, ClientConfig.mk.injEq]
  constructor
  · rintro ⟨connectTimeout, requestTimeout, tcpNoDelay, keepAlive⟩
    exact ⟨connectTimeout, requestTimeout, tcpNoDelay, keepAlive⟩
  · rintro ⟨connectTimeout, requestTimeout, tcpNoDelay, keepAlive⟩
    exact ⟨connectTimeout, requestTimeout, tcpNoDelay, keepAlive⟩

end Probe

/-- Options tell all there is to a configuration, so that no two configurations share them, and
    no two probes share a target unless they go by the same settings. -/
theorem dialOptions_tellSettings :
    (∀ config : ClientConfig, config.ToldBy config.dialOptions) ∧
      (∀ config other : ClientConfig,
        config.dialOptions = other.dialOptions ↔ config = other) ∧
      ∀ (request again : Probe.Request) (config other : Config),
        (request.override config).client.dialTarget request.target =
            (again.override other).client.dialTarget again.target ↔
          request.target = again.target ∧
            Probe.SettingsAgree request again config.client other.client := by
  refine ⟨ClientConfig.toldBy_dialOptions, fun _ _ => ClientConfig.dialOptions_eq_iff, ?_⟩
  intro request again config other
  rw [ClientConfig.dialTarget_eq_iff, Probe.client_override_eq_iff]

end RpcTransport
