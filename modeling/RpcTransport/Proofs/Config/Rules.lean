import Mathlib.Data.List.Forall2
import RpcTransport.Proofs.Address.SocketLiteral
import RpcTransport.Proofs.Config.Checked

/-! # The rules of a configuration

The check tells of every rule that is broken, once and in the order of the rules, and of no
others. A rule that concerns the bridge or the metrics is kept where these are not enabled, so
their addresses make no difference there, nor does anything that no rule mentions.
-/

namespace RpcTransport

inductive ConfigRule where
  | serviceName
  | primaryAddress
  | bridgeAddress
  /-- The bridge has an address of its own. -/
  | bridgeApart
  | metricsAddress
  deriving Repr, DecidableEq

/-- The text is the address of a listener: a host and the number of a port. -/
def IsListenerAddress (address : String) : Prop :=
  ∃ (host port : List Char) (number : UInt16),
    HostPort.Written address.toList ⟨host, port⟩ ∧ Decimal.SpellsSigned port number.toNat

def IsSocketAddress (address : String) : Prop :=
  ∃ (socket : SocketAddress) (host port : List Char),
    SocketAddress.HostLiteral address.toList host port socket ∧
      Decimal.Spells port socket.port.toNat

inductive AddressFault (field address : String) : ConfigFault → Prop where
  | malformed {reason : SplitError} (fault : HostPort.Fault address.toList reason) :
      AddressFault field address (.malformedAddress field address reason)
  | port {host port : List Char} (written : HostPort.Written address.toList ⟨host, port⟩)
      (unread : ∀ number : UInt16, ¬ Decimal.SpellsSigned port number.toNat) :
      AddressFault field address (.malformedPort field (String.ofList port))

namespace ConfigRule

def all : List ConfigRule :=
  [serviceName, primaryAddress, bridgeAddress, bridgeApart, metricsAddress]

theorem mem_all (rule : ConfigRule) : rule ∈ all := by
  cases rule <;> decide

def field : ConfigRule → String
  | serviceName => "host.service_name"
  | primaryAddress => "host.primary_address"
  | bridgeAddress => "host.bridge_address"
  | bridgeApart => "host.bridge_address"
  | metricsAddress => "observability.metrics_address"

def KeptBy (config : Config) : ConfigRule → Prop
  | serviceName => ∃ c ∈ config.host.serviceName.toList, isBlank c = false
  | primaryAddress => IsListenerAddress config.host.primaryAddress
  | bridgeAddress =>
    config.host.bridgeEnabled = true → IsListenerAddress config.host.bridgeAddress
  | bridgeApart =>
    config.host.bridgeEnabled = true → config.host.bridgeAddress ≠ config.host.primaryAddress
  | metricsAddress =>
    config.observability.metricsEnabled = true →
      IsSocketAddress config.observability.metricsAddress

def Tells (config : Config) : ConfigRule → ConfigFault → Prop
  | serviceName, fault => fault = .blankServiceName
  | primaryAddress, fault =>
    AddressFault "host.primary_address" config.host.primaryAddress fault
  | bridgeAddress, fault => AddressFault "host.bridge_address" config.host.bridgeAddress fault
  | bridgeApart, fault => fault = .sharedAddress
  | metricsAddress, fault =>
    fault = .malformedMetricsAddress config.observability.metricsAddress

def faults (config : Config) : ConfigRule → List ConfigFault
  | serviceName => if isBlankText config.host.serviceName then [.blankServiceName] else []
  | primaryAddress => addressFaults "host.primary_address" config.host.primaryAddress
  | bridgeAddress =>
    if config.host.bridgeEnabled then
      addressFaults "host.bridge_address" config.host.bridgeAddress
    else []
  | bridgeApart =>
    if config.host.bridgeEnabled ∧ config.host.bridgeAddress = config.host.primaryAddress then
      [.sharedAddress]
    else []
  | metricsAddress => config.observability.faults

end ConfigRule

section Addresses

variable {field address : String} {fault other : ConfigFault}

theorem AddressFault.unique (first : AddressFault field address fault)
    (second : AddressFault field address other) : fault = other := by
  cases first with
  | malformed broken =>
      cases second with
      | malformed again => rw [broken.unique again]
      | port written _ => exact absurd written broken.not_written
  | port written _ =>
      cases second with
      | malformed broken => exact absurd written broken.not_written
      | port again _ =>
          cases written.unique again
          rfl

theorem AddressFault.field_eq (told : AddressFault field address fault) : fault.field = field := by
  cases told <;> rfl

theorem addressFaults_cases (field address : String) :
    IsListenerAddress address ∧ addressFaults field address = [] ∨
      ¬ IsListenerAddress address ∧
        ∃ fault, AddressFault field address fault ∧ addressFaults field address = [fault] := by
  rw [addressFaults]
  cases split : HostPort.split address.toList with
  | error reason =>
      have broken := HostPort.split_eq_error_iff.mp split
      refine .inr ⟨?_, _, .malformed broken, rfl⟩
      rintro ⟨host, port, number, written, -⟩
      exact broken.not_written written
  | ok parts =>
      obtain ⟨host, port⟩ := parts
      have written := HostPort.split_eq_ok_iff.mp split
      cases read : Decimal.readSignedPort? port with
      | some number =>
          have spells := Decimal.readSignedPort?_eq_some_iff.mp read
          refine .inl ⟨⟨host, port, number, written, spells⟩, ?_⟩
          simp only [read, Option.isSome_some, if_true]
      | none =>
          have unread (number : UInt16) : ¬ Decimal.SpellsSigned port number.toNat := by
            rw [← Decimal.readSignedPort?_eq_some_iff, read]
            exact Option.some_ne_none number |>.symm
          refine .inr ⟨?_, _, .port written unread, ?_⟩
          · rintro ⟨other, last, number, again, spells⟩
            cases written.unique again
            exact unread number spells
          · simp only [read, Option.isSome_none, Bool.false_eq_true, if_false]

theorem isSocketAddress_iff : IsSocketAddress address ↔
    (SocketAddress.parse address).isSome = true := by
  rw [Option.isSome_iff_exists]
  exact exists_congr fun socket => SocketAddress.read?_eq_some_iff.symm

end Addresses

namespace ConfigRule

variable {config : Config} {rule : ConfigRule} {fault other : ConfigFault}

theorem Tells.unique (first : rule.Tells config fault) (second : rule.Tells config other) :
    fault = other := by
  cases rule with
  | primaryAddress | bridgeAddress => exact AddressFault.unique first second
  | serviceName | bridgeApart | metricsAddress => exact Eq.trans first (Eq.symm second)

theorem Tells.field_eq (told : rule.Tells config fault) : fault.field = rule.field := by
  cases rule with
  | primaryAddress | bridgeAddress => exact AddressFault.field_eq told
  | serviceName | bridgeApart | metricsAddress =>
      cases told
      rfl

theorem keptBy_serviceName_iff :
    serviceName.KeptBy config ↔ isBlankText config.host.serviceName = false := by
  simp only [KeptBy, isBlankText, List.all_eq_false, Bool.not_eq_true]

/-- A rule is kept and has no fault, or it is broken and has the one that is told of it. -/
theorem faults_cases (config : Config) (rule : ConfigRule) :
    rule.KeptBy config ∧ rule.faults config = [] ∨
      ¬ rule.KeptBy config ∧
        ∃ fault, rule.Tells config fault ∧ rule.faults config = [fault] := by
  cases rule with
  | serviceName =>
      rw [keptBy_serviceName_iff]
      cases blank : isBlankText config.host.serviceName with
      | true => exact .inr ⟨nofun, _, rfl, if_pos blank⟩
      | false => exact .inl ⟨rfl, if_neg (Bool.eq_false_iff.mp blank)⟩
  | primaryAddress => exact addressFaults_cases _ _
  | bridgeAddress =>
      cases enabled : config.host.bridgeEnabled with
      | true => simpa [KeptBy, Tells, faults, enabled] using addressFaults_cases _ _
      | false => simp [KeptBy, faults, enabled]
  | bridgeApart =>
      by_cases shared : config.host.bridgeEnabled = true ∧
          config.host.bridgeAddress = config.host.primaryAddress
      · exact .inr ⟨fun apart => apart shared.1 shared.2, _, rfl, if_pos shared⟩
      · exact .inl ⟨fun enabled same => shared ⟨enabled, same⟩, if_neg shared⟩
  | metricsAddress =>
      simp only [KeptBy, isSocketAddress_iff, Tells, faults, ObservabilityConfig.faults]
      cases config.observability.metricsEnabled <;>
        cases SocketAddress.parse config.observability.metricsAddress <;> simp

theorem faults_eq_nil_iff : rule.faults config = [] ↔ rule.KeptBy config := by
  rcases faults_cases config rule with ⟨kept, none⟩ | ⟨broken, fault, -, single⟩
  · exact ⟨fun _ => kept, fun _ => none⟩
  · simp [single, broken]

instance (config : Config) (rule : ConfigRule) : Decidable (rule.KeptBy config) :=
  decidable_of_iff (rule.faults config = []) faults_eq_nil_iff

theorem forall₂_tells (config : Config) (rules : List ConfigRule) :
    List.Forall₂ (Tells config) (rules.filter fun rule => ¬ rule.KeptBy config)
      (rules.flatMap (faults config)) := by
  induction rules with
  | nil => exact .nil
  | cons rule rules ih =>
      rw [List.flatMap_cons]
      rcases faults_cases config rule with ⟨kept, none⟩ | ⟨broken, fault, told, single⟩
      · rw [List.filter_cons_of_neg (by simpa using kept), none]
        exact ih
      · rw [List.filter_cons_of_pos (by simpa using broken), single]
        exact .cons told ih

end ConfigRule

namespace Config

variable {config other : Config}

def broken (config : Config) : List ConfigRule :=
  ConfigRule.all.filter fun rule => ¬ rule.KeptBy config

theorem faults_eq_flatMap (config : Config) :
    config.faults = ConfigRule.all.flatMap fun rule => rule.faults config := by
  have bridge : config.host.bridgeFaults =
      ConfigRule.bridgeAddress.faults config ++ ConfigRule.bridgeApart.faults config := by
    rw [HostConfig.bridgeFaults, ConfigRule.faults, ConfigRule.faults]
    cases config.host.bridgeEnabled <;> simp
  rw [faults, bridge]
  simp [ConfigRule.all, ConfigRule.faults]

theorem tells_faults (config : Config) :
    List.Forall₂ (ConfigRule.Tells config) config.broken config.faults := by
  rw [faults_eq_flatMap]
  exact ConfigRule.forall₂_tells config ConfigRule.all

theorem faults_eq_of_tells {rules : List ConfigRule} {faults others : List ConfigFault}
    (first : List.Forall₂ (ConfigRule.Tells config) rules faults)
    (second : List.Forall₂ (ConfigRule.Tells config) rules others) : faults = others := by
  induction first generalizing others with
  | nil =>
      cases second
      rfl
  | cons told rest ih =>
      cases second with
      | cons otherTold otherRest => rw [told.unique otherTold, ih otherRest]

theorem fields_eq_of_tells {rules : List ConfigRule} {faults : List ConfigFault}
    (told : List.Forall₂ (ConfigRule.Tells config) rules faults) :
    faults.map ConfigFault.field = rules.map ConfigRule.field := by
  induction told with
  | nil => rfl
  | cons first rest ih => rw [List.map_cons, List.map_cons, first.field_eq, ih]

theorem check_eq_ok_iff_keptBy :
    config.check = .ok () ↔ ∀ rule : ConfigRule, rule.KeptBy config := by
  rw [check_eq_ok_iff, faults_eq_flatMap, List.flatMap_eq_nil_iff]
  simp only [ConfigRule.faults_eq_nil_iff, ConfigRule.mem_all, true_imp_iff]

theorem check_eq_error_iff {faults : List ConfigFault} :
    config.check = .error faults ↔ faults ≠ [] ∧ config.faults = faults := by
  rw [check]
  cases config.faults with
  | nil => simp [eq_comm]
  | cons fault rest =>
      constructor
      · intro refused
        cases refused
        exact ⟨List.cons_ne_nil fault rest, rfl⟩
      · rintro ⟨-, rfl⟩
        rfl

/-- The configurations agree in what the rules are about. The addresses of a bridge and of
    metrics count only where these are enabled. -/
structure AlikeInRules (config other : Config) : Prop where
  serviceName : other.host.serviceName = config.host.serviceName
  primaryAddress : other.host.primaryAddress = config.host.primaryAddress
  bridgeEnabled : other.host.bridgeEnabled = config.host.bridgeEnabled
  bridgeAddress : config.host.bridgeEnabled = true →
    other.host.bridgeAddress = config.host.bridgeAddress
  metricsEnabled : other.observability.metricsEnabled = config.observability.metricsEnabled
  metricsAddress : config.observability.metricsEnabled = true →
    other.observability.metricsAddress = config.observability.metricsAddress

theorem AlikeInRules.faults_eq (alike : AlikeInRules config other) (rule : ConfigRule) :
    rule.faults other = rule.faults config := by
  cases rule with
  | serviceName => rw [ConfigRule.faults, ConfigRule.faults, alike.serviceName]
  | primaryAddress => rw [ConfigRule.faults, ConfigRule.faults, alike.primaryAddress]
  | bridgeAddress =>
      rw [ConfigRule.faults, ConfigRule.faults, alike.bridgeEnabled]
      cases enabled : config.host.bridgeEnabled with
      | true => rw [alike.bridgeAddress enabled]
      | false => rfl
  | bridgeApart =>
      rw [ConfigRule.faults, ConfigRule.faults, alike.bridgeEnabled, alike.primaryAddress]
      cases enabled : config.host.bridgeEnabled with
      | true => rw [alike.bridgeAddress enabled]
      | false => simp
  | metricsAddress =>
      rw [ConfigRule.faults, ConfigRule.faults, ObservabilityConfig.faults,
        ObservabilityConfig.faults, alike.metricsEnabled]
      cases enabled : config.observability.metricsEnabled with
      | true => rw [alike.metricsAddress enabled]
      | false => simp

structure ChecksRules (config : Config) : Prop where
  /-- A configuration is accepted just if it keeps all rules. -/
  accepted : config.check = .ok () ↔ ∀ rule : ConfigRule, rule.KeptBy config
  /-- Otherwise it is told of each rule that it breaks, once and in the order of the rules. -/
  refused (faults : List ConfigFault) : config.check = .error faults ↔
    faults ≠ [] ∧ List.Forall₂ (ConfigRule.Tells config) config.broken faults
  /-- What is told names the fields of these rules. -/
  fields (faults : List ConfigFault) : config.check = .error faults →
    faults.map ConfigFault.field = config.broken.map ConfigRule.field
  /-- Nothing else in a configuration makes a difference. -/
  alike (other : Config) : AlikeInRules config other → other.check = config.check

/-- The check is by the rules, and by all of them. -/
theorem check_checksRules (config : Config) : ChecksRules config := by
  have told := tells_faults config
  constructor
  case accepted => exact check_eq_ok_iff_keptBy
  case refused =>
    intro faults
    rw [check_eq_error_iff]
    refine and_congr_right fun _ => ⟨?_, fun others => faults_eq_of_tells told others⟩
    rintro rfl
    exact told
  case fields =>
    intro faults refused
    obtain ⟨-, rfl⟩ := check_eq_error_iff.mp refused
    exact fields_eq_of_tells told
  case alike =>
    intro other same
    have faults : other.faults = config.faults := by
      rw [faults_eq_flatMap, faults_eq_flatMap]
      exact congrArg (List.flatMap · ConfigRule.all) (funext same.faults_eq)
    rw [check, check, faults]

example : broken
    { host := ⟨" ", "localhost", true, "localhost"⟩
      observability := ⟨"info", .pretty, true, "metrics"⟩ } = ConfigRule.all := by decide

end Config

end RpcTransport
