import RpcTransport.Config.Load

/-! # What is known of a loaded configuration

A configuration that is loaded has passed the check, so it has no faults. In particular the
address of enabled metrics is a socket address.
-/

namespace RpcTransport

theorem Config.check_eq_ok_iff {config : Config} :
    config.check = .ok () ↔ config.faults = [] := by
  rw [check]
  cases config.faults with
  | nil => simp
  | cons fault rest => simp

theorem Config.faults_of_parse {text : String} {config : Config}
    (parsed : parse text = .ok config) : config.faults = [] := by
  rw [parse] at parsed
  split at parsed
  · cases parsed
  · next decoded accepted =>
      split at parsed
      · next checked =>
          cases parsed
          exact check_eq_ok_iff.mp checked
      · cases parsed

theorem Config.faults_of_load {files : Files} {path : String} {config : Config}
    (loaded : load files path = .ok config) : config.faults = [] := by
  rw [load] at loaded
  split at loaded
  · exact faults_of_parse loaded
  · cases loaded

theorem Config.observability_faults {config : Config} (faultless : config.faults = []) :
    config.observability.faults = [] :=
  (List.append_eq_nil_iff.mp faultless).2

theorem ObservabilityConfig.exists_address {config : ObservabilityConfig}
    (faultless : config.faults = []) (enabled : config.metricsEnabled = true) :
    ∃ address, SocketAddress.parse config.metricsAddress = some address := by
  cases parsed : SocketAddress.parse config.metricsAddress with
  | none => simp [faults, enabled, parsed] at faultless
  | some address => exact ⟨address, rfl⟩

end RpcTransport
