import EdgeGateway.Launch
import EdgeGateway.Proofs.Config.Loading
import EdgeGateway.Proofs.Net.Address

/-!
# The address to serve on

The checks take an address in either of its two forms.  The address to serve on is then
read from the text of this address, a colon and the number of the server.  With four
octets this gives what was meant.  Eight groups would need brackets there, which nothing
adds; so the program ends at this point whenever it gets there with eight groups.
-/

namespace EdgeGateway.Launch

open Net (IpAddress IsEightGroups IsFourOctets SocketAddress)

/-- How the program ends without an address to serve on. -/
def invalidAddress : Failure :=
  ⟨"Invalid bind address", some "invalid socket address syntax"⟩

/-! ## Reading the address -/

theorem serverAddress_of_readFour? {server : Config.Server} {octets : List Nat}
    (hread : IpAddress.readFour? server.bindAddress.toList = some octets)
    (hnumber : server.portNumber ≤ Text.limit16) :
    serverAddress server = .ok ⟨.four octets, server.portNumber⟩ := by
  have hoctets := IpAddress.isFourOctets_of_readFour? hread
  rw [serverAddress, SocketAddress.read?_of_not_bracket
    (SocketAddress.bracket_not_mem_of_isFourOctets hoctets) hnumber, hread]
  rfl

theorem serverAddress_of_isEightGroups {server : Config.Server}
    (hgroups : IsEightGroups server.bindAddress.toList)
    (hnumber : server.portNumber ≤ Text.limit16) :
    serverAddress server = .error invalidAddress := by
  rw [serverAddress, SocketAddress.read?_of_not_bracket
    (SocketAddress.bracket_not_mem_of_isEightGroups hgroups) hnumber,
    IpAddress.readFour?_of_isEightGroups hgroups]
  rfl

/-- An accepted address of eight groups is the only one that cannot be used. -/
theorem serverAddress_eq_error_iff {config : Config.Gateway}
    (hvalid : config.validate = .ok ()) (hnumber : config.server.portNumber ≤ Text.limit16) :
    serverAddress config.server = .error invalidAddress ↔
      IsEightGroups config.server.bindAddress.toList := by
  have haddress := ((Config.Gateway.validate_eq_ok_iff config).mp hvalid).bindAddress
  refine ⟨fun herror => ?_, fun hgroups => serverAddress_of_isEightGroups hgroups hnumber⟩
  rcases IpAddress.isSome_read?_iff.mp haddress with hoctets | hgroups
  · obtain ⟨octets, hread⟩ :=
      Option.isSome_iff_exists.mp (IpAddress.isSome_readFour?_iff.mpr hoctets)
    rw [serverAddress_of_readFour? hread hnumber] at herror
    simp at herror
  · exact hgroups

/-! ## How the program ends -/

theorem ne_invalidAddress_of_words {words more : String} {reason : Option String}
    {cause : Option Explanation} (hwords : words.toList.head? = some 'F') :
    (⟨⟨words ++ more, reason⟩, cause⟩ : Failure) ≠ invalidAddress := by
  intro hsame
  have htext : words ++ more = "Invalid bind address" :=
    congrArg (fun failure : Failure => failure.error.text) hsame
  have hfirst : (words ++ more).toList.head? = some 'I' := by
    rw [htext]
    decide
  rw [String.toList_append, List.head?_append, hwords] at hfirst
  simp at hfirst

theorem ne_invalidAddress_of_cause {failure : Failure} (hcause : failure.cause = none) :
    failure ≠ invalidAddress := by
  rintro rfl
  simp [invalidAddress] at hcause

theorem loadConfig_ne_invalidAddress {host : Host} {failure : Failure}
    (hload : loadConfig host = .error failure) : failure ≠ invalidAddress := by
  unfold loadConfig at hload
  dsimp only at hload
  split at hload
  next =>
    split at hload
    next => simp at hload
    next =>
      obtain rfl := Except.error.inj hload
      exact ne_invalidAddress_of_words (by decide)
  next =>
    split at hload
    next => simp at hload
    next =>
      obtain rfl := Except.error.inj hload
      exact ne_invalidAddress_of_cause rfl

theorem buildStore_ne_invalidAddress {host : Host} {config : Config.Store}
    {failure : Failure} (hbuild : buildStore host config = .error failure) :
    failure ≠ invalidAddress := by
  unfold buildStore at hbuild
  split at hbuild
  next =>
    obtain rfl := Except.error.inj hbuild
    exact ne_invalidAddress_of_cause rfl
  next => simp at hbuild
  next =>
    split at hbuild
    next =>
      obtain rfl := Except.error.inj hbuild
      exact ne_invalidAddress_of_words (by decide)
    next => simp at hbuild

theorem prepare_eq_error_iff {host : Host} {config : Config.Gateway} :
    (prepare host config).result = .error invalidAddress ↔
      (∃ built, buildStore host config.store = .ok built) ∧
        serverAddress config.server = .error invalidAddress := by
  unfold prepare
  cases hbuild : buildStore host config.store with
  | error failure => simpa using buildStore_ne_invalidAddress hbuild
  | ok built =>
      cases haddress : serverAddress config.server with
      | error failure => simp
      | ok address => simp

theorem serve_failure_iff {prepared : Logged Prepared}
    {bindFault? : Net.SocketAddress → Option String} {signal : Signal} :
    (serve prepared bindFault? signal).failure = some invalidAddress ↔
      prepared.result = .error invalidAddress := by
  unfold serve
  cases prepared.result with
  | error failure => simp
  | ok gateway =>
      dsimp only
      split
      next =>
        simp only [Option.some.injEq, reduceCtorEq, iff_false]
        exact ne_invalidAddress_of_cause rfl
      next => simp

theorem run_failure_iff {host : Host} {bindFault? : Net.SocketAddress → Option String}
    {signal : Signal} :
    (run host bindFault? signal).1.failure = some invalidAddress ↔
      ∃ config, loadConfig host = .ok config ∧
        (∃ built, buildStore host config.store = .ok built) ∧
        serverAddress config.server = .error invalidAddress := by
  unfold run
  cases hload : loadConfig host with
  | error failure => simpa using loadConfig_ne_invalidAddress hload
  | ok config => simp [serve_failure_iff, prepare_eq_error_iff]

theorem accepted_of_loadConfig {host : Host} {config : Config.Gateway}
    (hload : loadConfig host = .ok config) :
    config.validate = .ok () ∧ config.server.portNumber ≤ Text.limit16 := by
  unfold loadConfig at hload
  dsimp only at hload
  split at hload
  next =>
    split at hload
    next loaded hread =>
      obtain rfl := Except.ok.inj hload
      exact Config.Gateway.accepted_of_load hread
    next => simp at hload
  next =>
    split at hload
    next settled hsettle =>
      obtain rfl := Except.ok.inj hload
      exact Config.Gateway.accepted_of_settle hsettle (by decide)
    next => simp at hload

/-- What the checks accept is read again as it was meant if it is four octets, and refused
if it is eight groups, which only brackets would make readable.  The program ends with this
refusal if and only if it gets as far with eight groups. -/
theorem accepted_address_refused_iff (host : Host)
    (bindFault? : SocketAddress → Option String) (signal : Signal) :
    (∀ config : Config.Gateway, config.validate = .ok () →
      config.server.portNumber ≤ Text.limit16 →
      (∃ octets, IsFourOctets config.server.bindAddress.toList ∧
        IpAddress.read? config.server.bindAddress = some (.four octets) ∧
        serverAddress config.server = .ok ⟨.four octets, config.server.portNumber⟩) ∨
      (∃ groups, IsEightGroups config.server.bindAddress.toList ∧
        IpAddress.read? config.server.bindAddress = some (.six groups) ∧
        serverAddress config.server = .error invalidAddress ∧
        SocketAddress.read? ("[" ++ config.server.bindAddress ++ "]:" ++
          Text.decimal config.server.portNumber) =
            some ⟨.six groups, config.server.portNumber⟩)) ∧
    ((run host bindFault? signal).1.failure = some invalidAddress ↔
      ∃ config, loadConfig host = .ok config ∧
        (∃ built, buildStore host config.store = .ok built) ∧
        IsEightGroups config.server.bindAddress.toList) := by
  refine ⟨fun config hvalid hnumber => ?_, ?_⟩
  · have haddress := ((Config.Gateway.validate_eq_ok_iff config).mp hvalid).bindAddress
    obtain ⟨address, hread⟩ := Option.isSome_iff_exists.mp haddress
    cases address with
    | four octets =>
        have hfour := IpAddress.read?_eq_four_iff.mp hread
        exact Or.inl ⟨octets, IpAddress.isFourOctets_of_readFour? hfour, hread,
          serverAddress_of_readFour? hfour hnumber⟩
    | six groups =>
        have hsix := IpAddress.read?_eq_six_iff.mp hread
        have hgroups := IpAddress.isEightGroups_of_readSix? hsix
        refine Or.inr ⟨groups, hgroups, hread,
          serverAddress_of_isEightGroups hgroups hnumber, ?_⟩
        rw [SocketAddress.read?_of_brackets hnumber, hsix]
        rfl
  · rw [run_failure_iff]
    constructor
    · rintro ⟨config, hload, hbuilt, herror⟩
      obtain ⟨hvalid, hnumber⟩ := accepted_of_loadConfig hload
      exact ⟨config, hload, hbuilt, (serverAddress_eq_error_iff hvalid hnumber).mp herror⟩
    · rintro ⟨config, hload, hbuilt, hgroups⟩
      obtain ⟨hvalid, hnumber⟩ := accepted_of_loadConfig hload
      exact ⟨config, hload, hbuilt, (serverAddress_eq_error_iff hvalid hnumber).mpr hgroups⟩

theorem loopback_octets_read_again :
    Config.Gateway.validate { server := { bindAddress := "127.0.0.1" } } = .ok () ∧
      serverAddress { bindAddress := "127.0.0.1" } = .ok ⟨.four [127, 0, 0, 1], 8080⟩ := by
  have hvalid :
      Config.Gateway.validate { server := { bindAddress := "127.0.0.1" } } = .ok () := by
    decide +kernel
  refine ⟨hvalid, ?_⟩
  have haccepted := (accepted_address_refused_iff ⟨⟨[]⟩, []⟩ (fun _ => none) .terminate).1
  rcases haccepted _ hvalid (by decide) with
    ⟨octets, -, hread, haddress⟩ | ⟨groups, hgroups, -⟩
  · have hoctets : IpAddress.read? "127.0.0.1" = some (.four [127, 0, 0, 1]) := by
      decide +kernel
    obtain rfl : [127, 0, 0, 1] = octets := by simpa using hoctets.symm.trans hread
    exact haddress
  · exact absurd hgroups.colon_mem (by decide)

/-- The environment asks for the address of the own machine in its second form. -/
def loopbackHost : Host :=
  ⟨⟨[("CONTROL_PLANE_SERVER_BIND_ADDRESS", "::1"), ("CONTROL_PLANE_SERVER_PORT", "0")]⟩, []⟩

theorem loopback_groups_refused :
    (loadConfig loopbackHost).toOption.map Config.Gateway.validate = some (.ok ()) ∧
      (run loopbackHost (fun _ => none) .terminate).1.failure = some invalidAddress :=
  ⟨by decide +kernel, by decide +kernel⟩

end EdgeGateway.Launch
