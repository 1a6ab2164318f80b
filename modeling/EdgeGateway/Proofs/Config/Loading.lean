import EdgeGateway.Config.File
import EdgeGateway.Proofs.Attempt
import EdgeGateway.Proofs.Config.Valid
import EdgeGateway.Proofs.Document.Fields
import EdgeGateway.Proofs.Text.Numerals

/-!
# What loading gives

A configuration is read from a file or has its defaults, takes settings from the
environment, and is checked.  So what has been loaded is sound; and its server listens on
a number of 16 bits, since both readers of that number refuse larger ones and nothing
else sets it.
-/

namespace EdgeGateway

namespace Config

theorem Server.portNumber_le_of_decode {document : Document} {server : Server}
    (hread : Server.decode document = .ok server) : server.portNumber ≤ Text.limit16 := by
  obtain ⟨fields, -, haddress⟩ := bind_eq_ok_iff.mp hread
  obtain ⟨address, -, hnumber⟩ := bind_eq_ok_iff.mp haddress
  obtain ⟨number, hfits, htimeout⟩ := bind_eq_ok_iff.mp hnumber
  obtain ⟨timeout, -, hadmin⟩ := bind_eq_ok_iff.mp htimeout
  obtain ⟨admin, -, hserver⟩ := bind_eq_ok_iff.mp hadmin
  obtain rfl := pure_eq_ok_iff.mp hserver
  exact Document.Fields.of_withDefault (P := (· ≤ Text.limit16)) hfits (by decide)
    fun _ _ => Document.asNatural_le

theorem Gateway.portNumber_le_of_decode {document : Document} {config : Gateway}
    (hread : Gateway.decode document = .ok config) :
    config.server.portNumber ≤ Text.limit16 := by
  obtain ⟨fields, -, hserver⟩ := bind_eq_ok_iff.mp hread
  obtain ⟨server, hfits, hroutes⟩ := bind_eq_ok_iff.mp hserver
  obtain ⟨routes, -, hfailover⟩ := bind_eq_ok_iff.mp hroutes
  obtain ⟨failover, -, hcors⟩ := bind_eq_ok_iff.mp hfailover
  obtain ⟨cors, -, hversioning⟩ := bind_eq_ok_iff.mp hcors
  obtain ⟨versioning, -, hstore⟩ := bind_eq_ok_iff.mp hversioning
  obtain ⟨store, -, hrefresh⟩ := bind_eq_ok_iff.mp hstore
  obtain ⟨refresh, -, hobservability⟩ := bind_eq_ok_iff.mp hrefresh
  obtain ⟨observability, -, hconfig⟩ := bind_eq_ok_iff.mp hobservability
  obtain rfl := pure_eq_ok_iff.mp hconfig
  exact Document.Fields.of_withDefault (P := fun server => server.portNumber ≤ Text.limit16)
    hfits (by decide) fun _ _ => Server.portNumber_le_of_decode

theorem readCount_le {limit count : Nat} {text : String}
    (hread : readCount limit text = .ok count) : count ≤ limit := by
  unfold readCount at hread
  split at hread
  next value hvalue =>
    obtain rfl := Except.ok.inj hread
    exact Text.readNatural_le hvalue
  next => simp at hread

/-- A variable sets the number of the server to one that fits, or leaves it alone. -/
theorem portNumber_of_apply {override : Override} (hoverride : override ∈ overrides)
    {text : String} {config changed : Gateway}
    (happly : override.apply text config = .ok changed) :
    changed.server.portNumber = config.server.portNumber ∨
      changed.server.portNumber ≤ Text.limit16 := by
  simp only [overrides, List.mem_cons, List.not_mem_nil, or_false] at hoverride
  rcases hoverride with rfl | rfl | rfl | rfl | rfl | rfl | rfl | rfl | rfl | rfl | rfl |
    rfl | rfl | rfl
  case inr.inl =>
    obtain ⟨number, hnumber, hchanged⟩ := bind_eq_ok_iff.mp happly
    obtain rfl := pure_eq_ok_iff.mp hchanged
    exact Or.inr (readCount_le hnumber)
  all_goals left
  -- The others set another field, to their text or to what they read from it.
  all_goals first
    | obtain rfl := Except.ok.inj happly
      rfl
    | obtain ⟨value, -, hchanged⟩ := bind_eq_ok_iff.mp happly
      obtain rfl := pure_eq_ok_iff.mp hchanged
      rfl

theorem portNumber_le_of_run {override : Override} (hoverride : override ∈ overrides)
    {environment : Environment} {config changed : Gateway}
    (hrun : override.run environment config = .ok changed)
    (hfits : config.server.portNumber ≤ Text.limit16) :
    changed.server.portNumber ≤ Text.limit16 := by
  unfold Override.run at hrun
  split at hrun
  next => exact Except.ok.inj hrun ▸ hfits
  next text _ =>
    split at hrun
    next result happly =>
      obtain rfl := Except.ok.inj hrun
      rcases portNumber_of_apply hoverride happly with hsame | hnumber
      · rwa [hsame]
      · exact hnumber
    next => simp at hrun

theorem portNumber_le_of_foldlM {some : List Override} (hsome : ∀ o ∈ some, o ∈ overrides)
    {environment : Environment} {config changed : Gateway}
    (hrun : some.foldlM (fun config override => override.run environment config) config =
      .ok changed)
    (hfits : config.server.portNumber ≤ Text.limit16) :
    changed.server.portNumber ≤ Text.limit16 := by
  induction some generalizing config with
  | nil =>
      obtain rfl := pure_eq_ok_iff.mp hrun
      exact hfits
  | cons override some ih =>
      obtain ⟨hfirst, hrest⟩ := List.forall_mem_cons.mp hsome
      rw [List.foldlM_cons] at hrun
      obtain ⟨next, hnext, hmore⟩ := bind_eq_ok_iff.mp hrun
      exact ih hrest hmore (portNumber_le_of_run hfirst hnext hfits)

namespace Gateway

/-- What comes out of the environment is sound. -/
theorem accepted_of_settle {environment : Environment} {config settled : Gateway}
    (hsettle : config.settle environment = .ok settled)
    (hfits : config.server.portNumber ≤ Text.limit16) :
    settled.validate = .ok () ∧ settled.server.portNumber ≤ Text.limit16 := by
  obtain ⟨changed, hchanged, hchecked⟩ := bind_eq_ok_iff.mp hsettle
  obtain ⟨⟨⟩, hvalid, hresult⟩ := bind_eq_ok_iff.mp hchecked
  obtain rfl := pure_eq_ok_iff.mp hresult
  exact ⟨hvalid, portNumber_le_of_foldlM (fun _ => id) hchanged hfits⟩

theorem portNumber_le_of_readJson {text : String} {config : Gateway}
    (hread : readJson text = .ok config) : config.server.portNumber ≤ Text.limit16 := by
  unfold readJson at hread
  split at hread
  next => simp at hread
  next =>
    split at hread
    next => simp at hread
    next decoded hdecode =>
      obtain rfl := Except.ok.inj hread
      exact portNumber_le_of_decode hdecode

theorem portNumber_le_of_readYaml {text : String} {config : Gateway}
    (hread : readYaml text = .ok config) : config.server.portNumber ≤ Text.limit16 := by
  unfold readYaml at hread
  split at hread
  next => simp at hread
  next =>
    split at hread
    next => simp at hread
    next decoded hdecode =>
      obtain rfl := Except.ok.inj hread
      exact portNumber_le_of_decode hdecode

theorem accepted_of_load {environment : Environment} {path : String}
    {content : Except String String} {config : Gateway}
    (hload : load environment path content = .ok config) :
    config.validate = .ok () ∧ config.server.portNumber ≤ Text.limit16 := by
  unfold load at hload
  split at hload
  next => simp at hload
  next text =>
    dsimp only at hload
    split at hload
    next =>
      obtain ⟨read, hread, hsettle⟩ := bind_eq_ok_iff.mp hload
      exact accepted_of_settle hsettle (portNumber_le_of_readJson hread)
    next =>
      obtain ⟨read, hread, hsettle⟩ := bind_eq_ok_iff.mp hload
      exact accepted_of_settle hsettle (portNumber_le_of_readYaml hread)

end Gateway

end Config

end EdgeGateway
