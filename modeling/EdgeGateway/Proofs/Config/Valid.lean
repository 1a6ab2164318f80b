import EdgeGateway.Config.Validate

/-!
# Accepted configurations

A configuration is accepted if it has no fault, and each kind of fault is about
one setting.  So what is accepted is exactly what is sound in all of these
settings, and nothing is said about the others: not about the names of the
backups, nor about header names that coincide.
-/

namespace EdgeGateway.Config.Gateway

/-- What acceptance says about the settings. -/
structure Sound (config : Gateway) : Prop where
  bindAddress : (Net.IpAddress.read? config.server.bindAddress).isSome = true
  backendTimeout : config.server.backendTimeout.isZero = false
  routeTtl : config.routes.cacheTtl.isZero = false
  corsSweep : config.cors.sweepInterval.isZero = false
  versioningSweep : config.versioning.sweepInterval.isZero = false
  primaryRegion : Text.isBlankText config.failover.primaryRegion = false
  failureThreshold : 1 ≤ config.failover.failureThreshold
  failureWindow : config.failover.failureWindow.isZero = false
  regionHeader : Http.isHeaderName config.failover.regionHeader = true
  tenantHeader : Http.isHeaderName config.versioning.tenantHeader = true
  versionHeader : Http.isHeaderName config.versioning.versionHeader = true
  database : config.store.backend = .postgres →
    config.store.databaseUrl.isSome = true

theorem faultIf_eq_nil_iff {broken : Bool} {fault : Fault} :
    faultIf broken fault = [] ↔ broken = false := by
  cases broken <;> simp [faultIf]

theorem faults_eq_nil_iff (config : Gateway) :
    config.faults = [] ↔ config.Sound := by
  simp only [faults, List.append_eq_nil_iff, faultIf_eq_nil_iff,
    decide_eq_false_iff_not, Bool.not_eq_false', and_assoc]
  constructor
  · rintro ⟨haddress, htimeout, hroutes, hcors, hversions, hprimary, hthreshold,
      hwindow, hregion, htenant, hversion, hdatabase⟩
    exact {
      bindAddress := Option.isNone_eq_false_iff.mp haddress
      backendTimeout := htimeout
      routeTtl := hroutes
      corsSweep := hcors
      versioningSweep := hversions
      primaryRegion := hprimary
      failureThreshold := Nat.one_le_iff_ne_zero.mpr hthreshold
      failureWindow := hwindow
      regionHeader := hregion
      tenantHeader := htenant
      versionHeader := hversion
      database := by simpa using hdatabase }
  · intro hsound
    exact ⟨Option.isNone_eq_false_iff.mpr hsound.bindAddress, hsound.backendTimeout,
      hsound.routeTtl, hsound.corsSweep, hsound.versioningSweep, hsound.primaryRegion,
      Nat.one_le_iff_ne_zero.mp hsound.failureThreshold, hsound.failureWindow,
      hsound.regionHeader, hsound.tenantHeader, hsound.versionHeader,
      by simpa using hsound.database⟩

/-- Exactly the sound configurations are accepted. -/
theorem validate_eq_ok_iff (config : Gateway) :
    config.validate = .ok () ↔ config.Sound := by
  rw [← faults_eq_nil_iff, validate]
  cases config.faults <;> simp

end EdgeGateway.Config.Gateway
