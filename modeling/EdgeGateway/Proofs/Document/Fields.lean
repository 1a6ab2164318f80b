import EdgeGateway.Document.Decode
import EdgeGateway.Proofs.Attempt

/-!
# What is read of a record

A number that is read lies within its limit.  The value of a field that may be absent
is what its decoder gives, or the value that stands for its absence.
-/

namespace EdgeGateway.Document

theorem asNatural_le {limit result : Nat} {document : Document}
    (hread : document.asNatural limit = .ok result) : result ≤ limit := by
  obtain ⟨value, -, hvalue⟩ := bind_eq_ok_iff.mp hread
  split at hvalue
  next hfits =>
    obtain rfl := pure_eq_ok_iff.mp hvalue
    omega
  next => exact absurd hvalue throw_ne_ok

theorem of_asOption {Value : Type} {document : Document} {value : Value}
    {decode : Document → Decoded Value}
    (hread : document.asOption decode = .ok (some value)) : decode document = .ok value := by
  unfold asOption at hread
  split at hread
  next => simp at hread
  next =>
    cases hdecode : decode document with
    | error fault => simp [hdecode, Except.map] at hread
    | ok found => simpa [hdecode, Except.map] using hread

namespace Fields

variable {Value : Type} {fields : Fields} {name : String} {decode : Document → Decoded Value}
  {P : Value → Prop}

theorem of_withDefault {fallback value : Value}
    (hread : fields.withDefault name fallback decode = .ok value) (hfallback : P fallback)
    (hdecode : ∀ document value, decode document = .ok value → P value) : P value := by
  unfold withDefault at hread
  split at hread
  next document _ => exact hdecode document value hread
  next =>
    obtain rfl := Except.ok.inj hread
    exact hfallback

theorem of_optional {value : Value} (hread : fields.optional name decode = .ok (some value))
    (hdecode : ∀ document value, decode document = .ok value → P value) : P value := by
  have hpresent : ∀ found, some value = some found → P found :=
    of_withDefault (P := fun option => ∀ found, option = some found → P found) hread nofun
      fun document option hoption found hfound =>
        hdecode document found (of_asOption (hfound ▸ hoption))
  exact hpresent value rfl

end Fields

end EdgeGateway.Document
