import CertGraph.Proofs.Issuance.Issued

/- What issuing takes from the supply when it succeeds: one key of the size asked for and one serial
number, each the next there is. -/
set_option autoImplicit false
set_option relaxedAutoImplicit false

namespace CertGraph

variable {σ : Type} {workshop after : Workshop σ}

namespace Supply

/-- The supply after a key of a size and a serial number were taken. -/
def issued (supply : Supply) (size : KeySize) : Supply :=
  { supply with
    requests := supply.requests ++ [size]
    keysDrawn := supply.keysDrawn + 1
    serialsDrawn := supply.serialsDrawn + 1 }

/-- A pair holds the next key and the next serial number of a supply. -/
structure Gives (supply : Supply) (pair : Pair) : Prop where
  key : supply.source.key supply.keysDrawn = .ok pair.key
  serial : pair.certificate.body.serial = Serial.ofRandom (supply.source.random supply.serialsDrawn)

end Supply

/-- A self-signed authority holds the next key, of the size asked for, and the next serial number. -/
theorem issueSelfSigned_drawn {spec : Spec} {baseName : String} {keySize : KeySize}
    {authority : Authority}
    (made : outcome (issueSelfSigned spec baseName keySize) workshop = (.ok authority, after)) :
    workshop.supply.Gives authority.pair ∧ after.supply = workshop.supply.issued keySize := by
  obtain ⟨-, key, certificate, first, second, keyMade, built, supply, same⟩ :=
    issueSelfSigned_built made
  obtain ⟨given, afterKey⟩ := Work.drawKey_ok (Work.asCryptography_ok keyMade)
  obtain ⟨made, afterSerial⟩ := Certificate.buildSelfSigned_made built
  have serial := made.serial
  rw [afterKey] at serial afterSerial
  rw [same]
  exact ⟨⟨given, serial⟩, supply.trans afterSerial⟩

/-- A signed pair holds the next key, of the size asked for, and the next serial number. -/
theorem issueWith_drawn {spec : Spec} {issuer : Authority} {baseName : String} {policy : ChainPolicy}
    {keySize : KeySize} {made : Issued}
    (issued : outcome (issueWith spec issuer baseName policy keySize) workshop =
      (.ok made, after)) :
    workshop.supply.Gives made.pair ∧ after.supply = workshop.supply.issued keySize := by
  obtain ⟨-, key, certificate, first, second, keyMade, built, -, supply, same⟩ :=
    issueWith_built issued
  obtain ⟨given, afterKey⟩ := Work.drawKey_ok (Work.asCryptography_ok keyMade)
  obtain ⟨made, afterSerial⟩ := Certificate.buildSigned_made built
  have serial := made.serial
  rw [afterKey] at serial afterSerial
  rw [same]
  exact ⟨⟨given, serial⟩, supply.trans afterSerial⟩

end CertGraph
