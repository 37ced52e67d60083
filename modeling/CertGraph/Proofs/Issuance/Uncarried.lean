import CertGraph.Proofs.Issuance.Escaping

/- Alternative names that no certificate can carry: which of them are invalid input, and which are only
met after a key was taken. -/
set_option autoImplicit false
set_option relaxedAutoImplicit false

namespace CertGraph

open CertGraph.Net (Address)

variable {σ α : Type}

/-- An alternative name that no certificate can carry: a DNS name that is empty or not ASCII, or a text
that is no address. -/
def Uncarried (names : List String) (sources : List AddressSource) : Prop :=
  (∃ name ∈ names, name = "" ∨ ∃ c ∈ name.toList, 128 ≤ c.toNat) ∨
    ∃ literal, .text literal ∈ sources ∧ Address.ofText? literal = none

/-- What a draft with these names and addresses has to be for its check to pass. -/
structure SpecDraft.Passes (draft : SpecDraft) (names : List String) (sources : List AddressSource) :
    Prop where
  lasting : 0 < draft.validity.micros
  signs : draft.isAuthority = true → draft.usages.has .certSign = true
  named : ∀ name ∈ names, name ≠ ""
  readable : ∀ literal, .text literal ∈ sources → ∃ address, Address.ofText? literal = some address

namespace AddressSource

private theorem exists_read_ok_iff {source : AddressSource} : (∃ address, source.read = .ok address) ↔
    ∀ literal, source = .text literal → ∃ address, Address.ofText? literal = some address := by
  cases source with
  | parsed address => exact iff_of_true ⟨address, rfl⟩ nofun
  | text literal =>
    simp only [read, AddressSource.text.injEq, forall_eq']
    cases Address.ofText? literal with
    | some address => exact iff_of_true ⟨address, rfl⟩ ⟨address, rfl⟩
    | none => exact iff_of_false nofun nofun

private theorem exists_mapM_read_ok_iff {sources : List AddressSource} :
    (∃ addresses, sources.mapM read = .ok addresses) ↔
      ∀ literal, .text literal ∈ sources → ∃ address, Address.ofText? literal = some address := by
  rw [exists_mapM_ok_iff]
  constructor
  · exact fun each literal member => exists_read_ok_iff.mp (each _ member) literal rfl
  · exact fun each source member =>
      exists_read_ok_iff.mpr fun literal same => each literal (same ▸ member)

end AddressSource

namespace SpecDraft

variable {draft : SpecDraft} {names : List String} {sources : List AddressSource}

/-- A draft that passes becomes a spec of the same kind, with the names that it was given. -/
private theorem Passes.check_ok (passes : draft.Passes names sources)
    (dnsNames : draft.dnsNames = .many names)
    (addresses : draft.addresses = .many sources) :
    ∃ spec, draft.check = .ok spec ∧ spec.isAuthority = draft.isAuthority ∧ spec.dnsNames = names := by
  obtain ⟨read, all⟩ := AddressSource.exists_mapM_read_ok_iff.mpr passes.readable
  unfold check
  rw [dif_pos passes.lasting, dif_pos passes.signs, dnsNames, addresses]
  change ∃ spec : Spec, (if named : ∀ name ∈ names, name ≠ "" then _ else _) = Except.ok spec ∧
    spec.isAuthority = draft.isAuthority ∧ spec.dnsNames = names
  rw [dif_pos passes.named, all]
  exact ⟨_, rfl, rfl, rfl⟩

private theorem passes_of_check_ok {spec : Spec} (checked : draft.check = .ok spec)
    (dnsNames : draft.dnsNames = .many names) (addresses : draft.addresses = .many sources) :
    draft.Passes names sources := by
  unfold check at checked
  split at checked
  · rename_i lasting
    split at checked
    · rename_i signs
      rw [dnsNames, addresses] at checked
      change (if named : ∀ name ∈ names, name ≠ "" then _ else _) = Except.ok spec at checked
      split at checked
      · rename_i named
        refine ⟨lasting, signs, named, AddressSource.exists_mapM_read_ok_iff.mp ?_⟩
        cases all : sources.mapM AddressSource.read with
        | ok read => exact ⟨read, rfl⟩
        | error fault =>
          rw [all] at checked
          cases checked
      · cases checked
    · cases checked
  · cases checked

/-- Of the names that cannot be carried only those that are not ASCII pass. -/
private theorem Passes.exists_not_ascii (passes : draft.Passes names sources)
    (uncarried : Uncarried names sources) : ∃ name ∈ names, ∃ c ∈ name.toList, 128 ≤ c.toNat := by
  rcases uncarried with ⟨name, member, empty | notAscii⟩ | ⟨literal, member, unread⟩
  · exact absurd empty (passes.named name member)
  · exact ⟨name, member, notAscii⟩
  · obtain ⟨address, read⟩ := passes.readable literal member
    cases unread.symm.trans read

end SpecDraft

private theorem newKey_supply (size : KeySize) (baseName : String) (workshop : Workshop σ) :
    (outcome (newKey size baseName) workshop).2.supply = (workshop.supply.drawKey size).2 := by
  simp only [outcome, newKey, Work.asCryptography, Work.onFailure, Work.drawKey]
  rcases workshop.supply.drawKey size with ⟨raised | key, supply⟩
  · cases raised <;> rfl
  · rfl

/-- If the first step of issuing is to take a key, the key is taken whatever comes of the others. -/
private theorem newKey_bind_before {keySize : KeySize} {baseName : String} {workshop : Workshop σ}
    {next : Rsa.PrivateKey → Work σ α}
    (rest : ∀ key, Work.OnlyTakes (next key)) :
    (workshop.supply.drawKey keySize).2.Before
      (outcome (newKey keySize baseName >>= next) workshop).2.supply := by
  have taken := newKey_supply keySize baseName workshop
  rw [outcome_bind]
  rcases ended : outcome (newKey keySize baseName) workshop with ⟨failure | key, middle⟩
  · rw [ended] at taken
    rw [← taken]
    exact .refl _
  · rw [ended] at taken
    rw [← taken]
    exact rest key middle

/-- How a certificate is signed: with its own key, or with that of an issued pair. -/
inductive Route where
  | selfSigned
  | signed (issuer : Issued) (policy : ChainPolicy)

namespace Route

/-- Whether a route is open: only authorities sign, and only they are self-signed. -/
def Admits (isAuthority : Bool) : Route → Prop
  | .selfSigned => isAuthority = true
  | .signed issuer _ => issuer.authority?.isSome = true

/-- The key of the issuer is found to be the one that its certificate is about. -/
def Holds : Route → Prop
  | .selfSigned => True
  | .signed issuer _ => ∀ holder, issuer.authority? = some holder →
      holder.pair.certificate.checkHolds holder.pair.key = .ok true

/-- Issue a spec on a route. -/
def issue (route : Route) (spec : Spec) (baseName : String) (keySize : KeySize) : Work σ Issued :=
  match route with
  | .selfSigned => do return .authority (← issueSelfSigned spec baseName keySize)
  | .signed issuer policy => issueSigned spec issuer baseName policy keySize

variable {route : Route} {spec : Spec} {baseName : String} {keySize : KeySize} {workshop : Workshop σ}

private theorem issue_refused (closed : ¬ route.Admits spec.isAuthority) :
    ∃ fault, outcome (route.issue spec baseName keySize) workshop =
      (.error (.configuration fault), workshop) := by
  cases route with
  | selfSigned =>
    have leaf : ¬ spec.isAuthority = true := closed
    refine ⟨.selfSignedNotAuthority baseName, ?_⟩
    simp only [issue, issueSelfSigned, leaf]
    rfl
  | signed issuer policy =>
    exact ⟨_, issueSigned_refused (by simpa [Admits] using closed) spec baseName policy keySize workshop⟩

/-- What was issued carries its DNS names, so they are ASCII. -/
private theorem ascii_of_issue_ok {made : Issued} {after : Workshop σ}
    (issued : outcome (route.issue spec baseName keySize) workshop = (.ok made, after)) :
    ∀ name ∈ spec.dnsNames, ∀ c ∈ name.toList, c.toNat < 128 := by
  suffices ∃ certificate : Certificate, ∃ key, certificate.MadeFor spec key by
    obtain ⟨certificate, key, madeFor⟩ := this
    obtain ⟨first, later, ofSpec, -⟩ := madeFor.carries
    exact Extension.exists_ofSpec_ok_iff.mp ⟨first, ofSpec⟩
  cases route with
  | selfSigned =>
    obtain ⟨holder, middle, issuedSo, -⟩ := outcome_bind_ok issued
    exact ⟨_, _, (issueSelfSigned_signedAs issuedSo).2.1⟩
  | signed issuer policy =>
    obtain ⟨holder, rfl, issuedSo⟩ := issueSigned_ok issued
    exact ⟨_, _, (issueWith_signedAs issuedSo).2.1⟩

/-- On a route that is open nothing is refused as invalid input. -/
theorem issue_fails (isOpen : route.Admits spec.isAuthority) :
    Work.FailsAs (fun failure => (∃ fault, failure = .cryptography fault) ∨ failure = .dateOutOfRange ∨
        (∃ fault, failure = .subjectKey fault) ∨ failure.IsForeign)
      (route.issue spec baseName keySize : Work σ Issued) := by
  cases route with
  | selfSigned =>
    refine .bind ((issueSelfSigned_fails spec baseName keySize).mono ?_) fun _ holder _ _ => .pure _
    rintro failure (⟨leaf, -⟩ | failed | failed | foreign)
    · cases leaf.symm.trans isOpen
    · exact .inl failed
    · exact .inr (.inl failed)
    · exact .inr (.inr (.inr foreign))
  | signed issuer policy =>
    cases issuer with
    | leaf pair => cases isOpen
    | authority holder =>
      refine (issueWith_fails spec holder baseName policy keySize).mono ?_
      intro failure failed
      cases failed with
      | incomparable faulty => exact .inr (.inr (.inl ⟨_, rfl⟩))
      | dateOutOfRange => exact .inr (.inl rfl)
      | source foreign => exact .inr (.inr (.inr foreign))
      | _ => exact .inl ⟨_, rfl⟩

private theorem issue_before (isOpen : route.Admits spec.isAuthority) (holds : route.Holds) :
    (workshop.supply.drawKey keySize).2.Before
      (outcome (route.issue spec baseName keySize) workshop).2.supply := by
  cases route with
  | selfSigned =>
    have isAuthority : spec.isAuthority = true := isOpen
    rw [issue, issueSelfSigned, if_pos isAuthority, bind_assoc]
    refine newKey_bind_before fun key => .bind ?_ fun _ => .pure _
    refine .bind (.asCryptography _ (.buildSelfSigned spec key)) fun certificate => ?_
    exact .bind (.report _ _ _) fun _ => .ofExcept _ _
  | signed issuer policy =>
    cases issuer with
    | leaf pair => cases isOpen
    | authority holder =>
      have held : outcome (Work.ofExcept .subjectKey
          (holder.pair.certificate.checkHolds holder.pair.key) : Work σ Bool) workshop =
          (.ok true, workshop) := by
        rw [holds holder rfl]
        rfl
      rw [issue, issueSigned]
      dsimp only [Issued.authority?]
      rw [issueWith, outcome_bind, held]
      dsimp only
      rw [Bool.not_true, if_neg Bool.false_ne_true]
      refine newKey_bind_before fun key => ?_
      refine .bind (.asCryptography _ (.buildSigned spec _ _ _)) fun certificate => ?_
      split
      · exact .fail _
      · refine .bind (.report _ _ _) fun _ => ?_
        split
        · exact .bind (.ofExcept _ _) fun _ => .pure _
        · exact .pure _

end Route

/-- Check a draft and issue what it makes on a route. -/
def SpecDraft.attempt (draft : SpecDraft) (route : Route) (baseName : String) (keySize : KeySize) :
    Work σ Issued := do
  route.issue (← Work.configured draft.check) baseName keySize

section Attempt

variable {draft : SpecDraft} {names : List String} {sources : List AddressSource}

/-- Let an alternative name of a draft be one that no certificate can carry. Then nothing is ever issued
from the draft. If the draft passes its check, as it can with names that are not ASCII, and the route is
open to it, that is never for invalid input: it is a failure of cryptography, or an end of validity or a
key of the issuer that is met before, or what the source of keys raises. By then a key was asked for,
unless the issuer was found not to hold its own. In all other cases it is invalid input, and nothing was
taken at all. -/
theorem attempt_uncarried (dnsNames : draft.dnsNames = .many names)
    (addresses : draft.addresses = .many sources)
    (uncarried : Uncarried names sources) (route : Route) (baseName : String) (keySize : KeySize)
    (workshop : Workshop σ) :
    ∃ failure after, outcome (draft.attempt route baseName keySize) workshop =
        (.error failure, after) ∧
      (¬ (draft.Passes names sources ∧ route.Admits draft.isAuthority) →
        (∃ fault, failure = .configuration fault) ∧ after = workshop) ∧
      (draft.Passes names sources ∧ route.Admits draft.isAuthority →
        ((∃ fault, failure = .cryptography fault) ∨ failure = .dateOutOfRange ∨
          (∃ fault, failure = .subjectKey fault) ∨ failure.IsForeign) ∧
        (route.Holds → (workshop.supply.drawKey keySize).2.Before after.supply)) := by
  cases checked : draft.check with
  | error fault =>
    have refused : ¬ draft.Passes names sources := by
      intro passes
      obtain ⟨spec, accepted, -⟩ := passes.check_ok dnsNames addresses
      cases checked.symm.trans accepted
    refine ⟨.configuration fault, workshop, ?_, fun _ => ⟨⟨fault, rfl⟩, rfl⟩, ?_⟩
    · rw [SpecDraft.attempt, checked]
      rfl
    · exact fun passes => absurd passes.1 refused
  | ok spec =>
    have passes := SpecDraft.passes_of_check_ok checked dnsNames addresses
    obtain ⟨same, accepted, kind, given⟩ := passes.check_ok dnsNames addresses
    cases checked.symm.trans accepted
    have attempted : outcome (draft.attempt route baseName keySize) workshop =
        outcome (route.issue spec baseName keySize) workshop := by
      rw [SpecDraft.attempt, checked]
      rfl
    rw [attempted, ← kind, and_iff_right passes]
    by_cases isOpen : route.Admits spec.isAuthority
    · rcases ended : outcome (route.issue spec baseName keySize) workshop with ⟨failure | made, after⟩
      · have taken (holds : route.Holds) : (workshop.supply.drawKey keySize).2.Before
            (outcome (route.issue spec baseName keySize) workshop).2.supply :=
          Route.issue_before isOpen holds
        rw [ended] at taken
        exact ⟨failure, after, rfl, absurd isOpen, fun _ =>
          ⟨Route.issue_fails isOpen workshop failure after ended, taken⟩⟩
      · -- what was issued would carry a name that no certificate can carry
        obtain ⟨name, member, c, inName, large⟩ := passes.exists_not_ascii uncarried
        have ascii := Route.ascii_of_issue_ok ended
        rw [given] at ascii
        exact absurd (ascii name member c inName) (Nat.not_lt.mpr large)
    · obtain ⟨fault, refused⟩ := Route.issue_refused isOpen
      exact ⟨.configuration fault, workshop, refused, fun _ => ⟨⟨fault, rfl⟩, rfl⟩,
        fun isOpenToo => absurd isOpenToo isOpen⟩

end Attempt

open Resolution (mersenneWorkshop)

/-- The draft of a root for a host whose name is not ASCII. -/
def umlautDraft : SpecDraft :=
  { Cluster.signerDraft "root" Cluster.oneYear "unit" with dnsNames := .many ["bücher.example"] }

/-- The draft of a root with an address that lacks its last part. -/
def shortAddressDraft : SpecDraft :=
  { Cluster.signerDraft "root" Cluster.oneYear "unit" with addresses := .many [.text "10.0.0"] }

private theorem umlautDraft_uncarried : Uncarried ["bücher.example"] [] :=
  .inl ⟨_, List.mem_singleton_self _, .inr ⟨'ü', by decide, by decide⟩⟩

private theorem shortAddressDraft_uncarried : Uncarried [] [.text "10.0.0"] :=
  .inr ⟨_, List.mem_singleton_self _, by decide⟩

/-- The name of the host is not invalid input: it is a failure of cryptography, after a key was taken. -/
theorem umlaut_late :
    (∃ after, outcome (umlautDraft.attempt .selfSigned "root" (some 2048)) mersenneWorkshop =
        (.error (.cryptography (.selfSigning "root" .dnsNameNotAscii)), after) ∧
      after.supply.requests = [some 2048] ∧ after.supply.keysDrawn = 1) ∧
    ∀ fault after, outcome (umlautDraft.attempt .selfSigned "root" (some 2048)) mersenneWorkshop ≠
      (.error (.configuration fault), after) :=
  ⟨⟨_, rfl, rfl, rfl⟩, fun _ _ => nofun⟩

/-- The two drafts as a self-signed root: the address is invalid input, with nothing taken, and for the
name of the host a key is taken. -/
theorem uncarried_root :
    (∃ fault, outcome (shortAddressDraft.attempt .selfSigned "root" (some 2048)) mersenneWorkshop =
      (.error (.configuration fault), mersenneWorkshop)) ∧
    ∃ failure after, outcome (umlautDraft.attempt .selfSigned "root" (some 2048)) mersenneWorkshop =
        (.error failure, after) ∧ (∀ fault, failure ≠ .configuration fault) ∧
      (mersenneWorkshop.supply.drawKey (some 2048)).2.Before after.supply := by
  constructor
  · obtain ⟨failure, after, failed, early, -⟩ := @attempt_uncarried _ shortAddressDraft _ _ rfl rfl
      shortAddressDraft_uncarried .selfSigned "root" (some 2048) mersenneWorkshop
    have refused : ¬ shortAddressDraft.Passes [] [.text "10.0.0"] := by
      intro passes
      obtain ⟨address, read⟩ := passes.readable "10.0.0" (List.mem_singleton_self _)
      cases (show Address.ofText? "10.0.0" = none by decide).symm.trans read
    obtain ⟨⟨fault, rfl⟩, rfl⟩ := early fun passes => refused passes.1
    exact ⟨fault, failed⟩
  · obtain ⟨failure, after, failed, -, late⟩ := @attempt_uncarried _ umlautDraft _ _ rfl rfl
      umlautDraft_uncarried .selfSigned "root" (some 2048) mersenneWorkshop
    have passes : umlautDraft.Passes ["bücher.example"] [] :=
      SpecDraft.passes_of_check_ok rfl rfl rfl
    obtain ⟨other, taken⟩ := late ⟨passes, rfl⟩
    refine ⟨failure, after, failed, ?_, taken trivial⟩
    rintro fault rfl
    rcases other with ⟨_, ⟨⟩⟩ | ⟨⟨⟩⟩ | ⟨_, ⟨⟩⟩ | ⟨_, _, ⟨⟩⟩

end CertGraph
