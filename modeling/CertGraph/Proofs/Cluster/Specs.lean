import CertGraph.Cluster.Catalog
import CertGraph.Proofs.Net.Offset
import CertGraph.Proofs.Resolution.Generating

/- The specs of a cluster: what they read, which validity they give, and when they can be issued. -/
set_option autoImplicit false
set_option relaxedAutoImplicit false

namespace CertGraph.Cluster

open CertGraph.Net (Address Network)
open CertGraph.Time (Duration Instant)

variable {ε : Type}

private theorem check_leafDraft {validity : Duration} (purposes : List Purpose) {dnsNames : List String}
    (addresses : List Address) (validity_pos : 0 < validity.micros)
    (dnsNames_ne : ∀ name ∈ dnsNames, name ≠ "") :
    (leafDraft validity purposes dnsNames addresses).check =
      .ok (leafSpec validity purposes dnsNames addresses validity_pos dnsNames_ne) := by
  have read : (addresses.map AddressSource.parsed).mapM AddressSource.read = .ok addresses := by
    induction addresses with
    | nil => rfl
    | cons address addresses ih =>
      rw [List.map_cons, List.mapM_cons, ih]
      rfl
  have lasting : 0 < (leafDraft validity purposes dnsNames addresses).validity.micros := validity_pos
  unfold SpecDraft.check
  rw [dif_pos lasting, dif_pos nofun]
  show (if named : ∀ name ∈ dnsNames, name ≠ "" then _ else _) = _
  rw [dif_pos dnsNames_ne]
  show ((addresses.map AddressSource.parsed).mapM AddressSource.read >>= _) = _
  rw [read]
  rfl

private theorem leafSpec_issuable_iff {validity : Duration} {purposes : List Purpose}
    {dnsNames : List String} {addresses : List Address} {validity_pos : 0 < validity.micros}
    {dnsNames_ne : ∀ name ∈ dnsNames, name ≠ ""} {now : Instant} :
    (leafSpec validity purposes dnsNames addresses validity_pos dnsNames_ne).Issuable now ↔
      now.Admits validity ∧ ∀ name ∈ dnsNames, ∀ c ∈ name.toList, c.toNat < 128 := by
  have written : 1 ≤ (Octets.ofText apiserverSubject.commonName).length ∧
      (Octets.ofText apiserverSubject.commonName).length ≤ 64 := by decide
  exact ⟨fun issuable => ⟨issuable.admits, issuable.dnsNames⟩,
    fun ⟨admits, ascii⟩ => ⟨written, ascii, admits⟩⟩

/-- The keys of the signers. -/
def signerKeys : List String :=
  [kubeCa, kubeletSigner, localhostSigner, serviceNetworkSigner, lbSigner]

theorem signerSpec_issuable_iff {key unit : String} (isSigner : key ∈ signerKeys)
    {validity : Duration} {validity_pos : 0 < validity.micros} {now : Instant} :
    (signerSpec key validity unit validity_pos).Issuable now ↔ now.Admits validity := by
  have written : ∀ key ∈ signerKeys,
      1 ≤ (Octets.ofText key).length ∧ (Octets.ofText key).length ≤ 64 := by decide
  exact ⟨fun issuable => issuable.admits, fun admits => ⟨written key isSigner, nofun, admits⟩⟩

private theorem exists_serviceAddress_ok_iff {config : InstallConfig} :
    (∃ address, config.serviceAddress = .ok address) ↔
      ∃ network, config.serviceNetwork = some network ∧ 2 ≤ network.size := by
  unfold InstallConfig.serviceAddress InstallConfig.networkSource
  cases config.serviceNetwork with
  | none =>
    exact ⟨fun ⟨_, absurd⟩ => (by cases absurd), fun ⟨_, absurd, _⟩ => (by cases absurd)⟩
  | some network =>
    have inside : (0 : Int) ≤ 1 ∧ (1 : Int) < network.size ↔ 2 ≤ network.size := by omega
    constructor
    · rintro ⟨address, found⟩
      refine ⟨network, rfl, inside.mp ?_⟩
      exact (hostAtOffset_ok_iff.mp found).1
    · rintro ⟨_, ⟨rfl⟩, large⟩
      exact ⟨_, hostAtOffset_of_lt (inside.mpr large)⟩

/-- The settings hold what the certificate of a key needs of them: an address in the service network,
and an API address that can be written as a DNS name. -/
structure Suits (config : InstallConfig) (key : String) : Prop where
  network : key ∈ [apiserver, serviceNetworkServer] →
    ∃ network, config.serviceNetwork = some network ∧ 2 ≤ network.size
  apiAddress : key ∈ [apiserver, lbServer] → ∀ c ∈ config.apiAddress.toList, c.toNat < 128

theorem suits_of_notMem {config : InstallConfig} {key : String}
    (other : key ∉ [apiserver, serviceNetworkServer, lbServer]) : Suits config key := by
  constructor
  · intro member
    exact absurd (List.mem_append_left [lbServer] member) other
  · intro member
    rcases List.mem_cons.mp member with rfl | member
    · exact absurd List.mem_cons_self other
    · exact absurd (List.mem_append_right [apiserver, serviceNetworkServer] member) other

private theorem suits_apiserver_iff {config : InstallConfig} : Suits config apiserver ↔
    (∃ network, config.serviceNetwork = some network ∧ 2 ≤ network.size) ∧
      ∀ c ∈ config.apiAddress.toList, c.toNat < 128 :=
  ⟨fun suits => ⟨suits.network (by decide), suits.apiAddress (by decide)⟩,
    fun holds => ⟨fun _ => holds.1, fun _ => holds.2⟩⟩

private theorem suits_serviceNetworkServer_iff {config : InstallConfig} :
    Suits config serviceNetworkServer ↔
    ∃ network, config.serviceNetwork = some network ∧ 2 ≤ network.size := by
  have apart : serviceNetworkServer ∉ [apiserver, lbServer] := by decide
  exact ⟨fun suits => suits.network (by decide),
    fun holds => ⟨fun _ => holds, fun member => absurd member apart⟩⟩

private theorem suits_lbServer_iff {config : InstallConfig} : Suits config lbServer ↔
    ∀ c ∈ config.apiAddress.toList, c.toNat < 128 := by
  have apart : lbServer ∉ [apiserver, serviceNetworkServer] := by decide
  exact ⟨fun suits => suits.apiAddress (by decide),
    fun holds => ⟨fun member => absurd member apart, fun _ => holds⟩⟩

/-- A source gives specs of one validity, and reads nothing but what is recorded under some keys. Where
the settings are recorded, it gives a spec that can be issued exactly under a condition. -/
structure Answers (config : InstallConfig) (others : List String) (source : SpecSource ε)
    (validity : Duration) (condition : Prop) : Prop where
  declares_iff : ∀ other, source.Declares other ↔ other = validity
  reads : ∀ parents more : Parents ε, (∀ key ∈ others, parents.get? key = more.get? key) →
    source.read parents = source.read more
  issuable_iff : ∀ parents : Parents ε,
    (installConfigKey ∈ others → parents.installConfig = .ok config) → ∀ now : Instant,
      (∃ spec, source.read parents = .ok spec ∧ spec.Issuable now) ↔
        now.Admits validity ∧ condition
  notMissing : ∀ parents : Parents ε,
    (installConfigKey ∈ others → parents.installConfig = .ok config) → ∀ failure,
      source.read parents = .error failure → failure.NotMissing

variable {config : InstallConfig}

private theorem answers_fixed {spec : Spec} {condition : Prop} (holds : condition)
    (issuable : ∀ now, spec.Issuable now ↔ now.Admits spec.validity) :
    Answers config [] (.fixed spec : SpecSource ε) spec.validity condition where
  declares_iff _ := SpecSource.declares_fixed_iff
  reads _ _ _ := rfl
  issuable_iff _ _ now := by
    rw [and_iff_left holds, ← issuable now]
    constructor
    · rintro ⟨_, ⟨rfl⟩, isIssuable⟩
      exact isIssuable
    · exact fun isIssuable => ⟨spec, rfl, isIssuable⟩
  notMissing _ _ _ absurd := by cases absurd

/-- What has no address in the service network fails, but not for want of an asset. -/
private theorem notMissing_of_serviceAddress {failure : Failure}
    (failed : config.serviceAddress = .error failure) : failure.NotMissing := by
  unfold InstallConfig.serviceAddress InstallConfig.networkSource at failed
  cases given : config.serviceNetwork with
  | none =>
    rw [given] at failed
    cases failed
    exact nofun
  | some network =>
    rw [given] at failed
    by_cases inside : (0 : Int) ≤ 1 ∧ (1 : Int) < network.size
    · cases (hostAtOffset_of_lt inside).symm.trans failed
    · obtain ⟨refusal, refused, ⟨fault, rfl⟩ | ⟨fault, rfl⟩⟩ := hostAtOffset_error_of_not_lt inside
      · cases refused.symm.trans failed
        exact Failure.notMissing_configuration fault
      · cases refused.symm.trans failed
        exact Failure.notMissing_value fault

/-- Only the settings are recorded. -/
def settled (config : InstallConfig) : Parents ε :=
  ⟨[(installConfigKey, ⟨installConfigKey, "Install Config", [], .settings config⟩)]⟩

/-- A spec that is made of the settings alone. -/
private theorem answers_computed {compute : Parents ε → Except Failure Spec}
    {form : InstallConfig → Except Failure Spec} {validity : Duration} {condition : Prop}
    (computes : ∀ parents, compute parents = parents.installConfig >>= form)
    (lasts : ∀ found spec, form found = .ok spec → spec.validity = validity)
    (formed : ∃ found spec, form found = .ok spec)
    (present : ∀ failure, form config = .error failure → failure.NotMissing)
    (issuable : ∀ now, (∃ spec, form config = .ok spec ∧ spec.Issuable now) ↔
      now.Admits validity ∧ condition) :
    Answers config [installConfigKey] (.computed compute) validity condition := by
  have settles {parents : Parents ε} {found : InstallConfig}
      (recorded : parents.installConfig = .ok found) : compute parents = form found := by
    rw [computes, recorded]
    rfl
  constructor
  · intro other
    constructor
    · rintro ⟨parents, spec, read, rfl⟩
      have read : compute parents = .ok spec := read
      cases recorded : parents.installConfig with
      | error failure =>
        rw [computes, recorded] at read
        cases read
      | ok found =>
        rw [settles recorded] at read
        exact lasts found spec read
    · rintro rfl
      obtain ⟨found, spec, made⟩ := formed
      have recorded : (settled found : Parents ε).installConfig = .ok found := rfl
      have read := (settles recorded).trans made
      exact ⟨settled found, spec, read, lasts found spec made⟩
  · intro parents more same
    show compute parents = compute more
    rw [computes, computes, Parents.installConfig_congr (same installConfigKey List.mem_cons_self)]
  · intro parents recorded now
    show (∃ spec, compute parents = .ok spec ∧ spec.Issuable now) ↔ _
    simp only [settles (recorded List.mem_cons_self)]
    exact issuable now
  · intro parents recorded failure failed
    have failed : compute parents = .error failure := failed
    rw [settles (recorded List.mem_cons_self)] at failed
    exact present failure failed

theorem kubeletClient_answers :
    Answers config [] (.fixed kubeletClientSpec : SpecSource ε) oneYear
      (Suits config kubeletClient) := by
  refine answers_fixed (suits_of_notMem (by decide)) fun now => ?_
  rw [kubeletClientSpec, leafSpec_issuable_iff, and_iff_left nofun]
  rfl

theorem localhostServer_answers :
    Answers config [] (.fixed localhostServerSpec : SpecSource ε) oneDay
      (Suits config localhostServer) := by
  have ascii : ∀ name ∈ ["localhost"], ∀ c ∈ name.toList, c.toNat < 128 := ascii_of_all (by decide)
  refine answers_fixed (suits_of_notMem (by decide)) fun now => ?_
  rw [localhostServerSpec, leafSpec_issuable_iff, and_iff_left ascii]
  rfl

private theorem oneDay_pos : 0 < oneDay.micros := by
  decide

private theorem serviceNames_ne : ∀ name ∈ serviceNames, name ≠ "" := by
  decide

private theorem apiserverNames_ne (config : InstallConfig) :
    ∀ name ∈ config.apiAddress :: serviceNames ++ ["localhost"], name ≠ "" :=
  List.forall_mem_cons.mpr ⟨config.apiAddress_ne, by decide⟩

private theorem apiAddress_ne (config : InstallConfig) : ∀ name ∈ [config.apiAddress], name ≠ "" :=
  List.forall_mem_singleton.mpr config.apiAddress_ne

/-- The spec of the API server with an address in the service network. -/
def apiserverLeaf (config : InstallConfig) (address : Address) : Spec :=
  leafSpec tenYears [.serverAuth, .clientAuth] (config.apiAddress :: serviceNames ++ ["localhost"])
    [address, loopback] tenYears_pos (apiserverNames_ne config)

/-- The spec of the server for callers inside the cluster. -/
def serviceNetworkLeaf (_ : InstallConfig) (address : Address) : Spec :=
  leafSpec oneDay [.serverAuth] serviceNames [address] oneDay_pos serviceNames_ne

/-- The spec of the server for callers outside the cluster. -/
def lbLeaf (config : InstallConfig) : Spec :=
  leafSpec oneDay [.serverAuth] [config.apiAddress] [] oneDay_pos (apiAddress_ne config)

private theorem apiserverSpec_eq (parents : Parents ε) : apiserverSpec parents =
    parents.installConfig >>= fun found => found.serviceAddress.map (apiserverLeaf found) := by
  refine congrArg (parents.installConfig >>= ·) (funext fun found => ?_)
  cases found.serviceAddress with
  | error failure => rfl
  | ok address => exact congrArg ofFault (check_leafDraft _ _ tenYears_pos _)

private theorem serviceNetworkServerSpec_eq (parents : Parents ε) : serviceNetworkServerSpec parents =
    parents.installConfig >>= fun found => found.serviceAddress.map (serviceNetworkLeaf found) := by
  refine congrArg (parents.installConfig >>= ·) (funext fun found => ?_)
  cases found.serviceAddress with
  | error failure => rfl
  | ok address =>
    have passes : (leafDraft oneDay [.serverAuth] serviceNames [address]).check =
        .ok (serviceNetworkLeaf found address) := check_leafDraft _ _ _ _
    exact congrArg ofFault passes

private theorem lbServerSpec_eq (parents : Parents ε) : lbServerSpec parents =
    parents.installConfig >>= fun found => .ok (lbLeaf found) :=
  congrArg _ (funext fun _ => congrArg ofFault (check_leafDraft _ _ oneDay_pos _))

/-- Settings with a service network. -/
def networked : InstallConfig :=
  ⟨some ⟨.v4 0, 0, by decide, by decide⟩, "api", by decide⟩

/-- A spec that is made with an address of the service network. -/
private theorem answers_addressed {compute : Parents ε → Except Failure Spec}
    {make : InstallConfig → Address → Spec} {validity : Duration} {condition : Prop}
    (computes : ∀ parents, compute parents =
      parents.installConfig >>= fun found => found.serviceAddress.map (make found))
    (lasts : ∀ found address, (make found address).validity = validity)
    (issuable : ∀ address now, (make config address).Issuable now ↔ now.Admits validity ∧ condition) :
    Answers config [installConfigKey] (.computed compute) validity
      ((∃ network, config.serviceNetwork = some network ∧ 2 ≤ network.size) ∧ condition) := by
  have ofMap {found : InstallConfig} {spec : Spec}
      (made : found.serviceAddress.map (make found) = .ok spec) :
      ∃ address, found.serviceAddress = .ok address ∧ spec = make found address := by
    cases given : found.serviceAddress with
    | error fault =>
      rw [given] at made
      cases made
    | ok address =>
      rw [given] at made
      exact ⟨address, rfl, (Except.ok.inj made).symm⟩
  refine answers_computed computes ?_ ?_ ?_ fun now => ?_
  · intro found spec made
    obtain ⟨address, -, rfl⟩ := ofMap made
    exact lasts found address
  · obtain ⟨address, given⟩ : ∃ address, networked.serviceAddress = .ok address :=
      exists_serviceAddress_ok_iff.mpr ⟨_, rfl, by decide⟩
    exact ⟨networked, make networked address, by rw [given]; rfl⟩
  · intro failure failed
    cases given : config.serviceAddress with
    | error raised =>
      rw [given] at failed
      cases failed
      exact notMissing_of_serviceAddress given
    | ok address =>
      rw [given] at failed
      cases failed
  · rw [← exists_serviceAddress_ok_iff]
    constructor
    · rintro ⟨spec, made, isIssuable⟩
      obtain ⟨address, given, rfl⟩ := ofMap made
      obtain ⟨admits, holds⟩ := (issuable address now).mp isIssuable
      exact ⟨admits, ⟨address, given⟩, holds⟩
    · rintro ⟨admits, ⟨address, given⟩, holds⟩
      exact ⟨make config address, by rw [given]; rfl, (issuable address now).mpr ⟨admits, holds⟩⟩

theorem apiserver_answers :
    Answers config [installConfigKey] (.computed apiserverSpec : SpecSource ε) tenYears
      (Suits config apiserver) := by
  have ascii : ∀ name ∈ serviceNames ++ ["localhost"], ∀ c ∈ name.toList, c.toNat < 128 :=
    ascii_of_all (by decide)
  rw [suits_apiserver_iff]
  refine answers_addressed apiserverSpec_eq (fun _ _ => rfl) fun address now => ?_
  rw [apiserverLeaf, leafSpec_issuable_iff, List.cons_append, List.forall_mem_cons,
    and_iff_left ascii]

theorem serviceNetworkServer_answers :
    Answers config [installConfigKey] (.computed serviceNetworkServerSpec : SpecSource ε) oneDay
      (Suits config serviceNetworkServer) := by
  have ascii : ∀ name ∈ serviceNames, ∀ c ∈ name.toList, c.toNat < 128 := ascii_of_all (by decide)
  rw [suits_serviceNetworkServer_iff, ← and_iff_left (a := ∃ network, _) ascii]
  refine answers_addressed serviceNetworkServerSpec_eq (fun _ _ => rfl) fun address now => ?_
  rw [serviceNetworkLeaf, leafSpec_issuable_iff]

theorem lbServer_answers :
    Answers config [installConfigKey] (.computed lbServerSpec : SpecSource ε) oneDay
      (Suits config lbServer) := by
  rw [suits_lbServer_iff]
  refine answers_computed lbServerSpec_eq ?_ ⟨networked, _, rfl⟩ nofun fun now => ?_
  · rintro found _ ⟨rfl⟩
    rfl
  · constructor
    · rintro ⟨_, ⟨rfl⟩, isIssuable⟩
      obtain ⟨admits, ascii⟩ := leafSpec_issuable_iff.mp isIssuable
      exact ⟨admits, ascii _ List.mem_cons_self⟩
    · rintro ⟨admits, ascii⟩
      exact ⟨_, rfl, leafSpec_issuable_iff.mpr ⟨admits, List.forall_mem_singleton.mpr ascii⟩⟩

end CertGraph.Cluster
