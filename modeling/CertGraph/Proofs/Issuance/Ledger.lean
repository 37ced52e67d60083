import CertGraph.Proofs.Issuance.Issuable
import CertGraph.Proofs.Resolution.Products

/- Who signs for whom, over any sequence of calls that make specs and issue pairs. -/
set_option autoImplicit false
set_option relaxedAutoImplicit false

namespace CertGraph

variable {σ : Type}

namespace Extension

/-- The flags of an extension whose value is a string of bits. -/
def flags? (extension : Extension) : Option Der.Bits :=
  Der.element? extension.value >>= Der.bitsOf?

/-- The flags that are written are those of the set. -/
theorem flags?_keyUsage (usages : KeyUsages) :
    ∃ bits, (keyUsage usages).flags? = some bits ∧
      ∀ usage : KeyUsage, bits.has usage.index = usages.has usage := by
  have all : ∀ set : BitVec 7,
      (keyUsage ⟨set⟩).flags?.map (fun bits => KeyUsage.all.map fun usage => bits.has usage.index) =
        some (KeyUsage.all.map (KeyUsages.has ⟨set⟩)) := by decide +kernel
  obtain ⟨bits, read, same⟩ := Option.map_eq_some_iff.mp (all usages.bits)
  refine ⟨bits, read, fun usage => ?_⟩
  have member : usage ∈ KeyUsage.all := by cases usage <;> decide
  exact List.map_inj_left.mp same usage member

end Extension

/-- A certificate says of its subject, in critical extensions, that it is an authority and that its
key may sign certificates. -/
structure Certificate.MaySign (certificate : Certificate) : Prop where
  isAuthority : certificate.isAuthority? = some true
  constraints : ∃ extension, certificate.extension? Oid.basicConstraints = some extension ∧
    extension.critical = true
  usage : ∃ extension bits, certificate.extension? Oid.keyUsage = some extension ∧
    extension.critical = true ∧ extension.flags? = some bits ∧
    bits.has KeyUsage.certSign.index = true

namespace Certificate.MadeFor

variable {spec : Spec} {key : Rsa.PublicKey} {certificate : Certificate}

private theorem maySign (made : certificate.MadeFor spec key) (isAuthority : spec.isAuthority = true) :
    certificate.MaySign := by
  have signs : spec.usages.has .certSign = true := spec.authority_signs isAuthority
  have used : spec.usages ≠ KeyUsages.none := by
    intro none
    rw [none] at signs
    revert signs
    decide
  obtain ⟨bits, read, same⟩ := Extension.flags?_keyUsage spec.usages
  refine ⟨by rw [made.isAuthority?_eq, isAuthority], ?_, ?_⟩
  · exact ⟨_, made.extension?_of_isOf .basicConstraints, rfl⟩
  · exact ⟨_, bits, made.extension?_of_isOf (.keyUsage used), rfl, read,
      (same .certSign).trans signs⟩

end Certificate.MadeFor

section Issuing

variable {workshop after : Workshop σ}

/-- What a self-signed authority is: its spec is that of an authority, its certificate is made for its
key, and signed with it in its own name. -/
theorem issueSelfSigned_signedAs {spec : Spec} {baseName : String} {keySize : KeySize}
    {authority : Authority}
    (issued : outcome (issueSelfSigned spec baseName keySize) workshop = (.ok authority, after)) :
    spec.isAuthority = true ∧
      authority.pair.certificate.MadeFor spec authority.pair.key.publicKey ∧
      authority.pair.certificate.SignedAs authority.pair.certificate.body.subject
        authority.pair.key := by
  obtain ⟨isAuthority, key, certificate, first, second, -, built, -, same⟩ :=
    issueSelfSigned_built issued
  rw [same]
  exact ⟨isAuthority, Certificate.buildSelfSigned_madeFor built,
    (Certificate.buildSelfSigned_made built).1.signedAs⟩

/-- What a signed pair is: an authority exactly if its spec is that of one, with a certificate that is
made for its key, and signed with that of the issuer in the issuer's name. -/
theorem issueWith_signedAs {spec : Spec} {issuer : Authority} {baseName : String}
    {policy : ChainPolicy} {keySize : KeySize} {made : Issued}
    (issued : outcome (issueWith spec issuer baseName policy keySize) workshop =
      (.ok made, after)) :
    made.authority?.isSome = spec.isAuthority ∧
      made.pair.certificate.MadeFor spec made.pair.key.publicKey ∧
      made.pair.certificate.SignedAs issuer.pair.certificate.body.subject issuer.pair.key := by
  obtain ⟨kind, key, certificate, first, second, -, built, -, -, same⟩ := issueWith_built issued
  rw [same]
  exact ⟨kind, Certificate.buildSigned_madeFor built, (Certificate.buildSigned_made built).1.signedAs⟩

/-- An issuer has to be an authority. -/
theorem issueSigned_ok {spec : Spec} {issuer : Issued} {baseName : String} {policy : ChainPolicy}
    {keySize : KeySize} {made : Issued}
    (issued : outcome (issueSigned spec issuer baseName policy keySize) workshop =
      (.ok made, after)) :
    ∃ authority, issuer = .authority authority ∧
      outcome (issueWith spec authority baseName policy keySize) workshop = (.ok made, after) := by
  cases issuer with
  | leaf pair => cases issued
  | authority holder => exact ⟨holder, rfl, issued⟩

/-- A pair that is no authority is refused as an issuer, and nothing else happens. -/
theorem issueSigned_refused {issuer : Issued} (leaf : issuer.authority? = none) (spec : Spec)
    (baseName : String) (policy : ChainPolicy) (keySize : KeySize) (workshop : Workshop σ) :
    outcome (issueSigned spec issuer baseName policy keySize) workshop =
      (.error (.configuration (.issuerNotAuthority baseName)), workshop) := by
  cases issuer with
  | leaf pair => rfl
  | authority holder => cases leaf

end Issuing

namespace Ledger

/-- A pair that was issued, the spec it was issued from, and the place of its issuer. -/
structure Entry where
  issued : Issued
  spec : Spec
  issuer : Nat

/-- The certificate of an entry. -/
def Entry.certificate (entry : Entry) : Certificate :=
  entry.issued.pair.certificate

/-- A call that makes a spec or issues a pair, or a change of the clock between two calls. Specs made
before and pairs issued before are meant by their places. -/
inductive Call where
  | setClock (now : Time.Instant)
  | specify (draft : SpecDraft)
  | selfSign (spec : Nat) (baseName : String) (keySize : KeySize)
  | sign (spec issuer : Nat) (baseName : String) (policy : ChainPolicy) (keySize : KeySize)

end Ledger

/-- The specs made and the pairs issued so far, in order. -/
structure Ledger (σ : Type) where
  workshop : Workshop σ
  specs : List Spec
  entries : List Ledger.Entry

namespace Ledger

/-- Nothing made yet. -/
def opened (workshop : Workshop σ) : Ledger σ :=
  ⟨workshop, [], []⟩

/-- The ledger after a pair was to be issued; one that was is entered. -/
def enter (ledger : Ledger σ) (spec : Spec) (issuer : Nat) :
    Except Failure Issued × Workshop σ → Ledger σ
  | (.ok issued, workshop) =>
    { ledger with workshop, entries := ledger.entries ++ [⟨issued, spec, issuer⟩] }
  | (.error _, workshop) => { ledger with workshop }

/-- The ledger after a call, whatever came of it. There is no call that means a place where nothing
is. A self-signed authority is its own issuer. -/
def perform (ledger : Ledger σ) : Call → Ledger σ
  | .setClock now =>
    { ledger with workshop.supply.now := now }
  | .specify draft =>
    match draft.check with
    | .ok spec => { ledger with specs := ledger.specs ++ [spec] }
    | .error _ => ledger
  | .selfSign spec baseName keySize =>
    match ledger.specs[spec]? with
    | some spec => ledger.enter spec ledger.entries.length <|
        outcome (do return .authority (← issueSelfSigned spec baseName keySize)) ledger.workshop
    | none => ledger
  | .sign spec issuer baseName policy keySize =>
    match ledger.specs[spec]?, ledger.entries[issuer]? with
    | some spec, some offered => ledger.enter spec issuer <|
        outcome (issueSigned spec offered.issued baseName policy keySize) ledger.workshop
    | _, _ => ledger

/-- The ledger after a row of calls. -/
def run (ledger : Ledger σ) (calls : List Call) : Ledger σ :=
  calls.foldl perform ledger

private theorem run_append (ledger : Ledger σ) (calls later : List Call) :
    ledger.run (calls ++ later) = (ledger.run calls).run later :=
  List.foldl_append

private theorem getElem?_of_prefix {entries more : List Entry} (grown : entries <+: more) {place : Nat}
    {entry : Entry} (known : entries[place]? = some entry) : more[place]? = some entry := by
  obtain ⟨inside, rfl⟩ := List.getElem?_eq_some_iff.mp known
  exact List.prefix_iff_getElem?.mp grown place inside

private theorem concat_cases {entries : List Entry} {last entry : Entry} {place : Nat}
    (known : (entries ++ [last])[place]? = some entry) :
    entries[place]? = some entry ∨ entries.length = place ∧ last = entry := by
  rcases Nat.lt_or_ge place entries.length with before | behind
  · exact .inl (List.getElem?_append_left before ▸ known)
  · rw [List.getElem?_append_right behind] at known
    obtain ⟨first, same⟩ := List.getElem?_eq_some_iff.mp known
    have here : entries.length = place := by
      rw [List.length_singleton] at first
      omega
    exact .inr ⟨here, by simpa using same⟩

/-- An entry is what its spec describes, and was signed with an authority entered no later than
itself. -/
structure Backed (entries : List Entry) (place : Nat) (entry : Entry) : Prop where
  kind : entry.issued.authority?.isSome = entry.spec.isAuthority
  made : entry.certificate.MadeFor entry.spec entry.issued.pair.key.publicKey
  signed : ∃ issuer, entries[entry.issuer]? = some issuer ∧ entry.issuer ≤ place ∧
    issuer.issued.authority?.isSome = true ∧
    entry.certificate.SignedAs issuer.certificate.body.subject issuer.issued.pair.key

theorem Backed.mono {entries more : List Entry} {place : Nat} {entry : Entry}
    (backed : Backed entries place entry) (grown : entries <+: more) :
    Backed more place entry := by
  obtain ⟨issuer, known, rest⟩ := backed.signed
  exact ⟨backed.kind, backed.made, issuer, getElem?_of_prefix grown known, rest⟩

private theorem enter_cases (ledger : Ledger σ) (spec : Spec) (issuer : Nat)
    (ended : Except Failure Issued × Workshop σ) :
    (ledger.enter spec issuer ended).entries = ledger.entries ∨
      ∃ issued, ended.1 = .ok issued ∧
        (ledger.enter spec issuer ended).entries = ledger.entries ++ [⟨issued, spec, issuer⟩] := by
  rcases ended with ⟨failure | issued, workshop⟩
  · exact .inl rfl
  · exact .inr ⟨issued, rfl, rfl⟩

/-- A call enters either nothing, or one pair, backed by what was entered before and by itself. -/
theorem perform_cases (ledger : Ledger σ) (call : Call) :
    (ledger.perform call).entries = ledger.entries ∨
      ∃ entry, (ledger.perform call).entries = ledger.entries ++ [entry] ∧
        Backed (ledger.entries ++ [entry]) ledger.entries.length entry := by
  cases call with
  | setClock now => exact .inl rfl
  | specify draft =>
    left
    simp only [perform]
    split <;> rfl
  | selfSign place baseName keySize =>
    simp only [perform]
    split
    · rename_i spec _
      refine (ledger.enter_cases spec ledger.entries.length _).imp id ?_
      rintro ⟨issued, ended, entered⟩
      refine ⟨_, entered, ?_⟩
      obtain ⟨holder, _, issuedSo, rest⟩ := outcome_bind_ok (Prod.ext ended rfl)
      cases rest
      -- the place that it names as its issuer's is the one at which it is entered
      obtain ⟨isAuthority, made, signed⟩ := issueSelfSigned_signedAs issuedSo
      refine ⟨isAuthority.symm, made, _, List.getElem?_concat_length, le_rfl, rfl, signed⟩
    · exact .inl rfl
  | sign place issuer baseName policy keySize =>
    simp only [perform]
    split
    · rename_i spec offered _ known
      refine (ledger.enter_cases spec issuer _).imp id ?_
      rintro ⟨issued, ended, entered⟩
      refine ⟨_, entered, ?_⟩
      obtain ⟨holder, isHolder, issuedSo⟩ := issueSigned_ok (Prod.ext ended rfl)
      obtain ⟨kind, made, signed⟩ := issueWith_signedAs issuedSo
      have inside : issuer < ledger.entries.length := (List.getElem?_eq_some_iff.mp known).1
      have found : (ledger.entries ++ [⟨issued, spec, issuer⟩])[issuer]? = some offered :=
        getElem?_of_prefix (List.prefix_append _ _) known
      have isAuthority : offered.issued.authority?.isSome = true := by rw [isHolder]; rfl
      have same : offered.issued.pair = holder.pair := by rw [isHolder]; rfl
      refine ⟨kind, made, offered, found, inside.le, isAuthority, ?_⟩
      rw [Entry.certificate, same]
      exact signed
    · exact .inl rfl

private theorem perform_grown (ledger : Ledger σ) (call : Call) :
    ledger.entries <+: (ledger.perform call).entries := by
  rcases ledger.perform_cases call with same | ⟨entry, entered, -⟩
  · rw [same]
  · exact ⟨[entry], entered.symm⟩

private theorem run_grown (ledger : Ledger σ) (calls : List Call) :
    ledger.entries <+: (ledger.run calls).entries := by
  induction calls generalizing ledger with
  | nil => exact List.prefix_rfl
  | cons call calls ih => exact (ledger.perform_grown call).trans (ih (ledger.perform call))

/-- All entries are backed. -/
def Sound (ledger : Ledger σ) : Prop :=
  ∀ place entry, ledger.entries[place]? = some entry → Backed ledger.entries place entry

private theorem Sound.perform {ledger : Ledger σ} (sound : ledger.Sound) (call : Call) :
    (ledger.perform call).Sound := by
  intro place entry known
  rcases ledger.perform_cases call with same | ⟨last, entered, backed⟩
  · rw [same] at known ⊢
    exact sound place entry known
  · rw [entered] at known ⊢
    rcases concat_cases known with old | ⟨rfl, rfl⟩
    · exact (sound place entry old).mono (List.prefix_append _ _)
    · exact backed

private theorem Sound.run {ledger : Ledger σ} (sound : ledger.Sound) (calls : List Call) :
    (ledger.run calls).Sound := by
  induction calls generalizing ledger with
  | nil => exact sound
  | cons call calls ih => exact ih (sound.perform call)

theorem run_sound (workshop : Workshop σ) (calls : List Call) :
    ((opened workshop).run calls).Sound :=
  Sound.run (fun _ _ known => by simp [opened] at known) calls

/-- Every certificate that is ever issued was signed with one that was issued no later, and which says
in critical extensions that its subject is an authority and its key may sign certificates. A pair whose
spec is not that of an authority is none, and its certificate says so; whatever is called later, it
signs nothing, and every call with it as the issuer is refused and leaves the workshop as it is. -/
theorem run_signs_by_authorities (workshop : Workshop σ) (calls : List Call) (place : Nat)
    (entry : Entry) (known : ((opened workshop).run calls).entries[place]? = some entry) :
    (∃ issuer, ((opened workshop).run calls).entries[entry.issuer]? = some issuer ∧
      entry.issuer ≤ place ∧
      entry.certificate.SignedAs issuer.certificate.body.subject issuer.issued.pair.key ∧
      issuer.certificate.MaySign) ∧
    (entry.spec.isAuthority = false →
      entry.certificate.isAuthority? = some false ∧ entry.issued.authority? = none ∧
      (∀ later, ((opened workshop).run (calls ++ later)).entries[place]? = some entry ∧
        ∀ other ∈ ((opened workshop).run (calls ++ later)).entries, other.issuer ≠ place) ∧
      ∀ (spec : Spec) (baseName : String) (policy : ChainPolicy) (keySize : KeySize)
        (workshop : Workshop σ),
        outcome (issueSigned spec entry.issued baseName policy keySize) workshop =
          (.error (.configuration (.issuerNotAuthority baseName)), workshop)) := by
  have sound := run_sound workshop calls
  have backed := sound place entry known
  refine ⟨?_, fun leaf => ?_⟩
  · obtain ⟨issuer, found, before, isAuthority, signed⟩ := backed.signed
    have issuerBacked := sound entry.issuer issuer found
    have fromAuthority : issuer.spec.isAuthority = true := issuerBacked.kind.symm.trans isAuthority
    exact ⟨issuer, found, before, signed, issuerBacked.made.maySign fromAuthority⟩
  · have none : entry.issued.authority? = none :=
      Option.isNone_iff_eq_none.mp (by rw [← Option.not_isSome, backed.kind, leaf]; rfl)
    refine ⟨by rw [backed.made.isAuthority?_eq, leaf], none, fun later => ?_, ?_⟩
    · have kept : ((opened workshop).run (calls ++ later)).entries[place]? = some entry := by
        rw [run_append]
        exact getElem?_of_prefix (run_grown _ later) known
      -- whoever named this place as its issuer's would be backed by an authority here
      refine ⟨kept, fun other member same => ?_⟩
      obtain ⟨position, inside, rfl⟩ := List.getElem_of_mem member
      obtain ⟨issuer, found, -, isAuthority, -⟩ :=
        (run_sound workshop (calls ++ later) position _ (List.getElem?_eq_getElem inside)).signed
      rw [same, kept, Option.some.injEq] at found
      rw [← found, none] at isAuthority
      cases isAuthority
    · exact issueSigned_refused none

open Resolution (mersenneWorkshop)

/-- A root and, a day later, a server that it signs; then the server is to sign another one. -/
def rogueCalls : List Call :=
  [.specify (Cluster.signerDraft "root" Cluster.oneYear "unit"),
   .specify (Cluster.leafDraft Cluster.oneDay [.serverAuth] ["localhost"] []),
   .selfSign 0 "root" (some 1128),
   .setClock ⟨63000000000000000 + Cluster.oneDay.micros.toNat⟩,
   .sign 1 0 "server" .appendParent (some 1800),
   .sign 1 1 "rogue" .doNotAppendParent (some 1800)]

/-- The server was signed by the root, and signs nothing, whatever is called later. -/
theorem rogue_signs_by_authorities :
    ((opened mersenneWorkshop).run rogueCalls).entries.length = 2 ∧
    ∃ server, ((opened mersenneWorkshop).run rogueCalls).entries[1]? = some server ∧
      server.spec.isAuthority = false ∧
      (∃ issuer, ((opened mersenneWorkshop).run rogueCalls).entries[server.issuer]? = some issuer ∧
        issuer.certificate.MaySign) ∧
      server.issued.authority? = none ∧
      ∀ later, ∀ other ∈ ((opened mersenneWorkshop).run (rogueCalls ++ later)).entries,
        other.issuer ≠ 1 := by
  have kinds : ((opened mersenneWorkshop).run rogueCalls).entries.map
      (fun entry => entry.spec.isAuthority) = [true, false] := by decide +kernel
  have count := congrArg List.length kinds
  rw [List.length_map] at count
  refine ⟨count, ?_⟩
  obtain ⟨server, known, leaf⟩ : ∃ server,
      ((opened mersenneWorkshop).run rogueCalls).entries[1]? = some server ∧
        server.spec.isAuthority = false := by
    have second := congrArg (·[1]?) kinds
    simpa using second
  obtain ⟨⟨issuer, found, -, -, maySign⟩, whenLeaf⟩ :=
    run_signs_by_authorities mersenneWorkshop rogueCalls 1 server known
  obtain ⟨-, none, never, -⟩ := whenLeaf leaf
  exact ⟨server, known, leaf, ⟨issuer, found, maySign⟩, none, fun later => (never later).2⟩

end Ledger

end CertGraph
