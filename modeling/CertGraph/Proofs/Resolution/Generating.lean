import CertGraph.Proofs.Issuance.Issuable
import CertGraph.Proofs.Resolution.Products

/- When assets of the built-in kinds are generated: exactly if what they issue can be issued. -/
set_option autoImplicit false
set_option relaxedAutoImplicit false

namespace CertGraph

open CertGraph.Time (Duration Instant)
open Work (Ends)

variable {σ ε : Type}

/-- A validity that a source can give. -/
def SpecSource.Declares (source : SpecSource ε) (validity : Duration) : Prop :=
  ∃ parents spec, source.read parents = .ok spec ∧ spec.validity = validity

theorem SpecSource.declares_fixed_iff {spec : Spec} {validity : Duration} :
    (SpecSource.fixed spec : SpecSource ε).Declares validity ↔ validity = spec.validity := by
  constructor
  · rintro ⟨parents, _, ⟨rfl⟩, rfl⟩
    rfl
  · rintro rfl
    exact ⟨.empty, spec, rfl, rfl⟩

namespace Parents

variable {parents more : Parents ε} {key : String}

private theorem authorityOf_congr (same : parents.get? key = more.get? key) :
    parents.authorityOf key = more.authorityOf key := by
  simp only [authorityOf, get, same]

private theorem authorities_congr {keys : List String}
    (same : ∀ key ∈ keys, parents.get? key = more.get? key) :
    keys.mapM parents.authorityOf = keys.mapM more.authorityOf := by
  induction keys with
  | nil => rfl
  | cons key keys ih =>
    rw [List.mapM_cons, List.mapM_cons, authorityOf_congr (same key List.mem_cons_self),
      ih fun other member => same other (List.mem_cons_of_mem _ member)]

private theorem exists_authorities_ok {keys : List String}
    (found : ∀ key ∈ keys, ∃ holder, parents.authorityOf key = .ok holder ∧ holder.pair.Sound) :
    ∃ holders, keys.mapM parents.authorityOf = .ok holders ∧ holders.length = keys.length ∧
      ∀ holder ∈ holders, holder.pair.Sound := by
  induction keys with
  | nil => exact ⟨[], rfl, rfl, List.forall_mem_nil _⟩
  | cons key keys ih =>
    obtain ⟨holder, known, sound⟩ := found key List.mem_cons_self
    obtain ⟨holders, read, length, allSound⟩ :=
      ih fun other member => found other (List.mem_cons_of_mem _ member)
    refine ⟨holder :: holders, ?_, congrArg (· + 1) length,
      List.forall_mem_cons.mpr ⟨sound, allSound⟩⟩
    rw [List.mapM_cons, known, read]
    rfl

theorem installConfig_congr (same : parents.get? installConfigKey = more.get? installConfigKey) :
    parents.installConfig = more.installConfig := by
  simp only [installConfig, get, same]

theorem installConfig_ok {node : Node ε} {config : InstallConfig}
    (known : parents.get? installConfigKey = some node) (holds : node.product = .settings config) :
    parents.installConfig = .ok config := by
  simp only [installConfig, get, known, bind, Except.bind, holds]

end Parents

namespace Asset

/-- A validity of the certificates that are made of an asset. -/
def Declares : Asset σ ε → Duration → Prop
  | .selfSigned declared, validity => declared.spec.Declares validity
  | .signed declared, validity => declared.spec.Declares validity
  | _, _ => False

/-- What is generated of an asset is settled by what is recorded under the keys that it depends on. -/
def Local (asset : Asset σ ε) : Prop :=
  ∀ parents more, (∀ key ∈ asset.dependencies, parents.get? key = more.get? key) →
    asset.generate parents = asset.generate more

section

variable {source : Source} {now : Instant} {parents : Parents ε}

theorem generate_selfSigned_ends (reliable : source.Reliable) {declared : SelfSigned ε} {spec : Spec}
    (read : declared.spec.read parents = .ok spec) :
    Ends source now
      (spec.isAuthority = true ∧ (∃ bits, declared.keySize = some bits ∧ 1024 ≤ bits) ∧
        spec.Issuable now)
      (fun product => ∃ holder : Authority, product = .authority (some holder) ∧ holder.pair.Sound)
      ((Asset.selfSigned declared : Asset σ ε).generate parents) := by
  refine .bind_known read ?_
  refine .bind (issueSelfSigned_ends reliable spec declared.baseName declared.keySize) id
    fun holder holds sound => ?_
  exact .pure holds ⟨holder, rfl, sound⟩

theorem generate_signed_ends (reliable : source.Reliable) {declared : Signed ε} {issuer : Authority}
    (found : parents.authorityOf declared.issuer = .ok issuer) (sound : issuer.pair.Sound)
    (notMissing : ∀ failure, declared.spec.read parents = .error failure → failure.NotMissing) :
    Ends source now
      ((∃ bits, declared.keySize = some bits ∧ 1024 ≤ bits) ∧
        ∃ spec, declared.spec.read parents = .ok spec ∧ spec.Issuable now)
      (fun _ => True) ((Asset.signed declared : Asset σ ε).generate parents) := by
  refine .bind_known found ?_
  refine .bind (.ofExcept notMissing) (fun ⟨_, spec, read, _⟩ => ⟨spec, read⟩) fun spec _ read => ?_
  refine .bind (issueWith_ends reliable spec sound declared.baseName declared.policy
    declared.keySize) ?_ fun issued holds _ => ?_
  · rintro ⟨large, other, readOther, issuable⟩
    cases read.symm.trans readOther
    exact ⟨large, issuable⟩
  · exact .pure ⟨holds.1, spec, read, holds.2⟩ trivial

theorem generate_bundle_ends {declared : Collected} (nonempty : declared.authorities ≠ [])
    (found : ∀ key ∈ declared.authorities,
      ∃ holder, parents.authorityOf key = .ok holder ∧ holder.pair.Sound) :
    Ends source now True (fun _ => True) ((Asset.bundle declared : Asset σ ε).generate parents) := by
  obtain ⟨holders, read, length, sound⟩ := Parents.exists_authorities_ok found
  refine .bind_known read ?_
  have held : holders ≠ [] := by
    rintro rfl
    exact nonempty (List.length_eq_zero_iff.mp length.symm)
  exact .bind_always (aggregateBundle_ends _ held sound) fun _ _ => .pure trivial trivial

end

theorem local_selfSigned {declared : SelfSigned ε}
    (reads : ∀ parents more, (∀ key ∈ declared.others, parents.get? key = more.get? key) →
      declared.spec.read parents = declared.spec.read more) :
    (Asset.selfSigned declared : Asset σ ε).Local := by
  intro parents more same
  simp only [generate, reads parents more same]

theorem local_signed {declared : Signed ε}
    (reads : ∀ parents more, (∀ key ∈ declared.others, parents.get? key = more.get? key) →
      declared.spec.read parents = declared.spec.read more) :
    (Asset.signed declared : Asset σ ε).Local := by
  intro parents more same
  have issuer : parents.authorityOf declared.issuer = more.authorityOf declared.issuer :=
    Parents.authorityOf_congr (same declared.issuer List.mem_cons_self)
  have others := reads parents more fun key member => same key (List.mem_cons_of_mem _ member)
  simp only [generate, issuer, others]

theorem local_bundle (declared : Collected) : (Asset.bundle declared : Asset σ ε).Local := by
  intro parents more same
  have equal : declared.authorities.mapM parents.authorityOf =
      declared.authorities.mapM more.authorityOf :=
    Parents.authorities_congr same
  simp only [generate, equal]

end Asset

end CertGraph
