import CertGraph.Proofs.Issuance.Failing
import CertGraph.Proofs.Issuance.Reloaded

/- When issuing returns: exactly if a key of the size asked for can be generated and the spec can be
issued, also with issuers that were themselves issued. -/
set_option autoImplicit false
set_option relaxedAutoImplicit false

namespace CertGraph

variable {σ α : Type}

/-- A key as it is generated: of two primes, with exponents that undo each other, and long enough for a
padded digest. -/
structure Rsa.PrivateKey.Fit (key : Rsa.PrivateKey) : Prop where
  primes : key.p.Prime ∧ key.q.Prime ∧ key.p ≠ key.q
  undone : key.secret * key.exponent % Rsa.PrivateKey.period key.p key.q = 1
  long : 62 ≤ key.publicKey.size

theorem Rsa.PrivateKey.Fit.usable {key : Rsa.PrivateKey} (fit : key.Fit) : key.Usable :=
  ⟨wellFormed_of_primes fit.primes.1 fit.primes.2.1 fit.primes.2.2 fit.undone, fit.long⟩

/-- Generation never fails of itself, and gives fit keys. Sizes that are too small are refused
before it starts. -/
def Source.Generates (source : Source) : Prop :=
  ∀ count, ∃ key, source.key count = .ok key ∧ key.Fit

private theorem Source.Generates.reliable {source : Source} (generates : source.Generates) :
    source.Reliable := by
  intro count
  obtain ⟨key, given, fit⟩ := generates count
  exact ⟨key, given, fit.usable⟩

namespace Work

/-- A step returns in a workshop. -/
def Returns (work : Work σ α) (workshop : Workshop σ) : Prop :=
  ∃ value after, CertGraph.outcome work workshop = (.ok value, after)

theorem Ends.returns_iff {source : Source} {now : Time.Instant} {condition : Prop} {good : α → Prop}
    {work : Work σ α} (ends : Ends source now condition good work) {workshop : Workshop σ}
    (supplied : workshop.supply.At source now) : work.Returns workshop ↔ condition := by
  have ended := (ends workshop supplied).2
  rw [Returns]
  rcases outcome : CertGraph.outcome work workshop with ⟨failure | value, after⟩
  · rw [outcome] at ended
    exact ⟨fun ⟨_, _, absurd⟩ => (by cases absurd), fun holds => (ended.1 holds).elim⟩
  · rw [outcome] at ended
    exact ⟨fun _ => ended.1, fun _ => ⟨value, after, rfl⟩⟩

end Work

/-- Authorities that were issued with usable keys can be signed with. -/
theorem Authority.IssuedFrom.sound {source : Source} (reliable : source.Reliable) {holder : Authority}
    (issued : holder.IssuedFrom source) : holder.pair.Sound := by
  obtain ⟨⟨count, given⟩, readable, spec, -, made⟩ := issued.facts
  obtain ⟨key, givenToo, usable⟩ := reliable count
  cases given.symm.trans givenToo
  obtain ⟨others, written⟩ := readable.certPem
  refine ⟨usable, made.certified, made.isText, ?_⟩
  rw [written]
  exact fun empty => holder.pair.certificate.pem_ne_nil (List.append_eq_nil_iff.mp empty).1

/-- Let key generation fail on sizes below 1024 only. A self-signed authority is issued exactly if the
spec is that of one, the size is no smaller, and the spec can be issued at the time of the workshop;
with an authority that was issued before, a pair is signed exactly if the last two hold, and what was
signed is never found not to verify. -/
theorem issuing_returns_iff {source : Source} (generates : source.Generates) (spec : Spec)
    (baseName : String) (keySize : KeySize) (workshop : Workshop σ)
    (supplied : workshop.supply.source = source) :
    ((issueSelfSigned spec baseName keySize).Returns workshop ↔
      spec.isAuthority = true ∧ (∃ bits, keySize = some bits ∧ 1024 ≤ bits) ∧
        spec.Issuable workshop.supply.now) ∧
    ∀ (issuer : Authority) (policy : ChainPolicy), issuer.IssuedFrom source →
      ((issueSigned spec (.authority issuer) baseName policy keySize).Returns workshop ↔
        (∃ bits, keySize = some bits ∧ 1024 ≤ bits) ∧ spec.Issuable workshop.supply.now) ∧
      ∀ failure after, outcome (issueSigned spec (.authority issuer) baseName policy keySize) workshop =
        (.error failure, after) →
          ∀ member signer, failure ≠ .cryptography (.unverified member signer) := by
  have reliable := generates.reliable
  have here : workshop.supply.At source workshop.supply.now := ⟨supplied, rfl⟩
  refine ⟨(issueSelfSigned_ends reliable spec baseName keySize).returns_iff here, ?_⟩
  intro issuer policy issued
  have sound := issued.sound reliable
  refine ⟨(issueWith_ends reliable spec sound baseName policy keySize).returns_iff here, ?_⟩
  intro failure after failed
  exact (issueWith_fails spec issuer baseName policy keySize workshop failure after failed).verified sound

open Resolution (mersenneKey mersenneSource mersenneSource_key mersenneWorkshop)

theorem mersenneSource_generates : mersenneSource.Generates := by
  intro count
  refine ⟨_, rfl, ?_⟩
  have long : 62 ≤ (if count = 0 then mersenneKey 607 521 else mersenneKey 1279 521).publicKey.size := by
    split <;> decide +kernel
  obtain ⟨first, second, same, primeFirst, primeSecond, distinct, undone⟩ :=
    @mersenneSource_key count _ rfl
  rw [same] at long ⊢
  exact ⟨⟨primeFirst, primeSecond, distinct⟩, undone, long⟩

theorem rootSpec_issuable :
    (Cluster.signerSpec "root" Cluster.oneYear "unit" Cluster.oneYear_pos).Issuable
      mersenneWorkshop.supply.now :=
  ⟨by decide +kernel, nofun, by decide +kernel, _, rfl⟩

private theorem localhostServerSpec_issuable :
    Cluster.localhostServerSpec.Issuable mersenneWorkshop.supply.now :=
  ⟨by decide +kernel, ascii_of_all (by decide +kernel), by decide +kernel, _, rfl⟩

/-- A root is issued with a key of 1024 bits, not with one of 1023; with the root that is issued a server
is signed, but not if the size is missing. -/
theorem mersenne_returns :
    let rootSpec := Cluster.signerSpec "root" Cluster.oneYear "unit" Cluster.oneYear_pos
    (issueSelfSigned rootSpec "root" (some 1024)).Returns mersenneWorkshop ∧
    ¬ (issueSelfSigned rootSpec "root" (some 1023)).Returns mersenneWorkshop ∧
    ¬ (issueSelfSigned Cluster.localhostServerSpec "server" (some 1024)).Returns mersenneWorkshop ∧
    ∃ root : Authority, root.IssuedFrom mersenneSource ∧
      (issueSigned Cluster.localhostServerSpec (.authority root) "server" .appendParent
        (some 1024)).Returns mersenneWorkshop ∧
      ¬ (issueSigned Cluster.localhostServerSpec (.authority root) "server" .appendParent
        none).Returns mersenneWorkshop := by
  intro rootSpec
  have ofRoot (keySize : KeySize) := (issuing_returns_iff mersenneSource_generates rootSpec "root"
    keySize mersenneWorkshop rfl).1
  have ofServer (keySize : KeySize) := issuing_returns_iff mersenneSource_generates
    Cluster.localhostServerSpec "server" keySize mersenneWorkshop rfl
  have returned := (ofRoot (some 1024)).mpr ⟨rfl, ⟨1024, rfl, by decide⟩, rootSpec_issuable⟩
  refine ⟨returned, ?_, ?_, ?_⟩
  · intro tooSmall
    obtain ⟨-, ⟨_, ⟨rfl⟩, large⟩, -⟩ := (ofRoot (some 1023)).mp tooSmall
    exact absurd large (by decide)
  · intro leaf
    exact absurd ((ofServer (some 1024)).1.mp leaf).1 (by decide)
  · obtain ⟨root, after, ended⟩ := returned
    have issued : root.IssuedFrom mersenneSource := .selfSigned rfl ended
    refine ⟨root, issued, ?_, ?_⟩
    · exact ((ofServer (some 1024)).2 root .appendParent issued).1.mpr
        ⟨⟨1024, rfl, by decide⟩, localhostServerSpec_issuable⟩
    · intro sizeless
      obtain ⟨⟨_, absent, -⟩, -⟩ := ((ofServer none).2 root .appendParent issued).1.mp sizeless
      cases absent

end CertGraph
