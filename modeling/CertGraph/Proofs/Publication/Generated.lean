import CertGraph.Proofs.Issuance.Readable
import CertGraph.Proofs.Publication.Published
import CertGraph.Proofs.Publication.Targets
import CertGraph.Proofs.Resolution.Products
import CertGraph.Proofs.Serial

/- Generating targets: what is published when that succeeds is the closure of the targets, and the
serial numbers are those of the certificates in the files. -/
set_option autoImplicit false
set_option relaxedAutoImplicit false

namespace CertGraph

open FileTree (WellFormed goal)
open Relation (ReflTransGen)

variable {σ ε : Type}

namespace Asset

/-- The name of the files of an asset that holds a certificate. -/
def baseName? : Asset σ ε → Option String
  | .selfSigned declared => some declared.baseName
  | .signed declared => some declared.baseName
  | _ => none

/-- What is generated of an asset that holds a certificate. -/
theorem Yields.certified {asset : Asset σ ε} {product : Product ε} (yields : asset.Yields product)
    {baseName : String} (named : asset.baseName? = some baseName) :
    ∃ pair : Pair, pair.Readable ∧ pair.baseName = baseName ∧
      product.certificate? = some pair.certificate ∧ product.files? = some pair.files := by
  obtain ⟨parents, workshop, after, ended⟩ := yields
  rw [Work.outcome_eq] at ended
  cases asset with
  | installConfig config => cases named
  | selfSigned declared =>
    cases named
    obtain ⟨spec, first, -, ended⟩ := outcome_bind_ok ended
    obtain ⟨holder, second, issued, ended⟩ := outcome_bind_ok ended
    cases ended
    obtain ⟨readable, kept⟩ := issueSelfSigned_readable issued
    exact ⟨holder.pair, readable, kept, rfl, rfl⟩
  | signed declared =>
    cases named
    obtain ⟨issuer, first, -, ended⟩ := outcome_bind_ok ended
    obtain ⟨spec, second, -, ended⟩ := outcome_bind_ok ended
    obtain ⟨made, third, issued, ended⟩ := outcome_bind_ok ended
    cases ended
    obtain ⟨readable, kept⟩ := issueWith_readable issued
    exact ⟨made.pair, readable, kept, rfl, rfl⟩
  | bundle declared => cases named
  | custom declared => cases named

private theorem Yields.uncertified {asset : Asset σ ε} {product : Product ε}
    (yields : asset.Yields product) (unnamed : asset.baseName? = none) :
    product.certificate? = none := by
  obtain ⟨parents, workshop, after, ended⟩ := yields
  rw [Work.outcome_eq] at ended
  cases asset with
  | installConfig config =>
    cases ended
    rfl
  | selfSigned declared => cases unnamed
  | signed declared => cases unnamed
  | bundle declared =>
    obtain ⟨members, first, -, ended⟩ := outcome_bind_ok ended
    obtain ⟨bundle, second, -, ended⟩ := outcome_bind_ok ended
    cases ended
    rfl
  | custom declared =>
    obtain ⟨⟨files, artifact⟩, first, -, ended⟩ := outcome_bind_ok ended
    cases ended
    rfl

end Asset

/-- An asset that is recorded: made by the factory of its key, and holding what it has generated. -/
structure Executor.Records (catalog : Catalog σ ε) (executor : Executor ε) (key : String)
    (asset : Asset σ ε) (product : Product ε) : Prop where
  recorded : executor.parents.get? key = some (asset.holding product)
  makes : catalog.Makes key asset
  yields : asset.Yields product

namespace Publication

private theorem keys_serialsOf_sublist (parents : Parents ε) (keys : List String) :
    ((serialsOf parents keys).map Prod.fst).Sublist keys := by
  induction keys with
  | nil => exact List.Sublist.refl []
  | cons key keys ih =>
    rw [serialsOf, List.flatMap_cons, List.map_append]
    dsimp only
    rcases ((parents.get? key).map Node.product).bind Product.files? with _ | files
    · exact ih.cons key
    · rcases ((parents.get? key).map Node.product).bind Product.certificate? with _ | certificate
      · exact ih.cons key
      · exact ih.cons_cons key

private theorem mem_serialsOf {parents : Parents ε} {keys : List String} {key text : String} :
    (key, text) ∈ serialsOf parents keys ↔ key ∈ keys ∧ ∃ node files certificate,
      parents.get? key = some node ∧ node.product.files? = some files ∧
        node.product.certificate? = some certificate ∧ text = certificate.serialText := by
  rw [serialsOf, List.mem_flatMap]
  constructor
  · rintro ⟨other, member, listed⟩
    dsimp only at listed
    rcases known : parents.get? other with _ | node
    · rw [known] at listed
      cases listed
    · rw [known] at listed
      dsimp only [Option.map_some, Option.bind_some] at listed
      rcases files : node.product.files? with _ | some_files
      · rw [files] at listed
        cases listed
      · rcases certificate : node.product.certificate? with _ | some_certificate
        · rw [files, certificate] at listed
          cases listed
        · rw [files, certificate] at listed
          obtain ⟨rfl, rfl⟩ := Prod.mk.inj (List.mem_singleton.mp listed)
          exact ⟨member, node, some_files, some_certificate, known, files, certificate, rfl⟩
  · rintro ⟨member, node, files, certificate, known, hasFiles, hasCertificate, rfl⟩
    refine ⟨key, member, ?_⟩
    simp only [known, Option.map_some, Option.bind_some, hasFiles, hasCertificate,
      Option.toList_some]
    exact List.mem_singleton.mpr rfl

/-- What the list of serial numbers says: the assets that hold certificates stand there and no
others, in the order of generation, each with the serial number of the first certificate in its
published file. -/
structure Numbers (catalog : Catalog σ ε) (executor : Executor ε) (directory : Path)
    (after : FileTree) (serials : List (String × String)) : Prop where
  keys : (serials.map Prod.fst).Sublist executor.generated
  certified : ∀ key asset product baseName, executor.Records catalog key asset product →
    asset.baseName? = some baseName → ∃ text serial data certificate, (key, text) ∈ serials ∧
      Serial.read? text = some serial ∧
      after.status (directory.child (baseName ++ ".crt")) = .ok (.file sharedMode data) ∧
      Certificate.ofPem data = .ok certificate ∧ certificate.body.serial = serial
  others : ∀ key asset product, executor.Records catalog key asset product →
    asset.baseName? = none → key ∉ serials.map Prod.fst

private theorem Publishes.numbers {catalog : Catalog σ ε} {executor : Executor ε} {outputDir : Path}
    {tlsDir : String} {tree after : FileTree} {publication : Publication}
    (orderly : executor.Orderly)
    (publishes : Publishes (filesOf executor.parents executor.generated) outputDir tlsDir tree
      publication after) :
    Numbers catalog executor (outputDir.child tlsDir) after
      (serialsOf executor.parents executor.generated) := by
  refine ⟨keys_serialsOf_sublist _ _, ?_, ?_⟩
  · intro key asset product baseName records named
    obtain ⟨pair, readable, kept, certificate, files⟩ := records.yields.certified named
    obtain ⟨serial, numbered⟩ := readable.serial
    have generated : key ∈ executor.generated :=
      orderly.mem_generated_iff.mpr ⟨_, records.recorded⟩
    have inFiles : ⟨pair.certFilename, pair.certPem, sharedMode, sharedMode_lt⟩ ∈
        filesOf executor.parents executor.generated := by
      refine List.mem_flatMap.mpr ⟨key, generated, ?_⟩
      rw [records.recorded, Option.map_some, Option.bind_some]
      have holds : (asset.holding product).product.files? = some pair.files := files
      rw [holds]
      exact List.mem_cons_of_mem _ List.mem_cons_self
    have reached := publishes.reached _ inFiles
    refine ⟨pair.certificate.serialText, serial, pair.certPem, pair.certificate,
      mem_serialsOf.mpr ⟨generated, _, _, _, records.recorded, files, certificate, rfl⟩, ?_, ?_,
      readable.ofPem_certPem, numbered⟩
    · rw [Certificate.serialText, numbered]
      exact Serial.read?_text serial
    · rw [← kept]
      exact reached
  · intro key asset product records unnamed listed
    obtain ⟨⟨other, text⟩, member, rfl⟩ := List.mem_map.mp listed
    obtain ⟨-, node, files, certificate, known, -, holds, -⟩ := mem_serialsOf.mp member
    cases records.recorded.symm.trans known
    cases (records.yields.uncertified unnamed).symm.trans holds

/-- A tree with a file of an earlier run, and keys to take. -/
def earlierSite : Site Unit where
  workshop := Resolution.mersenneWorkshop
  tree := {
    entries := [(["out"], .directory 0o755), (["out", "tls"], .directory 0o755),
      (["out", "tls", "root.crt"], .file 0o600 (Octets.ofText "old"))]
    workingDirectory := []
    umask := 0o022
    history := [] }

end Publication

end CertGraph
