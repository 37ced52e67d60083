import CertGraph.Proofs.Cluster.Kinds
import CertGraph.Proofs.Publication.Generated

/- The files of a cluster are named by the keys of their assets, and so each of their names is one step
of a path. -/
set_option autoImplicit false
set_option relaxedAutoImplicit false

namespace CertGraph.Cluster

variable {σ ε : Type} {config : InstallConfig} {keySize : KeySize}

/-- How the names of files end. -/
def endings : List String :=
  [".key", ".crt"]

private theorem endings_of_pair {pair : Pair} {file : AssetFile} (listed : file ∈ pair.files) :
    ∃ ending ∈ endings, file.filename = pair.baseName ++ ending := by
  rcases List.mem_pair.mp listed with rfl | rfl
  · exact ⟨".key", by decide, rfl⟩
  · exact ⟨".crt", by decide, rfl⟩

/-- Whatever kind an asset is of, the names of its files are its key with an ending. -/
theorem Kind.filename {asset : Asset σ ε} (kind : Kind config keySize asset) {product : Product ε}
    (yields : asset.Yields product) {files : List AssetFile} (kept : product.files? = some files)
    {file : AssetFile} (listed : file ∈ files) :
    ∃ ending ∈ endings, file.filename = asset.key ++ ending := by
  cases kind with
  | settings =>
    obtain ⟨parents, workshop, after, ended⟩ := yields
    cases ended
    cases kept
  | signer =>
    obtain ⟨pair, -, rfl, -, holds⟩ := yields.certified rfl
    cases holds.symm.trans kept
    exact endings_of_pair listed
  | bundle =>
    obtain ⟨parents, workshop, after, ended⟩ := yields
    rw [Work.outcome_eq] at ended
    obtain ⟨members, first, -, ended⟩ := outcome_bind_ok ended
    obtain ⟨bundle, second, made, ended⟩ := outcome_bind_ok ended
    cases ended
    cases kept
    obtain ⟨rfl, -⟩ := aggregateBundle_ok made
    rw [List.mem_singleton.mp listed]
    exact ⟨".crt", by decide, rfl⟩
  | signed =>
    obtain ⟨pair, -, rfl, -, holds⟩ := yields.certified rfl
    cases holds.symm.trans kept
    exact endings_of_pair listed

private theorem isComponent_filename {key ending : String}
    (isKey : key ∈ installConfigKey :: defaultTargets)
    (isEnding : ending ∈ endings) : Path.IsComponent (key ++ ending) := by
  have keys : ∀ key ∈ installConfigKey :: defaultTargets,
      Path.Plain key ∧ 3 ≤ key.toList.length := by decide +kernel
  have plain : ∀ ending ∈ endings, Path.Plain ending := by decide
  refine .of_length ((keys key isKey).1.append (plain ending isEnding)) ?_
  rw [String.toList_append, List.length_append]
  exact Nat.le_add_right_of_le (keys key isKey).2

/-- Once targets are resolved, the names of all files to be kept are steps of a path. -/
theorem components_of_resolved {targets : List String} {site after : Site σ} {executor : Executor ε}
    (resolved : outcome (Publication.resolveTargets (catalog config keySize) targets) site =
      (.ok executor, after)) :
    ∀ file ∈ Publication.filesOf executor.parents executor.generated,
      Path.IsComponent file.filename := by
  obtain ⟨-, made, -, -⟩ := Publication.resolveTargets_ok resolved
  intro file listed
  obtain ⟨key, -, kept⟩ := List.mem_flatMap.mp listed
  rcases known : executor.parents.get? key with _ | node
  · rw [known] at kept
    cases kept
  · obtain ⟨asset, makes, -, yields⟩ := made key node known
    obtain ⟨member, -⟩ := catalog_lists.mem_of_makes makes
    rw [known, Option.map_some, Option.bind_some] at kept
    rcases holds : node.product.files? with _ | files
    · rw [holds] at kept
      cases kept
    · rw [holds] at kept
      obtain ⟨ending, isEnding, named⟩ := (kind_of_mem member).filename yields holds kept
      rw [named]
      exact isComponent_filename (keys_perm.mem_iff.mp (List.mem_map_of_mem member)) isEnding

end CertGraph.Cluster
