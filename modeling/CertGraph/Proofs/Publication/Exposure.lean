import CertGraph.Proofs.Issuance.Guarded
import CertGraph.Proofs.Publication.Midway
import CertGraph.Proofs.Publication.Leftovers

/- What can be seen of a publication while it is under way: whole files in the final directory, and
private keys for their owner only. -/
set_option autoImplicit false
set_option relaxedAutoImplicit false

namespace CertGraph

open FileTree (Adds Passes OnWay goal spot)

variable {σ ε : Type}

/-- The file of the key of a pair. -/
def Pair.keyFile (pair : Pair) : AssetFile :=
  ⟨pair.keyFilename, pair.key.pem, privateMode, privateMode_lt⟩

namespace Publication

namespace Venue

variable {venue : Venue} {files : List AssetFile} {tree after : FileTree}

/-- Once files are staged where nothing was, those that stand in the private directory are whole. -/
private theorem Midway.ready (midway : venue.Midway files after)
    (inside : tree.at? venue.staging = some venue.privately)
    (empty : ∀ name, tree.at? (venue.staging ++ [name]) = none)
    (stages : Stages venue.staging files tree after) : venue.Ready files after := by
  refine ⟨midway, stages.adds.kept _ _ inside, fun name mode data known => ?_⟩
  by_cases listed : ∃ file ∈ files, name = file.filename
  · obtain ⟨file, member, rfl⟩ := listed
    cases (stages.written file member).symm.trans known
    exact ⟨file, member, rfl, rfl, rfl⟩
  · rw [stages.touches.spared, empty] at known
    · cases known
    · rintro ⟨file, member, same⟩
      exact listed ⟨file, member, (FileTree.concat_inj same).2⟩

end Venue

/-- What a tree in the midst of a publication holds anywhere but in the private directory. -/
private theorem Venue.Midway.outside {venue : Venue} {files : List AssetFile} {state : FileTree}
    (midway : venue.Midway files state) {place : Place} (outside : ¬ venue.staging <+: place) :
    state.at? place = none ∨ state.at? place = venue.first.at? place ∨
      (∃ file ∈ files, place = venue.final ++ [file.filename] ∧
        state.at? place = some (.file file.mode file.data)) ∨
      venue.first.at? place = none ∧ (∃ mode, state.at? place = some (.directory mode)) ∧
        (place = venue.final ∨ LeftOnWay venue.outputDir venue.first state place) := by
  rcases known : state.at? place with _ | entry
  · exact .inl rfl
  refine .inr ?_
  cases midway.stands place entry known with
  | kept old => exact .inl old.symm
  | staged member here => exact absurd (here ▸ List.prefix_append _ _) outside
  | placed member here => exact .inr (.inl ⟨_, member, here, rfl⟩)
  | @made mode new way =>
    refine .inr (.inr ⟨new, ⟨mode, rfl⟩, ?_⟩)
    rcases way with isFinal | isStaging | onWay
    · exact .inl isFinal
    · exact absurd (isStaging ▸ List.prefix_rfl) outside
    · exact .inr ⟨onWay, ⟨mode, known⟩, onWay.prefix_goal⟩

/-- What stands at a place of a tree in the midst of a publication is a file of it: a beginning of its
contents, once it has its permissions, and with no others before. The file of a key is for its owner
only, and as long as it is not in the final directory it is in one made for its owner only, with what is
granted of that. -/
structure Venue.Holds (venue : Venue) (state : FileTree) (place : Place) (mode : Nat) (data : Octets)
    (file : AssetFile) : Prop where
  named : place.getLast? = some file.filename
  contents : data <+: file.data
  settled : data ≠ [] → mode = file.mode
  withheld : ∀ bits, file.mode &&& bits = 0 → mode &&& bits = 0
  keyBits : ∀ pair : Pair, file = pair.keyFile → mode &&& 0o077 = 0
  outside : ¬ venue.final <+: place →
    state.at? place.dropLast = some (.directory (venue.first.granted 0o700))

private theorem Venue.Midway.holds {venue : Venue} {files : List AssetFile} {state : FileTree}
    (midway : venue.Midway files state) {place : Place} {mode : Nat} {data : Octets}
    (known : state.at? place = some (.file mode data)) :
    venue.first.at? place = some (.file mode data) ∨
      ∃ file ∈ files, venue.Holds state place mode data file := by
  have own {mode : Nat} {file : AssetFile}
      (withheld : ∀ bits, file.mode &&& bits = 0 → mode &&& bits = 0) (pair : Pair)
      (isKey : file = pair.keyFile) : mode &&& 0o077 = 0 := by
    have keyBits : privateMode &&& 0o077 = 0 := by decide
    exact withheld _ (isKey ▸ keyBits)
  cases midway.stands place _ known with
  | kept old => exact .inl old
  | @placed file member here =>
    have withheld : ∀ bits, file.mode &&& bits = 0 → file.mode &&& bits = 0 := fun _ => id
    exact .inr ⟨file, member, by simp [here], List.prefix_rfl, fun _ => rfl, withheld, own withheld,
      fun outside => absurd (here ▸ List.prefix_append _ _) outside⟩
  | @staged file _ _ member here inside draft =>
    have withheld : ∀ bits, file.mode &&& bits = 0 → mode &&& bits = 0 := by
      intro bits unasked
      cases draft with
      | created => exact venue.first.granted_and_eq_zero unasked
      | begun leads => exact unasked
    refine .inr ⟨file, member, by simp [here], ?_, ?_, withheld, own withheld, fun _ => ?_⟩
    · cases draft with
      | created => exact List.nil_prefix
      | begun leads => exact leads
    · intro some
      cases draft with
      | created => exact absurd rfl some
      | begun leads => rfl
    · rw [here, List.dropLast_concat]
      exact inside

end Publication

end CertGraph
