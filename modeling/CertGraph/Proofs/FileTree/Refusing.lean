import CertGraph.Proofs.FileTree.Components

/- Steps on paths without a zero character: if they fail, an operation was refused. With one, they fail
at once. -/
set_option autoImplicit false
set_option relaxedAutoImplicit false

namespace CertGraph

namespace Storing

variable {α β : Type}

/-- A step that fails by refusals only. -/
def OnlyRefuses (step : Storing α) : Prop :=
  ∀ tree, (outcome step tree).1 ≠ .error .zeroCharacter

namespace OnlyRefuses

theorem pure (value : α) : OnlyRefuses (pure value) := nofun

private theorem get : OnlyRefuses (get : Storing FileTree) := nofun

private theorem refuse (refusal : FileTree.Refusal) (path : String) :
    OnlyRefuses (refuse refusal path : Storing α) := nofun

private theorem perform (change : Change) : OnlyRefuses (perform change) := nofun

theorem bind {step : Storing α} {next : α → Storing β} (first : OnlyRefuses step)
    (rest : ∀ value, OnlyRefuses (next value)) : OnlyRefuses (step >>= next) := by
  intro tree
  have begun := first tree
  rw [outcome_bind]
  rcases ended : outcome step tree with ⟨fault | value, middle⟩
  · rw [ended] at begun
    rintro ⟨⟩
    exact begun rfl
  · exact rest value middle

private theorem tryCatch {step : Storing α} {handle : StorageFault → Storing α}
    (first : OnlyRefuses step)
    (handled : ∀ refusal path target, OnlyRefuses (handle (.refused refusal path target))) :
    OnlyRefuses (tryCatch step handle) := by
  intro tree
  have begun := first tree
  rw [outcome_tryCatch]
  rcases ended : outcome step tree with ⟨fault | value, middle⟩
  · rw [ended] at begun
    cases fault with
    | refused refusal path target => exact handled refusal path target middle
    | zeroCharacter => exact absurd rfl begun
  · nofun

private theorem checked {path : Path} (clean : path.Clean) : OnlyRefuses (checked path) := by
  intro tree
  rw [outcome_checked, if_pos clean]
  nofun

private theorem looking (shown : String) (look : FileTree → Except FileTree.Refusal α) :
    OnlyRefuses (looking shown look) := by
  intro tree
  rw [outcome_looking]
  rcases look tree with refusal | value <;> nofun

private theorem newPlace (shown : String) {path : Path} (clean : path.Clean) :
    OnlyRefuses (newPlace shown path) := by
  refine (checked clean).bind fun _ => (looking shown _).bind fun named => ?_
  cases named with
  | directory place => exact refuse _ _
  | place place =>
    refine get.bind fun tree => ?_
    split
    · exact refuse _ _
    · exact pure _

private theorem makeDirectoryAs (shown : String) {path : Path} (mode : Nat) (clean : path.Clean) :
    OnlyRefuses (makeDirectoryAs shown path mode) :=
  (newPlace shown clean).bind fun _ => get.bind fun _ => perform _

theorem createFile {path : Path} (data : Octets) (mode : Nat) (clean : path.Clean) :
    OnlyRefuses (createFile path data mode) :=
  (newPlace path.text clean).bind fun _ => get.bind fun _ => (perform _).bind fun _ =>
    (perform _).bind fun _ => perform _

theorem present? {path : Path} (clean : path.Clean) : OnlyRefuses (present? path) := by
  refine (checked clean).bind fun _ => get.bind fun tree => ?_
  split
  · exact pure _
  · exact pure _
  · exact pure _
  · exact refuse _ _

private theorem unlessDirectory (refusal : FileTree.Refusal) {path : Path} (clean : path.Clean) :
    OnlyRefuses (unlessDirectory refusal path) := by
  refine (present? clean).bind fun status? => ?_
  split
  · exact pure _
  · exact refuse _ _

theorem ensureDirectory {path : Path} (clean : path.Clean) :
    OnlyRefuses (ensureDirectory path) := by
  refine (makeDirectoryAs path.text 0o777 clean).tryCatch fun refusal shown target => ?_
  cases refusal with
  | missing => exact refuse _ _
  | «exists» => exact unlessDirectory _ clean
  | notADirectory => exact unlessDirectory _ clean
  | isADirectory => exact unlessDirectory _ clean
  | nameTooLong => exact unlessDirectory _ clean

private theorem ensureAbove (slashes : Nat) {steps : List String}
    (clean : ∀ step ∈ steps, '\x00' ∉ step.toList) : OnlyRefuses (ensureAbove slashes steps) := by
  induction steps with
  | nil => exact ensureDirectory (Path.clean_iff.mpr nofun)
  | cons step above ih =>
    have cleanPath : Path.Clean ⟨slashes, (step :: above).reverse⟩ :=
      Path.clean_iff.mpr fun other member => clean other (List.mem_reverse.mp member)
    refine (makeDirectoryAs _ 0o777 cleanPath).tryCatch fun refusal shown target => ?_
    cases refusal with
    | missing =>
      exact (ih fun other member => clean other (.tail _ member)).bind fun _ =>
        ensureDirectory cleanPath
    | «exists» => exact unlessDirectory _ cleanPath
    | notADirectory => exact unlessDirectory _ cleanPath
    | isADirectory => exact unlessDirectory _ cleanPath
    | nameTooLong => exact unlessDirectory _ cleanPath

theorem ensureDirectories {path : Path} (clean : path.Clean) :
    OnlyRefuses (ensureDirectories path) :=
  ensureAbove path.slashes fun step member =>
    Path.clean_iff.mp clean step (List.mem_reverse.mp member)

theorem makePrivateDirectory {directory : Path} (clean : directory.Clean) {names : List String}
    (components : ∀ name ∈ names, Path.IsComponent name) :
    OnlyRefuses (makePrivateDirectory directory names) := by
  induction names with
  | nil => exact refuse _ _
  | cons name names ih =>
    have component := components name List.mem_cons_self
    have cleanChild : (directory.join (Path.ofText name)).Clean := by
      rw [Path.join_component directory component]
      exact Path.clean_child clean component
    refine ((makeDirectoryAs _ 0o700 cleanChild).bind fun _ => pure _).tryCatch
      fun refusal shown target => ?_
    cases refusal with
    | «exists» => exact ih fun other member => components other (.tail _ member)
    | missing => nofun
    | notADirectory => nofun
    | isADirectory => nofun
    | nameTooLong => nofun

end OnlyRefuses

/-- A path with a zero character is given up before anything changes. -/
theorem ensureDirectories_of_not_clean {path : Path} (unclean : ¬ path.Clean) (tree : FileTree) :
    outcome (ensureDirectories path) tree = (.error .zeroCharacter, tree) := by
  unfold ensureDirectories
  rcases steps : path.steps.reverse with _ | ⟨step, above⟩
  · refine absurd (Path.clean_iff.mpr fun step member => ?_) unclean
    rw [List.reverse_eq_nil_iff.mp steps] at member
    cases member
  · have whole : (⟨path.slashes, (step :: above).reverse⟩ : Path) = path := by
      rw [← steps, List.reverse_reverse]
    simp only [ensureAbove, whole, outcome_tryCatch, makeDirectory, makeDirectoryAs, newPlace,
      outcome_bind, outcome_checked, unclean, if_false]
    rfl

end Storing

end CertGraph
