import CertGraph.Proofs.FileTree.Components
import CertGraph.Proofs.FileTree.Replay

/- Making directories on the way to a path: they are all that changes, and they stay. -/
set_option autoImplicit false
set_option relaxedAutoImplicit false

namespace CertGraph

namespace FileTree

/-- A tree after directories were made at places of some kind, where nothing was. -/
structure Paves (way : Place → Prop) (tree after : FileTree) : Prop where
  touches : tree.Touches
    (fun place => way place ∧ ∃ mode, after.at? place = some (.directory mode)) after
  adds : tree.Adds after
  wellFormed : tree.WellFormed → after.WellFormed

namespace Paves

variable {way : Place → Prop} {tree middle after : FileTree}

theorem refl (tree : FileTree) : Paves way tree tree :=
  ⟨.refl tree, .refl tree, id⟩

theorem trans (first : Paves way tree middle) (second : Paves way middle after) :
    Paves way tree after := by
  refine ⟨?_, first.adds.trans second.adds, fun wellFormed => second.wellFormed
    (first.wellFormed wellFormed)⟩
  refine (first.touches.mono ?_).trans second.touches
  rintro place ⟨onWay, mode, known⟩
  exact ⟨onWay, mode, second.adds.kept place _ known⟩

private theorem makeDirectory {path : Path} {place : Place} {mode : Nat} (onWay : way place)
    (located : tree.locate path = .ok (.place place)) (absent : tree.at? place = none) :
    Paves way tree (tree.after (.makeDirectory place mode)) := by
  refine ⟨.single ?_, .makeDirectory absent, fun wellFormed => wellFormed.makeDirectory located
    absent⟩
  intro other isPlace
  obtain rfl := List.mem_singleton.mp isPlace
  exact ⟨onWay, mode, at?_after_makeDirectory (ne_nil_of_at?_eq_none absent)⟩

/-- Files are as they were. -/
theorem file_iff (paves : Paves way tree after) {place : Place} {mode : Nat} {data : Octets} :
    after.at? place = some (.file mode data) ↔ tree.at? place = some (.file mode data) := by
  refine ⟨fun known => ?_, paves.adds.kept place _⟩
  have untouched : ¬ (way place ∧ ∃ mode, after.at? place = some (.directory mode)) := by
    rintro ⟨-, dirMode, directory⟩
    cases directory.symm.trans known
  rwa [paves.touches.spared untouched] at known

end Paves

end FileTree

namespace Storing

open FileTree (Paves OnWay spot)

variable {tree : FileTree}

private theorem unlessDirectory_unchanged (refusal : FileTree.Refusal) (path : Path) (tree : FileTree) :
    (outcome (unlessDirectory refusal path) tree).2 = tree := by
  rcases unlessDirectory_cases refusal path tree with ⟨mode, found, -⟩ | ⟨fault, failed⟩
  · rw [found]
  · rw [failed]

/-- A relation holds of a tree before and after making sure of a directory if it holds before and after
making one where nothing was. -/
theorem ensureDirectory_relates (rel : FileTree → FileTree → Prop) {path : Path}
    (refl : ∀ tree, rel tree tree)
    (made : ∀ tree place mode, tree.locate path = .ok (.place place) → tree.at? place = none →
      rel tree (tree.after (.makeDirectory place mode)))
    (tree : FileTree) : rel tree (outcome (ensureDirectory path) tree).2 := by
  rcases ensureDirectory_cases path tree with ⟨place, mode, ended, located, absent⟩ |
    ⟨mode, kept, -⟩ | ⟨fault, failed⟩
  · rw [ended]
    exact made tree place mode located absent
  · rw [kept]
    exact refl tree
  · rw [failed]
    exact refl tree

/-- Steps of a path, last first: nothing but making directories on the way to them relates the trees
before and after. -/
theorem ensureAbove_relates (rel : FileTree → FileTree → Prop) {slashes : Nat} {whole : List String}
    (refl : ∀ tree, rel tree tree)
    (trans : ∀ tree middle after, rel tree middle → rel middle after → rel tree after)
    (made : ∀ steps tree place mode, steps <+: whole →
      tree.locate ⟨slashes, steps⟩ = .ok (.place place) → tree.at? place = none →
      rel tree (tree.after (.makeDirectory place mode)))
    (steps : List String) (tree : FileTree) (leads : steps.reverse <+: whole) :
    rel tree (outcome (ensureAbove slashes steps) tree).2 := by
  induction steps generalizing tree with
  | nil =>
    exact ensureDirectory_relates rel refl (fun tree place mode => made [] tree place mode leads) tree
  | cons step above ih =>
    have leadsAbove : above.reverse <+: whole := by
      rw [List.reverse_cons] at leads
      exact (List.prefix_append _ _).trans leads
    have ensured := ensureDirectory_relates rel refl
      (fun tree place mode => made (step :: above).reverse tree place mode leads)
    simp only [ensureAbove, outcome_tryCatch, makeDirectory]
    rcases makeDirectoryAs_cases (Path.text ⟨slashes, (step :: above).reverse⟩)
      ⟨slashes, (step :: above).reverse⟩ 0o777 tree with ⟨place, ended, located, absent⟩ |
      ⟨fault, failed⟩
    · rw [ended]
      exact made _ tree place _ leads located absent
    · rw [failed]
      rcases fault with ⟨refusal, shown, target⟩ | _
      · cases refusal with
        | missing =>
          have upper := ih tree leadsAbove
          simp only [outcome_bind]
          rcases reached : outcome (ensureAbove slashes above) tree with ⟨fault | _, middle⟩
          · rw [reached] at upper
            exact upper
          · rw [reached] at upper
            exact trans _ _ _ upper (ensured middle)
        | «exists» =>
          simp only [unlessDirectory_unchanged]
          exact refl tree
        | notADirectory =>
          simp only [unlessDirectory_unchanged]
          exact refl tree
        | isADirectory =>
          simp only [unlessDirectory_unchanged]
          exact refl tree
        | nameTooLong =>
          simp only [unlessDirectory_unchanged]
          exact refl tree
      · exact refl tree

/-- Nothing changes but that directories are made on the way to a path. -/
theorem ensureDirectories_paves (path : Path) (tree : FileTree) :
    Paves (OnWay tree.workingDirectory path) tree (outcome (ensureDirectories path) tree).2 := by
  have leads : path.steps.reverse.reverse <+: path.steps := by simp
  refine ensureAbove_relates (fun tree after => Paves (OnWay tree.workingDirectory path) tree after)
    (fun tree => .refl tree) ?_ ?_ path.steps.reverse tree leads
  · intro tree middle after upper lower
    rw [upper.adds.workingDirectory] at lower
    exact upper.trans lower
  · intro steps tree place mode leads located absent
    exact .makeDirectory ⟨steps, leads, (FileTree.locate_eq_spot located).symm⟩ located absent

end Storing

end CertGraph
