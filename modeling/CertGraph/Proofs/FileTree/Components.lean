import CertGraph.Proofs.FileTree.Moving

/- Names that are one step of a path, and paths with one more step. -/
set_option autoImplicit false
set_option relaxedAutoImplicit false

namespace CertGraph

/-- A text that neither cuts a path in pieces nor ends it. -/
def Path.Plain (text : String) : Prop :=
  '/' ∉ text.toList ∧ '\x00' ∉ text.toList

instance (text : String) : Decidable (Path.Plain text) :=
  inferInstanceAs (Decidable (_ ∧ _))

/-- A text that is one step of a path. -/
structure Path.IsComponent (name : String) : Prop where
  plain : Path.Plain name
  nonempty : name ≠ ""
  notDot : name ≠ "."
  notDots : name ≠ ".."

instance (name : String) : Decidable (Path.IsComponent name) :=
  decidable_of_iff (Path.Plain name ∧ name ≠ "" ∧ name ≠ "." ∧ name ≠ "..")
    ⟨fun ⟨plain, nonempty, notDot, notDots⟩ => ⟨plain, nonempty, notDot, notDots⟩,
      fun isComponent => ⟨isComponent.plain, isComponent.nonempty, isComponent.notDot,
        isComponent.notDots⟩⟩

/-- The path of an entry in the directory that a path names. -/
def Path.child (path : Path) (name : String) : Path :=
  ⟨path.slashes, path.steps ++ [name]⟩

namespace Path

theorem Plain.append {text more : String} (first : Plain text) (second : Plain more) :
    Plain (text ++ more) := by
  unfold Plain at first second ⊢
  simp [first, second]

/-- Only short texts name a directory itself or the one above it. -/
theorem IsComponent.of_length {name : String} (plain : Plain name) (long : 3 ≤ name.toList.length) :
    IsComponent name := by
  have unlike {other : String} (short : other.toList.length < 3) : name ≠ other := by
    rintro rfl
    omega
  exact ⟨plain, unlike (by decide), unlike (by decide), unlike (by decide)⟩

theorem name_child (path : Path) (name : String) : (path.child name).name = name := by
  simp [Path.name, child]

private theorem ofText_component {name : String} (component : IsComponent name) :
    ofText name = ⟨0, [name]⟩ := by
  have noSlash := component.plain.1
  have leading : name.toList.takeWhile (· = '/') = [] := by
    cases chars : name.toList with
    | nil => rfl
    | cons first rest =>
      rw [chars] at noSlash
      have apart : first ≠ '/' := fun same => noSlash (same ▸ List.mem_cons_self)
      simp [apart]
  have whole : name.toList.splitOn '/' = [name.toList] := List.splitOn_eq_singleton noSlash
  unfold ofText
  simp only [leading, whole, List.length_nil, if_true, List.map_cons, List.map_nil,
    String.ofList_toList]
  simp [isStep, component.nonempty, component.notDot]

theorem join_component (path : Path) {name : String} (component : IsComponent name) :
    path.join (ofText name) = path.child name := by
  rw [ofText_component component]
  rfl

theorem clean_child {path : Path} {name : String} (clean : path.Clean)
    (component : IsComponent name) : (path.child name).Clean := by
  rw [clean_iff] at clean ⊢
  intro step member
  rcases List.mem_append.mp member with inPath | last
  · exact clean step inPath
  · rw [List.mem_singleton.mp last]
    exact component.plain.2

end Path

namespace FileTree

/-- Where the steps of a path lead if all of them lead anywhere. -/
def goal (workingDirectory : Place) (path : Path) : Place :=
  follow (if path.slashes = 0 then workingDirectory else []) path.steps

theorem spot_child (workingDirectory : Place) (path : Path) {name : String}
    (component : Path.IsComponent name) :
    spot workingDirectory (path.child name) = .place (goal workingDirectory path ++ [name]) := by
  simp only [spot, Path.child, List.getLast?_concat, List.dropLast_concat, component.notDots,
    if_false]
  rfl

theorem follow_append (here : Place) (steps more : List String) :
    follow here (steps ++ more) = follow (follow here steps) more := by
  induction steps generalizing here with
  | nil => rfl
  | cons step steps ih =>
    simp only [List.cons_append, follow]
    split
    · exact ih _
    · exact ih _

theorem goal_child (workingDirectory : Place) (path : Path) {name : String}
    (component : Path.IsComponent name) :
    goal workingDirectory (path.child name) = goal workingDirectory path ++ [name] := by
  have last (here : Place) : follow here [name] = here ++ [name] := by
    simp [follow, component.notDots]
  exact (follow_append _ path.steps [name]).trans (last _)

/-- A place on the way that the steps of a path lead. -/
def OnWay (workingDirectory : Place) (path : Path) (place : Place) : Prop :=
  ∃ steps, steps <+: path.steps ∧ spot workingDirectory ⟨path.slashes, steps⟩ = .place place

private theorem follow_of_down {steps : List String} (down : ".." ∉ steps) (here : Place) :
    follow here steps = here ++ steps := by
  induction steps generalizing here with
  | nil => simp [follow]
  | cons step steps ih =>
    have apart : step ≠ ".." := fun same => down (same ▸ List.mem_cons_self)
    rw [follow, if_neg apart, ih fun member => down (List.mem_cons_of_mem _ member)]
    simp

/-- If no step leads up, a place on the way is at or above the end of it. -/
theorem OnWay.prefix_goal {workingDirectory : Place} {path : Path} {place : Place}
    (onWay : OnWay workingDirectory path place) (down : ".." ∉ path.steps) :
    place <+: goal workingDirectory path := by
  obtain ⟨steps, leads, named⟩ := onWay
  have downward : ".." ∉ steps := fun member => down (leads.subset member)
  unfold goal
  rw [follow_of_down down]
  unfold spot at named
  cases ended : steps.getLast? with
  | none => simp [ended] at named
  | some last =>
    have whole : steps.dropLast ++ [last] = steps := List.dropLast_append_getLast? last ended
    have downFirst : ".." ∉ steps.dropLast := fun member => downward (List.dropLast_subset _ member)
    have notUp : last ≠ ".." := fun same => downward (same ▸ List.mem_of_getLast? ended)
    simp only [ended, notUp, if_false, Named.place.injEq] at named
    rw [follow_of_down downFirst, List.append_assoc, whole] at named
    obtain rfl := named
    exact List.prefix_append_right_inj _ |>.mpr leads

private theorem walk_append (tree : FileTree) (here : Place) (steps more : List String) :
    tree.walk here (steps ++ more) = tree.walk here steps >>= fun middle => tree.walk middle more := by
  induction steps generalizing here with
  | nil => rfl
  | cons step steps ih =>
    simp only [List.cons_append, walk]
    split
    · exact ih _
    · split
      · rfl
      · split
        · rfl
        · rfl
        · exact ih _

/-- One more step leads on if it leads to a directory and is not too long. -/
theorem walk_concat {tree : FileTree} {here place : Place} {steps : List String} {name : String}
    (component : Path.IsComponent name) :
    tree.walk here (steps ++ [name]) = .ok place ↔
      ∃ middle mode, tree.walk here steps = .ok middle ∧ size name ≤ maxName ∧
        tree.at? (middle ++ [name]) = some (.directory mode) ∧ place = middle ++ [name] := by
  rw [walk_append]
  rcases tree.walk here steps with refusal | middle
  · simp [bind, Except.bind]
  · simp only [bind, Except.bind, walk, component.notDots, if_false]
    by_cases long : maxName < size name
    · simp [long, Nat.not_le.mpr long]
    · rcases known : tree.at? (middle ++ [name]) with _ | ⟨mode⟩ | ⟨mode, data⟩
      · simp [long, known]
      · simp [long, known, Nat.not_lt.mp long, eq_comm]
      · simp [long, known]

/-- Where the path of an entry in a directory leads: the steps of the directory lead to directories,
and neither the name nor the whole path is too long. -/
theorem locate_child {tree : FileTree} {path : Path} {name : String} {place : Place}
    (component : Path.IsComponent name) :
    tree.locate (path.child name) = .ok (.place place) ↔
      size (path.child name).text ≤ maxPath ∧ size name ≤ maxName ∧
        ∃ directory, tree.walk (if path.slashes = 0 then tree.workingDirectory else [])
          path.steps = .ok directory ∧ place = directory ++ [name] := by
  have last : (path.child name).steps.getLast? = some name := List.getLast?_concat
  have first : (path.child name).steps.dropLast = path.steps := List.dropLast_concat
  have same : (path.child name).slashes = path.slashes := rfl
  unfold locate
  dsimp only
  rw [last, first, same]
  by_cases long : maxPath < size (path.child name).text
  · simp [long, Nat.not_le.mpr long]
  · rw [if_neg long]
    cases walked : tree.walk (if path.slashes = 0 then tree.workingDirectory else []) path.steps with
    | error refusal => simp [bind, Except.bind]
    | ok directory =>
      by_cases longName : maxName < size name
      · simp [bind, Except.bind, component.notDots, longName, Nat.not_le.mpr longName]
      · simp [bind, Except.bind, component.notDots, longName, Nat.not_lt.mp long,
          Nat.not_lt.mp longName, eq_comm]

end FileTree

end CertGraph
