import CertGraph.Proofs.FileTree.Components
import CertGraph.Proofs.FileTree.Paving
import CertGraph.Proofs.FileTree.Clearing

/- The states that a tree is in while changes are made one after another and files are written piece by
piece, and steps that lead only through states of one kind. -/
set_option autoImplicit false
set_option relaxedAutoImplicit false

namespace CertGraph

namespace FileTree

/-- A state of a tree in the midst of changes in a row: before or after any of them, or while a file is
being written and part of its contents has arrived. -/
inductive Midst : FileTree → List Change → FileTree → Prop where
  | here (tree : FileTree) (changes : List Change) : Midst tree changes tree
  | writing {tree : FileTree} {place : Place} {part data : Octets} {changes : List Change}
      (begun : part <+: data) :
      Midst tree (.write place data :: changes) (tree.after (.write place part))
  | later {tree state : FileTree} {change : Change} {changes : List Change}
      (rest : Midst (tree.after change) changes state) : Midst tree (change :: changes) state

namespace Midst

variable {tree state : FileTree} {changes more : List Change}

private theorem of_append (midst : tree.Midst (changes ++ more) state) :
    tree.Midst changes state ∨ (tree.replay changes).Midst more state := by
  induction changes generalizing tree with
  | nil => exact .inr midst
  | cons change changes ih =>
    cases midst with
    | here => exact .inl (.here _ _)
    | writing begun => exact .inl (.writing begun)
    | later rest => exact (ih rest).imp .later id

private theorem last (tree : FileTree) (changes : List Change) :
    tree.Midst changes (tree.replay changes) := by
  induction changes generalizing tree with
  | nil => exact .here tree []
  | cons change changes ih => exact .later (ih (tree.after change))

end Midst

/-- A tree after changes that lead only through states of some kind, the first and the last included. -/
def Passes (safe : FileTree → Prop) (tree after : FileTree) : Prop :=
  ∃ changes, after = tree.replay changes ∧ ∀ state, tree.Midst changes state → safe state

namespace Passes

variable {safe : FileTree → Prop} {tree middle after : FileTree}

theorem refl (first : safe tree) : Passes safe tree tree := by
  refine ⟨[], rfl, fun state midst => ?_⟩
  cases midst
  exact first

theorem trans (earlier : Passes safe tree middle) (later : Passes safe middle after) :
    Passes safe tree after := by
  obtain ⟨changes, rfl, through⟩ := earlier
  obtain ⟨more, rfl, through'⟩ := later
  refine ⟨changes ++ more, (replay_append tree changes more).symm, fun state midst => ?_⟩
  exact midst.of_append.elim (through state) (through' state)

theorem mono {larger : FileTree → Prop} (passes : Passes safe tree after)
    (within : ∀ state, safe state → larger state) : Passes larger tree after :=
  passes.imp fun _ led => ⟨led.1, fun state midst => within state (led.2 state midst)⟩

theorem last (passes : Passes safe tree after) : safe after := by
  obtain ⟨changes, rfl, through⟩ := passes
  exact through _ (.last tree changes)

/-- A change that is made at once. -/
theorem change {change : Change} (whole : ∀ place data, change ≠ .write place data)
    (first : safe tree) (last : safe (tree.after change)) : Passes safe tree (tree.after change) := by
  refine ⟨[change], rfl, fun state midst => ?_⟩
  cases midst with
  | here => exact first
  | writing begun => exact absurd rfl (whole _ _)
  | later rest =>
    cases rest
    exact last

/-- A file that is written piece by piece. -/
theorem write {place : Place} {data : Octets} (first : safe tree)
    (partly : ∀ part, part <+: data → safe (tree.after (.write place part))) :
    Passes safe tree (tree.after (.write place data)) := by
  refine ⟨[.write place data], rfl, fun state midst => ?_⟩
  cases midst with
  | here => exact first
  | writing begun => exact partly _ begun
  | later rest =>
    cases rest
    exact partly data List.prefix_rfl

end Passes

theorem goal_of_spot {workingDirectory place : Place} {path : Path}
    (named : spot workingDirectory path = .place place) :
    goal workingDirectory path = place ∧ place ≠ [] := by
  unfold spot at named
  cases ended : path.steps.getLast? with
  | none => simp [ended] at named
  | some last =>
    have whole : path.steps.dropLast ++ [last] = path.steps := List.dropLast_append_getLast? last ended
    by_cases up : last = ".."
    · simp [ended, up] at named
    · simp only [ended, up, if_false, Named.place.injEq] at named
      refine ⟨?_, named ▸ List.concat_ne_nil _ _⟩
      rw [goal, ← whole, follow_append, ← named]
      simp [follow, up]

end FileTree

namespace Storing

open FileTree (Passes OnWay)

variable {α β : Type} {safe : FileTree → Prop}

/-- A step that leads from any state of some kind only through states of that kind. -/
def Preserves (safe : FileTree → Prop) (step : Storing α) : Prop :=
  ∀ tree, safe tree → Passes safe tree (outcome step tree).2

namespace Preserves

theorem pure (value : α) : Preserves safe (pure value) :=
  fun _ first => .refl first

theorem bind {step : Storing α} {next : α → Storing β} (first : Preserves safe step)
    (rest : ∀ value, Preserves safe (next value)) : Preserves safe (step >>= next) := by
  intro tree start
  have begun := first tree start
  rw [outcome_bind]
  rcases ended : outcome step tree with ⟨fault | value, middle⟩
  · rw [ended] at begun
    exact begun
  · rw [ended] at begun
    exact begun.trans (rest value middle begun.last)

theorem forM {items : List α} {step : α → Storing Unit}
    (each : ∀ item ∈ items, Preserves safe (step item)) : Preserves safe (items.forM step) := by
  induction items with
  | nil => exact .pure ()
  | cons item items ih =>
    refine (each item List.mem_cons_self).bind fun _ => ?_
    exact ih fun other member => each other (.tail _ member)

end Preserves

end Storing

end CertGraph
