import Mathlib.Data.Fintype.Card
import Mathlib.Data.Set.Finite.List
import Mathlib.Logic.Relation

/- Depth-first walks over a graph of keys, some of which are done and not entered. -/
set_option autoImplicit false
set_option relaxedAutoImplicit false

namespace CertGraph

open Relation (ReflTransGen TransGen)

/-- The keys that each key depends on, in order. -/
abbrev KeyGraph := String → List String

namespace KeyGraph

variable {graph : KeyGraph} {done : List String}

/-- A key that is not done depends on another by one step. -/
def Open (graph : KeyGraph) (done : List String) (key other : String) : Prop :=
  other ∈ graph key ∧ other ∉ done

/-- The keys to be walked for a root: the root and what it leads to, unless done. -/
def Needed (graph : KeyGraph) (done : List String) (root key : String) : Prop :=
  root ∉ done ∧ ReflTransGen (graph.Open done) root key

theorem Needed.not_mem {root key : String} (needed : graph.Needed done root key) : key ∉ done := by
  rcases ReflTransGen.cases_tail needed.2 with rfl | ⟨_, _, last⟩
  · exact needed.1
  · exact last.2

theorem Needed.tail {root key other : String} (needed : graph.Needed done root key)
    (next : graph.Open done key other) : graph.Needed done root other :=
  ⟨needed.1, needed.2.tail next⟩

/-- The completions of a walk over some keys that remembers nothing: every key that is not done
completes each time it is met, after the keys that it depends on. -/
inductive Completes (graph : KeyGraph) (done : List String) : List String → List String → Prop
  | nil : Completes graph done [] []
  | skip {key : String} {others order : List String} (isDone : key ∈ done)
      (rest : Completes graph done others order) : Completes graph done (key :: others) order
  | enter {key : String} {others inner order : List String} (notDone : key ∉ done)
      (inside : Completes graph done (graph key) inner)
      (rest : Completes graph done others order) :
      Completes graph done (key :: others) (inner ++ key :: order)

namespace Completes

theorem unique {keys order other : List String} (first : Completes graph done keys order)
    (second : Completes graph done keys other) : order = other := by
  induction first generalizing other with
  | nil => cases second; rfl
  | skip isDone rest ih =>
    cases second with
    | skip _ rest' => exact ih rest'
    | enter notDone _ _ => exact absurd isDone notDone
  | enter notDone inside rest ihInside ihRest =>
    cases second with
    | skip isDone _ => exact absurd isDone notDone
    | enter _ inside' rest' => rw [ihInside inside', ihRest rest']

/-- The completions over a list are those over its first key and then those over the others. -/
theorem cons_inv {key : String} {others order : List String}
    (completes : Completes graph done (key :: others) order) :
    ∃ first rest, order = first ++ rest ∧ Completes graph done [key] first ∧
      Completes graph done others rest := by
  cases completes with
  | skip isDone rest => exact ⟨[], order, rfl, .skip isDone .nil, rest⟩
  | @enter _ _ inner order notDone inside rest =>
    exact ⟨inner ++ [key], order, by simp, .enter notDone inside .nil, rest⟩

/-- The completions over a key that is not done end with that key. -/
theorem singleton_inv {key : String} {order : List String} (notDone : key ∉ done)
    (completes : Completes graph done [key] order) :
    ∃ inner, order = inner ++ [key] ∧ Completes graph done (graph key) inner := by
  cases completes with
  | skip isDone _ => exact absurd isDone notDone
  | enter _ inside rest =>
    cases rest
    exact ⟨_, rfl, inside⟩

/-- What completes is exactly what is needed. -/
theorem mem_iff {keys order : List String} (completes : Completes graph done keys order)
    (key : String) : key ∈ order ↔ ∃ root ∈ keys, graph.Needed done root key := by
  induction completes with
  | nil => simp
  | @skip head others order isDone rest ih =>
    rw [ih]
    constructor
    · rintro ⟨root, member, needed⟩
      exact ⟨root, List.mem_cons_of_mem _ member, needed⟩
    · rintro ⟨root, member, needed⟩
      rcases List.mem_cons.mp member with rfl | member
      · exact absurd isDone needed.1
      · exact ⟨root, member, needed⟩
  | @enter head others inner order notDone inside rest ihInside ihRest =>
    rw [List.mem_append, List.mem_cons, ihInside, ihRest]
    constructor
    · rintro (⟨root, member, needed⟩ | rfl | ⟨root, member, needed⟩)
      · have first : graph.Open done head root := ⟨member, needed.1⟩
        exact ⟨head, List.mem_cons_self, notDone, needed.2.head first⟩
      · exact ⟨key, List.mem_cons_self, notDone, .refl⟩
      · exact ⟨root, List.mem_cons_of_mem _ member, needed⟩
    · rintro ⟨root, member, needed⟩
      rcases List.mem_cons.mp member with rfl | member
      · rcases ReflTransGen.cases_head needed.2 with rfl | ⟨next, step, further⟩
        · exact .inr (.inl rfl)
        · exact .inl ⟨next, step.1, step.2, further⟩
      · exact .inr (.inr ⟨root, member, needed⟩)

/-- A set of keys that has with each key what it depends on has all completions over its keys. -/
theorem subset_of_closed {closed keys order : List String}
    (completes : Completes graph done keys order)
    (isClosed : ∀ key ∈ closed, key ∉ done → ∀ other ∈ graph key, other ∈ closed)
    (within : ∀ key ∈ keys, key ∈ closed) : ∀ key ∈ order, key ∈ closed := by
  induction completes with
  | nil => exact nofun
  | skip isDone rest ih => exact ih fun key member => within key (List.mem_cons_of_mem _ member)
  | @enter head others inner order notDone inside rest ihInside ihRest =>
    have headIn := within head List.mem_cons_self
    intro key member
    rcases List.mem_append.mp member with inInner | later
    · exact ihInside (isClosed head headIn notDone) key inInner
    · rcases List.mem_cons.mp later with rfl | inRest
      · exact headIn
      · exact ihRest (fun key member => within key (List.mem_cons_of_mem _ member)) key inRest

/-- Where the walk over each key comes to an end, the walk over all of them does. -/
private theorem exists_of_forall {keys : List String}
    (each : ∀ key ∈ keys, key ∉ done → ∃ order, Completes graph done (graph key) order) :
    ∃ order, Completes graph done keys order := by
  induction keys with
  | nil => exact ⟨[], .nil⟩
  | cons key others ih =>
    obtain ⟨order, rest⟩ := ih fun other member => each other (List.mem_cons_of_mem _ member)
    by_cases isDone : key ∈ done
    · exact ⟨order, .skip isDone rest⟩
    · obtain ⟨inner, inside⟩ := each key List.mem_cons_self isDone
      exact ⟨inner ++ key :: order, .enter isDone inside rest⟩

end Completes

/-- Among finitely many keys without a cycle every walk comes to an end. -/
theorem exists_completes {root : String} (keys : List String)
    (finite : ∀ key, graph.Needed done root key → key ∈ keys)
    (acyclic : ∀ key, graph.Needed done root key → ¬ TransGen (graph.Open done) key key) :
    ∃ order, Completes graph done [root] order := by
  let Walked := { key // graph.Needed done root key }
  have : Finite Walked := Set.Finite.subset (List.finite_toSet keys) fun key => finite key
  let deeper : Walked → Walked → Prop := fun key other => TransGen (graph.Open done) other.1 key.1
  have : IsTrans Walked deeper := ⟨fun _ _ _ first second => second.trans first⟩
  have : Std.Irrefl deeper := ⟨fun key cycle => acyclic key.1 key.2 cycle⟩
  have wellFounded : WellFounded deeper := Finite.wellFounded_of_trans_of_irrefl deeper
  have inside (key : Walked) : ∃ order, Completes graph done (graph key.1) order := by
    induction key using wellFounded.induction with
    | _ key ih =>
      refine Completes.exists_of_forall fun other member notDone => ?_
      have next : graph.Open done key.1 other := ⟨member, notDone⟩
      exact ih ⟨other, key.2.tail next⟩ (.single next)
  refine Completes.exists_of_forall fun key member notDone => ?_
  obtain rfl := List.mem_singleton.mp member
  exact inside ⟨key, notDone, .refl⟩

/-- A graph whose steps descend in rank has no cycle. -/
theorem not_cyclic_of_rank (rank : String → Nat)
    (descends : ∀ key other, graph.Open done key other → rank other < rank key) (key : String) :
    ¬ TransGen (graph.Open done) key key := by
  intro cycle
  have down : TransGen (fun first second : Nat => second < first) (rank key) (rank key) :=
    cycle.lift rank descends
  rw [Relation.transGen_eq_self] at down
  exact Nat.lt_irrefl _ down

end KeyGraph

end CertGraph
