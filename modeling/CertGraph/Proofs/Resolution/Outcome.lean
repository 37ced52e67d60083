import CertGraph.Asset.Executor
import CertGraph.Proofs.Outcome
import Mathlib.Data.List.Basic

/- What the steps of an executor come to: the outcome of each, and the session after it. -/
set_option autoImplicit false
set_option relaxedAutoImplicit false

namespace CertGraph

variable {σ ε α β : Type}

namespace Session

/-- The session with another key on the stack. -/
def push (session : Session σ ε) (key : String) : Session σ ε :=
  { session with executor := { session.executor with
      stack := session.executor.stack ++ [key]
      history := session.executor.history ++ [.entered (session.executor.stack ++ [key])] } }

/-- The session without the last key on the stack. -/
def pop (session : Session σ ε) : Session σ ε :=
  { session with executor := { session.executor with
      stack := session.executor.stack.dropLast } }

/-- The session after an event. -/
def noted (session : Session σ ε) (event : Event) : Session σ ε :=
  { session with executor := { session.executor with
      history := session.executor.history ++ [event] } }

/-- The session after a report. -/
def told (session : Session σ ε) (report : Report) : Session σ ε :=
  { session with
      workshop := { session.workshop with journal := session.workshop.journal ++ [report] } }.noted
    (.reported report)

/-- The session at the call that generates an asset. -/
def starting (session : Session σ ε) (asset : Asset σ ε) : Session σ ε :=
  (session.told ⟨.info, "Generating " ++ asset.name, some asset.key⟩).noted (.started asset.key)

/-- The session with one more generated asset. -/
def keeping (session : Session σ ε) (node : Node ε) : Session σ ε :=
  { session with executor := { session.executor with
      parents := ⟨session.executor.parents.entries ++ [(node.key, node)]⟩
      generated := session.executor.generated ++ [node.key] } }

/-- The session after an asset was used again. -/
def reusing (session : Session σ ε) (name : String) (node : Node ε) : Session σ ε :=
  session.told ⟨.debug, "Reusing " ++ name, some node.key⟩

end Session

namespace Resolution

theorem outcome_executor (session : Session σ ε) :
    outcome executor session = (.ok session.executor, session) := rfl

theorem outcome_ofWork (work : Work σ α) (session : Session σ ε) :
    outcome (ofWork work) session =
      ((work.outcome session.workshop).1,
        { session with workshop := (work.outcome session.workshop).2 }) := by
  simp only [outcome, ofWork, Work.outcome, EStateM.run]
  cases work session.workshop <;> rfl

theorem outcome_note (event : Event) (session : Session σ ε) :
    outcome (note event) session = (.ok (), session.noted event) := rfl

theorem outcome_report (level : Level) (message key : String) (session : Session σ ε) :
    outcome (report level message key) session =
      (.ok (), session.told ⟨level, message, some key⟩) := rfl

theorem outcome_wrapping (wrap : Failure → Failure) (step : Resolution σ ε α)
    (session : Session σ ε) :
    outcome (wrapping wrap step) session =
      ((outcome step session).1.mapError wrap, (outcome step session).2) := by
  simp only [outcome, wrapping]
  cases step session <;> rfl

/-- A result with a change to the state after it. -/
private def leaving (change : Session σ ε → Session σ ε) :
    EStateM.Result Failure (Session σ ε) α → EStateM.Result Failure (Session σ ε) α
  | .ok value after => .ok value (change after)
  | .error failure after => .error failure (change after)

theorem outcome_onStack (key : String) (step : Resolution σ ε α) (session : Session σ ε) :
    outcome (onStack key step) session =
      ((outcome step (session.push key)).1, (outcome step (session.push key)).2.pop) := by
  have entering : onStack key step session = leaving Session.pop (step (session.push key)) := rfl
  simp only [outcome, entering]
  cases step (session.push key) <;> rfl

/-- An asset is kept where none is kept under its key. -/
theorem outcome_keep {node : Node ε} {session : Session σ ε}
    (absent : session.executor.parents.get? node.key = none) :
    outcome (keep node) session = (.ok node, session.keeping node) := by
  have recorded : session.executor.parents.record node =
      .ok ⟨session.executor.parents.entries ++ [(node.key, node)]⟩ := by
    simp [Parents.record, Parents.has, absent]
  simp only [keep, outcome_bind, outcome_executor, recorded]
  rfl

/-- Generating an asset is reported and noted first; a failure is wrapped with the name of the
asset. -/
theorem outcome_produce (asset : Asset σ ε) (session : Session σ ε) :
    outcome (produce asset) session =
      match (asset.generate session.executor.parents).outcome (session.starting asset).workshop with
      | (.ok product, workshop) =>
        (.ok product, { session.starting asset with workshop }.noted (.finished asset.key))
      | (.error failure, workshop) =>
        (.error (.generation .generating asset.name failure),
          { session.starting asset with workshop }) := by
  have opened : (session.told ⟨.info, "Generating " ++ asset.name, some asset.key⟩).noted
      (.started asset.key) = session.starting asset := rfl
  have unmoved : (session.starting asset).executor.parents = session.executor.parents := rfl
  simp only [produce, outcome_bind, outcome_report, outcome_note, outcome_executor,
    outcome_wrapping, outcome_ofWork, opened, unmoved]
  rcases (asset.generate session.executor.parents).outcome (session.starting asset).workshop with
    ⟨failure | product, workshop⟩ <;> rfl

end Resolution

end CertGraph
