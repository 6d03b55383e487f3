import Mathlib.Data.List.Forall2
import Versor.Expression.Reduction

/-!
# Outcomes of building

A step of building turns a workspace into a result, which may be an error,
and a workspace.  `outcome` gives both at once, with one equation for each
way in which steps are put together.  `Ensures` says what holds of them, and
`Ensures.bind` carries it through a sequence of two steps.
-/

namespace Versor
namespace Build

variable {Result Next : Type}

/-- The result of a step and the workspace behind it. -/
def outcome
    (step : Build Result)
    (workspace : Workspace) :
    Except Error Result × Workspace :=
  step.run.run workspace

@[simp]
theorem outcome_pure
    (result : Result)
    (workspace : Workspace) :
    outcome (pure result) workspace = (.ok result, workspace) :=
  rfl

@[simp]
theorem outcome_throw
    (error : Error)
    (workspace : Workspace) :
    outcome (throw error : Build Result) workspace = (.error error, workspace) :=
  rfl

@[simp]
theorem outcome_ofExcept
    (result : Except Error Result)
    (workspace : Workspace) :
    outcome (ofExcept result) workspace = (result, workspace) :=
  rfl

@[simp]
theorem outcome_get
    (workspace : Workspace) :
    outcome (get : Build Workspace) workspace = (.ok workspace, workspace) :=
  rfl

@[simp]
theorem outcome_fresh
    (workspace : Workspace) :
    outcome fresh workspace =
      (.ok workspace.free, { workspace with free := workspace.free + 1 }) :=
  rfl

@[simp]
theorem outcome_modify
    (change : Workspace → Workspace)
    (workspace : Workspace) :
    outcome (modify change : Build PUnit) workspace = (.ok ⟨⟩, change workspace) :=
  rfl

/-- The second of two steps takes place behind the first one, unless that fails. -/
theorem outcome_bind
    (step : Build Result)
    (next : Result → Build Next)
    (workspace : Workspace) :
    outcome (step >>= next) workspace =
      match outcome step workspace with
      | (.ok result, behind) => outcome (next result) behind
      | (.error error, behind) => (.error error, behind) := by
  unfold outcome
  rw [ExceptT.run_bind, StateT.run_bind]
  generalize StateT.run (ExceptT.run step) workspace = reached
  rcases reached with ⟨result, behind⟩
  cases result <;> rfl

/-- Steps that succeed and leave the workspace as it is give a list of results. -/
theorem outcome_mapM
    {Member : Type}
    {step : Member → Build Result}
    {members : List Member}
    {results : List Result}
    {workspace : Workspace}
    (each :
      List.Forall₂ (fun member result => outcome (step member) workspace = (.ok result, workspace))
        members results) :
    outcome (members.mapM step) workspace = (.ok results, workspace) := by
  induction each with
  | nil => rfl
  | cons first _ inductionHypothesis =>
      rw [List.mapM_cons, outcome_bind, first]
      dsimp only
      rw [outcome_bind, inductionHypothesis]
      rfl

/-- Of two steps that succeed the first one does, and the second one behind it. -/
theorem exists_of_outcome_bind
    {step : Build Result}
    {next : Result → Build Next}
    {workspace behind : Workspace}
    {final : Next}
    (succeeded : outcome (step >>= next) workspace = (.ok final, behind)) :
    ∃ result between, outcome step workspace = (.ok result, between) ∧
      outcome (next result) between = (.ok final, behind) := by
  rw [outcome_bind] at succeeded
  generalize outcome step workspace = reached at succeeded
  rcases reached with ⟨result, between⟩
  cases result with
  | ok result => exact ⟨result, between, rfl, succeeded⟩
  | error error => cases succeeded

/-- What holds of the result of a step and of the workspace behind it. -/
def Ensures
    (step : Build Result)
    (workspace : Workspace)
    (holds : Except Error Result → Workspace → Prop) :
    Prop :=
  holds (outcome step workspace).1 (outcome step workspace).2

namespace Ensures

variable {step : Build Result} {workspace : Workspace}

theorem of_outcome
    {holds : Except Error Result → Workspace → Prop}
    (ensured : Ensures step workspace holds)
    {result : Except Error Result}
    {behind : Workspace}
    (reached : outcome step workspace = (result, behind)) :
    holds result behind := by
  unfold Ensures at ensured
  rw [reached] at ensured
  exact ensured

/-- Steps that come to the same ensure the same. -/
theorem congr
    {other : Build Result}
    {holds : Except Error Result → Workspace → Prop}
    (same : outcome step workspace = outcome other workspace)
    (ensured : Ensures other workspace holds) :
    Ensures step workspace holds := by
  unfold Ensures
  rw [same]
  exact ensured

theorem mono
    {first second : Except Error Result → Workspace → Prop}
    (ensured : Ensures step workspace first)
    (weaker : ∀ result behind, first result behind → second result behind) :
    Ensures step workspace second :=
  weaker _ _ ensured

theorem bind
    {next : Result → Build Next}
    {between : Except Error Result → Workspace → Prop}
    {holds : Except Error Next → Workspace → Prop}
    (first : Ensures step workspace between)
    (second :
      ∀ result behind, between (.ok result) behind → Ensures (next result) behind holds)
    (failed : ∀ error behind, between (.error error) behind → holds (.error error) behind) :
    Ensures (step >>= next) workspace holds := by
  unfold Ensures at first ⊢
  rw [outcome_bind]
  generalize outcome step workspace = reached at first ⊢
  rcases reached with ⟨result, behind⟩
  cases result with
  | ok result => exact second result behind first
  | error error => exact failed error behind first

/-- Taking a number does not fail. -/
theorem fresh
    {next : Nat → Build Next}
    {holds : Except Error Next → Workspace → Prop}
    (ensured :
      Ensures (next workspace.free) { workspace with free := workspace.free + 1 } holds) :
    Ensures (Build.fresh >>= next) workspace holds :=
  ensured

theorem ofExcept
    {result : Except Error Result}
    {next : Result → Build Next}
    {holds : Except Error Next → Workspace → Prop}
    (succeeded : ∀ value, result = .ok value → Ensures (next value) workspace holds)
    (failed : ∀ error, result = .error error → holds (.error error) workspace) :
    Ensures (Build.ofExcept result >>= next) workspace holds := by
  unfold Ensures
  rw [outcome_bind, outcome_ofExcept]
  cases result with
  | ok value => exact succeeded value rfl
  | error error => exact failed error rfl

end Ensures

/-- What has been built is found where a test of it passes. -/
theorem exists_built
    {build : Build Result}
    {workspace : Workspace}
    {test : Result → Bool}
    (passes : ((outcome build workspace).1.map test).toOption = some true) :
    ∃ built behind, outcome build workspace = (.ok built, behind) ∧ test built = true := by
  generalize outcome build workspace = reached at passes
  rcases reached with ⟨result, behind⟩
  cases result with
  | error error => cases passes
  | ok built => exact ⟨built, behind, rfl, Option.some_inj.1 passes⟩

end Build
end Versor
