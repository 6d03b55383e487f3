import Mathlib
import Versor.Error

/-!
# Results that may be errors

A sequence of steps that may fail succeeds if each of them does
(`exists_of_bind_eq_ok`), and a list of steps if all its members do
(`mapM_eq_ok`).  Steps accompany others if they fail in the same way and
succeed with related results.
-/

namespace Versor

/-- Of two steps of which the last one succeeds the first one does, too. -/
theorem exists_of_bind_eq_ok
    {Result Next : Type}
    {step : Except Error Result}
    {next : Result → Except Error Next}
    {final : Next}
    (succeeded : (step >>= next) = .ok final) :
    ∃ result, step = .ok result ∧ next result = .ok final := by
  cases step with
  | error error => cases succeeded
  | ok result => exact ⟨result, rfl, succeeded⟩

/-- A list of results that may be errors is a list if all members are. -/
theorem mapM_eq_ok
    {Member Result : Type}
    {step : Member → Except Error Result}
    {members : List Member}
    {results : List Result} :
    members.mapM step = .ok results ↔
      List.Forall₂ (fun member result => step member = .ok result) members results := by
  induction members generalizing results with
  | nil =>
      rw [List.mapM_nil, List.forall₂_nil_left_iff]
      exact ⟨fun equal => (Except.ok.inj equal).symm, fun equal => equal ▸ rfl⟩
  | cons member rest inductionHypothesis =>
      rw [List.mapM_cons, List.forall₂_cons_left_iff]
      constructor
      · intro equal
        rcases exists_of_bind_eq_ok equal with ⟨result, first, collected⟩
        rcases exists_of_bind_eq_ok collected with ⟨others, rest, same⟩
        cases same
        exact ⟨result, others, first, inductionHypothesis.1 rest, rfl⟩
      · rintro ⟨result, others, first, related, rfl⟩
        rw [first, inductionHypothesis.2 related]
        rfl

/-- A step for each member of a list succeeds if all of them do. -/
theorem forM_eq_ok
    {Member : Type}
    {step : Member → Except Error Unit}
    {members : List Member}
    (each : ∀ member ∈ members, step member = .ok ()) :
    members.forM step = .ok () := by
  induction members with
  | nil => rfl
  | cons member rest inductionHypothesis =>
      rw [List.forall_mem_cons] at each
      change (step member >>= fun _ => rest.forM step) = .ok ()
      rw [each.1]
      exact inductionHypothesis each.2

theorem exists_mapM_eq_ok
    {Member Result : Type}
    {step : Member → Except Error Result}
    {holds : Member → Result → Prop}
    {members : List Member}
    (found : ∀ member ∈ members, ∃ result, step member = .ok result ∧ holds member result) :
    ∃ results, members.mapM step = .ok results ∧ List.Forall₂ holds members results := by
  induction members with
  | nil => exact ⟨[], rfl, .nil⟩
  | cons member rest inductionHypothesis =>
      rw [List.forall_mem_cons] at found
      rcases found.1 with ⟨result, first, holding⟩
      rcases inductionHypothesis found.2 with ⟨results, others, related⟩
      exact
        ⟨result :: results, mapM_eq_ok.2 (.cons first (mapM_eq_ok.1 others)),
          .cons holding related⟩

/-- A list of steps that fails does so with the error of a member. -/
theorem exists_of_mapM_eq_error
    {Member Result : Type}
    {step : Member → Except Error Result}
    {members : List Member}
    {error : Error}
    (failed : members.mapM step = .error error) :
    ∃ member ∈ members, step member = .error error := by
  induction members with
  | nil => cases failed
  | cons member rest inductionHypothesis =>
      rw [List.mapM_cons] at failed
      cases first : step member with
      | error other =>
          rw [first] at failed
          cases failed
          exact ⟨member, List.mem_cons_self, first⟩
      | ok result =>
          cases others : rest.mapM step with
          | error other =>
              rw [first, others] at failed
              cases failed
              rcases inductionHypothesis others with ⟨later, isLater, found⟩
              exact ⟨later, List.mem_cons_of_mem _ isLater, found⟩
          | ok results =>
              rw [first, others] at failed
              cases failed

/-- Two steps that fail with one error or give related results. -/
inductive Accompanies
    {Result Other : Type}
    (related : Result → Other → Prop) :
    Except Error Result → Except Error Other → Prop
  | error (error : Error) : Accompanies related (.error error) (.error error)
  | ok
    {result : Result}
    {other : Other}
    (holds : related result other) :
    Accompanies related (.ok result) (.ok other)

namespace Accompanies

variable {Result Other Next OtherNext : Type}

theorem bind
    {between : Result → Other → Prop}
    {related : Next → OtherNext → Prop}
    {step : Except Error Result}
    {other : Except Error Other}
    {next : Result → Except Error Next}
    {otherNext : Other → Except Error OtherNext}
    (steps : Accompanies between step other)
    (nexts :
      ∀ result otherResult, between result otherResult →
        Accompanies related (next result) (otherNext otherResult)) :
    Accompanies related (step >>= next) (other >>= otherNext) := by
  cases steps with
  | error error => exact .error error
  | ok holds => exact nexts _ _ holds

/-- Lists of steps accompany each other if their members do; both lists of results are complete. -/
theorem mapM
    {Member : Type}
    {related : Member → Result → Other → Prop}
    {step : Member → Except Error Result}
    {other : Member → Except Error Other}
    {members : List Member}
    (each : ∀ member ∈ members, Accompanies (related member) (step member) (other member)) :
    Accompanies
      (fun results others =>
        List.Forall₂ (fun member result => step member = .ok result) members results ∧
          List.Forall₂ (fun member result => other member = .ok result) members others)
      (members.mapM step) (members.mapM other) := by
  induction members with
  | nil => exact .ok ⟨.nil, .nil⟩
  | cons member rest inductionHypothesis =>
      rcases List.forall_mem_cons.1 each with ⟨first, others⟩
      have later := inductionHypothesis others
      rw [List.mapM_cons, List.mapM_cons]
      generalize stepped : step member = outcome at first ⊢
      generalize otherStepped : other member = otherOutcome at first ⊢
      cases first with
      | error error => exact .error error
      | ok holds =>
          refine later.bind fun results otherResults complete => .ok ⟨?_, ?_⟩
          · exact .cons stepped complete.1
          · exact .cons otherStepped complete.2

end Accompanies

theorem exists_of_mem_forall₂
    {Member Result : Type}
    {related : Member → Result → Prop}
    {members : List Member}
    {results : List Result}
    (all : List.Forall₂ related members results)
    {result : Result}
    (inResults : result ∈ results) :
    ∃ member ∈ members, related member result := by
  rcases List.mem_iff_getElem.1 inResults with ⟨place, inside, rfl⟩
  have otherInside : place < members.length := all.length_eq ▸ inside
  exact ⟨members[place], List.getElem_mem otherInside, all.get otherInside inside⟩

theorem exists_forall₂
    {Member Result : Type}
    {related : Member → Result → Prop}
    {members : List Member}
    (each : ∀ member ∈ members, ∃ result, related member result) :
    ∃ results, List.Forall₂ related members results := by
  induction members with
  | nil => exact ⟨[], .nil⟩
  | cons member rest inductionHypothesis =>
      rcases List.forall_mem_cons.1 each with ⟨⟨result, isRelated⟩, others⟩
      rcases inductionHypothesis others with ⟨results, areRelated⟩
      exact ⟨result :: results, .cons isRelated areRelated⟩

/-- What holds of any two members of a list holds of what corresponds to them. -/
theorem pairwise_of_forall₂
    {Member Result : Type}
    {different : Member → Member → Prop}
    {apart : Result → Result → Prop}
    {related : Member → Result → Prop}
    {members : List Member}
    {results : List Result}
    (pairwise : members.Pairwise different)
    (all : List.Forall₂ related members results)
    (separates :
      ∀ left ∈ members, ∀ right ∈ members, ∀ first second,
        different left right → related left first → related right second →
        apart first second) :
    results.Pairwise apart := by
  induction all with
  | nil => exact .nil
  | @cons member result members results head tail inductionHypothesis =>
      rcases List.pairwise_cons.1 pairwise with ⟨fromFirst, rest⟩
      refine List.pairwise_cons.2 ⟨fun other inResults => ?_, ?_⟩
      · rcases exists_of_mem_forall₂ tail inResults with ⟨later, member, related⟩
        exact
          separates _ (.head _) _ (.tail _ member) _ _ (fromFirst _ member) head related
      · exact
          inductionHypothesis rest fun left inLeft right inRight =>
            separates left (.tail _ inLeft) right (.tail _ inRight)

end Versor
