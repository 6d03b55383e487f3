import Versor.Proofs.Engine.History
import Versor.Proofs.Engine.Transparency

/-!
# How many programs an engine keeps

A request adds a program only where it is a miss, and only then are programs dropped
(`Engine.Sized`).  The number of kept programs is therefore bounded by the largest
bound in force at a request since the engine was made or cleared
(`History.capacity`), which need not be the one in force now.
-/

namespace Versor

variable {Number : Type}

/-! ## Requests -/

namespace Engine

/-- How many programs an engine keeps behind a request. -/
structure Sized
    (settings : Config)
    (key? : Option CacheKey)
    (engine : Engine Number)
    (result : Except Error (Program Number))
    (behind : Engine Number) :
    Prop where
  added :
    settings.keepsPrograms = true →
      ∀ program, result = .ok program → ∀ key ∈ key?, key ∉ engine.keys →
        behind.programs.length =
          min (settings.programBound?.getD (engine.programs.length + 1))
            (engine.programs.length + 1)
  unchanged :
    (settings.keepsPrograms = true →
        ∀ program, result = .ok program → ∀ key ∈ key?, key ∈ engine.keys) →
      behind.programs.length = engine.programs.length

variable
  {settings : Config}
  {key? : Option CacheKey}
  {engine behind : Engine Number}
  {result : Except Error (Program Number)}

theorem Answer.sized
    (answer : Answer settings key? engine result behind)
    (distinct : engine.keys.Nodup) :
    Sized settings key? engine result behind := by
  cases answer with
  | unkept nameless => exact ⟨by simp [nameless], fun _ => rfl⟩
  | @hit key program asked found =>
      have kept := mem_keys_of_find? found
      refine ⟨fun _ _ _ other same absent => ?_, fun _ => ?_⟩
      · cases asked.symm.trans same
        exact absurd kept absent
      · have positive := List.length_pos_of_mem kept
        rw [← length_keys, keys_recordHit distinct, List.length_cons,
          List.length_erase_of_mem kept, ← length_keys]
        omega
  | @missed key program asked absent =>
      have notKept := find?_eq_none_iff.1 absent
      rw [← keys_recordMiss] at distinct
      refine ⟨fun keeps _ _ _ _ _ => ?_, fun others => ?_⟩
      · rw [← length_keys, keys_insert distinct keeps, List.length_take, List.length_cons,
          keys_recordMiss, List.erase_of_not_mem notKept, length_keys]
      · have keepsNone : settings.keepsPrograms = false :=
          Bool.eq_false_iff.2 fun keeps => notKept (others keeps program rfl key asked)
        rw [insert_of_not_keepsPrograms keepsNone]
        rfl
  | failed asked absent => exact ⟨fun _ _ failed => (by cases failed), fun _ => rfl⟩

/-- No request exceeds both the bound in force and the number of programs before it. -/
theorem Sized.length_le
    (sized : Sized settings key? engine result behind)
    {limit bound : Nat}
    (bounded : settings.programBound? = some limit)
    (noLarger : limit ≤ bound)
    (before : engine.programs.length ≤ bound) :
    behind.programs.length ≤ bound := by
  by_cases others :
    settings.keepsPrograms = true →
      ∀ program, result = .ok program → ∀ key ∈ key?, key ∈ engine.keys
  · exact (sized.unchanged others).trans_le before
  · push Not at others
    rcases others with ⟨keeps, program, handedOut, key, asked, absent⟩
    rw [sized.added keeps program handedOut key asked absent, bounded]
    exact (min_le_left _ _).trans noLarger

end Engine

/-! ## Histories -/

open Compute

variable [Arithmetic Number] {calls : List Call} {context : Context Number} {bound : Nat}

/-- No more programs are kept than the largest bound since the engine was made or cleared. -/
theorem History.length_le
    (history : History calls context)
    (noLarger : ∀ call ∈ calls, ∃ limit ≤ bound, call.settings.programBound? = some limit) :
    context.engine.programs.length ≤ bound := by
  refine
    (history.induct
      (motive := fun calls engine =>
        engine.keys.Nodup ∧
          ((∀ call ∈ calls, ∃ limit ≤ bound, call.settings.programBound? = some limit) →
            engine.programs.length ≤ bound))
      ⟨List.nodup_nil, fun _ => Nat.zero_le bound⟩ ?_).2 noLarger
  intro calls engine call result behind ⟨distinct, inductionHypothesis⟩ answer _
  refine ⟨answer.distinct distinct, fun noLarger => ?_⟩
  rw [List.forall_mem_cons] at noLarger
  rcases noLarger with ⟨⟨limit, isSmall, bounded⟩, others⟩
  exact (answer.sized distinct).length_le bounded isSmall (inductionHypothesis others)

/-- What follows for an engine from a bound on the programs that requests had room for. -/
structure Bounded
    (bound : Nat)
    (context : Context Number) :
    Prop where
  length_le : context.engine.programs.length ≤ bound
  sized :
    ∀ settings function entities,
      Engine.Sized settings (function.cacheKey? entities) context.engine
        (outcome (compileWith settings function entities) context).1
        (outcome (compileWith settings function entities) context).2.engine
  missed :
    bound = 0 → ∀ settings function entities, ∀ key ∈ function.cacheKey? entities,
      (outcome (compileWith settings function entities) context).2.engine.hits =
          context.engine.hits ∧
        (outcome (compileWith settings function entities) context).2.engine.misses =
          context.engine.misses + 1

/--
No more programs are kept than the largest bound in force at a request since the engine
was made or cleared.  A request adds at most one program, drops those beyond its own
bound only where it adds one, and is a miss where the bounds have all been zero.
-/
theorem History.capacity
    (history : History calls context)
    (noLarger : ∀ call ∈ calls, ∃ limit ≤ bound, call.settings.programBound? = some limit) :
    Bounded bound context where
  length_le := history.length_le noLarger
  sized settings function entities :=
    (compiled_outcome settings function entities context).answer.sized history.distinct
  missed isZero settings function entities key asked := by
    have nothingKept : context.engine.programs = [] :=
      List.length_eq_zero_iff.1 (Nat.le_zero.1 (isZero ▸ history.length_le noLarger))
    have answered := (compiled_outcome settings function entities context).answer.answeredBy
    exact answered.miss key asked (by simp [Engine.keys, nothingKept])

/-- The default configuration with room for no program. -/
def withoutPrograms : Config :=
  { Config.default with cacheSize := .number (.integer 0) }

/-- Where there has been room for no program, none is kept. -/
theorem capacity_withoutPrograms :
    let reverse := LibraryFunction.reverse.toFunction
    let start := World.untouched.context
    let context := (outcome (compileWith withoutPrograms reverse [World.onePoint]) start).2
    let calls : List Call := [.request withoutPrograms reverse [World.onePoint] start]
    History calls context ∧
      (∀ call ∈ calls, ∃ limit ≤ 0, call.settings.programBound? = some limit) ∧
      Bounded 0 context := by
  intro reverse start context calls
  have history : History calls context :=
    (History.start _ _).compile withoutPrograms reverse [World.onePoint]
  have noLarger : ∀ call ∈ calls, ∃ limit ≤ 0, call.settings.programBound? = some limit := by
    intro call member
    cases List.mem_singleton.1 member
    exact ⟨0, le_rfl, rfl⟩
  exact ⟨history, noLarger, history.capacity noLarger⟩

/-- A program stays and is found again when there is room for none any more. -/
theorem capacity_exceeded :
    let reverse := LibraryFunction.reverse.toFunction
    let start := World.untouched.context
    let kept := (outcome (Compute.compile reverse [World.onePoint]) start).2
    let between : Context ℚ := ⟨kept.engine, withoutPrograms, kept.workspace⟩
    let context := (outcome (Compute.compile reverse [World.onePoint]) between).2
    (∃ calls, History calls context) ∧
      context.config.programBound? = some 0 ∧
      (context.engine.info context.config).hits = 1 ∧
      (context.engine.info context.config).size = 1 := by
  intro reverse start kept between context
  have history := (History.start .default ⟨2, [], .usual⟩).compileInForce reverse [World.onePoint]
  have shrunk := history.elsewhere withoutPrograms kept.workspace
  exact ⟨⟨_, shrunk.compileInForce reverse [World.onePoint]⟩, by decide +kernel⟩

end Versor
