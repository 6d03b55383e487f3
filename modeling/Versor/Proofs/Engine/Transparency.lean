import Versor.Projective.Library
import Versor.Proofs.Engine.Requests
import Versor.Proofs.Program.Execution
import Versor.Proofs.Program.Repetition

/-!
# Kept programs are programs as they would be built

In a run, functions are compiled and computed with under any settings and for
any entities, an engine is cleared, the configuration is replaced, and the
workspace goes on elsewhere, while callers leave one limits or others.  Every
program that an engine keeps for a function originates in an earlier compilation
for entities of the structures that it is kept under (`World.Faithful`).  If the
function is closed, a program that the engine hands out is therefore the one that
would be built at that moment, by any caller who leaves room for it
(`World.Run.isTransparent`).
-/

namespace Versor

variable {Number : Type}

/-- The functions of the library refer to their arguments only. -/
theorem LibraryFunction.isClosed
    (function : LibraryFunction) :
    function.toFunction.IsClosed Number := by
  apply Function.isClosed_of_within
  cases function <;> simp [toFunction, body, Formula.Within]

variable [Arithmetic Number]

/-- A request to compile loses nothing of the workspace. -/
theorem Compute.Compiled.leads
    {settings : Config}
    {function : Function}
    {entities : List (Entity Number)}
    {context behind : Context Number}
    {graph : Set Expr}
    {result : Except Error (Program Number)}
    (compiled : Compiled settings function entities context result behind)
    (sound : context.workspace.Sound graph)
    (within : function.body.Within (.existing graph)) :
    context.workspace.Leads graph behind.workspace := by
  cases compiled with
  | unsigned | hit => exact sound.leads
  | missed _ signed _ built | failed _ signed _ built | unkept _ signed built =>
      exact (Function.build_leads sound within signed settings.checksBindings).of_outcome built

/-- A context, and the expressions that functions may have captured in it. -/
structure World (Number : Type) where
  context : Context Number
  graph : Set Expr

namespace World

open Compute

/-- What can happen next to an engine when callers use the functions of a library. -/
inductive Step
    (library : Set Function)
    (callers : Set Limits) :
    World Number → World Number → Prop
  | compile
    (world : World Number)
    (settings : Config)
    {function : Function}
    (member : function ∈ library)
    (captured : function.body.Within (.existing world.graph))
    (entities : List (Entity Number)) :
    Step library callers world
      { world with
        context := (outcome (compileWith settings function entities) world.context).2 }
  | compute
    (world : World Number)
    (settings : Config)
    {function : Function}
    (member : function ∈ library)
    (captured : function.body.Within (.existing world.graph))
    (entities : List (Entity Number)) :
    Step library callers world
      { world with
        context := (outcome (computeWith settings function entities) world.context).2 }
  | clear
    (world : World Number) :
    Step library callers world
      { world with context := (outcome (modifyEngine Engine.clear) world.context).2 }
  | configure
    (world : World Number)
    (config : Config) :
    Step library callers world { world with context.config := config }
  /-- Expressions are built or reduced, or other engines are used, before another caller's turn. -/
  | elsewhere
    (world : World Number)
    {limits : Limits}
    (leaves : limits ∈ callers)
    {workspace : Workspace}
    {graph : Set Expr}
    (included : world.graph ⊆ graph)
    (leads : (world.context.workspace.under limits).Leads graph workspace) :
    Step library callers world ⟨{ world.context with workspace := workspace }, graph⟩

/-- Any number of steps, in any order. -/
abbrev Run
    (library : Set Function)
    (callers : Set Limits) :
    World Number → World Number → Prop :=
  Relation.ReflTransGen (Step library callers)

/-! ## The origin of kept programs -/

/-- A program was made of a function earlier, for entities of given structures. -/
inductive Originates
    (function : Function)
    (callers : Set Limits)
    (world : World Number)
    (structures : List Signature)
    (program : Program Number) :
    Prop
  | intro
    {graph : Set Expr}
    {earlier behind : Workspace}
    {entities : List (Entity Number)}
    {signatures : List Signature}
    {validate : Bool}
    (included : graph ⊆ world.graph)
    (leaves : earlier.limits ∈ callers)
    (sound : earlier.Sound graph)
    (extended : earlier.Extends (world.context.workspace.under earlier.limits))
    (captured : function.body.Within (.existing graph))
    (signed : Signed entities signatures)
    (same : signatures.map Signature.plain = structures)
    (built : Build.outcome (function.build entities validate) earlier = (.ok program, behind))

theorem Originates.later
    {function : Function}
    {callers : Set Limits}
    {world later : World Number}
    {structures : List Signature}
    {program : Program Number}
    (originates : Originates function callers world structures program)
    (included : world.graph ⊆ later.graph)
    {limits : Limits}
    (extended : (world.context.workspace.under limits).Extends later.context.workspace) :
    Originates function callers later structures program := by
  rcases originates with
    ⟨earlierIncluded, leaves, sound, earlierExtended, captured, signed, same, built⟩
  exact
    ⟨earlierIncluded.trans included, leaves, sound, earlierExtended.trans (extended.under _),
      captured, signed, same, built⟩

/-- The workspace is sound, and what is kept for a function has been made of it. -/
structure Faithful
    (function : Function)
    (callers : Set Limits)
    (world : World Number) :
    Prop where
  leaves : world.context.limits ∈ callers
  sound : world.context.workspace.Sound world.graph
  origin :
    ∀ entry ∈ world.context.engine.programs, entry.1.function = function.key →
      Originates function callers world entry.1.signatures entry.2

namespace Faithful

variable {function other : Function} {callers : Set Limits} {world : World Number}

/-- What is kept later has been kept before or has been made on the way. -/
theorem later
    (faithful : Faithful function callers world)
    {later : World Number}
    (included : world.graph ⊆ later.graph)
    {limits : Limits}
    (leaves : limits ∈ callers)
    (leads :
      (world.context.workspace.under limits).Leads later.graph later.context.workspace)
    (kept :
      ∀ entry ∈ later.context.engine.programs, entry ∈ world.context.engine.programs ∨
        (entry.1.function = function.key →
          Originates function callers later entry.1.signatures entry.2)) :
    Faithful function callers later where
  leaves := Set.mem_of_eq_of_mem leads.extended.limits leaves
  sound := leads.sound
  origin entry member same := by
    rcases kept entry member with before | made
    · exact (faithful.origin entry before same).later included leads.extended
    · exact made same

/-- The same caller goes on with a context that keeps no other programs, or has made them. -/
theorem next
    (faithful : Faithful function callers world)
    {behind : Context Number}
    (leads : world.context.workspace.Leads world.graph behind.workspace)
    (kept :
      ∀ entry ∈ behind.engine.programs, entry ∈ world.context.engine.programs ∨
        (entry.1.function = function.key →
          Originates function callers { world with context := behind } entry.1.signatures
            entry.2)) :
    Faithful function callers { world with context := behind } :=
  faithful.later subset_rfl faithful.leaves leads kept

/-- A request to compile keeps no program that was not made of its function. -/
theorem compiled
    (faithful : Faithful function callers world)
    (captured : other.body.Within (.existing world.graph))
    (only : other.key = function.key → other = function)
    {settings : Config}
    {entities : List (Entity Number)}
    {result : Except Error (Program Number)}
    {behind : Context Number}
    (compiled : Compiled settings other entities world.context result behind) :
    Faithful function callers { world with context := behind } := by
  have building (signatures : List Signature) (result : Except Error (Program Number))
      (workspace : Workspace)
      (signed : Signed entities signatures)
      (built :
        Build.outcome (other.build entities settings.checksBindings) world.context.workspace =
          (result, workspace)) :
      world.context.workspace.Leads world.graph workspace :=
    (Function.build_leads faithful.sound captured signed
      settings.checksBindings).of_outcome built
  cases compiled with
  | unsigned => exact faithful
  | hit hashable signed found =>
      refine faithful.next faithful.sound.leads fun entry member => .inl ?_
      exact Engine.mem_of_mem_recordHit found member
  | @missed signatures program workspace hashable signed absent built =>
      have leads := building _ _ _ signed built
      refine faithful.next leads fun entry member => ?_
      rcases Engine.mem_of_mem_insert member with rfl | before
      · refine .inr fun same => ?_
        cases only same
        exact
          .intro subset_rfl faithful.leaves faithful.sound (leads.extended.under _) captured
            signed rfl built
      · exact .inl before
  | failed hashable signed absent built =>
      exact faithful.next (building _ _ _ signed built) fun _ member => .inl member
  | unkept unhashable signed built =>
      exact faithful.next (building _ _ _ signed built) fun _ member => .inl member

/-- Running a program keeps no program. -/
theorem executed
    (faithful : Faithful function callers world)
    (program : Program Number)
    (entities : List (Entity Number)) :
    Faithful function callers
      { world with context := (outcome (execute program entities) world.context).2 } := by
  rw [outcome_execute]
  split
  · exact faithful.next faithful.sound.leads_advanced fun _ member => .inl member
  · exact faithful

/-- Whatever happens, what is kept for a function has been made of it. -/
theorem step
    {library : Set Function}
    (only : ∀ other ∈ library, other.key = function.key → other = function)
    (faithful : Faithful function callers world)
    {later : World Number}
    (step : Step library callers world later) :
    Faithful function callers later := by
  cases step with
  | @compile settings other member captured entities =>
      exact
        faithful.compiled captured (only other member)
          (compiled_outcome settings other entities world.context)
  | @compute settings other member captured entities =>
      have compiled :=
        faithful.compiled captured (only other member)
          (compiled_outcome settings other entities world.context)
      rw [computeWith, outcome_bind]
      generalize outcome (compileWith settings other entities) world.context = reached at *
      rcases reached with ⟨result, behind⟩
      cases result with
      | error error => exact compiled
      | ok program => exact compiled.executed program entities
  | clear =>
      refine faithful.next faithful.sound.leads fun entry member => ?_
      cases member
  | configure config =>
      exact faithful.next faithful.sound.leads fun _ member => .inl member
  | elsewhere leaves included leads =>
      exact faithful.later included leaves leads fun _ member => .inl member

/-- In every run, what is kept for a function has been made of it. -/
theorem run
    {library : Set Function}
    (only : ∀ other ∈ library, other.key = function.key → other = function)
    (faithful : Faithful function callers world)
    {later : World Number}
    (run : Run library callers world later) :
    Faithful function callers later := by
  induction run with
  | refl => exact faithful
  | tail _ step inductionHypothesis => exact inductionHypothesis.step only step

/-! ## What an engine hands out -/

/-- A program that is handed out was made of the function. -/
theorem originates
    (faithful : Faithful function callers world)
    (captured : function.body.Within (.existing world.graph))
    {entities : List (Entity Number)}
    {settings : Config}
    {program : Program Number}
    {behind : Context Number}
    (compiled : Compiled settings function entities world.context (.ok program) behind) :
    ∃ signatures, Signed entities signatures ∧
      Originates function callers world (signatures.map Signature.plain) program := by
  have atOnce (signatures : List Signature) (workspace : Workspace)
      (signed : Signed entities signatures)
      (built :
        Build.outcome (function.build entities settings.checksBindings)
            world.context.workspace =
          (.ok program, workspace)) :
      Originates function callers world (signatures.map Signature.plain) program :=
    .intro subset_rfl faithful.leaves faithful.sound (.refl _) captured signed rfl built
  cases compiled with
  | hit hashable signed found =>
      exact ⟨_, signed, faithful.origin _ (Engine.mem_of_find? found) rfl⟩
  | missed hashable signed absent built => exact ⟨_, signed, atOnce _ _ signed built⟩
  | unkept unhashable signed built => exact ⟨_, signed, atOnce _ _ signed built⟩

end Faithful

end World

/--
What building a function comes to, whoever calls: a program with a property, or the stack
that is left does not suffice.  It suffices for some of the callers, so for all of them if
they leave the same limits.
-/
structure Function.Remakes
    (function : Function)
    (entities : List (Entity Number))
    (validate : Bool)
    (callers : Set Limits)
    (workspace : Workspace)
    (holds : Program Number → Prop) :
    Prop where
  enough :
    ∃ limits ∈ callers, ∃ fresh last,
      Build.outcome (function.build entities validate) (workspace.under limits) =
        (.ok fresh, last)
  made :
    ∀ limits,
      (∃ fresh last,
          Build.outcome (function.build entities validate) (workspace.under limits) =
              (.ok fresh, last) ∧
            holds fresh) ∨
        ∃ last,
          Build.outcome (function.build entities validate : Build (Program Number))
              (workspace.under limits) =
            (.error .nestedTooDeeply, last)

theorem Function.Remakes.mono
    {function : Function}
    {entities : List (Entity Number)}
    {validate : Bool}
    {callers : Set Limits}
    {workspace : Workspace}
    {holds weaker : Program Number → Prop}
    (remakes : function.Remakes entities validate callers workspace holds)
    (weakens : ∀ program, holds program → weaker program) :
    function.Remakes entities validate callers workspace weaker where
  enough := remakes.enough
  made limits := by
    rcases remakes.made limits with ⟨fresh, last, made, holding⟩ | tooDeep
    · exact .inl ⟨fresh, last, made, weakens fresh holding⟩
    · exact .inr tooDeep

namespace World

open Compute

variable {function : Function} {callers : Set Limits} {world : World Number}

/-- A program that is handed out would be built at once, with or without a check of bindings. -/
theorem Faithful.remakes
    (faithful : Faithful function callers world)
    (closed : function.IsClosed Number)
    (captured : function.body.Within (.existing world.graph))
    {entities : List (Entity Number)}
    (identified : Identified entities)
    {settings : Config}
    {program : Program Number}
    {behind : Context Number}
    (compiled : Compiled settings function entities world.context (.ok program) behind)
    (validate : Bool) :
    function.Remakes entities validate callers world.context.workspace program.Same := by
  rcases faithful.originates captured compiled with ⟨signatures, signed, originates⟩
  rcases originates with ⟨included, leaves, sound, extended, within, earlierSigned, same, built⟩
  have again (limits : Limits) :=
    Function.build_again sound (faithful.sound.under limits) included extended closed within
      earlierSigned signed same built identified validate
  constructor
  · refine ⟨_, leaves, ?_⟩
    rcases again _ with ⟨fresh, last, made, _⟩ | ⟨differs, _⟩
    · exact ⟨fresh, last, made⟩
    · exact absurd rfl differs
  · exact fun limits => (again limits).imp_right And.right

/--
What comes of a function and entities in a context: a program and a result are those of
a program that would be built at that moment, and there is a program if one can be built.
-/
structure IsTransparent
    (function : Function)
    (callers : Set Limits)
    (context : Context Number)
    (settings : Config)
    (entities : List (Entity Number)) :
    Prop where
  compiled :
    ∀ program,
      (outcome (compileWith settings function entities) context).1 = .ok program →
      ∀ validate,
        function.Remakes entities validate callers context.workspace program.Same
  compiles :
    ∀ fresh last,
      Build.outcome (function.build entities settings.checksBindings) context.workspace =
        (.ok fresh, last) →
      ∃ program, (outcome (compileWith settings function entities) context).1 = .ok program
  computed :
    ∀ result,
      (outcome (computeWith settings function entities) context).1 = .ok result →
      ∀ validate,
        function.Remakes entities validate callers context.workspace fun fresh =>
          fresh.stored context.limits.capacity context.config.elementType entities =
              .ok result.storage ∧
            result.layout.plain = fresh.layout.plain

/--
At any moment of a run, an engine that kept nothing at its start hands out the program of
a closed function that would be built for the entities at that moment.
-/
theorem Run.isTransparent
    {library : Set Function}
    {start : World Number}
    (run : Run library callers start world)
    (leaves : start.context.limits ∈ callers)
    (nothingKept : start.context.engine.programs = [])
    (sound : start.context.workspace.Sound start.graph)
    (only : ∀ other ∈ library, other.key = function.key → other = function)
    (closed : function.IsClosed Number)
    (captured : function.body.Within (.existing world.graph))
    {entities : List (Entity Number)}
    (identified : Identified entities)
    (settings : Config) :
    IsTransparent function callers world.context settings entities := by
  have atStart : Faithful function callers start :=
    ⟨leaves, sound, by simp [nothingKept]⟩
  have faithful := atStart.run only run
  have compiled := compiled_outcome settings function entities world.context
  have leads := compiled.leads faithful.sound captured
  refine
    { compiled := fun program found validate => ?_
      compiles := fun fresh last built => exists_compiled_of_build built
      computed := fun result found validate => ?_ }
  · rw [found] at compiled
    exact faithful.remakes closed captured identified compiled validate
  · rw [computeWith, outcome_bind] at found
    generalize outcome (compileWith settings function entities) world.context = reached
      at compiled leads found
    rcases reached with ⟨handedOut, behind⟩
    cases handedOut with
    | error error => cases found
    | ok program =>
        have sameLimits : behind.limits = world.context.limits := leads.extended.limits
        have remakes := faithful.remakes closed captured identified compiled validate
        refine remakes.mono fun fresh same => ?_
        dsimp only at found
        rw [outcome_execute, compiled.config, sameLimits] at found
        cases stored :
          program.stored world.context.limits.capacity world.context.config.elementType
            entities with
        | error error =>
            rw [stored] at found
            cases found
        | ok storage =>
            rw [stored] at found
            cases found
            exact ⟨same.stored stored, same.layout⟩

/-- A point. -/
def onePoint : Entity ℚ :=
  ⟨0, .point, ⟨.float64, [3], #[1, 2, 3]⟩⟩

/-- A batch of two points. -/
def twoPoints : Entity ℚ :=
  ⟨1, .point, ⟨.float64, [2, 3], #[1, 2, 3, 4, 5, 6]⟩⟩

/-- A context in which two entities have been made and nothing has been compiled. -/
def untouched : World ℚ :=
  ⟨⟨.empty, .default, ⟨2, [], .usual⟩⟩, ∅⟩

/-- A program that was made for one point is found again for two of them. -/
theorem isTransparent_reverse :
    let reverse := LibraryFunction.reverse.toFunction
    let context := (outcome (compileWith .default reverse [onePoint]) untouched.context).2
    (outcome (compileWith .default reverse [twoPoints]) context).2.engine.hits = 1 ∧
      IsTransparent reverse {.usual} context .default [twoPoints] := by
  intro reverse context
  have run : Run {reverse} {.usual} untouched { untouched with context := context } :=
    .single (.compile untouched .default (Set.mem_singleton reverse) trivial [onePoint])
  have identified : Identified [twoPoints] := by
    intro entity member other otherMember _
    rw [List.mem_singleton.1 member, List.mem_singleton.1 otherMember]
  exact
    ⟨by decide +kernel,
      run.isTransparent rfl rfl (Workspace.sound_empty 2 .usual) (fun _ member _ => member)
        LibraryFunction.reverse.isClosed trivial identified .default⟩

end World
end Versor
