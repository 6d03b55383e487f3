import Versor.Proofs.Engine.Requests

/-!
# What an engine has been asked

A request to compile looks for a program under a key (`Function.cacheKey?`), and
an engine answers it in one of four ways (`Engine.Answer`).  A history lists the
requests that an engine has had since it was made or cleared (`History`), whatever
happened in between to the configuration and elsewhere in the workspace.
-/

namespace Versor

variable {Number : Type}

/-- What a program of a function for entities is kept under, if it can be kept. -/
def Function.cacheKey?
    (function : Function)
    (entities : List (Entity Number)) :
    Option CacheKey :=
  match entities.mapM Entity.signature with
  | .error _ => none
  | .ok signatures =>
      if function.isHashable then
        some ⟨function.key, signatures.map Signature.plain⟩
      else none

namespace Function

variable {function : Function} {entities : List (Entity Number)} {signatures : List Signature}

theorem cacheKey?_of_signed
    (hashable : function.isHashable = true)
    (signed : Signed entities signatures) :
    function.cacheKey? entities = some ⟨function.key, signatures.map Signature.plain⟩ := by
  simp only [cacheKey?, mapM_eq_ok.2 signed, hashable, if_true]

theorem cacheKey?_of_unhashable
    (unhashable : function.isHashable = false) :
    function.cacheKey? entities = none := by
  unfold cacheKey?
  split
  · rfl
  · simp [unhashable]

theorem cacheKey?_of_unsigned
    {error : Error}
    (failed : entities.mapM Entity.signature = .error error) :
    function.cacheKey? entities = none := by
  simp only [cacheKey?, failed]

end Function

/-! ## Answers -/

namespace Engine

variable {engine : Engine Number} {key : CacheKey} {program : Program Number}

/-- The keys of the kept programs, the most recently used one first. -/
def keys
    (engine : Engine Number) :
    List CacheKey :=
  engine.programs.map Prod.fst

@[simp]
theorem length_keys
    (engine : Engine Number) :
    engine.keys.length = engine.programs.length :=
  List.length_map _

/-- Nothing is found under a key if nothing is kept under it. -/
theorem find?_eq_none_iff :
    engine.find? key = none ↔ key ∉ engine.keys := by
  simp only [find?, keys, List.lookup_eq_none_iff, List.mem_map, bne_iff_ne]
  grind

theorem mem_keys_of_find?
    (found : engine.find? key = some program) :
    key ∈ engine.keys :=
  List.mem_map_of_mem (mem_of_find? found)

theorem keys_recordMiss
    (engine : Engine Number) :
    engine.recordMiss.keys = engine.keys :=
  rfl

/-- A program that comes to the front takes its key there. -/
theorem keys_moved
    (distinct : engine.keys.Nodup)
    (key : CacheKey)
    (program : Program Number) :
    ((key, program) :: without key engine.programs).map Prod.fst =
      key :: engine.keys.erase key := by
  rw [distinct.erase_eq_filter, keys, List.filter_map, without, List.map_cons]
  congr 2
  refine List.filter_congr fun kept _ => ?_
  by_cases same : kept.1 = key <;> simp [same]

theorem keys_recordHit
    (distinct : engine.keys.Nodup)
    (key : CacheKey)
    (program : Program Number) :
    (engine.recordHit key program).keys = key :: engine.keys.erase key :=
  keys_moved distinct key program

/-- A program that is kept comes to the front, and those beyond the bound are dropped. -/
theorem keys_insert
    {settings : Config}
    (distinct : engine.keys.Nodup)
    (keeps : settings.keepsPrograms = true)
    (key : CacheKey)
    (program : Program Number) :
    (engine.insert settings key program).keys =
      (key :: engine.keys.erase key).take
        (settings.programBound?.getD (engine.keys.length + 1)) := by
  have moved := keys_moved distinct key program
  rw [insert, if_pos keeps]
  cases settings.programBound? with
  | some bound => exact List.map_take.trans (congrArg (List.take bound) moved)
  | none =>
      have room : (key :: engine.keys.erase key).length ≤ engine.keys.length + 1 :=
        Nat.succ_le_succ List.length_erase_le
      exact moved.trans (List.take_of_length_le room).symm

theorem insert_of_not_keepsPrograms
    {settings : Config}
    (keepsNone : settings.keepsPrograms = false) :
    engine.insert settings key program = engine := by
  simp [insert, keepsNone]

@[simp]
theorem hits_insert
    (settings : Config) :
    (engine.insert settings key program).hits = engine.hits := by
  unfold insert
  split <;> rfl

@[simp]
theorem misses_insert
    (settings : Config) :
    (engine.insert settings key program).misses = engine.misses := by
  unfold insert
  split <;> rfl

/-- What an engine answers to a request under a key, and the engine behind it. -/
inductive Answer
    (settings : Config)
    (key? : Option CacheKey)
    (engine : Engine Number) :
    Except Error (Program Number) → Engine Number → Prop
  | unkept
    (nameless : key? = none)
    (result : Except Error (Program Number)) :
    Answer settings key? engine result engine
  | hit
    {key : CacheKey}
    {program : Program Number}
    (asked : key? = some key)
    (found : engine.find? key = some program) :
    Answer settings key? engine (.ok program) (engine.recordHit key program)
  | missed
    {key : CacheKey}
    {program : Program Number}
    (asked : key? = some key)
    (absent : engine.find? key = none) :
    Answer settings key? engine (.ok program) (engine.recordMiss.insert settings key program)
  | failed
    {key : CacheKey}
    {error : Error}
    (asked : key? = some key)
    (absent : engine.find? key = none) :
    Answer settings key? engine (.error error) engine.recordMiss

variable
  {settings : Config}
  {key? : Option CacheKey}
  {result : Except Error (Program Number)}
  {behind : Engine Number}

/-- Every request under a key is counted once, as a hit or as a miss. -/
theorem Answer.counted
    (answer : Answer settings key? engine result behind) :
    behind.hits + behind.misses =
      engine.hits + engine.misses + if key?.isSome then 1 else 0 := by
  cases answer with
  | unkept nameless => simp [nameless]
  | hit asked _ => simp [asked, recordHit, Nat.add_right_comm]
  | missed asked _ => simp [asked, recordMiss, Nat.add_assoc]
  | failed asked _ => simp [asked, recordMiss, Nat.add_assoc]

/-- What an engine in which given keys are found answers to a request. -/
structure AnsweredBy
    (found : List CacheKey)
    (key? : Option CacheKey)
    (engine : Engine Number)
    (result : Except Error (Program Number))
    (behind : Engine Number) :
    Prop where
  hit :
    ∀ key ∈ key?, key ∈ found →
      (∃ program, engine.find? key = some program ∧ result = .ok program) ∧
        behind.hits = engine.hits + 1 ∧ behind.misses = engine.misses
  miss :
    ∀ key ∈ key?, key ∉ found →
      behind.hits = engine.hits ∧ behind.misses = engine.misses + 1
  failure :
    ∀ key ∈ key?, ∀ error, result = .error error →
      behind = { engine with misses := engine.misses + 1 }
  unkept : key? = none → behind = engine

/-- A request is a hit exactly if its key is kept. -/
theorem Answer.answeredBy
    (answer : Answer settings key? engine result behind) :
    AnsweredBy engine.keys key? engine result behind := by
  cases answer with
  | unkept nameless =>
      subst nameless
      exact ⟨by simp, by simp, by simp, fun _ => rfl⟩
  | @hit key program asked found =>
      subst asked
      refine
        { hit := fun _ same _ => ?_
          miss := fun _ same absent => ?_
          failure := fun _ _ _ failed => by cases failed
          unkept := fun nameless => by cases nameless }
      · cases same
        exact ⟨⟨program, found, rfl⟩, rfl, rfl⟩
      · cases same
        exact absurd (mem_keys_of_find? found) absent
  | @missed key program asked absent =>
      subst asked
      refine
        { hit := fun _ same member => ?_
          miss := fun _ _ _ => ⟨hits_insert _, misses_insert _⟩
          failure := fun _ _ _ failed => by cases failed
          unkept := fun nameless => by cases nameless }
      cases same
      exact absurd member (find?_eq_none_iff.1 absent)
  | @failed key error asked absent =>
      subst asked
      refine
        { hit := fun _ same member => ?_
          miss := fun _ _ _ => ⟨rfl, rfl⟩
          failure := fun _ _ _ _ => rfl
          unkept := fun nameless => by cases nameless }
      cases same
      exact absurd member (find?_eq_none_iff.1 absent)

/-- An answer keeps at most one program under a key. -/
theorem Answer.distinct
    (answer : Answer settings key? engine result behind)
    (before : engine.keys.Nodup) :
    behind.keys.Nodup := by
  have moved (key : CacheKey) : (key :: engine.keys.erase key).Nodup :=
    List.nodup_cons.2 ⟨before.not_mem_erase, before.erase key⟩
  cases answer with
  | unkept => exact before
  | hit asked found =>
      rw [keys_recordHit before]
      exact moved _
  | missed asked absent =>
      by_cases keeps : settings.keepsPrograms = true
      · rw [← keys_recordMiss] at before
        rw [keys_insert before keeps]
        exact (moved _).sublist (List.take_sublist _ _)
      · rw [insert_of_not_keepsPrograms (Bool.eq_false_iff.2 keeps)]
        exact before
  | failed => exact before

/-- An answer keeps no program but the one that it gives. -/
theorem Answer.mem_keys
    (answer : Answer settings key? engine result behind)
    (kept : key ∈ behind.keys) :
    key ∈ engine.keys ∨ key? = some key ∧ ∃ program, result = .ok program := by
  rcases List.mem_map.1 kept with ⟨entry, member, rfl⟩
  cases answer with
  | unkept => exact .inl kept
  | hit asked found => exact .inl (List.mem_map_of_mem (mem_of_mem_recordHit found member))
  | missed asked absent =>
      rcases mem_of_mem_insert member with rfl | before
      · exact .inr ⟨asked, _, rfl⟩
      · exact .inl (List.mem_map_of_mem before)
  | failed => exact .inl kept

end Engine

/-! ## Calls -/

/-- A request to compile, as an engine sees it. -/
structure Call where
  settings : Config
  /-- What a program is looked for under, if one can be kept. -/
  key? : Option CacheKey
  succeeds : Bool

namespace Call

/-- The key under which a request found a program or had one built. -/
def used?
    (call : Call) :
    Option CacheKey :=
  if call.succeeds then call.key? else none

variable {call : Call}

theorem used?_of_ok
    {program : Program Number}
    (succeeds : call.succeeds = (Except.ok program : Except Error (Program Number)).isOk) :
    call.used? = call.key? :=
  if_pos succeeds

theorem used?_of_error
    {error : Error}
    (succeeds : call.succeeds = (Except.error error : Except Error (Program Number)).isOk) :
    call.used? = none :=
  if_neg (by rw [succeeds]; exact Bool.false_ne_true)

end Call

/-- The keys under which requests found a program or had one built, the latest one first. -/
def usedKeys
    (calls : List Call) :
    List CacheKey :=
  calls.filterMap Call.used?

variable [Arithmetic Number]

namespace Compute

theorem Compiled.answer
    {settings : Config}
    {function : Function}
    {entities : List (Entity Number)}
    {context behind : Context Number}
    {result : Except Error (Program Number)}
    (compiled : Compiled settings function entities context result behind) :
    Engine.Answer settings (function.cacheKey? entities) context.engine result
      behind.engine := by
  cases compiled with
  | unsigned failed => exact .unkept (Function.cacheKey?_of_unsigned failed) _
  | hit hashable signed found => exact .hit (Function.cacheKey?_of_signed hashable signed) found
  | missed hashable signed absent built =>
      exact .missed (Function.cacheKey?_of_signed hashable signed) absent
  | failed hashable signed absent built =>
      exact .failed (Function.cacheKey?_of_signed hashable signed) absent
  | unkept unhashable signed built =>
      exact .unkept (Function.cacheKey?_of_unhashable unhashable) _

/-- Where no program is kept, a request comes to what building a program comes to. -/
theorem Compiled.of_not_kept
    {settings : Config}
    {function : Function}
    {entities : List (Entity Number)}
    {signatures : List Signature}
    {context behind : Context Number}
    {result : Except Error (Program Number)}
    (compiled : Compiled settings function entities context result behind)
    (signed : Signed entities signatures)
    (notKept : ∀ key ∈ function.cacheKey? entities, key ∉ context.engine.keys) :
    result =
      (Build.outcome (function.build entities settings.checksBindings) context.workspace).1 := by
  cases compiled with
  | unsigned failed => cases failed.symm.trans (mapM_eq_ok.2 signed)
  | hit hashable signed found =>
      have key := Function.cacheKey?_of_signed hashable signed
      exact absurd (Engine.mem_keys_of_find? found) (notKept _ key)
  | missed _ _ _ built => rw [built]
  | failed _ _ _ built => rw [built]
  | unkept _ _ built => rw [built]

/-- A program that is kept is handed out. -/
theorem Compiled.of_kept
    {settings : Config}
    {function : Function}
    {entities : List (Entity Number)}
    {context behind : Context Number}
    {result : Except Error (Program Number)}
    (compiled : Compiled settings function entities context result behind)
    {key : CacheKey}
    (asked : function.cacheKey? entities = some key)
    (kept : key ∈ context.engine.keys) :
    ∃ program, context.engine.find? key = some program ∧ result = .ok program := by
  have answer := compiled.answer.answeredBy
  exact (answer.hit key asked kept).1

theorem outcome_compile
    (function : Function)
    (entities : List (Entity Number))
    (context : Context Number) :
    outcome (compile function entities) context =
      outcome (compileWith context.config function entities) context := by
  unfold compile
  rw [outcome_bind, outcome_get]

section Computing

variable
  {settings : Config}
  {function : Function}
  {entities : List (Entity Number)}
  {context : Context Number}

theorem outcome_computeWith_of_ok
    {program : Program Number}
    (handedOut :
      (outcome (compileWith settings function entities) context).1 = .ok program) :
    outcome (computeWith settings function entities) context =
      outcome (execute program entities)
        (outcome (compileWith settings function entities) context).2 := by
  rw [computeWith, outcome_bind]
  generalize outcome (compileWith settings function entities) context = reached at handedOut ⊢
  rcases reached with ⟨result, behind⟩
  cases handedOut
  rfl

theorem outcome_computeWith_of_error
    {error : Error}
    (refused : (outcome (compileWith settings function entities) context).1 = .error error) :
    outcome (computeWith settings function entities) context =
      (.error error, (outcome (compileWith settings function entities) context).2) := by
  rw [computeWith, outcome_bind]
  generalize outcome (compileWith settings function entities) context = reached at refused ⊢
  rcases reached with ⟨result, behind⟩
  cases refused
  rfl

/-- A computed result leaves the engine that compiling leaves. -/
theorem engine_outcome_computeWith
    (settings : Config)
    (function : Function)
    (entities : List (Entity Number))
    (context : Context Number) :
    (outcome (computeWith settings function entities) context).2.engine =
      (outcome (compileWith settings function entities) context).2.engine := by
  cases compiled : (outcome (compileWith settings function entities) context).1 with
  | error error => rw [outcome_computeWith_of_error compiled]
  | ok program =>
      rw [outcome_computeWith_of_ok compiled, outcome_execute]
      split <;> rfl

end Computing

end Compute

/-! ## Histories -/

open Compute

/-- The request to compile a function for entities in a context. -/
def Call.request
    (settings : Config)
    (function : Function)
    (entities : List (Entity Number))
    (context : Context Number) :
    Call where
  settings := settings
  key? := function.cacheKey? entities
  succeeds := (outcome (compileWith settings function entities) context).1.isOk

/--
The requests that an engine has had since it was made or cleared, the latest one first,
and a context that it is in behind them.
-/
inductive History :
    List Call → Context Number → Prop
  | start
    (config : Config)
    (workspace : Workspace) :
    History [] ⟨.empty, config, workspace⟩
  | compile
    {calls : List Call}
    {context : Context Number}
    (earlier : History calls context)
    (settings : Config)
    (function : Function)
    (entities : List (Entity Number)) :
    History (.request settings function entities context :: calls)
      (outcome (compileWith settings function entities) context).2
  | clear
    {calls : List Call}
    {context : Context Number}
    (earlier : History calls context) :
    History [] (outcome (modifyEngine Engine.clear) context).2
  /-- The configuration is replaced, expressions are built, or other engines are used. -/
  | elsewhere
    {calls : List Call}
    {context : Context Number}
    (earlier : History calls context)
    (config : Config)
    (workspace : Workspace) :
    History calls ⟨context.engine, config, workspace⟩

namespace History

variable {calls : List Call} {context : Context Number}

/-- An engine without settings of its own follows the configuration in force. -/
theorem compileInForce
    (earlier : History calls context)
    (function : Function)
    (entities : List (Entity Number)) :
    History (.request context.config function entities context :: calls)
      (outcome (Compute.compile function entities) context).2 := by
  rw [outcome_compile]
  exact earlier.compile context.config function entities

/-- A request to compute is one to compile. -/
theorem compute
    (earlier : History calls context)
    (settings : Config)
    (function : Function)
    (entities : List (Entity Number)) :
    History (.request settings function entities context :: calls)
      (outcome (computeWith settings function entities) context).2 := by
  have compiled := earlier.compile settings function entities
  have ran :=
    compiled.elsewhere (outcome (computeWith settings function entities) context).2.config
      (outcome (computeWith settings function entities) context).2.workspace
  rw [← engine_outcome_computeWith] at ran
  exact ran

/-- What holds of an engine that has been asked nothing and persists holds behind every history. -/
theorem induct
    {motive : List Call → Engine Number → Prop}
    (history : History calls context)
    (atStart : motive [] .empty)
    (step :
      ∀ calls engine call result behind, motive calls engine →
        Engine.Answer call.settings call.key? engine result behind →
        call.succeeds = result.isOk → motive (call :: calls) behind) :
    motive calls context.engine := by
  induction history with
  | start => exact atStart
  | @compile calls context _ settings function entities inductionHypothesis =>
      exact
        step _ _ (.request settings function entities context) _ _ inductionHypothesis
          (compiled_outcome settings function entities context).answer rfl
  | clear => exact atStart
  | elsewhere _ _ _ inductionHypothesis => exact inductionHypothesis

/-- An engine keeps at most one program under a key. -/
theorem distinct
    (history : History calls context) :
    context.engine.keys.Nodup :=
  history.induct (motive := fun _ engine => engine.keys.Nodup) List.nodup_nil
    fun _ _ _ _ _ before answer _ => answer.distinct before

/-- What is kept has been used since the engine was made or cleared. -/
theorem mem_usedKeys
    (history : History calls context)
    {key : CacheKey}
    (kept : key ∈ context.engine.keys) :
    key ∈ usedKeys calls := by
  refine
    history.induct (motive := fun calls engine => key ∈ engine.keys → key ∈ usedKeys calls)
      (fun kept => by cases kept) ?_ kept
  intro calls engine call result behind inductionHypothesis answer succeeds kept
  rcases answer.mem_keys kept with before | ⟨asked, program, rfl⟩
  · rcases List.mem_filterMap.1 (inductionHypothesis before) with ⟨earlier, member, used⟩
    exact List.mem_filterMap.2 ⟨earlier, List.mem_cons_of_mem call member, used⟩
  · exact List.mem_filterMap.2 ⟨call, List.mem_cons_self, (Call.used?_of_ok succeeds).trans asked⟩

end History
end Versor
