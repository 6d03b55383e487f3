import Versor.Proofs.Engine.Numbering
import Versor.Proofs.Expression.Rebuilding

/-!
# Calls on expressions

A caller reduces an expression, asks for the blades of its reduction or
evaluates it, with or without a check of the bindings.  Whatever was called
before on a graph of expressions, and whether it gave a result or not, every
result that is kept for a node is the multivector that the node denotes, and no
node has been reduced twice.  A call comes to what it would come to if the graph
had just been built on fresh nodes (`Request.memoised`).

Each call takes place within the limits that its own caller leaves.  Only the
stack makes a difference: where it does not hold the operations of fresh nodes, a
call may get further with the results that are kept.
-/

namespace Versor

open Compute

variable {Number : Type} [Arithmetic Number]

/-! ## What a program computes -/

namespace Program

variable (program : Program Number) (identity : Nat)

/-- Programs that were built at different times check entities alike. -/
theorem collect_identity
    (columns : Columns Number)
    (pairs : List (Entity Number × Input)) :
    collect { program with identity := identity } columns pairs =
      collect program columns pairs := by
  induction pairs generalizing columns with
  | nil => rfl
  | cons pair rest inductionHypothesis =>
      rcases pair with ⟨entity, input⟩
      simp only [collect, inductionHypothesis]
      rfl

theorem run_identity
    (standard : ElementType)
    (entities : List (Entity Number)) :
    run standard { program with identity := identity } entities =
      run standard program entities := by
  simp only [run, collect_identity]

/-- The number of a program does not matter for what it is built of. -/
theorem ofMultivector_identity
    (value : Multivector)
    (spelling : ElementSpelling)
    (inputs : List Input)
    (other : Nat) :
    (ofMultivector other value spelling inputs : Except Error (Program Number)) =
      (ofMultivector identity value spelling inputs).map fun program =>
        { program with identity := other } := by
  rw [ofMultivector_eq, ofMultivector_eq]
  cases (value.entries.mapM (stepFor value.blades) : Except Error (List (Step Number))) <;> rfl

end Program

namespace Build

theorem ofExcept_bind
    {Result Next : Type}
    (result : Except Error Result)
    (next : Result → Except Error Next) :
    ofExcept (result >>= next) = ofExcept result >>= fun value => ofExcept (next value) := by
  cases result <;> rfl

/-- Steps that only fail or give a result do so for a list of members. -/
theorem mapM_ofExcept
    {Member Result : Type}
    (result : Member → Except Error Result)
    (members : List Member) :
    (members.mapM fun member => ofExcept (result member)) = ofExcept (members.mapM result) := by
  induction members with
  | nil => rfl
  | cons member rest inductionHypothesis =>
      rw [List.mapM_cons, List.mapM_cons, inductionHypothesis]
      cases result member with
      | error error => rfl
      | ok first => cases rest.mapM result <;> rfl

end Build

namespace Expr

/-- The entity of a binding with its first id. -/
def boundEntity
    (find : Nat → Option (Entity Number))
    (binding : Binding) :
    Except Error (Entity Number × FirstId) :=
  match find binding.entity with
  | some entity => .ok (entity, binding.first)
  | none => .error .unresolvedName

/-- The entities at the leaves of an expression, each binding once. -/
def boundEntities
    (find : Nat → Option (Entity Number))
    (expression : Expr) :
    Except Error (List (Entity Number × FirstId)) :=
  (distinctBindings expression.leaves).mapM (boundEntity find)

/-- The input of a program for an entity with its first id. -/
def inputOf
    (entity : Entity Number × FirstId) :
    Except Error Input := do
  let signature ← entity.1.signature
  .ok ⟨signature, entity.2⟩

/-- The entities at the leaves of an expression, and the inputs of a program over them. -/
def boundInputs
    (find : Nat → Option (Entity Number))
    (expression : Expr) :
    Except Error (List (Entity Number × FirstId) × List Input) := do
  let entities ← expression.boundEntities find
  let inputs ← entities.mapM inputOf
  .ok (entities, inputs)

/-- What is computed over entities once an expression has been reduced. -/
def computeReduced
    (standard : ElementType)
    (entities : List (Entity Number × FirstId))
    (inputs : List Input)
    (value : Multivector)
    (spelling : ElementSpelling) :
    Except Error (Layout × Tensor Number) := do
  let program : Program Number ← Program.ofMultivector 0 value spelling inputs
  let storage ← program.run standard (entities.map Prod.fst)
  .ok (program.layout, storage)

/-- Build a program of a reduced expression and run it. -/
def finishReduced
    (standard : ElementType)
    (entities : List (Entity Number × FirstId))
    (inputs : List Input)
    (value : Multivector)
    (expression : Expr) :
    Build (Layout × Tensor Number) := do
  let program : Program Number ← Program.ofReduced expression value inputs
  let storage ← Build.ofExcept (program.run standard (entities.map Prod.fst))
  return (program.layout, storage)

/-- The entities are found before the reduction, and the program runs behind it. -/
theorem compute_eq
    (standard : ElementType)
    (find : Nat → Option (Entity Number))
    (widths : Nat → Except Error Nat)
    (validate : Bool)
    (expression : Expr) :
    expression.compute standard find widths validate =
      (do
        let bound ← Build.ofExcept (expression.boundInputs find)
        let value ← expression.reduce widths validate
        finishReduced standard bound.1 bound.2 value expression) := by
  have taken (entity : Entity Number × FirstId) :
      (do
        let signature ← Build.ofExcept entity.1.signature
        return Input.mk signature entity.2 : Build Input) =
        Build.ofExcept (inputOf entity) := by
    unfold inputOf
    cases entity.1.signature <;> rfl
  unfold compute boundInputs boundEntities finishReduced
  simp only [taken, Build.mapM_ofExcept, Build.ofExcept_bind, bind_assoc]
  rw [← Build.mapM_ofExcept]
  apply congrArg (fun found => (distinctBindings expression.leaves).mapM found >>= _)
  funext binding
  unfold boundEntity
  cases find binding.entity <;> rfl

theorem outcome_finishReduced
    (standard : ElementType)
    (entities : List (Entity Number × FirstId))
    (inputs : List Input)
    (value : Multivector)
    (expression : Expr)
    (workspace : Workspace) :
    Build.outcome (finishReduced standard entities inputs value expression) workspace =
      (computeReduced standard entities inputs value (expression.spelling workspace.results),
        workspace.advanced) := by
  unfold finishReduced computeReduced
  rw [Build.outcome_bind, Program.outcome_ofReduced, Program.ofMultivector_identity 0]
  cases (Program.ofMultivector 0 value (expression.spelling workspace.results) inputs :
    Except Error (Program Number)) with
  | error error => rfl
  | ok program =>
      simp only [Except.map]
      rw [Build.outcome_bind, Build.outcome_ofExcept, Program.run_identity]
      change _ =
        ((do
          let storage ← program.run standard (entities.map Prod.fst)
          .ok (program.layout, storage) : Except Error (Layout × Tensor Number)), _)
      cases program.run standard (entities.map Prod.fst) <;> rfl

end Expr

/-- Computed storage for a layout, for which there has to be room. -/
def Entity.checkComputed
    (capacity : Nat)
    (standard : ElementType)
    (layout : Layout)
    (storage : Tensor Number) :
    Except Error (Tensor Number) := do
  if !Tensor.isRepresentable capacity storage.shape then
    throw .incompatibleShapes
  checkStorage capacity standard layout storage

/-! ## Calls -/

/-- What a caller may ask of an expression. -/
inductive Query
  | reduce (validate : Bool)
  | shape
  | evaluate (validate : Bool)

/-- Whether the bindings are checked. -/
def Query.validates : Query → Bool
  | .reduce validate | .evaluate validate => validate
  | .shape => true

/-- What a call comes to; the identity of an entity is new each time, and is left out. -/
inductive Reply (Number : Type)
  | element (value : SpelledMultivector)
  | blades (blades : List Literal)
  | entity (layout : Layout) (storage : Tensor Number)

/--
A call on an expression, with the entities, the configuration and what the caller leaves
of the stack and of the memory as they are at that time.
-/
structure Request (Number : Type) where
  query : Query
  expression : Expr
  find : Nat → Option (Entity Number)
  config : Config
  limits : Limits

namespace Request

/-- Carry out a call. -/
def perform
    (request : Request Number) :
    Compute Number (Reply Number) := do
  match request.query with
  | .reduce validate =>
      return .element (← Compute.reduce request.find validate request.expression)
  | .shape =>
      let reduced ← Compute.reduce request.find true request.expression
      return .blades (reduced.value.givenBlades reduced.spelling)
  | .evaluate validate =>
      let entity ←
        Compute.evaluate request.find (widthsIn request.find) validate request.expression
      return .entity entity.layout entity.storage

/-- A context with the configuration and the limits that a request finds. -/
def place
    (request : Request Number)
    (context : Context Number) :
    Context Number :=
  { context with
    config := request.config
    workspace := context.workspace.under request.limits }

/-- What a request comes to in a context, the configuration and the limits apart. -/
def answer
    (request : Request Number)
    (context : Context Number) :
    Except Error (Reply Number) :=
  (outcome request.perform (request.place context)).1

/-- The context behind a request. -/
def behind
    (request : Request Number)
    (context : Context Number) :
    Context Number :=
  (outcome request.perform (request.place context)).2

/-- The context behind requests, of which some may have failed. -/
def after
    (context : Context Number)
    (requests : List (Request Number)) :
    Context Number :=
  requests.foldl (fun context request => request.behind context) context

/-- The reduction that a request asks for. -/
def reduction
    (request : Request Number) :
    Build Multivector :=
  request.expression.reduce (widthsIn request.find) request.query.validates

/-- What a request takes of the entities before it reduces the expression. -/
def prepared
    (request : Request Number) :
    Except Error (List (Entity Number × FirstId) × List Input) :=
  match request.query with
  | .reduce _ | .shape => .ok ([], [])
  | .evaluate _ => request.expression.boundInputs request.find

/-- What a request makes of the reduced expression. -/
def finished
    (request : Request Number)
    (entities : List (Entity Number × FirstId))
    (inputs : List Input)
    (value : Multivector)
    (spelling : ElementSpelling) :
    Except Error (Reply Number) :=
  match request.query with
  | .reduce _ => .ok (.element ⟨value, spelling⟩)
  | .shape => .ok (.blades (value.givenBlades spelling))
  | .evaluate _ => do
      let standard := request.config.elementType
      let computed ← Expr.computeReduced standard entities inputs value spelling
      (Entity.checkComputed request.limits.capacity standard computed.1 computed.2).map
        (.entity computed.1)

/-- What carrying out a request may come to. -/
inductive Performed
    (request : Request Number)
    (context : Context Number) :
    Except Error (Reply Number) → Context Number → Prop
  | unprepared
    {error : Error}
    (failed : request.prepared = .error error) :
    Performed request context (.error error) context
  | refused
    {entities : List (Entity Number × FirstId)}
    {inputs : List Input}
    {error : Error}
    {reached : Workspace}
    (prepared : request.prepared = .ok (entities, inputs))
    (reduced : Build.outcome request.reduction context.workspace = (.error error, reached)) :
    Performed request context (.error error) { context with workspace := reached }
  | finished
    {entities : List (Entity Number × FirstId)}
    {inputs : List Input}
    {value : Multivector}
    {reached : Workspace}
    {free : Nat}
    (prepared : request.prepared = .ok (entities, inputs))
    (reduced : Build.outcome request.reduction context.workspace = (.ok value, reached))
    (taken : reached.free ≤ free) :
    Performed request context
      (request.finished entities inputs value (request.expression.spelling reached.results))
      { context with workspace := { reached with free := free } }

variable (request : Request Number) (context : Context Number)

/-- An entity that is made takes a number, its identity. -/
theorem outcome_wrap_answer
    (layout : Layout)
    (storage : Tensor Number)
    (context : Context Number) :
    ∃ free, context.workspace.free ≤ free ∧
      outcome
          (do
            let entity ← wrap layout storage
            return .entity entity.layout entity.storage : Compute Number (Reply Number))
          context =
        ((Entity.checkComputed context.limits.capacity context.config.elementType layout
            storage).map (.entity layout),
          { context with workspace := { context.workspace with free := free } }) := by
  rw [outcome_bind, outcome_wrap]
  cases checked :
    Entity.checkComputed context.limits.capacity context.config.elementType layout storage with
  | error error =>
      rw [Entity.checkComputed] at checked
      rw [checked]
      exact ⟨_, le_rfl, rfl⟩
  | ok stored =>
      rw [Entity.checkComputed] at checked
      rw [checked]
      exact ⟨_, Nat.le_succ _, rfl⟩

/-- Calls that only reduce need nothing of the entities. -/
theorem Performed.ofReduce
    {answer : SpelledMultivector → Reply Number}
    (prepared : request.prepared = .ok ([], []))
    (finished :
      ∀ value spelling, request.finished [] [] value spelling = .ok (answer ⟨value, spelling⟩)) :
    let computation :=
      (do
        let reduced ← Compute.reduce request.find request.query.validates request.expression
        return answer reduced)
    Performed request context (outcome computation context).1 (outcome computation context).2 := by
  intro computation
  have unfolded :
      computation =
        (do
          let value ← build request.reduction
          let context ← get
          return answer
            ⟨value, request.expression.spelling context.workspace.results⟩) := by
    simp only [computation, Compute.reduce, Request.reduction, bind_assoc, pure_bind]
  rw [unfolded, outcome_bind, outcome_build]
  cases reduced : Build.outcome request.reduction context.workspace with
  | mk result reached =>
      cases result with
      | error error => exact .refused prepared reduced
      | ok value =>
          have performed := Performed.finished prepared reduced le_rfl
          rw [finished] at performed
          exact performed

theorem Performed.ofEvaluate
    {validate : Bool}
    (asked : request.query = .evaluate validate)
    (settings : context.config = request.config)
    (sameLimits : context.limits = request.limits) :
    let computation :=
      (do
        let entity ←
          Compute.evaluate request.find (widthsIn request.find) validate request.expression
        return .entity entity.layout entity.storage : Compute Number (Reply Number))
    Performed request context (outcome computation context).1 (outcome computation context).2 := by
  intro computation
  have reduction :
      request.expression.reduce (widthsIn request.find) validate = request.reduction := by
    rw [Request.reduction, asked]
    rfl
  have prepared : request.prepared = request.expression.boundInputs request.find := by
    rw [Request.prepared, asked]
  have unfolded :
      computation =
        (do
          let context ← get
          let computed ←
            build
              (request.expression.compute context.config.elementType request.find
                (widthsIn request.find) validate)
          let entity ← wrap computed.1 computed.2
          return .entity entity.layout entity.storage) := by
    simp only [computation, Compute.evaluate, bind_assoc]
  rw [unfolded, outcome_bind, outcome_get]
  dsimp only
  rw [outcome_bind, outcome_build, Expr.compute_eq, Build.outcome_bind, Build.outcome_ofExcept]
  cases found : request.expression.boundInputs request.find with
  | error error => exact .unprepared (prepared.trans found)
  | ok bound =>
      dsimp only
      rw [reduction, Build.outcome_bind]
      have reachedLimits :
          (Build.outcome request.reduction context.workspace).2.limits = request.limits :=
        (Expr.limits_reduce ..).trans sameLimits
      cases reduced : Build.outcome request.reduction context.workspace with
      | mk result reached =>
          rw [reduced] at reachedLimits
          cases result with
          | error error => exact .refused (prepared.trans found) reduced
          | ok value =>
              have finished :
                  request.finished bound.1 bound.2 value
                      (request.expression.spelling reached.results) =
                    Expr.computeReduced context.config.elementType bound.1 bound.2 value
                        (request.expression.spelling reached.results) >>= fun computed =>
                      (Entity.checkComputed reached.limits.capacity context.config.elementType
                        computed.1 computed.2).map (.entity computed.1) := by
                rw [Request.finished, asked, settings, reachedLimits]
              have performed {free : Nat} (taken : reached.free ≤ free) :=
                Performed.finished (prepared.trans found) reduced taken
              rw [finished] at performed
              dsimp only
              rw [Expr.outcome_finishReduced]
              cases ran :
                Expr.computeReduced context.config.elementType bound.1 bound.2 value
                  (request.expression.spelling reached.results) with
              | error error =>
                  rw [ran] at performed
                  exact performed (Nat.le_succ _)
              | ok computed =>
                  rw [ran] at performed
                  rcases
                      outcome_wrap_answer computed.1 computed.2
                        { context with workspace := reached.advanced } with
                    ⟨free, taken, wrapped⟩
                  dsimp only
                  rw [wrapped]
                  exact performed ((Nat.le_succ _).trans taken)

/-- Carrying out a request comes to one of these. -/
theorem performed_outcome
    (settings : context.config = request.config)
    (sameLimits : context.limits = request.limits) :
    Performed request context (outcome request.perform context).1
      (outcome request.perform context).2 := by
  rcases request with ⟨query, expression, find, config, limits⟩
  cases query with
  | reduce validate => exact Performed.ofReduce _ context rfl fun _ _ => rfl
  | shape => exact Performed.ofReduce _ context rfl fun _ _ => rfl
  | evaluate validate => exact Performed.ofEvaluate _ context rfl settings sameLimits

theorem performed :
    Performed request (request.place context) (request.answer context)
      (request.behind context) :=
  performed_outcome request _ rfl rfl

/-- A request prepares, reduces and finishes, and only the reduction needs the workspace. -/
theorem answer_eq :
    request.answer context =
      (do
        let bound ← request.prepared
        let value ← (Build.outcome request.reduction (request.place context).workspace).1
        request.finished bound.1 bound.2 value
          (request.expression.spelling
            (Build.outcome request.reduction (request.place context).workspace).2.results)) := by
  have performed := request.performed context
  generalize request.answer context = answer at performed ⊢
  generalize request.behind context = behind at performed
  cases performed with
  | unprepared failed => rw [failed]; rfl
  | refused prepared reduced => rw [prepared, reduced]; rfl
  | finished prepared reduced taken => rw [prepared, reduced]; rfl

end Request

/-! ## What is kept behind calls -/

/-- The results kept for a graph are right, and none has been found twice. -/
structure Workspace.Memoises
    (workspace : Workspace)
    (graph : Set Expr) :
    Prop where
  sound : workspace.Sound graph
  once : workspace.reduced.Nodup

namespace Workspace.Memoises

variable {graph : Set Expr} {workspace : Workspace}

/-- Where no result is kept, none is wrong. -/
theorem of_nothing
    (isGraph : IsGraph graph)
    (below : ∀ expression ∈ graph, expression.node < workspace.free)
    (nothing : workspace.results = []) :
    workspace.Memoises graph where
  sound :=
    { isGraph := isGraph
      below := below
      kept := by simp [nothing]
      closed := by simp [keeps, nothing]
      unused := by simp [nothing] }
  once := by simp [reduced, nothing]

/-- Taking numbers leaves what is kept as it is. -/
theorem of_free_le
    (memoises : workspace.Memoises graph)
    {free : Nat}
    (taken : workspace.free ≤ free) :
    ({ workspace with free := free } : Workspace).Memoises graph :=
  ⟨memoises.sound.of_free_le rfl taken, memoises.once⟩

/-- What is kept is not up to the limits. -/
theorem under
    (memoises : workspace.Memoises graph)
    (limits : Limits) :
    (workspace.under limits).Memoises graph :=
  ⟨memoises.sound.under limits, memoises.once⟩

/-- A reduction leaves right results behind, whether it gives one or fails. -/
theorem reduce
    (memoises : workspace.Memoises graph)
    {expression : Expr}
    (member : expression ∈ graph)
    (widths : Nat → Except Error Nat)
    (validate : Bool) :
    (Build.outcome (expression.reduce widths validate) workspace).2.Memoises graph := by
  have reduced := Expr.reduceUnchecked_spec member memoises.sound
  have adds :=
    Expr.reduceNode_adds memoises.sound.isGraph member workspace.limits.stack
      workspace.limits.stack.room workspace
  have unchecked :
      (Build.outcome expression.reduceUnchecked workspace).2.Memoises graph :=
    ⟨Expr.Reduced.sound reduced, Workspace.Adds.once adds memoises.once⟩
  exact
    @Expr.reduce_behind (fun reached => reached.Memoises graph) _ _ memoises unchecked widths
      validate

/-- A reduction checks the bindings, if it has to, and comes to the tree without keeping. -/
theorem plain
    (memoises : workspace.Memoises graph)
    {expression : Expr}
    (member : expression ∈ graph)
    (widths : Nat → Except Error Nat)
    (validate : Bool) :
    let result := (Build.outcome (expression.reduce widths validate) workspace).1
    result =
        (if validate then expression.checkBindings widths else .ok ()) >>=
          (fun _ => expression.evaluate) ∨
      result = .error .nestedTooDeeply ∧
        ¬workspace.limits.stack.Holds (expression.heightAbove workspace.keeps) := by
  have reduced := Expr.Reduced.evaluated (Expr.reduceUnchecked_spec member memoises.sound)
  cases validate with
  | false => exact reduced
  | true =>
      intro result
      simp only [result, Expr.outcome_reduce_true]
      cases expression.checkBindings widths with
      | error error => exact .inl rfl
      | ok => exact reduced

end Workspace.Memoises

namespace Request

variable {graph : Set Expr} {context : Context Number}

/-- One request leaves right results behind, whatever it comes to. -/
theorem memoises_behind
    (memoises : context.workspace.Memoises graph)
    {request : Request Number}
    (member : request.expression ∈ graph) :
    (request.behind context).workspace.Memoises graph := by
  have performed := request.performed context
  generalize request.answer context = answer at performed
  generalize request.behind context = behind at performed ⊢
  have placed : (request.place context).workspace.Memoises graph := memoises.under request.limits
  have reached :
      (Build.outcome request.reduction (request.place context).workspace).2.Memoises graph :=
    placed.reduce member _ _
  cases performed with
  | unprepared failed => exact placed
  | refused prepared reduced =>
      rw [reduced] at reached
      exact reached
  | finished prepared reduced taken =>
      rw [reduced] at reached
      exact reached.of_free_le taken

/-- Requests leave right results behind, by what each of them does. -/
theorem memoises_after
    (memoises : context.workspace.Memoises graph)
    {requests : List (Request Number)}
    (members : ∀ request ∈ requests, request.expression ∈ graph) :
    (after context requests).workspace.Memoises graph := by
  induction requests generalizing context with
  | nil => exact memoises
  | cons request rest inductionHypothesis =>
      rcases List.forall_mem_cons.1 members with ⟨member, others⟩
      exact inductionHypothesis (memoises_behind memoises member) others

end Request

/-! ## Calls where nothing is kept -/

namespace Request

/-- What a request comes to if the tree at its node is gone through without keeping results. -/
def plainAnswer
    (request : Request Number)
    (spelling : ElementSpelling) :
    Except Error (Reply Number) := do
  let bound ← request.prepared
  let value ←
    (if request.query.validates then request.expression.checkBindings (widthsIn request.find)
      else .ok ()) >>= fun _ => request.expression.evaluate
  request.finished bound.1 bound.2 value spelling

theorem answer_plain
    {graph : Set Expr}
    {context : Context Number}
    (memoises : context.workspace.Memoises graph)
    {request : Request Number}
    (member : request.expression ∈ graph) :
    (∃ spelling, request.answer context = request.plainAnswer spelling) ∨
      request.answer context = .error .nestedTooDeeply ∧
        ¬request.limits.stack.Holds
          (request.expression.heightAbove context.workspace.keeps) := by
  have placed : (request.place context).workspace.Memoises graph := memoises.under request.limits
  rw [answer_eq]
  rcases placed.plain member (widthsIn request.find) request.query.validates with
    plain | ⟨tooDeep, high⟩
  · rw [reduction, plain]
    exact .inl ⟨_, rfl⟩
  · rw [reduction, tooDeep]
    cases prepared : request.prepared with
    | error error =>
        refine .inl ⟨{}, ?_⟩
        rw [plainAnswer, prepared]
        rfl
    | ok bound => exact .inr ⟨rfl, high⟩

/-! ## Calls on fresh nodes -/

/-- The same request on other nodes. -/
def rebuilt
    (number : Nat → Nat)
    (request : Request Number) :
    Request Number :=
  { request with expression := request.expression.rebuilt number }

omit [Arithmetic Number] in
theorem prepared_rebuilt
    {number : Nat → Nat}
    (injective : Function.Injective number)
    (request : Request Number) :
    (request.rebuilt number).prepared = request.prepared := by
  rcases request with ⟨query, expression, find, config, limits⟩
  cases query with
  | reduce validate => rfl
  | shape => rfl
  | evaluate validate =>
      simp only [rebuilt, prepared, Expr.boundInputs, Expr.boundEntities,
        Expr.leaves_rebuilt injective]

/-- What is kept makes no difference to a request, as long as fresh nodes leave room for it. -/
theorem answer_rebuilt
    {graph : Set Expr}
    {context fresh : Context Number}
    (sound : context.workspace.Sound graph)
    {number : Nat → Nat}
    (hasFresh : fresh.workspace.HasFresh graph number)
    {request : Request Number}
    (member : request.expression ∈ graph) :
    Expr.FollowsFresh (¬request.limits.stack.Holds request.expression.height)
      ((request.rebuilt number).answer fresh) (request.answer context) := by
  have placed : (request.place context).workspace.Sound graph := sound.under request.limits
  have placedFresh : ((request.rebuilt number).place fresh).workspace.HasFresh graph number :=
    hasFresh.under request.limits
  have reduced :
      Expr.FollowsFresh (¬request.limits.stack.Holds request.expression.height)
        (Build.outcome (request.rebuilt number).reduction
          ((request.rebuilt number).place fresh).workspace).1
        (Build.outcome request.reduction (request.place context).workspace).1 :=
    Expr.reduce_rebuilt placed placedFresh member rfl _ _
  rw [answer_eq, answer_eq, prepared_rebuilt hasFresh.injective]
  cases request.prepared with
  | error error => exact .inr rfl
  | ok bound =>
      cases freshReached :
        Build.outcome (request.rebuilt number).reduction
          ((request.rebuilt number).place fresh).workspace with
      | mk freshResult freshBehind =>
          cases reached : Build.outcome request.reduction (request.place context).workspace with
          | mk result behind =>
              rw [freshReached, reached] at reduced
              rcases reduced with ⟨deep, tooDeep⟩ | same
              · cases tooDeep
                exact .inl ⟨deep, rfl⟩
              · cases same
                cases freshResult with
                | error error => exact .inr rfl
                | ok value =>
                    have sameSpelling :=
                      Expr.spelling_eq_of_reduce placed placedFresh member reached freshReached
                    exact .inr (congrArg (request.finished bound.1 bound.2 value) sameSpelling.symm)

/-! ## The check of the bindings -/

omit [Arithmetic Number] in
theorem widthsIn_eq_error
    {find : Nat → Option (Entity Number)}
    {identity : Nat}
    {error : Error}
    (failed : widthsIn find identity = .error error) :
    error = .unresolvedName ∨ error = .indexRange := by
  unfold widthsIn at failed
  split at failed
  · unfold Entity.width at failed
    split at failed
    · cases failed
    · cases failed
      exact .inr rfl
  · cases failed
    exact .inl rfl

omit [Arithmetic Number] in
/-- Where bindings overlap, the slots of all of them have been counted. -/
theorem exists_width_of_overlap
    {find : Nat → Option (Entity Number)}
    {expression : Expr}
    {firstStart firstStop secondStart secondStop : Literal}
    (overlaps :
      expression.checkBindings (widthsIn find) =
        .error (.bindingOverlap firstStart firstStop secondStart secondStop))
    {binding : Binding}
    (member : binding ∈ Expr.distinctBindings expression.leaves) :
    ∃ width, widthsIn find binding.entity = .ok width := by
  have idRanges :
      expression.idRanges (widthsIn find) =
        (Expr.distinctBindings expression.leaves).mapM
            (Expr.rangeOf (widthsIn find) expression.leaves) >>=
          fun ranges => .ok (ranges.foldr Expr.insertRange []) :=
    rfl
  rw [Expr.checkBindings, idRanges] at overlaps
  cases ranges :
    (Expr.distinctBindings expression.leaves).mapM
      (Expr.rangeOf (widthsIn find) expression.leaves) with
  | error error =>
      rcases exists_of_mapM_eq_error ranges with ⟨other, _, failed⟩
      rw [ranges] at overlaps
      cases overlaps
      cases counted : widthsIn find other.entity with
      | error error =>
          rw [Expr.rangeOf, counted] at failed
          cases failed
          rcases widthsIn_eq_error counted with impossible | impossible <;> cases impossible
      | ok width =>
          rw [Expr.rangeOf, counted] at failed
          cases failed
  | ok found =>
      rcases exists_of_mem_forall₂ (mapM_eq_ok.1 ranges).flip member with ⟨range, _, inRange⟩
      rcases exists_of_bind_eq_ok inRange with ⟨width, counted, _⟩
      exact ⟨width, counted⟩

omit [Arithmetic Number] in
/-- Where slots can be counted there are inputs for a program. -/
theorem exists_boundInputs
    {find : Nat → Option (Entity Number)}
    {expression : Expr}
    (counted :
      ∀ binding ∈ Expr.distinctBindings expression.leaves,
        ∃ width, widthsIn find binding.entity = .ok width) :
    ∃ bound, expression.boundInputs find = .ok bound := by
  have placed (binding : Binding) (member : binding ∈ Expr.distinctBindings expression.leaves) :
      ∃ entity, Expr.boundEntity find binding = .ok entity ∧
        ∃ input, Expr.inputOf entity = .ok input := by
    rcases counted binding member with ⟨width, isWidth⟩
    unfold widthsIn at isWidth
    unfold Expr.boundEntity Expr.inputOf Entity.signature
    cases found : find binding.entity with
    | none =>
        rw [found] at isWidth
        cases isWidth
    | some entity =>
        rw [found] at isWidth
        dsimp only at isWidth
        refine ⟨_, rfl, ⟨⟨entity.layout, width⟩, binding.first⟩, ?_⟩
        dsimp only
        rw [isWidth]
        rfl
  rcases exists_mapM_eq_ok placed with ⟨entities, found, haveInputs⟩
  have taken (entity : Entity Number × FirstId) (member : entity ∈ entities) :
      ∃ input, Expr.inputOf entity = .ok input ∧ True := by
    rcases exists_of_mem_forall₂ haveInputs member with ⟨_, _, input, isInput⟩
    exact ⟨input, isInput, trivial⟩
  rcases exists_mapM_eq_ok taken with ⟨inputs, collected, _⟩
  refine ⟨(entities, inputs), ?_⟩
  rw [Expr.boundInputs, Expr.boundEntities, found]
  change (entities.mapM Expr.inputOf >>= fun inputs => Except.ok (entities, inputs)) = _
  rw [collected]
  rfl

/-- Whatever is kept, bindings that are checked and overlap are refused. -/
theorem answer_of_overlap
    {request : Request Number}
    (validates : request.query.validates = true)
    {firstStart firstStop secondStart secondStop : Literal}
    (overlaps :
      request.expression.checkBindings (widthsIn request.find) =
        .error (.bindingOverlap firstStart firstStop secondStart secondStop))
    (context : Context Number) :
    request.answer context =
      .error (.bindingOverlap firstStart firstStop secondStart secondStop) := by
  have prepared : ∃ bound, request.prepared = .ok bound := by
    rcases request with ⟨query, expression, find, config, limits⟩
    cases query with
    | reduce validate => exact ⟨_, rfl⟩
    | shape => exact ⟨_, rfl⟩
    | evaluate validate =>
        exact exists_boundInputs fun binding member => exists_width_of_overlap overlaps member
  rcases prepared with ⟨bound, prepared⟩
  rw [answer_eq, prepared, reduction, validates, Expr.outcome_reduce_true, overlaps]
  rfl

end Request

/-! ## Memoised reduction -/

/-- What holds of calls on a graph, given what is kept for it in a context. -/
structure Memoised
    (graph : Set Expr)
    (context : Context Number) :
    Prop where
  /-- What is kept for a node is what the tree at the node comes to without keeping anything. -/
  kept :
    ∀ expression ∈ graph, ∀ result,
      context.workspace.results.lookup expression.node = some result →
        expression.evaluate = .ok result
  /-- The result of a node has been found once. -/
  once : context.workspace.reduced.Nodup
  /-- A request comes to what it comes to where nothing is kept, or the stack did not hold it. -/
  plain :
    ∀ request : Request Number, request.expression ∈ graph →
      (∃ spelling, request.answer context = request.plainAnswer spelling) ∨
        request.answer context = .error .nestedTooDeeply ∧
          ¬request.limits.stack.Holds (request.expression.heightAbove context.workspace.keeps)
  /-- A request comes to what it comes to on fresh nodes, if the stack holds those. -/
  likeFresh :
    ∀ request : Request Number, request.expression ∈ graph →
      ∀ (number : Nat → Nat) (fresh : Context Number), fresh.workspace.HasFresh graph number →
        Expr.FollowsFresh (¬request.limits.stack.Holds request.expression.height)
          ((request.rebuilt number).answer fresh) (request.answer context)
  /-- What a reduction without a check has left does not stand in for a check. -/
  checked :
    ∀ request : Request Number, request.expression ∈ graph → request.query.validates = true →
      ∀ firstStart firstStop secondStart secondStop,
        request.expression.checkBindings (widthsIn request.find) =
            .error (.bindingOverlap firstStart firstStop secondStart secondStop) →
          request.answer context =
            .error (.bindingOverlap firstStart firstStop secondStart secondStop)

/--
Behind any calls on expressions of which nothing had been reduced before, each within
limits of its own, results are kept that are right and have been found once each, and
whatever is asked next comes to what it would come to on fresh nodes.
-/
theorem Request.memoised
    {graph : Set Expr}
    (isGraph : IsGraph graph)
    {context : Context Number}
    (below : ∀ expression ∈ graph, expression.node < context.workspace.free)
    (nothing : context.workspace.results = [])
    {requests : List (Request Number)}
    (members : ∀ request ∈ requests, request.expression ∈ graph) :
    Memoised graph (after context requests) := by
  have memoises := memoises_after (.of_nothing isGraph below nothing) members
  exact
    { kept := memoises.sound.kept
      once := memoises.once
      plain := fun request member => answer_plain memoises member
      likeFresh := fun request member number fresh hasFresh =>
        answer_rebuilt memoises.sound hasFresh member
      checked := fun request _ validates _ _ _ _ overlaps =>
        answer_of_overlap validates overlaps _ }

/-- A sum of two scalars that are bound at one id. -/
def overlappingSum : Expr :=
  .binary 2 .sum (.scalarLeaf 0 0) (.scalarLeaf 1 1)

/--
The sum has been reduced without a check.  With a check the overlap is found nonetheless,
and without one the sum evaluates to what a new one does.
-/
theorem memoised_overlappingSum :
    let graph : Set Expr :=
      insert overlappingSum (insert (.scalarLeaf 1 1) (insert (.scalarLeaf 0 0) ∅))
    let request (query : Query) : Request ℚ :=
      ⟨query, overlappingSum, fun _ => some scalars, .default, .usual⟩
    let context :=
      Request.after ⟨.empty, .default, ⟨3, [], .usual⟩⟩ [request (.reduce false), request .shape]
    let fresh : Context ℚ := ⟨.empty, .default, ⟨6, [], .usual⟩⟩
    Memoised graph context ∧
      context.workspace.keeps overlappingSum.node = true ∧
      (request .shape).answer context =
        .error (.bindingOverlap (.integer 0) (.integer 1) (.integer 0) (.integer 1)) ∧
      (request (.evaluate false)).answer context =
        ((request (.evaluate false)).rebuilt (· + 3)).answer fresh := by
  intro graph request context fresh
  have firstSound : (⟨1, [], .usual⟩ : Workspace).Sound (insert (Expr.scalarLeaf 0 0) ∅) :=
    (Workspace.sound_empty 0 .usual).insert rfl (by simp [Expr.scalarLeaf, Expr.operands])
  have leavesSound :
      (⟨2, [], .usual⟩ : Workspace).Sound
        (insert (Expr.scalarLeaf 1 1) (insert (Expr.scalarLeaf 0 0) ∅)) :=
    firstSound.insert rfl (by simp [Expr.scalarLeaf, Expr.operands])
  have sound : (⟨3, [], .usual⟩ : Workspace).Sound graph :=
    leavesSound.insert rfl (by simp [overlappingSum, Expr.operands])
  have member : overlappingSum ∈ graph := Set.mem_insert _ _
  have memoised : Memoised graph context := by
    apply Request.memoised sound.isGraph sound.below rfl
    intro asked isAsked
    simp only [List.mem_cons, List.not_mem_nil, or_false] at isAsked
    rcases isAsked with rfl | rfl <;> exact member
  have isKept : context.workspace.keeps overlappingSum.node = true := by decide +kernel
  have overlaps :
      (request .shape).answer context =
        .error (.bindingOverlap (.integer 0) (.integer 1) (.integer 0) (.integer 1)) :=
    memoised.checked (request .shape) member rfl _ _ _ _ (by cbv)
  refine ⟨memoised, isKept, overlaps, ?_⟩
  rcases memoised.likeFresh (request (.evaluate false)) member _ fresh sound.hasFresh with
    ⟨deep, _⟩ | same
  · exact absurd (by decide : Limits.usual.stack.Holds 1) deep
  · exact same

/-! ## Where the stack does not hold fresh nodes -/

/-- Operations at a node of which the result is kept do not count. -/
theorem Expr.heightAbove_negations_le
    {kept : Nat → Bool}
    {first part : Nat}
    (isKept : kept (first + part) = true)
    (operand : Expr)
    (count : Nat) :
    (negations operand first (part + 1 + count)).heightAbove kept ≤ count := by
  induction count with
  | zero => simp [negations, heightAbove, isKept]
  | succ count inductionHypothesis =>
      rw [← Nat.add_assoc, negations, heightAbove]
      split
      · exact Nat.zero_le _
      · exact Nat.succ_le_succ inductionHypothesis

theorem Expr.heightAbove_negations
    (operand : Expr)
    (first count : Nat) :
    (negations operand first count).heightAbove (fun _ => false) =
      operand.heightAbove (fun _ => false) + count := by
  induction count with
  | zero => rfl
  | succ count inductionHypothesis =>
      rw [negations, heightAbove_unary rfl, inductionHypothesis, Nat.add_assoc]

theorem Expr.mem_parts_negations
    (operand : Expr)
    (first count more : Nat) :
    negations operand first count ∈ (negations operand first (count + more)).parts := by
  induction more with
  | zero => exact self_mem_parts _
  | succ more inductionHypothesis => exact List.mem_cons_of_mem _ inductionHypothesis

/-- Where the stack holds an expression, a request to reduce it without a check has an answer. -/
theorem Request.exists_answer
    {graph : Set Expr}
    {context : Context Number}
    (memoises : context.workspace.Memoises graph)
    {request : Request Number}
    (asked : request.query = .reduce false)
    (member : request.expression ∈ graph)
    (wellFormed : request.expression.WellFormed)
    (low :
      request.limits.stack.Holds (request.expression.heightAbove context.workspace.keeps)) :
    ∃ reply, request.answer context = .ok reply := by
  have placed : (request.place context).workspace.Memoises graph := memoises.under request.limits
  have reduced :
      ∃ value, (Build.outcome request.reduction (request.place context).workspace).1 =
        .ok value := by
    rcases Expr.exists_evaluate wellFormed with ⟨value, evaluated, _⟩
    refine ⟨value, ?_⟩
    rw [reduction, asked]
    rcases placed.plain member (widthsIn request.find) false with plain | ⟨_, high⟩
    · exact plain.trans evaluated
    · exact absurd low high
  rcases reduced with ⟨value, reduced⟩
  rw [answer_eq, reduced, prepared, asked]
  unfold finished
  rw [asked]
  exact ⟨_, rfl⟩

/-- Behind a request that has been answered the result of its expression is kept. -/
theorem Request.keeps_behind
    {graph : Set Expr}
    {context : Context Number}
    (memoises : context.workspace.Memoises graph)
    {request : Request Number}
    (member : request.expression ∈ graph)
    {reply : Reply Number}
    (answered : request.answer context = .ok reply) :
    (request.behind context).workspace.keeps request.expression.node = true := by
  have performed := request.performed context
  rw [answered] at performed
  generalize request.behind context = behind at performed ⊢
  generalize isReply : Except.ok reply = answer at performed
  cases performed with
  | unprepared | refused => cases isReply
  | finished prepared reduced taken =>
      have unchecked := Expr.outcome_reduceUnchecked_of_reduce reduced
      have sound := (memoises.under request.limits).sound
      exact ((Expr.reduceUnchecked_spec member sound).of_outcome unchecked).finished _ rfl

/--
A stack may hold nodes and not hold fresh ones like them: once a part has been reduced, the
rest of a deep expression can be.  So it is on every stack that holds a little more than the
work at a node.
-/
theorem Request.answer_negations :
    let request (limits : Limits) (count : Nat) : Request ℚ :=
      ⟨.reduce false, .negations (.scalarLeaf 1 0) 2 count, fun _ => some scalars, .default,
        limits⟩
    let context (count : Nat) : Context ℚ := ⟨.empty, .default, ⟨2 + count, [], .usual⟩⟩
    Limits.usual.stack.Holds (Limits.usual.stack.margin + 1) ∧
      ∀ limits : Limits, limits.stack.Holds (limits.stack.margin + 1) →
        ∃ part count,
          (request limits count).answer (context count) = .error .nestedTooDeeply ∧
            ∃ reply,
              (request limits count).answer (after (context count) [request limits part]) =
                .ok reply := by
  intro request context
  refine ⟨by decide, fun limits holds => ?_⟩
  have wide : limits.stack.margin + 1 + limits.stack.margin < limits.stack.room := holds
  -- Reducing the part takes as many operations off as the work at a node needs, and one more.
  rcases Nat.exists_eq_add_of_lt wide with ⟨more, isRoom⟩
  let part := limits.stack.margin + 1
  let rest := limits.stack.margin + more + 1
  have isCount : limits.stack.room = part + rest := by omega
  refine ⟨part, part + rest, ?_, ?_⟩
  · have reduced :
        Build.outcome (request limits (part + rest)).reduction
            ((request limits (part + rest)).place (context (part + rest))).workspace =
          (.error .nestedTooDeeply, (context (part + rest)).workspace.under limits) :=
      Expr.outcome_reduceNode_negations rfl (.scalarLeaf 1 0) 2 limits.stack isCount.le
    rw [answer_eq, reduced]
    rfl
  · rcases exists_sound_negations .usual (part + rest) with ⟨graph, member, sound⟩
    have memoises : (context (part + rest)).workspace.Memoises graph :=
      .of_nothing sound.isGraph sound.below rfl
    have wellFormed (count : Nat) :=
      Expr.wellFormed_negations (Expr.wellFormed_scalarLeaf 1 0) 2 count
    have inner : (request limits part).expression ∈ graph :=
      sound.isGraph.part_mem member (Expr.mem_parts_negations _ 2 part rest)
    have partHeld :
        limits.stack.Holds
          ((Expr.negations (.scalarLeaf 1 0) 2 part).heightAbove
            (context (part + rest)).workspace.keeps) := by
      have height := Expr.heightAbove_negations (.scalarLeaf 1 0) 2 part
      exact height.symm ▸ (Nat.zero_add part).symm ▸ holds
    rcases exists_answer memoises rfl inner (wellFormed part) partHeld with ⟨reply, answered⟩
    have isKept := keeps_behind memoises inner answered
    have height := Expr.heightAbove_negations_le isKept (.scalarLeaf 1 0) rest
    refine exists_answer (memoises_behind memoises inner) rfl member (wellFormed _) ?_
    refine (Nat.add_le_add_right height _).trans_lt ?_
    change rest + limits.stack.margin < limits.stack.room
    omega

end Versor
