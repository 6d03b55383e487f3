import Versor.Proofs.Program.Tree

/-!
# Closed functions

Whatever a closed function is called with, the leaves of the expression that
it returns are its arguments.  A function that refers to no entities itself
is closed (`Function.isClosed_of_within`).  Compiling a function, closed or
not, keeps a workspace sound and loses nothing of it
(`Function.build_leads`).
-/

namespace Versor

open Build

variable {Number : Type}

/-- A workspace is sound for a graph and loses nothing up to another one, which is sound too. -/
structure Workspace.Leads
    (graph : Set Expr)
    (workspace behind : Workspace) :
    Prop where
  sound : behind.Sound graph
  extended : workspace.Extends behind

theorem Workspace.Sound.leads
    {graph : Set Expr}
    {workspace : Workspace}
    (sound : workspace.Sound graph) :
    workspace.Leads graph workspace :=
  ⟨sound, .refl workspace⟩

theorem Workspace.Leads.trans
    {graph : Set Expr}
    {workspace between behind : Workspace}
    (first : workspace.Leads graph between)
    (second : between.Leads graph behind) :
    workspace.Leads graph behind :=
  ⟨second.sound, first.extended.trans second.extended⟩

/-- Taking a number loses nothing. -/
theorem Workspace.Sound.leads_advanced
    {graph : Set Expr}
    {workspace : Workspace}
    (sound : workspace.Sound graph) :
    workspace.Leads graph workspace.advanced :=
  ⟨sound.of_free_le rfl (Nat.le_succ _), rfl, Nat.le_succ _, fun _ kept => kept⟩

theorem Expr.reduce_leads
    {graph : Set Expr}
    {workspace : Workspace}
    (sound : workspace.Sound graph)
    {expression : Expr}
    (member : expression ∈ graph)
    (widths : Nat → Except Error Nat)
    (validate : Bool) :
    Ensures (expression.reduce widths validate) workspace fun _ behind =>
      workspace.Leads graph behind := by
  have reduced :
      Ensures (expression.reduce widths false) workspace fun _ behind =>
        workspace.Leads graph behind :=
    (reduceUnchecked_spec member sound).mono fun _ _ reduced =>
      ⟨reduced.sound, reduced.more.isExtended⟩
  cases validate with
  | false => exact reduced
  | true =>
      unfold Ensures
      rw [outcome_reduce_true]
      split
      · exact reduced
      · exact sound.leads

namespace Function

variable
  {function : Function}
  {graph : Set Expr}
  {workspace : Workspace}
  {entities : List (Entity Number)}
  {signatures : List Signature}

theorem persistent_trivial :
    Expr.Persistent (fun _ => True) (fun _ => True) (fun _ => True) :=
  { algebra := fun _ _ => trivial
    multiple := fun _ _ _ _ _ _ => trivial
    constant := fun _ _ _ _ => trivial
    unary := fun _ _ _ _ _ => trivial
    binary := fun _ _ _ _ _ _ _ => trivial }

/-- What a function returns, it returns in a sound workspace. -/
theorem tree_grows
    (sound : workspace.Sound graph)
    (within : function.body.Within (.existing graph))
    (signed : Signed entities signatures) :
    Ensures (function.tree entities) workspace fun result behind =>
      ∃ larger,
        Grown entities signatures (fun _ => True) graph workspace result behind larger :=
  tree_spec persistent_trivial (fun _ _ _ _ _ => trivial) (fun _ _ => trivial)
    (fun _ member => ⟨member, trivial⟩) within (fun _ _ => trivial) signed
    (fun _ _ _ => trivial) sound

/-! ## Expressions over arguments -/

/-- Whatever a closed function is called with, its expression is over its arguments. -/
def IsClosed
    (Number : Type)
    (function : Function) :
    Prop :=
  ∀ (entities : List (Entity Number)) (signatures : List Signature),
    Signed entities signatures →
    ∀ (graph : Set Expr) (workspace : Workspace),
      workspace.Sound graph →
      function.body.Within (.existing graph) →
      Ensures (function.tree entities) workspace fun result _ =>
        ∀ arguments expression, result = .ok (arguments, expression) →
          ∀ binding ∈ expression.leaves, binding ∈ arguments.bindings

theorem IsClosed.placed
    (closed : function.IsClosed Number)
    (sound : workspace.Sound graph)
    (within : function.body.Within (.existing graph))
    (signed : Signed entities signatures)
    {arguments : Arguments}
    {expression : Expr}
    {behind : Workspace}
    (returned :
      outcome (function.tree entities) workspace = (.ok (arguments, expression), behind)) :
    ∀ binding ∈ expression.leaves, ∃ placement ∈ placements 0 (entities.zip signatures),
      binding = placement.binding := by
  intro binding member
  have own :=
    (closed entities signatures signed graph workspace sound within).of_outcome returned
      arguments expression rfl binding member
  rcases (tree_grows sound within signed).of_outcome returned with ⟨larger, grown⟩
  rw [(grown.built arguments expression rfl).1] at own
  rcases List.mem_map.1 own with ⟨placement, isPlaced, same⟩
  exact ⟨placement, isPlaced, same.symm⟩

/-- A function that refers to no entities is closed. -/
theorem isClosed_of_within
    (within : function.body.Within .constants) :
    function.IsClosed Number := by
  intro entities signatures signed graph workspace sound captured
  let own (binding : Binding) : Prop :=
    binding ∈ (placements 0 (entities.zip signatures)).map Placement.binding
  let vocabulary := Vocabulary.constants.both (.existing graph)
  have persistent :
      Expr.Persistent (Expr.AllLeaves own) vocabulary.algebra (fun _ => True) :=
    { algebra := fun _ _ => ⟨trivial, trivial⟩
      multiple := fun _ _ _ _ _ _ => trivial
      constant := fun _ _ _ _ => trivial
      unary := fun _ _ _ _ leaves => leaves
      binary := fun _ _ _ _ left right _ => ⟨left, right⟩ }
  have capturedOwn :
      ∀ value, vocabulary.expression value → value ∈ graph ∧ value.AllLeaves own :=
    fun value ⟨noLeaves, member⟩ =>
      ⟨member, noLeaves.mono fun _ impossible => False.elim impossible⟩
  have noneBound :
      ∀ layout, vocabulary.layout layout →
        ∀ node entity first, (Expr.bind node ⟨entity, layout, first⟩).AllLeaves own :=
    fun _ impossible => False.elim impossible.1
  have grown :=
    tree_spec persistent noneBound (fun _ _ => trivial) capturedOwn (within.both captured)
      (fun _ _ => ⟨trivial, trivial⟩) signed
      (fun placement member _ => List.mem_map_of_mem member) sound
  apply grown.mono
  rintro result behind ⟨larger, isGrown⟩ arguments expression rfl
  rcases isGrown.built arguments expression rfl with ⟨rfl, _, leaves⟩
  exact Expr.forall_mem_leaves leaves

/-! ## Compiling -/

variable [Arithmetic Number]

theorem finish_leads
    (function : Function)
    (entities : List (Entity Number))
    (validate : Bool)
    (arguments : Arguments)
    (sound : workspace.Sound graph)
    {expression : Expr}
    (member : expression ∈ graph) :
    Ensures (function.finish entities validate arguments expression) workspace
      fun _ behind => workspace.Leads graph behind := by
  unfold finish
  split
  · exact sound.leads
  · refine
      Ensures.bind (Expr.reduce_leads sound member (widthsOf entities) validate) ?_ ?_
    · intro value behind leads
      exact leads.trans leads.sound.leads_advanced
    · exact fun _ _ leads => leads

/-- Compiling a function keeps a workspace sound and loses nothing of it. -/
theorem build_leads
    (sound : workspace.Sound graph)
    (within : function.body.Within (.existing graph))
    (signed : Signed entities signatures)
    (validate : Bool) :
    Ensures (function.build entities validate : Build (Program Number)) workspace
      fun _ behind => workspace.Leads graph behind := by
  have grows (result : Except Error (Arguments × Expr)) (behind larger)
      (grown :
        Grown entities signatures (fun _ => True) graph workspace result behind larger) :
      workspace.Leads larger behind :=
    ⟨grown.sound, grown.limits, grown.free, fun node kept => by
      rwa [Workspace.keeps, grown.results]⟩
  have restricts {larger : Set Expr} {behind : Workspace} (included : graph ⊆ larger)
      (leads : workspace.Leads larger behind) :
      workspace.Leads graph behind :=
    ⟨leads.sound.anti included sound.isGraph, leads.extended⟩
  rw [build_eq]
  refine Ensures.bind (tree_grows sound within signed) ?_ ?_
  · rintro ⟨arguments, expression⟩ between ⟨larger, grown⟩
    have member := (grown.built arguments expression rfl).2.1
    have finished :=
      finish_leads function entities validate arguments grown.sound member
    exact
      finished.mono fun _ _ leads =>
        restricts grown.included ((grows _ _ _ grown).trans leads)
  · rintro error behind ⟨larger, grown⟩
    exact restricts grown.included (grows _ _ _ grown)

end Function
end Versor
