import Versor.Program
import Versor.Proofs.Expression.Growth
import Versor.Proofs.Expression.Leaves

/-!
# Binding the entities of a function

The entities that a function is compiled for are bound one behind the other:
each has the ids that follow those of its predecessor, as many as its storage
has slots.  `placements` says where, without a workspace, and
`outcome_bindAll` that this is what binding them does.  The ranges of ids are
apart, so bindings of arguments pass every check.
-/

namespace Versor

variable {Number : Type}

/-- An entity with its structure and the first of its ids. -/
structure Placement (Number : Type) where
  entity : Entity Number
  signature : Signature
  base : Nat

namespace Placement

/-- The binding of an entity at its place. -/
def binding
    (placement : Placement Number) :
    Binding :=
  ⟨placement.entity.identity, placement.entity.layout, .natural placement.base⟩

/-- What a program has to know of an entity at its place. -/
def input
    (placement : Placement Number) :
    Input :=
  ⟨placement.signature, .natural placement.base⟩

/-- Placements that do not share ids. -/
def Disjoint
    (left right : Placement Number) :
    Prop :=
  left.base + left.signature.width ≤ right.base ∨
    right.base + right.signature.width ≤ left.base

/-- Placements that bind the same or do not share ids. -/
def Apart
    (left right : Placement Number) :
    Prop :=
  Expr.sameBinding left.binding right.binding = true ∨ left.Disjoint right

end Placement

/-- Entities one behind the other, from an id on. -/
def placements
    (base : Nat) :
    List (Entity Number × Signature) → List (Placement Number)
  | [] => []
  | (entity, signature) :: rest =>
      ⟨entity, signature, base⟩ :: placements (base + signature.width) rest

/-- The leaves of placed entities, from a node on. -/
def leavesFrom
    (node : Nat) :
    List (Placement Number) → List Expr
  | [] => []
  | placement :: rest => .bind node placement.binding :: leavesFrom (node + 1) rest

/-- Placed entities as the arguments of a function. -/
def argumentsOf
    (node : Nat)
    (placed : List (Placement Number)) :
    Function.Arguments :=
  ⟨leavesFrom node placed, placed.map Placement.binding, placed.map Placement.input⟩

/-- The structures of entities. -/
abbrev Signed
    (entities : List (Entity Number))
    (signatures : List Signature) :
    Prop :=
  List.Forall₂ (fun entity signature => entity.signature = .ok signature) entities signatures

/-! ## Places -/

theorem placements_length
    (base : Nat)
    (pairs : List (Entity Number × Signature)) :
    (placements base pairs).length = pairs.length := by
  induction pairs generalizing base with
  | nil => rfl
  | cons pair rest inductionHypothesis =>
      rw [placements, List.length_cons, List.length_cons, inductionHypothesis]

theorem base_le_of_mem_placements
    {base : Nat}
    {pairs : List (Entity Number × Signature)} :
    ∀ placement ∈ placements base pairs, base ≤ placement.base := by
  induction pairs generalizing base with
  | nil => simp [placements]
  | cons pair rest inductionHypothesis =>
      refine List.forall_mem_cons.2 ⟨le_rfl, fun placement member => ?_⟩
      exact (Nat.le_add_right _ _).trans (inductionHypothesis placement member)

/-- The ids of an entity are below those of all later ones. -/
theorem placements_pairwise
    (base : Nat)
    (pairs : List (Entity Number × Signature)) :
    (placements base pairs).Pairwise fun left right =>
      left.base + left.signature.width ≤ right.base := by
  induction pairs generalizing base with
  | nil => exact .nil
  | cons pair rest inductionHypothesis =>
      exact List.pairwise_cons.2 ⟨base_le_of_mem_placements, inductionHypothesis _⟩

/-- Entities with slots are at one place if their ids begin at the same one. -/
theorem place_eq_of_base_eq
    {base : Nat}
    {pairs : List (Entity Number × Signature)}
    (inhabited : ∀ placement ∈ placements base pairs, 0 < placement.signature.width)
    {place next : Nat}
    (inside : place < (placements base pairs).length)
    (nextInside : next < (placements base pairs).length)
    (same : (placements base pairs)[place].base = (placements base pairs)[next].base) :
    place = next := by
  have ordered := List.pairwise_iff_getElem.1 (placements_pairwise base pairs)
  by_contra different
  rcases Nat.lt_or_gt_of_ne different with before | after
  · have apart := ordered place next inside nextInside before
    have width := inhabited _ (List.getElem_mem inside)
    omega
  · have apart := ordered next place nextInside inside after
    have width := inhabited _ (List.getElem_mem nextInside)
    omega

/-- Of two placements one is before the other, unless they bind the same. -/
theorem apart_of_mem_placements
    {base : Nat}
    {pairs : List (Entity Number × Signature)}
    {left right : Placement Number}
    (leftMember : left ∈ placements base pairs)
    (rightMember : right ∈ placements base pairs) :
    left.Apart right := by
  have ordered := placements_pairwise base pairs
  have reflexive : ∀ placement ∈ placements base pairs, placement.Apart placement :=
    fun placement _ => .inl (Expr.sameBinding_iff.2 ⟨rfl, rfl⟩)
  exact
    (ordered.imp fun before => .inr (.inl before)).forall_of_forall_of_flip reflexive
      (ordered.imp fun before => .inr (.inr before)) leftMember rightMember

theorem mem_of_mem_placements
    {base : Nat}
    {pairs : List (Entity Number × Signature)} :
    ∀ placement ∈ placements base pairs, (placement.entity, placement.signature) ∈ pairs := by
  induction pairs generalizing base with
  | nil => simp [placements]
  | cons pair rest inductionHypothesis =>
      refine List.forall_mem_cons.2 ⟨List.mem_cons_self .., fun placement member => ?_⟩
      exact List.mem_cons_of_mem _ (inductionHypothesis placement member)

theorem map_entity_placements
    (base : Nat)
    (pairs : List (Entity Number × Signature)) :
    (placements base pairs).map Placement.entity = pairs.map Prod.fst := by
  induction pairs generalizing base with
  | nil => rfl
  | cons pair rest inductionHypothesis =>
      rw [placements, List.map_cons, List.map_cons, inductionHypothesis]

theorem mem_leavesFrom
    {node : Nat}
    {placed : List (Placement Number)} :
    ∀ leaf ∈ leavesFrom node placed, ∃ number, ∃ placement ∈ placed,
      leaf = .bind number placement.binding := by
  induction placed generalizing node with
  | nil => simp [leavesFrom]
  | cons placement rest inductionHypothesis =>
      refine List.forall_mem_cons.2 ⟨⟨node, placement, .head _, rfl⟩, fun leaf member => ?_⟩
      rcases inductionHypothesis leaf member with ⟨number, found, inRest, same⟩
      exact ⟨number, found, .tail _ inRest, same⟩

/-! ## Binding -/

open Build

theorem ofBinding_natural
    (entity : Nat)
    (layout : Layout)
    (base : Nat) :
    Expr.ofBinding entity layout (.integer base) =
      (Build.fresh >>= fun node =>
        pure (.bind node ⟨entity, layout, .natural base⟩)) := by
  have notNegative : (Literal.rational? (.integer base)).any (· < 0) = false := by
    simp [Literal.rational?]
  have first : FirstId.ofLiteral? (.integer base) = some (.natural base) := by
    simp [FirstId.ofLiteral?]
  unfold Expr.ofBinding
  simp [notNegative, first, FirstId.isWhole]

/-- The workspace behind a step that takes several numbers. -/
def Workspace.advancedBy
    (workspace : Workspace)
    (count : Nat) :
    Workspace :=
  { workspace with free := workspace.free + count }

namespace Function

/-- Binding an entity takes a number, whatever comes behind it. -/
theorem bindAll_cons
    {algebra : Algebra}
    {entity : Entity Number}
    (agrees : entity.algebra.Agrees algebra)
    (base : Nat)
    (rest : List (Entity Number)) :
    bindAll algebra base (entity :: rest) =
      (Build.fresh >>= fun node =>
        Build.ofExcept entity.signature >>= fun signature =>
          bindAll algebra (base + signature.width) rest >>= fun others =>
            pure
              ⟨.bind node ⟨entity.identity, entity.layout, .natural base⟩ :: others.leaves,
                ⟨entity.identity, entity.layout, .natural base⟩ :: others.bindings,
                ⟨signature, .natural base⟩ :: others.inputs⟩) := by
  rw [bindAll, ofBinding_natural, bind_assoc]
  simp [agrees]

theorem bindAll_cons_of_not_agrees
    {algebra : Algebra}
    {entity : Entity Number}
    (differs : ¬ entity.algebra.Agrees algebra)
    (base : Nat)
    (rest : List (Entity Number)) :
    bindAll algebra base (entity :: rest) =
      throw (.entitiesOfAlgebras algebra.metric entity.algebra.metric) := by
  rw [bindAll]
  simp only [differs, not_false_eq_true, if_true]
  rfl

/-- Entities of one algebra are placed one behind the other. -/
theorem outcome_bindAll
    {algebra : Algebra}
    {entities : List (Entity Number)}
    {signatures : List Signature}
    (agree : ∀ entity ∈ entities, entity.algebra.Agrees algebra)
    (signed : Signed entities signatures)
    (base : Nat)
    (workspace : Workspace) :
    outcome (bindAll algebra base entities) workspace =
      (.ok (argumentsOf workspace.free (placements base (entities.zip signatures))),
        workspace.advancedBy entities.length) := by
  induction signed generalizing base workspace with
  | nil => rfl
  | @cons entity signature entities signatures first others inductionHypothesis =>
      rcases List.forall_mem_cons.1 agree with ⟨agrees, restAgree⟩
      rw [bindAll_cons agrees, outcome_bind, outcome_fresh]
      simp only [outcome_bind, outcome_ofExcept, first, inductionHypothesis restAgree,
        outcome_pure]
      refine Prod.ext rfl ?_
      simp [Workspace.advancedBy, Nat.add_assoc, Nat.add_comm 1]

/-- Entities that can be bound have a structure in the algebra, and no result gets kept. -/
theorem bindAll_spec
    (algebra : Algebra)
    (base : Nat)
    (entities : List (Entity Number))
    (workspace : Workspace) :
    Ensures (bindAll algebra base entities) workspace fun result behind =>
      (behind.limits = workspace.limits ∧ behind.results = workspace.results ∧
          workspace.free ≤ behind.free) ∧
        ∀ arguments, result = .ok arguments →
          ∀ entity ∈ entities,
            entity.algebra.Agrees algebra ∧ ∃ signature, entity.signature = .ok signature := by
  induction entities generalizing base workspace with
  | nil => exact ⟨⟨rfl, rfl, le_rfl⟩, fun _ _ => by simp⟩
  | cons entity rest inductionHypothesis =>
      by_cases agrees : entity.algebra.Agrees algebra
      · rw [bindAll_cons agrees]
        refine Ensures.fresh (Ensures.ofExcept (fun signature signed => ?_) fun error _ => ?_)
        · refine Ensures.bind (inductionHypothesis (base + signature.width) _) ?_ ?_
          · intro arguments behind ⟨⟨limits, results, free⟩, restAgree⟩
            refine ⟨⟨limits, results, (Nat.le_succ _).trans free⟩, fun _ _ => ?_⟩
            exact List.forall_mem_cons.2 ⟨⟨agrees, signature, signed⟩, restAgree arguments rfl⟩
          · intro error behind ⟨⟨limits, results, free⟩, _⟩
            exact
              ⟨⟨limits, results, (Nat.le_succ _).trans free⟩, fun _ failed => by cases failed⟩
        · exact ⟨⟨rfl, rfl, Nat.le_succ _⟩, fun _ failed => by cases failed⟩
      · unfold Ensures
        rw [bindAll_cons_of_not_agrees agrees]
        exact ⟨⟨rfl, rfl, le_rfl⟩, fun _ failed => by cases failed⟩

end Function

namespace Workspace

/-- The leaves of placed entities may be added to the graph of expressions. -/
theorem Sound.insertLeaves
    {workspace : Workspace}
    {graph : Set Expr}
    (sound : workspace.Sound graph)
    (placed : List (Placement Number)) :
    ∃ larger,
      graph ⊆ larger ∧
        (∀ leaf ∈ leavesFrom workspace.free placed, leaf ∈ larger) ∧
        (workspace.advancedBy placed.length).Sound larger := by
  induction placed generalizing workspace graph with
  | nil => exact ⟨graph, subset_rfl, by simp [leavesFrom], sound⟩
  | cons placement rest inductionHypothesis =>
      let leaf : Expr := .bind workspace.free placement.binding
      have oneMore : workspace.advanced.Sound (Insert.insert leaf graph) :=
        sound.insert rfl (by simp [leaf, Expr.operands])
      rcases inductionHypothesis oneMore with ⟨larger, included, leaves, largerSound⟩
      refine ⟨larger, (Set.subset_insert _ _).trans included, ?_, ?_⟩
      · exact List.forall_mem_cons.2 ⟨included (Set.mem_insert _ _), leaves⟩
      · have sameFree :
            workspace.advancedBy (placement :: rest).length =
              workspace.advanced.advancedBy rest.length := by
          simp [advancedBy, advanced, Nat.add_assoc, Nat.add_comm 1]
        rw [sameFree]
        exact largerSound

end Workspace

/-! ## Checks of the bindings -/

/-- The identity of an entity tells it from all others. -/
def Identified
    (entities : List (Entity Number)) :
    Prop :=
  ∀ entity ∈ entities, ∀ other ∈ entities,
    entity.identity = other.identity → entity = other

theorem Identified.find?
    {entities : List (Entity Number)}
    (identified : Identified entities)
    {entity : Entity Number}
    (member : entity ∈ entities) :
    (entities.find? fun other => other.identity == entity.identity) = some entity := by
  cases search : entities.find? fun other => other.identity == entity.identity with
  | none =>
      have absent := List.find?_eq_none.1 search entity member
      simp at absent
  | some found =>
      have same : found.identity = entity.identity := by
        simpa using List.find?_some search
      rw [identified found (List.mem_of_find?_eq_some search) entity member same]

theorem Identified.widthsOf
    {entities : List (Entity Number)}
    (identified : Identified entities)
    {entity : Entity Number}
    (member : entity ∈ entities) :
    Function.widthsOf entities entity.identity = entity.width := by
  rw [Function.widthsOf, widthsIn, identified.find? member]

/-- The structure of an entity is its layout with the width of its storage. -/
theorem of_signature_eq_ok
    {entity : Entity Number}
    {signature : Signature}
    (signed : entity.signature = .ok signature) :
    signature.layout = entity.layout ∧ entity.width = .ok signature.width := by
  rcases exists_of_bind_eq_ok signed with ⟨width, found, same⟩
  cases same
  exact ⟨rfl, found⟩

/-- Bindings of placed entities pass the check of the ids. -/
theorem placed_of_subset
    {entities : List (Entity Number)}
    {signatures : List Signature}
    (identified : Identified entities)
    (signed : Signed entities signatures)
    {base : Nat}
    {bindings : List Binding}
    (own :
      ∀ binding ∈ bindings, ∃ placement ∈ placements base (entities.zip signatures),
        binding = placement.binding) :
    Expr.Placed (Function.widthsOf entities) bindings := by
  have widthAt :
      ∀ placement ∈ placements base (entities.zip signatures),
        Function.widthsOf entities placement.entity.identity =
          .ok placement.signature.width := by
    intro placement member
    have pair := mem_of_mem_placements placement member
    have isSigned := List.forall₂_zip signed pair
    rw [identified.widthsOf (List.of_mem_zip pair).1]
    exact (of_signature_eq_ok isSigned).2
  refine
    { located := fun binding member => ?_
      apart := fun left inLeft right inRight => ?_ }
  · rcases own binding member with ⟨placement, isPlaced, rfl⟩
    exact ⟨placement.base, _, rfl, widthAt placement isPlaced⟩
  · rcases own left inLeft with ⟨first, firstPlaced, rfl⟩
    rcases own right inRight with ⟨second, secondPlaced, rfl⟩
    intro firstBase width secondBase otherWidth located found otherLocated otherFound
    have sameWidth := found.symm.trans (widthAt first firstPlaced)
    have sameOtherWidth := otherFound.symm.trans (widthAt second secondPlaced)
    cases located
    cases otherLocated
    cases sameWidth
    cases sameOtherWidth
    exact apart_of_mem_placements firstPlaced secondPlaced

end Versor
