import Versor.Proofs.Expression.Alike
import Versor.Proofs.Expression.Dependence
import Versor.Proofs.Expression.Interpretation
import Versor.Proofs.Multivector.RoundTrip

/-!
# What is bound for an entity

Every layout fills each of its blades once, uses each of its slots and multiplies slots in
ascending order.  So ordering the contributions of the slots by their blades is all that a
canonical form asks for: what is bound for an entity is laid out of them in this order,
for whatever ids ascend with the slots (`Layout.bindIds_eq_ofEntries`).

From this follows what a first id and a signature say about the bound multivector
(`Entity.bindsLocally`): its ids are the first one and those behind it, one for each slot
of the storage, its blades are those of the entity, another first id only shifts the ids,
and entities with equal signatures share it.
-/

namespace Versor

/-! ## Contributions of slots -/

namespace Layout

theorem map_blade_mappedTerms
    (elements : List Blade) :
    (mappedTerms elements).map SlotTerm.blade = elements := by
  apply List.ext_getElem
  · simp [mappedTerms]
  · intro place _ _
    simp [mappedTerms]

/-- The contributions of the slots are those to the blades of the layout, in their order. -/
theorem map_blade_slotTerms
    (layout : Layout) :
    layout.slotTerms.map SlotTerm.blade = layout.elements := by
  cases layout with
  | point | vector | line | rotor | translator => rfl
  | _ => exact map_blade_mappedTerms _

theorem coefficient_ne_zero
    (layout : Layout) :
    ∀ term ∈ layout.slotTerms, term.coefficient ≠ 0 := by
  have mapped {elements : List Blade} : ∀ term ∈ mappedTerms elements, term.coefficient ≠ 0 := by
    intro term member
    rcases List.mem_mapIdx.1 member with ⟨slot, inside, rfl⟩
    exact one_ne_zero
  cases layout with
  | point | vector | line | rotor | translator => decide
  | _ => exact mapped

/-- Slots that are multiplied are listed in ascending order. -/
theorem slots_ascending
    (layout : Layout) :
    ∀ term ∈ layout.slotTerms, term.slots.Pairwise (· ≤ ·) := by
  have mapped {elements : List Blade} :
      ∀ term ∈ mappedTerms elements, term.slots.Pairwise (· ≤ ·) := by
    intro term member
    rcases List.mem_mapIdx.1 member with ⟨slot, inside, rfl⟩
    exact List.pairwise_singleton _ _
  cases layout with
  | point | vector | line | rotor | translator => decide
  | _ => exact mapped

/-- No slot of the storage is left out. -/
theorem exists_slotTerm
    (layout : Layout) :
    ∀ slot < layout.width, ∃ term ∈ layout.slotTerms, slot ∈ term.slots := by
  have mapped (elements : List Blade) :
      ∀ slot < elements.length, ∃ term ∈ mappedTerms elements, slot ∈ term.slots := by
    intro slot below
    have member : ⟨elements[slot], 1, [slot]⟩ ∈ mappedTerms elements :=
      List.mem_mapIdx.2 ⟨slot, below, rfl⟩
    exact ⟨_, member, List.mem_singleton_self slot⟩
  cases layout with
  | generic algebra elements spelling => exact mapped elements
  | scalar algebra => exact mapped [0]
  | _ => decide

end Layout

/-- What slots contribute if they have given ids. -/
def Layout.SlotTerm.entry
    (id : Nat → SourceId)
    (term : SlotTerm) :
    Entry :=
  ⟨term.blade, term.coefficient, term.slots.map id⟩

namespace Layout

/-- The contributions of the slots in the order of their blades. -/
def orderedTerms
    (layout : Layout) :
    List SlotTerm :=
  layout.slotTerms.mergeSort fun left right => left.blade ≤ right.blade

theorem orderedTerms_perm
    (layout : Layout) :
    layout.orderedTerms.Perm layout.slotTerms :=
  List.mergeSort_perm _ _

theorem mem_orderedTerms
    {layout : Layout}
    {term : SlotTerm} :
    term ∈ layout.orderedTerms ↔ term ∈ layout.slotTerms :=
  layout.orderedTerms_perm.mem_iff

/-- The blades of a layout are those of its ordered contributions. -/
theorem map_blade_orderedTerms_perm
    (layout : Layout) :
    (layout.orderedTerms.map SlotTerm.blade).Perm layout.elements :=
  layout.map_blade_slotTerms ▸ layout.orderedTerms_perm.map SlotTerm.blade

theorem orderedTerms_ascending
    {layout : Layout}
    (distinct : layout.elements.Nodup) :
    (layout.orderedTerms.map SlotTerm.blade).Pairwise (· < ·) := by
  have ordered :
      (layout.orderedTerms.map SlotTerm.blade).Pairwise (· ≤ ·) := by
    rw [List.pairwise_map]
    refine (List.pairwise_mergeSort ?_ ?_ layout.slotTerms).imp of_decide_eq_true
    · intro first second third
      simpa using le_trans
    · intro first second
      simpa using le_total first.blade second.blade
  have different : (layout.orderedTerms.map SlotTerm.blade).Nodup :=
    layout.map_blade_orderedTerms_perm.nodup_iff.2 distinct
  exact (ordered.and different).imp fun both => lt_of_le_of_ne both.1 both.2

/-- The ordered contributions of slots with ascending ids are a canonical list. -/
theorem isCanonical_orderedTerms
    {layout : Layout}
    (distinct : layout.elements.Nodup)
    {id : Nat → SourceId}
    (ascends : Monotone id) :
    IsCanonical (layout.orderedTerms.map (SlotTerm.entry id)) := by
  apply isCanonical_of_blades
  · rw [List.map_map]
    exact orderedTerms_ascending distinct
  · rw [List.forall_mem_map]
    intro term member
    exact layout.coefficient_ne_zero term (mem_orderedTerms.1 member)
  · rw [List.forall_mem_map]
    intro term member
    have slots := layout.slots_ascending term (mem_orderedTerms.1 member)
    exact slots.map id fun _ _ before => ascends before

/-- What is bound for ascending ids is laid out of the contributions in the order of blades. -/
theorem bindIds_eq_ofEntries
    {layout : Layout}
    (distinct : layout.elements.Nodup)
    {id : Nat → SourceId}
    (ascends : Monotone id) :
    layout.bindIds id =
      .ofEntries layout.algebra (layout.orderedTerms.map (SlotTerm.entry id)) := by
  have canonical := isCanonical_orderedTerms distinct ascends
  have permuted :
      (layout.bindingEntries id).Perm (layout.orderedTerms.map (SlotTerm.entry id)) :=
    (layout.orderedTerms_perm.map (SlotTerm.entry id)).symm
  have sorted : (layout.bindingEntries id).map Entry.sorted = layout.bindingEntries id := by
    refine (List.map_congr_left fun entry member => ?_).trans (List.map_id _)
    exact Entry.sorted_eq_self (canonical.idsAscending entry (permuted.subset member))
  rw [bindIds_eq_canonicalize, Multivector.canonicalize, Multivector.entries_ofEntries, sorted,
    canonical.canonicalEntries_eq_of_perm permuted, Multivector.algebra_ofEntries]

end Layout

/-! ## Ids of slots -/

/-- The same entry with all ids shifted. -/
def Entry.shiftIds
    (distance : SourceId)
    (entry : Entry) :
    Entry :=
  { entry with ids := entry.ids.map fun id => id + distance }

namespace Multivector

/-- The same arrays with all ids shifted. -/
def shiftIds
    (distance : SourceId)
    (element : Multivector) :
    Multivector :=
  { element with
    indeterminates :=
      element.indeterminates.map fun factor => { factor with source := factor.source + distance } }

/-- The place of a monomial does not depend on the ids. -/
theorem layOut_shiftIds
    (distance : SourceId)
    (start : Nat)
    (entries : List Entry) :
    layOut start ((entries.map (Entry.shiftIds distance)).map Entry.summand) =
      layOut start (entries.map Entry.summand) := by
  induction entries generalizing start with
  | nil => rfl
  | cons entry rest inductionHypothesis =>
      have width :
          (entry.shiftIds distance).summand.factors.length = entry.summand.factors.length := by
        simp [Entry.summand, Entry.shiftIds]
      simp only [List.map_cons, layOut, width, inductionHypothesis]
      rfl

/-- Entries with shifted ids are laid out in the same way. -/
theorem ofEntries_shiftIds
    (algebra : Algebra)
    (distance : SourceId)
    (entries : List Entry) :
    ofEntries algebra (entries.map (Entry.shiftIds distance)) =
      (ofEntries algebra entries).shiftIds distance := by
  have indeterminates :
      ((entries.map (Entry.shiftIds distance)).map Entry.summand).flatMap Summand.factors =
        ((entries.map Entry.summand).flatMap Summand.factors).map fun factor =>
          { factor with source := factor.source + distance } := by
    simp [List.flatMap_map, List.map_flatMap, Entry.summand, Entry.shiftIds, Function.comp_def]
  have terms :
      ((entries.map (Entry.shiftIds distance)).map Entry.summand).mapIdx
          (fun position summand => (⟨summand.count, position, summand.blade⟩ : Term)) =
        (entries.map Entry.summand).mapIdx fun position summand =>
          ⟨summand.count, position, summand.blade⟩ := by
    apply List.ext_getElem
    · simp
    · intro place _ _
      simp [Entry.summand, Entry.shiftIds]
  simp only [ofEntries, ofSummands, shiftIds, indeterminates, layOut_shiftIds, terms,
    List.map_toArray]

end Multivector

namespace Layout

variable {layout : Layout}

/-- The ids of what is bound are those of the slots. -/
theorem mem_ids_orderedTerms
    {id : Nat → SourceId}
    {source : SourceId} :
    source ∈ (layout.orderedTerms.map (SlotTerm.entry id)).flatMap Entry.ids ↔
      source ∈ (List.range layout.width).map id := by
  rw [List.flatMap_map, List.mem_flatMap, List.mem_map]
  constructor
  · rintro ⟨term, member, inside⟩
    rcases List.mem_map.1 inside with ⟨slot, isSlot, rfl⟩
    have below := layout.slot_lt_width term (mem_orderedTerms.1 member) slot isSlot
    exact ⟨slot, List.mem_range.2 below, rfl⟩
  · rintro ⟨slot, inRange, rfl⟩
    rcases layout.exists_slotTerm slot (List.mem_range.1 inRange) with ⟨term, member, isSlot⟩
    exact ⟨term, mem_orderedTerms.2 member, List.mem_map_of_mem isSlot⟩

theorem sourceIds_bindIds
    (distinct : layout.elements.Nodup)
    {id : Nat → SourceId}
    (ascends : StrictMono id) :
    (layout.bindIds id).sourceIds = (List.range layout.width).map id := by
  have slots : ((List.range layout.width).map id).SortedLT := by
    refine List.Pairwise.sortedLT ?_
    exact List.pairwise_lt_range.map id fun _ _ before => ascends before
  rw [bindIds_eq_ofEntries distinct ascends.monotone, Multivector.sourceIds,
    Multivector.map_source_ofEntries]
  refine (distinctSorted_sortedLT _).eq_of_mem_iff slots fun source => ?_
  rw [mem_distinctSorted]
  exact mem_ids_orderedTerms

theorem entries_bindIds
    (distinct : layout.elements.Nodup)
    {id : Nat → SourceId}
    (ascends : Monotone id) :
    (layout.bindIds id).entries = layout.orderedTerms.map (SlotTerm.entry id) := by
  rw [bindIds_eq_ofEntries distinct ascends]
  exact
    Multivector.entries_ofEntries_of_isCanonical _ (isCanonical_orderedTerms distinct ascends)

/-- Slots with shifted ids are bound in the same way. -/
theorem bindIds_shiftIds
    (distinct : layout.elements.Nodup)
    {id shifted : Nat → SourceId}
    (ascends : Monotone id)
    (distance : SourceId)
    (shift : ∀ slot, shifted slot = id slot + distance) :
    layout.bindIds shifted = (layout.bindIds id).shiftIds distance := by
  have shiftedAscends : Monotone shifted := by
    intro first second before
    rw [shift, shift]
    exact add_le_add_left (ascends before) distance
  have entries :
      layout.orderedTerms.map (SlotTerm.entry shifted) =
        (layout.orderedTerms.map (SlotTerm.entry id)).map (Entry.shiftIds distance) := by
    rw [List.map_map]
    refine List.map_congr_left fun term _ => ?_
    simp [SlotTerm.entry, Entry.shiftIds, shift]
  rw [bindIds_eq_ofEntries distinct shiftedAscends, bindIds_eq_ofEntries distinct ascends, entries,
    Multivector.ofEntries_shiftIds]

end Layout

/-! ## First ids that are whole -/

theorem Literal.rational?_of_toInt?
    {literal : Literal}
    {value : Int}
    (whole : literal.toInt? = some value) :
    literal.rational? = some (value : ℚ) := by
  cases literal with
  | integer number =>
      cases whole
      rfl
  | boolean truth =>
      cases whole
      cases truth <;> simp [rational?]
  | _ => cases whole

/-- The sum of two integers, either of them given as such or as a truth value. -/
theorem Literal.add_of_toInt?
    {left right : Literal}
    {first second : Int}
    (leftWhole : left.toInt? = some first)
    (rightWhole : right.toInt? = some second) :
    left.add right = .ok (.integer (first + second)) := by
  have combined : left.add right = combine (· + ·) (· + ·) (· + ·) left right := by
    cases left with
    | text value => cases leftWhole
    | sequence values => cases leftWhole
    | _ => rfl
  rw [combined, combine, leftWhole, rightWhole]

/-- Slots count up from a first id that was given as an integer or a truth value. -/
theorem FirstId.exists_of_toInt?
    {base : Literal}
    {first : Nat}
    (whole : base.toInt? = some (first : Int)) :
    ∃ given : FirstId,
      ofLiteral? base = some given ∧ ∀ slot, given.id slot = ((first + slot : Nat) : SourceId) := by
  cases base with
  | integer value =>
      cases whole
      refine ⟨.natural first, ?_, fun slot => rfl⟩
      simp [ofLiteral?]
  | boolean value =>
      refine ⟨.truth value, rfl, fun slot => ?_⟩
      have same : (if value then 1 else 0) = first := by
        have equal := Option.some.inj whole
        cases value <;> exact_mod_cast equal
      rw [← same]
      rfl
  | _ => cases whole

namespace Layout

/-- No id of a slot is negative if the first one is not. -/
theorem exists_sumsWith
    (layout : Layout)
    {base : Literal}
    {first : Nat}
    (whole : base.toInt? = some (first : Int)) :
    ∃ ids,
      layout.sumsWith base = .ok ids ∧
        (ids.find? fun id => (id.rational?).any (· < 0)) = none := by
  have each :
      ∀ slot ∈ layout.slotTerms.flatMap SlotTerm.slots,
        ∃ literal : Literal,
          (if slot = 0 && layout.keepsFirst && base.isNumeric then Except.ok base
            else base.add (.integer slot)) =
              .ok literal ∧
            ∃ id : Nat, literal.rational? = some (id : ℚ) := by
    intro slot _
    split
    · exact ⟨base, rfl, first, Literal.rational?_of_toInt? whole⟩
    · have following := Literal.add_of_toInt? whole (rfl : (Literal.integer slot).toInt? = _)
      exact ⟨_, following, first + slot, by simp [Literal.rational?]⟩
  rcases exists_mapM_eq_ok each with ⟨ids, collected, related⟩
  refine ⟨ids, collected, List.find?_eq_none.2 fun literal member => ?_⟩
  rcases exists_of_mem_forall₂ related member with ⟨_, _, id, isId⟩
  simp [isId]

/-- A layout is bound at every first id that is whole and not negative. -/
theorem bindSpelled_eq
    (layout : Layout)
    {base : Literal}
    {first : Nat}
    (whole : base.toInt? = some (first : Int)) :
    ∃ sources : List SpelledEntry,
      layout.bindSpelled base =
        .ok (.merged sources (layout.bindIds fun slot => ((first + slot : Nat) : SourceId))) := by
  rcases layout.exists_sumsWith whole with ⟨ids, summed, accepted⟩
  rcases FirstId.exists_of_toInt? whole with ⟨given, found, counted⟩
  refine ⟨layout.spelledEntries given, ?_⟩
  rw [← funext counted, bindSpelled, whole, summed, found]
  simp only [Option.isNone_some, Bool.and_false, Bind.bind, Except.bind, accepted]
  rfl

end Layout

/-- What is merged out of entries has the blades and the ids as they were given. -/
theorem SpelledMultivector.isWhole_merged
    (sources : List SpelledEntry)
    (value : Multivector) :
    (merged sources value).spelling.IsWhole := by
  change (value.mergedSpelling sources).IsWhole
  unfold Multivector.mergedSpelling
  split <;> exact ⟨rfl, rfl, rfl, rfl⟩

/-- The canonical form of a multivector that is its own one, as it was given. -/
theorem SpelledMultivector.exists_canonicalize_same
    {element : SpelledMultivector}
    (whole : element.spelling.IsWhole)
    (canonical : element.value.canonicalize = element.value) :
    ∃ form,
      element.canonicalize = .ok form ∧ form.value = element.value ∧ element.same form = true := by
  have isExact : element.isExact = true := whole.isExact
  refine
    ⟨merged (element.value.spelledEntries element.spelling) element.value.canonicalize, ?_,
      canonical, ?_⟩
  · rw [SpelledMultivector.canonicalize, entries_of_isExact isExact]
    simp [bind, Except.bind, isExact, pure, Except.pure]
  · refine same_of_isWhole whole (isWhole_merged _ _) ?_
    exact congrArg Multivector.plain canonical.symm

/-! ## Entities -/

/-- The blades of a generic layout are those of its algebra, each of them once. -/
theorem Layout.accepted_of_ofElements
    {algebra : Algebra}
    {literals : List Literal}
    {layout : Layout}
    (accepted : ofElements algebra literals = .ok layout) :
    layout.InRange ∧ layout.elements.Nodup := by
  rcases exists_of_bind_eq_ok accepted with ⟨blades, checked, made⟩
  by_cases same : (distinctSorted blades).length = blades.length
  · rw [if_pos same] at made
    cases made
    refine ⟨fun blade member => ?_, nodup_of_length_distinctSorted same⟩
    rcases exists_of_mem_forall₂ (mapM_eq_ok.1 checked) member with ⟨literal, _, isBlade⟩
    exact Algebra.lt_bladeCount_of_checkBlade isBlade
  · rw [if_neg same] at made
    cases made

namespace Entity

variable {Number : Type}

/--
An entity as its constructor makes it: a generic one on a list of literal blades that are
accepted, and each of them with storage of the width of its layout.
-/
structure IsConstructed
    (entity : Entity Number) :
    Prop where
  elements :
    entity.layout.kind = .generic →
      ∃ literals, Layout.ofElements entity.algebra literals = .ok entity.layout
  width : entity.storage.shape.getLast? = some entity.layout.width

namespace IsConstructed

variable {entity : Entity Number}

theorem inRange
    (constructed : entity.IsConstructed) :
    entity.layout.InRange := by
  by_cases isGeneric : entity.layout.kind = .generic
  · rcases constructed.elements isGeneric with ⟨literals, accepted⟩
    exact (Layout.accepted_of_ofElements accepted).1
  · exact Layout.inRange_of_kind isGeneric

theorem distinct
    (constructed : entity.IsConstructed) :
    entity.layout.elements.Nodup := by
  by_cases isGeneric : entity.layout.kind = .generic
  · rcases constructed.elements isGeneric with ⟨literals, accepted⟩
    exact (Layout.accepted_of_ofElements accepted).2
  · generalize entity.layout = layout at isGeneric
    cases layout with
    | generic algebra elements spelling => exact absurd rfl isGeneric
    | scalar algebra => exact List.nodup_singleton 0
    | _ => decide

theorem width_eq
    (constructed : entity.IsConstructed) :
    entity.width = .ok entity.layout.width := by
  simp [Entity.width, constructed.width]

theorem signature_eq
    (constructed : entity.IsConstructed) :
    entity.signature = .ok ⟨entity.layout, entity.layout.width⟩ := by
  rw [signature, constructed.width_eq]
  rfl

end IsConstructed

/-- Entities with equal signatures have equal layouts, up to how these were given. -/
theorem layout_plain_eq
    {entity other : Entity Number}
    (constructed : entity.IsConstructed)
    (same : entity.signature.map Signature.plain = other.signature.map Signature.plain) :
    entity.layout.plain = other.layout.plain := by
  rw [constructed.signature_eq, signature] at same
  cases found : other.width with
  | error error =>
      rw [found] at same
      cases same
  | ok width =>
      rw [found] at same
      exact congrArg Signature.layout (Except.ok.inj same)

/-- What is bound for an entity at a first id. -/
structure BindsLocally
    (entity : Entity Number)
    (base : Literal)
    (first : Nat)
    (bound : SpelledMultivector) :
    Prop where
  valid : bound.value.Valid
  canonical :
    ∃ form, bound.canonicalize = .ok form ∧ form.value = bound.value ∧ bound.same form = true
  /-- The ids in use are the first one and those behind it, one for each slot of the storage. -/
  sourceIds :
    ∃ width,
      entity.width = .ok width ∧
        bound.value.sourceIds = (List.range width).map fun slot => ((first + slot : Nat) : SourceId)
  /-- All of them are ids of terms. -/
  ids : ∀ id, id ∈ bound.value.sourceIds ↔ ∃ entry ∈ bound.value.entries, id ∈ entry.ids
  /-- Each blade of the entity has one term, and no other blade has one. -/
  blades : (bound.value.entries.map Entry.blade).Perm entity.layout.elements
  /-- The first id only shifts the ids. -/
  shifted :
    ∃ origin,
      entity.layout.bindSpelled (.integer 0) = .ok origin ∧
        bound.value = origin.value.shiftIds first
  /-- The values, the type and the batch of the storage do not matter. -/
  shared :
    ∀ other : Entity Number,
      entity.signature.map Signature.plain = other.signature.map Signature.plain →
        ∃ otherBound,
          other.layout.bindSpelled base = .ok otherBound ∧ bound.same otherBound = true

/--
Every entity that a constructor makes can be bound at every first id that is whole and not
negative.  What is bound is a valid canonical form with one term on each blade of the
entity, in which the ids from the first one on occur, as many as the storage has slots.
The first id only shifts these ids, and the rest depends on nothing but the signature.
-/
theorem bindsLocally
    {entity : Entity Number}
    (constructed : entity.IsConstructed)
    {base : Literal}
    {first : Nat}
    (whole : base.toInt? = some (first : Int)) :
    ∃ bound,
      entity.layout.bindSpelled base = .ok bound ∧ entity.BindsLocally base first bound := by
  have distinct := constructed.distinct
  have ascends (start : Nat) : StrictMono fun slot => ((start + slot : Nat) : SourceId) :=
    fun _ _ before => Nat.cast_lt.2 (Nat.add_lt_add_left before start)
  rcases entity.layout.bindSpelled_eq whole with ⟨sources, made⟩
  refine ⟨_, made, ?_⟩
  constructor
  case valid =>
    exact
      Multivector.valid_iff_isProper.2
        (Layout.isProper_bindIds constructed.inRange fun _ => Nat.cast_nonneg _)
  case canonical =>
    refine
      SpelledMultivector.exists_canonicalize_same (SpelledMultivector.isWhole_merged _ _) ?_
    change (entity.layout.bindIds _).canonicalize = entity.layout.bindIds _
    rw [Layout.bindIds_eq_canonicalize, Multivector.canonicalize_canonicalize]
  case sourceIds =>
    exact ⟨_, constructed.width_eq, Layout.sourceIds_bindIds distinct (ascends first)⟩
  case ids =>
    intro id
    change id ∈ (entity.layout.bindIds _).sourceIds ↔
      ∃ entry ∈ (entity.layout.bindIds _).entries, id ∈ entry.ids
    rw [Layout.sourceIds_bindIds distinct (ascends first),
      Layout.entries_bindIds distinct (ascends first).monotone, ← Layout.mem_ids_orderedTerms,
      List.mem_flatMap]
  case blades =>
    change ((entity.layout.bindIds _).entries.map Entry.blade).Perm _
    rw [Layout.entries_bindIds distinct (ascends first).monotone, List.map_map]
    exact entity.layout.map_blade_orderedTerms_perm
  case shifted =>
    have zero : (Literal.integer 0).toInt? = some ((0 : Nat) : Int) := rfl
    rcases entity.layout.bindSpelled_eq zero with ⟨originSources, origin⟩
    refine ⟨_, origin, ?_⟩
    refine Layout.bindIds_shiftIds distinct (ascends 0).monotone first fun slot => ?_
    push_cast
    ring
  case shared =>
    intro other same
    rcases other.layout.bindSpelled_eq whole with ⟨otherSources, otherMade⟩
    refine ⟨_, otherMade, ?_⟩
    apply SpelledMultivector.same_of_isWhole
    · exact SpelledMultivector.isWhole_merged _ _
    · exact SpelledMultivector.isWhole_merged _ _
    · change (entity.layout.bindIds _).plain = (other.layout.bindIds _).plain
      rw [Layout.plain_bindIds, layout_plain_eq constructed same, ← Layout.plain_bindIds]

/-- Blades in any order, one of them given as a truth value, over a batch of two. -/
theorem bindsLocally_scattered :
    let layout : Layout := .generic .projective [6, 1, 0] [1]
    let entity : Entity ℚ := ⟨1, layout, ⟨.float64, [2, 3], #[1, 2, 3, 4, 5, 6]⟩⟩
    entity.IsConstructed ∧
      ∃ bound,
        entity.layout.bindSpelled (.integer 4) = .ok bound ∧
          entity.BindsLocally (.integer 4) 4 bound := by
  intro layout entity
  have constructed : entity.IsConstructed := by
    refine ⟨fun _ => ⟨[.integer 6, .boolean true, .integer 0], ?_⟩, rfl⟩
    rfl
  exact ⟨constructed, bindsLocally constructed rfl⟩

end Entity

end Versor
