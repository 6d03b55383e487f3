import Versor.Proofs.Expression.Interpretation

/-!
# Entries as they were given

The entries of a multivector are shown with their blades and ids in the forms that these
were given in.  Such forms are kept beside the numbers and are put in for some of them,
and the ids of an entry are put in order together with their forms.  A multivector is
faithful if its forms are equal to the numbers that they stand beside, and then so are
those in all its entries (`SpelledMultivector.IsFaithful.of_entries`).
-/

namespace Versor

/-! ## Ids as they were given -/

/-- A literal is equal to an id, which is not negative. -/
structure Literal.IsId
    (literal : Literal)
    (id : SourceId) :
    Prop where
  equal : literal.rational? = some id
  nonneg : 0 ≤ id

theorem Literal.isId_ofId
    {id : SourceId}
    (nonneg : 0 ≤ id) :
    (Literal.ofId id).IsId id := by
  refine ⟨?_, nonneg⟩
  unfold ofId
  split
  · next whole =>
    simp only [rational?, Option.some.injEq]
    exact Rat.coe_int_num_of_den_eq_one whole
  · rfl

namespace GivenForms

theorem length_fillFrom
    (place : Nat)
    (forms : GivenForms)
    (plain : List Literal) :
    (forms.fillFrom place plain).length = plain.length := by
  induction plain generalizing place forms with
  | nil => cases forms <;> rfl
  | cons first rest inductionHypothesis =>
      cases forms with
      | nil => rfl
      | cons form others =>
          rw [fillFrom]
          split <;> rw [List.length_cons, List.length_cons, inductionHypothesis]

/-- A member has no given form if those that there are stand behind it. -/
theorem fillFrom_of_behind
    {place : Nat}
    {forms : GivenForms}
    (behind : ∀ form ∈ forms, place < form.1)
    (first : Literal)
    (rest : List Literal) :
    forms.fillFrom place (first :: rest) = first :: forms.fillFrom (place + 1) rest := by
  cases forms with
  | nil => cases rest <;> rfl
  | cons form others =>
      have different : form.1 ≠ place := (behind form List.mem_cons_self).ne'
      rw [fillFrom, if_neg different]

/-- The given forms of the members of a list that stands behind a place. -/
theorem forall₂_fillFrom
    {literals : List Literal}
    {ids : List SourceId}
    (given : List.Forall₂ Literal.IsId literals ids)
    (place : Nat) :
    List.Forall₂ Literal.IsId
      (fillFrom place
        ((((literals.map fun literal => (literal, !literal.isInteger)).zipIdx place).filter
            fun entry => entry.1.2).map fun entry => (entry.2, entry.1.1))
        (ids.map Literal.ofId))
      ids := by
  induction given generalizing place with
  | nil => exact .nil
  | @cons literal id literals ids isId _ inductionHypothesis =>
      have later := inductionHypothesis (place + 1)
      rw [List.map_cons, List.map_cons, List.zipIdx_cons]
      cases isInteger : literal.isInteger with
      | false =>
          rw [List.filter_cons_of_pos rfl, List.map_cons, fillFrom, if_pos rfl]
          exact .cons isId later
      | true =>
          rw [List.filter_cons_of_neg Bool.false_ne_true, fillFrom_of_behind]
          · exact .cons (Literal.isId_ofId isId.nonneg) later
          · intro form member
            rcases List.mem_map.1 member with ⟨entry, inEntries, rfl⟩
            exact List.le_snd_of_mem_zipIdx (List.mem_of_mem_filter inEntries)

/-- Literals that are equal to ids are shown as literals that are equal to them. -/
theorem forall₂_fill
    {literals : List Literal}
    {ids : List SourceId}
    (given : List.Forall₂ Literal.IsId literals ids) :
    List.Forall₂ Literal.IsId ((ofLiterals literals).fill (ids.map Literal.ofId)) ids :=
  forall₂_fillFrom given 0

end GivenForms

/-! ## Ids in order together with their forms -/

theorem map_fst_insertGiven
    (given : SourceId × Literal)
    (others : List (SourceId × Literal)) :
    (insertGiven given others).map Prod.fst = insertId given.1 (others.map Prod.fst) := by
  induction others with
  | nil => rfl
  | cons other rest inductionHypothesis =>
      rw [insertGiven, List.map_cons, insertId]
      split
      · rfl
      · rw [List.map_cons, inductionHypothesis]

/-- Ids are put in the same order with their forms and without them. -/
theorem map_fst_foldr_insertGiven
    (given : List (SourceId × Literal)) :
    (given.foldr insertGiven []).map Prod.fst = sortIds (given.map Prod.fst) := by
  induction given with
  | nil => rfl
  | cons first rest inductionHypothesis =>
      rw [List.foldr_cons, map_fst_insertGiven, inductionHypothesis]
      rfl

theorem mem_insertGiven
    {given member : SourceId × Literal}
    {others : List (SourceId × Literal)}
    (inside : member ∈ insertGiven given others) :
    member = given ∨ member ∈ others := by
  induction others with
  | nil => exact .inl (List.mem_singleton.1 inside)
  | cons other rest inductionHypothesis =>
      rw [insertGiven] at inside
      split at inside
      · exact List.mem_cons.1 inside
      · rcases List.mem_cons.1 inside with rfl | inRest
        · exact .inr List.mem_cons_self
        · exact (inductionHypothesis inRest).imp_right (List.mem_cons_of_mem other)

/-- No id is lost or added when ids are put in order with their forms. -/
theorem mem_of_mem_foldr_insertGiven
    {member : SourceId × Literal}
    {given : List (SourceId × Literal)}
    (inside : member ∈ given.foldr insertGiven []) :
    member ∈ given := by
  induction given with
  | nil => exact inside
  | cons first rest inductionHypothesis =>
      rcases mem_insertGiven inside with rfl | inRest
      · exact List.mem_cons_self
      · exact List.mem_cons_of_mem first (inductionHypothesis inRest)

namespace Multivector

/-- The ids of entries stand in the order of the entries. -/
theorem map_source_ofEntries
    (algebra : Algebra)
    (entries : List Entry) :
    (ofEntries algebra entries).indeterminates.toList.map Indeterminate.source =
      entries.flatMap Entry.ids := by
  simp [ofEntries, ofSummands, List.flatMap_map, List.map_flatMap, Entry.summand,
    Function.comp_def]

theorem map_fst_givenIds
    (element : Multivector)
    (spelling : ElementSpelling) :
    (element.givenIds spelling).map Prod.fst =
      element.indeterminates.toList.map Indeterminate.source := by
  apply List.map_fst_zip
  simp [GivenForms.fill, GivenForms.length_fillFrom]

/-- The ids of a term are those of the factors of its monomial. -/
theorem map_fst_idsOf
    (element : Multivector)
    (spelling : ElementSpelling)
    (term : Term) :
    (element.idsOf (element.givenIds spelling).toArray term).map Prod.fst =
      (element.summandOf term).factors.map Indeterminate.source := by
  unfold idsOf summandOf
  cases found : element.monomials[term.monomial]? with
  | none => rfl
  | some monomial =>
      simp [factorsOf, List.map_take, List.map_drop, map_fst_givenIds]

theorem mem_of_mem_idsOf
    {element : Multivector}
    {ids : List (SourceId × Literal)}
    {term : Term}
    {given : SourceId × Literal}
    (inside : given ∈ element.idsOf ids.toArray term) :
    given ∈ ids := by
  unfold idsOf at inside
  split at inside
  · rw [Array.toList_extract] at inside
    exact List.mem_of_mem_drop (List.mem_of_mem_take inside)
  · cases inside

end Multivector

/-! ## Faithful forms -/

/-- What is shown of an entry is equal to its numbers. -/
structure SpelledEntry.IsFaithful
    (shown : SpelledEntry) :
    Prop where
  blade : shown.givenBlade.toInt? = some (shown.entry.blade : Int)
  value : shown.coefficient = .fraction shown.entry.value
  ids : List.Forall₂ Literal.IsId shown.ids shown.entry.ids

/-- The forms of ids and blades are equal to these. -/
structure SpelledMultivector.IsFaithful
    (element : SpelledMultivector) :
    Prop where
  ids : ∀ given ∈ element.value.givenIds element.spelling, given.2.IsId given.1
  /-- A blade that was given as a truth value is zero or one. -/
  blades :
    ∀ (place : Nat) (inside : place < element.value.terms.toList.length),
      element.spelling.blades.contains place = true →
        element.value.terms.toList[place].blade ≤ 1

/-- The places of a spelling are those of literals that are truth values. -/
theorem Literal.exists_isTruth_of_contains
    {literals : List Literal}
    {place : Nat}
    (contains : (Literal.spelling literals).contains place = true) :
    ∃ literal, literals[place]? = some literal ∧ literal.isTruth = true := by
  rcases List.mem_map.1 (List.contains_iff_mem.1 contains) with ⟨⟨flag, position⟩, member, rfl⟩
  rcases List.mem_filter.1 member with ⟨inFlags, isSet⟩
  have found := List.mem_zipIdx_iff_getElem?.1 inFlags
  rw [List.getElem?_map] at found
  rcases Option.map_eq_some_iff.1 found with ⟨literal, inLiterals, isFlag⟩
  exact ⟨literal, inLiterals, isFlag.trans isSet⟩

/-- Forms that are equal to the ids make a faithful multivector, if those of the blades do. -/
theorem SpelledMultivector.isFaithful_of_forall₂
    {element : SpelledMultivector}
    (ids :
      let ids := element.value.indeterminates.toList.map Indeterminate.source
      List.Forall₂ Literal.IsId (element.spelling.sources.fill (ids.map Literal.ofId)) ids)
    (blades :
      ∀ (place : Nat) (inside : place < element.value.terms.toList.length),
        element.spelling.blades.contains place = true →
          element.value.terms.toList[place].blade ≤ 1) :
    element.IsFaithful where
  ids := fun _ member => (List.forall₂_iff_zip.1 ids.flip).2 member
  blades := blades

theorem Literal.toInt?_given
    {isTruth : Bool}
    {value : Nat}
    (small : isTruth = true → value ≤ 1) :
    (Literal.given isTruth value).toInt? = some (value : Int) := by
  cases isTruth with
  | false => rfl
  | true =>
      have cases : value = 0 ∨ value = 1 := by
        have bound := small rfl
        omega
      rcases cases with rfl | rfl <;> rfl

/-- An entry that was given by integers is shown faithfully. -/
theorem SpelledEntry.isFaithful_ofEntry
    {entry : Entry}
    (nonneg : ∀ id ∈ entry.ids, 0 ≤ id) :
    (SpelledEntry.ofEntry entry).IsFaithful where
  blade := rfl
  value := rfl
  ids := List.forall₂_map_left_iff.2
    (List.forall₂_same.2 fun id member => Literal.isId_ofId (nonneg id member))

namespace SpelledMultivector

/-- Entries of an exact multivector are shown as they were given, and are those of its value. -/
theorem exists_entries_of_isExact
    {element : SpelledMultivector}
    (isExact : element.isExact = true) :
    ∃ listed,
      element.entries = .ok listed ∧ listed.map SpelledEntry.entry = element.value.entries := by
  refine ⟨_, entries_of_isExact isExact, ?_⟩
  unfold Multivector.spelledEntries
  split
  · rw [List.map_map]
    exact List.map_id _
  · apply List.ext_getElem
    · simp [Multivector.entries, Multivector.summands]
    · intro place _ _
      simp [Multivector.entries, Multivector.summands]

/-- A faithful multivector has ids that are not negative. -/
theorem IsFaithful.ids_nonneg
    {element : SpelledMultivector}
    (faithful : element.IsFaithful) :
    ∀ entry ∈ element.value.entries, ∀ id ∈ entry.ids, 0 ≤ id := by
  intro entry member id inside
  rcases List.mem_map.1 member with ⟨summand, inSummands, rfl⟩
  rcases List.mem_map.1 inSummands with ⟨term, _, rfl⟩
  have source := (sortIds_perm _).subset inside
  rw [← Multivector.map_fst_idsOf _ element.spelling] at source
  rcases List.mem_map.1 source with ⟨given, isGiven, rfl⟩
  exact (faithful.ids given (Multivector.mem_of_mem_idsOf isGiven)).nonneg

/-- The entries of a faithful multivector are shown faithfully. -/
theorem IsFaithful.of_entries
    {element : SpelledMultivector}
    (faithful : element.IsFaithful)
    (isExact : element.isExact = true)
    {listed : List SpelledEntry}
    (shown : element.entries = .ok listed) :
    ∀ entry ∈ listed, entry.IsFaithful := by
  rw [entries_of_isExact isExact] at shown
  cases shown
  unfold Multivector.spelledEntries
  split
  · intro entry member
    rcases List.mem_map.1 member with ⟨source, inEntries, rfl⟩
    exact SpelledEntry.isFaithful_ofEntry (faithful.ids_nonneg source inEntries)
  · intro entry member
    rcases List.mem_mapIdx.1 member with ⟨place, inside, rfl⟩
    refine ⟨?_, rfl, ?_⟩
    · apply Literal.toInt?_given
      intro isTruth
      simp only [Summand.entry, Multivector.blade_summandOf]
      exact faithful.blades place inside isTruth
    · simp only [Summand.entry]
      rw [← Multivector.map_fst_idsOf _ element.spelling, ← map_fst_foldr_insertGiven,
        List.forall₂_map_left_iff, List.forall₂_map_right_iff, List.forall₂_same]
      intro given inOrder
      exact
        faithful.ids given (Multivector.mem_of_mem_idsOf (mem_of_mem_foldr_insertGiven inOrder))

end SpelledMultivector

end Versor
