import Versor.Proofs.Multivector.Closure
import Versor.Proofs.Multivector.Given

/-!
# Entries and arrays

A list of entries is written into the three arrays of a multivector, where the ids of all
monomials stand in one row, and read back out of them.  Writing succeeds if the blades
belong to the algebra and no id is negative, and what is read back is the list itself,
in its order, with the ids of each entry ascending.  Canonical forms are read and written
back without a change, and the value of a valid multivector, looked up place by place in
its arrays, is the sum of what its entries stand for (`SpelledMultivector.entries_inverse`).
-/

namespace Versor

/-! ## Written entries -/

/-- An entry and the same one with its ids in ascending order. -/
structure Entry.IsSortedAs
    (entry sorted : Entry) :
    Prop where
  blade : sorted.blade = entry.blade
  value : sorted.value = entry.value
  perm : sorted.ids.Perm entry.ids
  ascending : sorted.ids.Pairwise (· ≤ ·)

theorem Entry.isSortedAs_sorted
    (entry : Entry) :
    entry.IsSortedAs entry.sorted :=
  ⟨rfl, rfl, sortIds_perm entry.ids, sortIds_sorted entry.ids⟩

/-- What is written down stands for an entry on a blade of an algebra. -/
structure Draft.WrittenEntry.StandsFor
    (algebra : Algebra)
    (written : WrittenEntry)
    (entry : Entry) :
    Prop where
  blade : algebra.blade? written.blade = some entry.blade
  value : written.value.toCoefficient = .ok entry.value
  ids : List.Forall₂ Literal.IsId written.ids entry.ids

/-- What is shown of an entry, written down as it is shown. -/
def SpelledEntry.written
    (shown : SpelledEntry) :
    Draft.WrittenEntry :=
  ⟨shown.givenBlade, shown.coefficient, shown.ids⟩

theorem Algebra.blade?_of_toInt?
    {algebra : Algebra}
    {literal : Literal}
    {blade : Blade}
    (whole : literal.toInt? = some (blade : Int))
    (inside : blade < algebra.bladeCount) :
    algebra.blade? literal = some blade := by
  simp [blade?, whole, inside]

theorem Algebra.toInt?_of_blade?
    {algebra : Algebra}
    {literal : Literal}
    {blade : Blade}
    (found : algebra.blade? literal = some blade) :
    literal.toInt? = some (blade : Int) := by
  cases whole : literal.toInt? with
  | none => simp [blade?, whole] at found
  | some value =>
      simp only [blade?, whole] at found
      split at found
      · next inside =>
        cases found
        rw [Int.toNat_of_nonneg inside.1]
      · cases found

theorem SpelledEntry.IsFaithful.written_standsFor
    {shown : SpelledEntry}
    (faithful : shown.IsFaithful)
    {algebra : Algebra}
    (inside : shown.entry.blade < algebra.bladeCount) :
    shown.written.StandsFor algebra shown.entry where
  blade := Algebra.blade?_of_toInt? faithful.blade inside
  value := by
    rw [written, faithful.value]
    rfl
  ids := faithful.ids

theorem Literal.exists_of_isInteger
    {literal : Literal}
    (isInteger : literal.isInteger = true) :
    ∃ value, literal = .integer value := by
  cases literal with
  | integer value => exact ⟨value, rfl⟩
  | _ => cases isInteger

theorem Literal.isReal_of_isInteger
    {literal : Literal}
    (isInteger : literal.isInteger = true) :
    literal.isReal = false := by
  rcases exists_of_isInteger isInteger with ⟨value, rfl⟩
  rfl

namespace Draft

namespace WrittenEntry.StandsFor

variable {algebra : Algebra} {written : WrittenEntry} {entry : Entry}

theorem blade_lt
    (standsFor : written.StandsFor algebra entry) :
    entry.blade < algebra.bladeCount := by
  apply Algebra.lt_bladeCount_of_checkBlade
  rw [Algebra.checkBlade, standsFor.blade]

theorem ids_nonneg
    (standsFor : written.StandsFor algebra entry) :
    ∀ id ∈ entry.ids, 0 ≤ id := by
  intro id member
  rcases exists_of_mem_forall₂ standsFor.ids member with ⟨literal, _, isId⟩
  exact isId.nonneg

theorem isProper_summand
    (standsFor : written.StandsFor algebra entry) :
    entry.summand.IsProper algebra :=
  Entry.isProper_summand standsFor.blade_lt standsFor.ids_nonneg

/-- A truth value stands for one of the first two blades. -/
theorem blade_le_one
    (standsFor : written.StandsFor algebra entry)
    (isTruth : written.blade.isTruth = true) :
    entry.blade ≤ 1 := by
  have whole := Algebra.toInt?_of_blade? standsFor.blade
  cases isBlade : written.blade with
  | boolean value =>
      rw [isBlade] at whole
      have small : (entry.blade : Int) ≤ 1 := by
        rw [← Option.some.inj whole]
        cases value <;> decide
      exact_mod_cast small
  | _ =>
      rw [isBlade] at isTruth
      cases isTruth

end WrittenEntry.StandsFor

theorem comparand_of_isId
    {literal : Literal}
    {id : SourceId}
    (isId : literal.IsId id) :
    comparand literal = .ok id := by
  have equal := isId.equal
  cases literal with
  | real value =>
      simp only [Literal.rational?, ratOfFloat?] at equal
      simp only [comparand]
      cases found : FloatValue.ofFloat value <;> simp_all
  | _ => simp_all [comparand, Literal.rational?]

theorem checkIndeterminate_of_isId
    {literal : Literal}
    {id : SourceId}
    (isId : literal.IsId id) :
    checkIndeterminate (literal, 1) = .ok ⟨id, 1⟩ := by
  simp [checkIndeterminate, comparand_of_isId isId, bind, Except.bind, pure, Except.pure,
    isId.nonneg.not_gt]

/-- A term that counts a monomial once, on a blade given in any way. -/
theorem checkTerm_of_blade?
    {algebra : Algebra}
    {available place : Nat}
    {literal : Literal}
    {blade : Blade}
    (inside : place < available)
    (found : algebra.blade? literal = some blade)
    (position : Nat) :
    checkTerm algebra available position ⟨.integer 1, .integer (place : Int), literal⟩ =
      .ok ⟨1, place, blade⟩ := by
  have checked : algebra.checkBlade literal = .ok blade := by
    rw [Algebra.checkBlade, found]
  have count : comparand (.integer 1) = .ok 1 := rfl
  have compared : comparand (.integer (place : Int)) = .ok (place : ℚ) := rfl
  rw [checkTerm, count, compared, checked]
  simp [bind, Except.bind, pure, Except.pure, inside, Rat.floor]

/-- A written entry with its coefficient stands for an entry. -/
structure Reads
    (algebra : Algebra)
    (read : WrittenEntry × Rat)
    (entry : Entry) :
    Prop where
  standsFor : read.1.StandsFor algebra entry
  value : read.2 = entry.value

theorem exists_coefficients
    {algebra : Algebra}
    {written : List WrittenEntry}
    {entries : List Entry}
    (stand : List.Forall₂ (WrittenEntry.StandsFor algebra) written entries) :
    ∃ reads, coefficients written = .ok reads ∧ List.Forall₂ (Reads algebra) reads entries := by
  induction stand with
  | nil => exact ⟨[], rfl, .nil⟩
  | @cons first entry written entries standsFor _ inductionHypothesis =>
      rcases inductionHypothesis with ⟨reads, converted, related⟩
      refine ⟨(first, entry.value) :: reads, mapM_eq_ok.2 (.cons ?_ (mapM_eq_ok.1 converted)), ?_⟩
      · rw [standsFor.value]
        rfl
      · exact .cons ⟨standsFor, rfl⟩ related

/-! ## Laying out what is written -/

section LaidOut

variable
  {algebra : Algebra}
  {reads : List (WrittenEntry × Rat)}
  {entries : List Entry}
  (related : List.Forall₂ (Reads algebra) reads entries)

include related

/-- The ids of written entries stand in one row. -/
theorem forall₂_ids :
    List.Forall₂ Literal.IsId ((ofEntries reads).indeterminates.map Prod.fst)
      (entries.flatMap Entry.ids) := by
  have written :
      (ofEntries reads).indeterminates.map Prod.fst = reads.flatMap fun read => read.1.ids := by
    simp [ofEntries, List.map_flatMap, Function.comp_def]
  rw [written]
  exact List.rel_flatMap related fun read entry reads => reads.standsFor.ids

/-- The ids of written entries pass their checks. -/
theorem forall₂_indeterminates :
    List.Forall₂ (fun written factor => ∀ _ : Nat, checkIndeterminate written = .ok factor)
      (ofEntries reads).indeterminates ((entries.map Entry.summand).flatMap Summand.factors) := by
  rw [ofEntries, List.flatMap_map]
  refine List.rel_flatMap related fun read entry reads => ?_
  simp only [Entry.summand, List.forall₂_map_left_iff, List.forall₂_map_right_iff]
  exact reads.standsFor.ids.imp fun _ _ isId _ => checkIndeterminate_of_isId isId

/-- Each monomial spans the ids of its entry, which are behind those of the entries before it. -/
theorem forall₂_layOutEntries
    (available start : Nat)
    (room : start + ((entries.map Entry.summand).flatMap Summand.factors).length ≤ available) :
    List.Forall₂
      (fun monomial checked => ∀ position, checkMonomial available position monomial = .ok checked)
      (layOutEntries start reads) (Multivector.layOut start (entries.map Entry.summand)) := by
  induction related generalizing start with
  | nil => exact .nil
  | @cons read entry reads entries first _ inductionHypothesis =>
      have width : read.1.ids.length = entry.summand.factors.length := by
        simpa [Entry.summand] using first.standsFor.ids.length_eq
      simp only [List.map_cons, List.flatMap_cons, List.length_append] at room
      have proper := first.standsFor.isProper_summand
      rcases read with ⟨written, value⟩
      have sameValue : value = entry.value := first.value
      subst sameValue
      simp only [List.map_cons, layOutEntries, Multivector.layOut]
      refine .cons (fun position => ?_) ?_
      · rw [width]
        apply (checkMonomial_eq_ok_iff available position ⟨_, _, _, _⟩).2
        exact ⟨proper.sign, proper.coefficient, by dsimp only; omega⟩
      · rw [width]
        exact inductionHypothesis _ (by omega)

/-- Each term counts the monomial of its entry once. -/
theorem checkAll_terms :
    checkAll (checkTerm algebra (ofEntries reads).monomials.length) 0 (ofEntries reads).terms =
      .ok
        ((entries.map Entry.summand).mapIdx fun position summand =>
          ⟨summand.count, position, summand.blade⟩) := by
  have count : (ofEntries reads).monomials.length = entries.length := by
    have same := (forall₂_layOutEntries related _ 0 (Nat.zero_add _).le).length_eq
    simpa [ofEntries] using same
  apply checkAll_eq_ok
  rw [count, ofEntries, List.forall₂_iff_get]
  have sameLength := related.length_eq
  constructor
  · simp [sameLength]
  · intro place inReads inEntries position
    have insideReads : place < reads.length := by simpa using inReads
    have insideEntries : place < entries.length := by simpa using inEntries
    have found := (related.get insideReads insideEntries).standsFor.blade
    simpa [Entry.summand] using checkTerm_of_blade? insideEntries found position

/-- Entries that are written down pass all checks, and make the multivector of the entries. -/
theorem validate_ofEntries :
    (ofEntries reads).validate algebra = .ok (Multivector.ofEntries algebra entries) := by
  have row := forall₂_indeterminates related
  have indeterminates :
      checkAll (fun _ => checkIndeterminate) 0 (ofEntries reads).indeterminates =
        .ok ((entries.map Entry.summand).flatMap Summand.factors) :=
    checkAll_eq_ok row 0
  have monomials :
      checkAll (checkMonomial (ofEntries reads).indeterminates.length) 0
          (ofEntries reads).monomials =
        .ok (Multivector.layOut 0 (entries.map Entry.summand)) := by
    apply checkAll_eq_ok
    exact forall₂_layOutEntries related _ 0 ((Nat.zero_add _).trans row.length_eq.symm).le
  rw [validate, indeterminates, monomials, checkAll_terms related]
  rfl

end LaidOut

/-! ## Expanding what is written -/

/-- A monomial whose sign, width and start are written as integers. -/
structure IsWholeMonomial
    (monomial : DraftMonomial) :
    Prop where
  sign : monomial.sign.isInteger = true
  width : monomial.width.isInteger = true
  start : monomial.start.isInteger = true

theorem isWholeMonomial_of_mem_layOutEntries
    {reads : List (WrittenEntry × Rat)}
    {start : Nat}
    {monomial : DraftMonomial}
    (member : monomial ∈ layOutEntries start reads) :
    IsWholeMonomial monomial := by
  induction reads generalizing start with
  | nil => cases member
  | cons read rest inductionHypothesis =>
      rcases List.mem_cons.1 member with rfl | member
      · exact ⟨rfl, rfl, rfl⟩
      · exact inductionHypothesis member

/-- Exact numbers are multiplied without a fault. -/
theorem exists_givenValue
    (summand : Summand)
    (sign count : Int) :
    ∃ value : Rat, summand.givenValue (.integer sign) (.integer count) = .ok (.fraction value) := by
  have multiplied (factors : List Indeterminate) (start : Rat) :
      ∃ value : Rat,
        factors.foldlM
            (fun total factor => total.multiply (.fraction factor.multiplier))
            (Literal.fraction start) =
          .ok (.fraction value) := by
    induction factors generalizing start with
    | nil => exact ⟨start, rfl⟩
    | cons factor rest inductionHypothesis =>
        rw [List.foldlM_cons]
        exact inductionHypothesis (start * factor.multiplier)
  exact multiplied summand.factors _

/-- A term is expanded if its monomial and its count are written as integers. -/
theorem checkExpansion_eq_ok
    {draft : Draft}
    (whole : ∀ monomial ∈ draft.monomials, IsWholeMonomial monomial)
    (element : Multivector)
    {written : DraftTerm}
    (count : written.count.isInteger = true)
    (place : written.monomial.isInteger = true)
    (term : Term) :
    draft.checkExpansion element written term = .ok () := by
  unfold checkExpansion
  cases found : draft.monomials[term.monomial]? with
  | none => rfl
  | some monomial =>
      have isWhole := whole monomial (List.mem_of_getElem? found)
      rcases Literal.exists_of_isInteger count with ⟨times, isTimes⟩
      rcases Literal.exists_of_isInteger isWhole.sign with ⟨sign, isSign⟩
      rcases exists_givenValue (element.summandOf term) sign times with ⟨value, expanded⟩
      simp [isTimes, isSign, Literal.isReal_of_isInteger place,
        Literal.isReal_of_isInteger isWhole.width, Literal.isReal_of_isInteger isWhole.start,
        expanded, bind, Except.bind, pure, Except.pure]

theorem checkPlaces_ofEntries
    (reads : List (WrittenEntry × Rat))
    (element : Multivector) :
    (ofEntries reads).checkPlaces element = .ok () := by
  apply forM_eq_ok
  rintro ⟨written, term⟩ member
  have inTerms : written ∈ (ofEntries reads).terms := (List.of_mem_zip member).1
  rcases List.mem_mapIdx.1 inTerms with ⟨place, inside, rfl⟩
  have whole : ∀ monomial ∈ (ofEntries reads).monomials, IsWholeMonomial monomial :=
    fun _ => isWholeMonomial_of_mem_layOutEntries
  exact checkExpansion_eq_ok whole element rfl rfl term

end Draft

/-! ## Numbers given as integers -/

/-- Everything but the ids, the blades and the places of monomials was given as integers. -/
structure ElementSpelling.IsWhole
    (spelling : ElementSpelling) :
    Prop where
  signs : spelling.signs = []
  widths : spelling.widths = []
  starts : spelling.starts = []
  counts : spelling.counts = []

theorem ElementSpelling.IsWhole.isExact
    {spelling : ElementSpelling}
    (whole : spelling.IsWhole) :
    spelling.isExact = true := by
  rw [ElementSpelling.isExact, whole.signs, whole.counts]
  rfl

/-- Numbers that are not flagged have no given forms. -/
theorem GivenForms.ofFlagged_eq_nil
    {literals : List (Literal × Bool)}
    (unflagged : ∀ literal ∈ literals, literal.2 = false) :
    ofFlagged literals = [] := by
  rw [ofFlagged, List.map_eq_nil_iff, List.filter_eq_nil_iff]
  rintro ⟨literal, place⟩ member
  rw [unflagged literal (List.fst_mem_of_mem_zipIdx member)]
  exact Bool.false_ne_true

theorem GivenForms.ofLiterals_eq_nil
    {literals : List Literal}
    (integers : ∀ literal ∈ literals, literal.isInteger = true) :
    ofLiterals literals = [] := by
  apply ofFlagged_eq_nil
  intro flagged member
  rcases List.mem_map.1 member with ⟨literal, inLiterals, rfl⟩
  rw [integers literal inLiterals]
  rfl

/-- Apart from blades and ids, entries are written in integers. -/
theorem Draft.isWhole_spelling_ofEntries
    (reads : List (WrittenEntry × Rat)) :
    (ofEntries reads).spelling.IsWhole := by
  have monomials : ∀ monomial ∈ (ofEntries reads).monomials, IsWholeMonomial monomial :=
    fun _ => isWholeMonomial_of_mem_layOutEntries
  constructor
  case signs =>
    apply GivenForms.ofLiterals_eq_nil
    exact List.forall_mem_map.2 fun monomial member => (monomials monomial member).sign
  case widths =>
    apply GivenForms.ofLiterals_eq_nil
    exact List.forall_mem_map.2 fun monomial member => (monomials monomial member).width
  case starts =>
    apply GivenForms.ofFlagged_eq_nil
    rw [List.forall_mem_map]
    intro monomial member
    have whole := monomials monomial member
    rw [Literal.isReal_of_isInteger whole.width, whole.start]
    rfl
  case counts =>
    apply GivenForms.ofLiterals_eq_nil
    rw [List.forall_mem_map]
    intro term member
    rcases List.mem_mapIdx.1 member with ⟨place, inside, rfl⟩
    rfl

namespace SpelledMultivector

/-- The counts of a draft are those of the terms as they were given. -/
theorem map_count_draft
    (element : SpelledMultivector) :
    element.draft.terms.map DraftTerm.count = element.value.givenCounts element.spelling := by
  apply List.ext_getElem
  · simp [draft, Multivector.givenCounts, Literal.spelled, GivenForms.fill,
      GivenForms.length_fillFrom]
  · intro place _ _
    simp [draft]

/-- The numbers of arrays that were given as integers are those of the value. -/
theorem givenNumbers_of_isWhole
    {element : SpelledMultivector}
    (whole : element.spelling.IsWhole) :
    element.givenNumbers = (ofValue element.value).givenNumbers := by
  have monomials : element.draft.monomials = (ofValue element.value).draft.monomials := by
    simp only [draft, Multivector.givenSigns, whole.signs, whole.widths, whole.starts, ofValue]
  have counts :
      element.draft.terms.map DraftTerm.count =
        (ofValue element.value).draft.terms.map DraftTerm.count := by
    rw [map_count_draft, map_count_draft, Multivector.givenCounts, whole.counts]
    rfl
  rw [givenNumbers, givenNumbers, monomials, counts]

/-- Multivectors that were given as integers are equal if their values are. -/
theorem same_of_isWhole
    {left right : SpelledMultivector}
    (leftWhole : left.spelling.IsWhole)
    (rightWhole : right.spelling.IsWhole)
    (equal : left.value.plain = right.value.plain) :
    left.same right = true := by
  have numbers : left.givenNumbers = right.givenNumbers := by
    rw [givenNumbers_of_isWhole leftWhole, givenNumbers_of_isWhole rightWhole]
    change (ofValue left.value.plain).givenNumbers = (ofValue right.value.plain).givenNumbers
    rw [equal]
  have monomials : left.value.monomials = right.value.monomials := by
    change left.value.plain.monomials = right.value.plain.monomials
    rw [equal]
  have terms : left.value.terms = right.value.terms := by
    change left.value.plain.terms = right.value.plain.terms
    rw [equal]
  simp only [same, numbers, monomials, terms, equal, beq_self_eq_true, Bool.and_self]

/-! ## Reading back -/

/-- The forms that entries are written in are equal to their ids and their blades. -/
theorem isFaithful_ofEntries
    {algebra : Algebra}
    {reads : List (Draft.WrittenEntry × Rat)}
    {entries : List Entry}
    (related : List.Forall₂ (Draft.Reads algebra) reads entries) :
    IsFaithful ⟨.ofEntries algebra entries, (Draft.ofEntries reads).spelling⟩ := by
  apply isFaithful_of_forall₂
  · intro ids
    have inOrder : ids = entries.flatMap Entry.ids :=
      Multivector.map_source_ofEntries algebra entries
    rw [inOrder]
    exact GivenForms.forall₂_fill (Draft.forall₂_ids related)
  · intro place inside contains
    rcases Literal.exists_isTruth_of_contains contains with ⟨literal, found, isTruth⟩
    have inEntries : place < entries.length := by
      simpa [Multivector.ofEntries, Multivector.ofSummands] using inside
    have inReads : place < reads.length := related.length_eq.symm ▸ inEntries
    have isLiteral : reads[place].1.blade = literal := by
      simpa [Draft.ofEntries, inReads] using found
    have small :=
      (related.get inReads inEntries).standsFor.blade_le_one (isLiteral.symm ▸ isTruth)
    simpa [Multivector.ofEntries, Multivector.ofSummands, Entry.summand] using small

theorem exists_ofWrittenEntries
    {algebra : Algebra}
    {written : List Draft.WrittenEntry}
    {entries : List Entry}
    (stand : List.Forall₂ (Draft.WrittenEntry.StandsFor algebra) written entries) :
    ∃ built,
      ofWrittenEntries algebra written = .ok built ∧
        built.value = .ofEntries algebra entries ∧ built.spelling.IsWhole ∧
          built.IsFaithful := by
  rcases Draft.exists_coefficients stand with ⟨reads, converted, related⟩
  refine ⟨⟨.ofEntries algebra entries, (Draft.ofEntries reads).spelling⟩, ?_, rfl, ?_, ?_⟩
  · rw [ofWrittenEntries, converted]
    change ofDraft algebra (Draft.ofEntries reads) = _
    rw [ofDraft, Draft.validate_ofEntries related]
    change (do (Draft.ofEntries reads).checkPlaces _; _) = _
    rw [Draft.checkPlaces_ofEntries]
    rfl
  · exact Draft.isWhole_spelling_ofEntries reads
  · exact isFaithful_ofEntries related

end SpelledMultivector

/-! ## Values -/

section Value

variable {Coefficient : Type*} [CommRing Coefficient] [Module ℚ Coefficient]

/-- What an entry stands for: its coefficient times the product of its ids, on its blade. -/
noncomputable def Entry.elementAt
    (assignment : SourceId → Coefficient)
    (entry : Entry) :
    Reference.Element Coefficient :=
  Finsupp.single (Blade.vectors entry.blade)
    (entry.value • (entry.ids.map assignment).prod)

namespace Multivector

/-- What a term adds to a value, with its monomial and the factors of that looked up. -/
noncomputable def contributionAt
    (assignment : SourceId → Coefficient)
    (element : Multivector)
    (term : Term) :
    Reference.Element Coefficient :=
  (element.monomials[term.monomial]?).elim 0 fun monomial =>
    Finsupp.single (Blade.vectors term.blade)
      ((monomial.coefficient * (monomial.sign : ℚ) * (term.count : ℚ)) •
        ((List.range monomial.width).map fun place =>
          (element.indeterminates[monomial.start + place]?).elim 0 fun factor =>
            factor.multiplier • assignment factor.source).prod)

/-- The factors of a monomial are those looked up one after the other, if its span exists. -/
theorem map_factorsOf
    {Value : Type*}
    {element : Multivector}
    {monomial : Monomial}
    (span : monomial.start + monomial.width ≤ element.indeterminates.size)
    (read : Indeterminate → Value)
    (missing : Value) :
    ((List.range monomial.width).map fun place =>
        (element.indeterminates[monomial.start + place]?).elim missing read) =
      (element.factorsOf monomial).map read := by
  apply List.ext_getElem
  · simp only [factorsOf, List.length_map, List.length_range, Array.length_toList,
      Array.size_extract]
    omega
  · intro place inside _
    have inWidth : place < monomial.width := by simpa using inside
    have inRow : monomial.start + place < element.indeterminates.size := by omega
    simp [factorsOf, inRow]

theorem contributionAt_eq_elementAt
    (assignment : SourceId → Coefficient)
    {element : Multivector}
    (inRange : element.InRange)
    {term : Term}
    (member : term ∈ element.terms) :
    element.contributionAt assignment term =
      (element.summandOf term).entry.elementAt assignment := by
  have place := inRange.places term member
  have span := inRange.spans element.monomials[term.monomial] (Array.getElem_mem place)
  have found : element.monomials[term.monomial]? = some element.monomials[term.monomial] :=
    Array.getElem?_eq_getElem place
  have looked :
      element.contributionAt assignment term =
        (element.summandOf term).elementAt assignment := by
    rw [contributionAt, summandOf, found, Option.elim_some, map_factorsOf span]
    rfl
  rw [looked, Summand.elementAt_eq_weighAt]
  rfl

/-- The terms of a multivector add up to what its entries add up to. -/
theorem sum_contributionAt
    (assignment : SourceId → Coefficient)
    {element : Multivector}
    (inRange : element.InRange) :
    (element.terms.toList.map (element.contributionAt assignment)).sum =
      (element.entries.map (Entry.elementAt assignment)).sum := by
  rw [entries, summands, List.map_map, List.map_map]
  refine congrArg List.sum (List.map_congr_left fun term member => ?_)
  exact contributionAt_eq_elementAt assignment inRange (Array.mem_toList_iff.1 member)

end Multivector

end Value

/-! ## Writing and reading -/

namespace SpelledMultivector

/-- Entries that are written down are read back in order, with ascending ids. -/
theorem entries_ofWrittenEntries
    {algebra : Algebra}
    {written : List Draft.WrittenEntry}
    {entries : List Entry}
    (stand : List.Forall₂ (Draft.WrittenEntry.StandsFor algebra) written entries) :
    ∃ built listed,
      ofWrittenEntries algebra written = .ok built ∧ built.value.Valid ∧
        built.entries = .ok listed ∧
          List.Forall₂ (fun entry shown => entry.IsSortedAs shown.entry ∧ shown.IsFaithful)
            entries listed := by
  rcases exists_ofWrittenEntries stand with ⟨built, made, value, whole, faithful⟩
  rcases exists_entries_of_isExact whole.isExact with ⟨listed, shown, same⟩
  have areFaithful := faithful.of_entries whole.isExact shown
  refine ⟨built, listed, made, ?_, shown, ?_⟩
  · rw [value]
    apply Multivector.valid_iff_isProper.2
    apply Multivector.isProper_ofEntries
    · intro entry member
      rcases exists_of_mem_forall₂ stand member with ⟨_, _, standsFor⟩
      exact standsFor.blade_lt
    · intro entry member
      rcases exists_of_mem_forall₂ stand member with ⟨_, _, standsFor⟩
      exact standsFor.ids_nonneg
  · have sorted : List.Forall₂ Entry.IsSortedAs entries (listed.map SpelledEntry.entry) := by
      rw [same, value, Multivector.entries_ofEntries, List.forall₂_map_right_iff]
      exact List.forall₂_same.2 fun entry _ => entry.isSortedAs_sorted
    rw [List.forall₂_map_right_iff] at sorted
    refine List.forall₂_iff_get.2 ⟨sorted.length_eq, fun place inEntries inListed => ?_⟩
    exact ⟨sorted.get inEntries inListed, areFaithful _ (List.get_mem listed _)⟩

/-- The arrays of a valid multivector, given in numbers, are faithful. -/
theorem isFaithful_ofValue
    {element : Multivector}
    (valid : element.Valid) :
    (ofValue element).IsFaithful := by
  apply isFaithful_of_forall₂
  · intro ids
    have nonneg : ∀ id ∈ ids, 0 ≤ id := by
      intro id member
      rcases List.mem_map.1 member with ⟨factor, inFactors, rfl⟩
      exact
        (Multivector.valid_iff_isProper.1 valid).sources factor (Array.mem_toList_iff.1 inFactors)
    have plain : GivenForms.fill [] (ids.map Literal.ofId) = ids.map Literal.ofId := by
      cases ids <;> rfl
    change List.Forall₂ Literal.IsId (GivenForms.fill [] (ids.map Literal.ofId)) ids
    rw [plain, List.forall₂_map_left_iff, List.forall₂_same]
    exact fun id member => Literal.isId_ofId (nonneg id member)
  · intro place inside contains
    cases contains

/-- A canonical form has exactly the arrays of its entries. -/
theorem ofEntries_entries_of_canonical
    {element : Multivector}
    (canonical : element.canonicalize = element) :
    .ofEntries element.algebra element.entries = element := by
  have listed : canonicalEntries element.entries = element.entries := by
    rw [← Multivector.entries_canonicalize, canonical]
  calc
    Multivector.ofEntries element.algebra element.entries =
        .ofEntries element.algebra (canonicalEntries element.entries) := by rw [listed]
    _ = element := canonical

/-- A canonical form is written back without a change. -/
theorem ofWrittenEntries_entries
    {element : SpelledMultivector}
    (whole : element.spelling.IsWhole)
    (canonical : element.value.canonicalize = element.value)
    {written : List Draft.WrittenEntry}
    (stand :
      List.Forall₂ (Draft.WrittenEntry.StandsFor element.value.algebra) written
        element.value.entries) :
    ∃ built,
      ofWrittenEntries element.value.algebra written = .ok built ∧
        built.value = element.value ∧ built.same element = true := by
  rcases exists_ofWrittenEntries stand with ⟨built, made, value, builtWhole, _⟩
  rw [ofEntries_entries_of_canonical canonical] at value
  exact ⟨built, made, value, same_of_isWhole builtWhole whole (congrArg Multivector.plain value)⟩

/--
Entries and arrays are inverse to each other up to the order of ids.  Entries
on blades of an algebra, whose ids are not negative, are laid out as a valid
multivector and read back in order, each with the same blade and coefficient
and with its ids ascending.  The entries of a canonical form make the same arrays
again, whether they are written down as they are shown or in any other way.
The value of a valid multivector is the sum of what its entries stand for, in
every commutative ring over the rationals.
-/
theorem entries_inverse
    (Coefficient : Type*)
    [CommRing Coefficient]
    [Module ℚ Coefficient] :
    (∀ (algebra : Algebra) (written : List Draft.WrittenEntry) (entries : List Entry),
        List.Forall₂ (Draft.WrittenEntry.StandsFor algebra) written entries →
          ∃ built listed,
            ofWrittenEntries algebra written = .ok built ∧ built.value.Valid ∧
              built.entries = .ok listed ∧
                List.Forall₂ (fun entry shown => entry.IsSortedAs shown.entry ∧ shown.IsFaithful)
                  entries listed) ∧
      (∀ element : SpelledMultivector,
        element.spelling.IsWhole →
          element.value.IsValidCanonical →
            ∃ listed,
              element.entries = .ok listed ∧
                (element.IsFaithful →
                  ∃ built,
                    ofWrittenEntries element.value.algebra (listed.map SpelledEntry.written) =
                        .ok built ∧
                      built.value = element.value ∧ built.same element = true) ∧
                  ∀ written : List Draft.WrittenEntry,
                    List.Forall₂ (Draft.WrittenEntry.StandsFor element.value.algebra) written
                        (listed.map SpelledEntry.entry) →
                      ∃ built,
                        ofWrittenEntries element.value.algebra written = .ok built ∧
                          built.value = element.value ∧ built.same element = true) ∧
      ∀ element : SpelledMultivector,
        element.isExact = true →
          element.value.Valid →
            ∃ listed,
              element.entries = .ok listed ∧
                ∀ assignment : SourceId → Coefficient,
                  (element.value.terms.toList.map
                      (element.value.contributionAt assignment)).sum =
                    (listed.map fun shown => shown.entry.elementAt assignment).sum := by
  refine ⟨?laidOut, ?canonical, ?value⟩
  case laidOut =>
    intro algebra written entries stand
    exact entries_ofWrittenEntries stand
  case canonical =>
    intro element whole canonical
    have inRange := canonical.valid.inRange
    rcases exists_entries_of_isExact whole.isExact with ⟨listed, shown, same⟩
    refine ⟨listed, shown, fun faithful => ?_, fun written stand => ?_⟩
    · apply ofWrittenEntries_entries whole canonical.canonical
      rw [← same, List.forall₂_map_left_iff, List.forall₂_map_right_iff, List.forall₂_same]
      intro entry member
      have inside : entry.entry.blade < element.value.algebra.bladeCount :=
        inRange.blades entry.entry (same ▸ List.mem_map_of_mem member)
      exact (faithful.of_entries whole.isExact shown entry member).written_standsFor inside
    · rw [same] at stand
      exact ofWrittenEntries_entries whole canonical.canonical stand
  case value =>
    intro element isExact valid
    rcases exists_entries_of_isExact isExact with ⟨listed, shown, same⟩
    refine ⟨listed, shown, fun assignment => ?_⟩
    rw [Multivector.sum_contributionAt assignment valid.inRange, ← same, List.map_map]
    rfl

/-- A repeated id, a zero, a truth value and a coefficient below zero. -/
theorem entries_inverse_projective :
    let written : List Draft.WrittenEntry :=
      [⟨.integer 6, .integer (-2), [.integer 3, .boolean true, .integer 3]⟩,
        ⟨.boolean true, .fraction 0, []⟩]
    let entries : List Entry := [⟨6, -2, [3, 1, 3]⟩, ⟨1, 0, []⟩]
    let value : Multivector :=
      ⟨.projective, #[⟨1, 1⟩, ⟨3, 1⟩, ⟨3, 1⟩], #[⟨1, 5, 0, 0⟩, ⟨-1, 2, 3, 0⟩],
        #[⟨1, 0, 1⟩, ⟨1, 1, 6⟩]⟩
    let element : SpelledMultivector := .ofValue value
    (∃ built listed,
        ofWrittenEntries .projective written = .ok built ∧ built.value.Valid ∧
          built.entries = .ok listed ∧
            List.Forall₂ (fun entry shown => entry.IsSortedAs shown.entry ∧ shown.IsFaithful)
              entries listed) ∧
      (∃ listed built,
        element.entries = .ok listed ∧
          ofWrittenEntries .projective (listed.map SpelledEntry.written) = .ok built ∧
            built.value = value ∧ built.same element = true) ∧
        ∃ listed,
          element.entries = .ok listed ∧
            (value.terms.toList.map (value.contributionAt fun id => id)).sum =
              (listed.map fun shown => shown.entry.elementAt fun id => id).sum := by
  intro written entries value element
  have stand : List.Forall₂ (Draft.WrittenEntry.StandsFor .projective) written entries := by
    refine .cons ⟨rfl, rfl, ?_⟩ (.cons ⟨rfl, rfl, .nil⟩ .nil)
    exact .cons ⟨rfl, by decide⟩ (.cons ⟨rfl, by decide⟩ (.cons ⟨rfl, by decide⟩ .nil))
  have valid : value.Valid := by unfold Multivector.Valid; cbv
  have canonical : value.canonicalize = value := by cbv
  have whole : element.spelling.IsWhole := ⟨rfl, rfl, rfl, rfl⟩
  rcases entries_inverse ℚ with ⟨laidOut, unchanged, sums⟩
  refine ⟨laidOut _ _ _ stand, ?_, ?_⟩
  · rcases unchanged element whole ⟨valid, canonical⟩ with ⟨listed, shown, again, _⟩
    rcases again (isFaithful_ofValue valid) with ⟨built, made, equal⟩
    exact ⟨listed, built, shown, made, equal⟩
  · rcases sums element whole.isExact valid with ⟨listed, shown, equal⟩
    exact ⟨listed, shown, equal fun id => id⟩

end SpelledMultivector

end Versor
