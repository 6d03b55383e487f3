import Versor.Proofs.Engine.History
import Versor.Proofs.Engine.Transparency

/-!
# An engine keeps what was used last

Under a fixed bound on the number of programs, the keys of the kept programs are
the most recently used ones that differ from each other, as many as the bound
allows (`recentKeys`).  A request is a hit exactly if its key is one of them, and
what a request leaves behind is determined by that (`History.leastRecentlyUsed`).
-/

namespace Versor

/-! ## Recency in lists -/

section Recency

variable {Member : Type*} [DecidableEq Member]

/-- Duplicates are erased among the selected members as among all of them. -/
theorem eraseDups_filter
    (selects : Member → Bool)
    (members : List Member) :
    (members.filter selects).eraseDups = members.eraseDups.filter selects := by
  match members with
  | [] => rfl
  | member :: rest =>
      have shorter : (rest.filter fun other => !other == member).length < rest.length + 1 :=
        Nat.lt_succ_of_le (List.length_filter_le _ rest)
      have among := eraseDups_filter selects (rest.filter fun other => !other == member)
      rw [List.filter_filter] at among
      rw [List.eraseDups_cons, List.filter_cons, List.filter_cons]
      by_cases selected : selects member = true
      · rw [if_pos selected, if_pos selected, List.eraseDups_cons, List.filter_filter, ← among]
        simp only [Bool.and_comm]
      · rw [if_neg selected, if_neg selected, ← among]
        congr 1
        refine List.filter_congr fun other _ => ?_
        by_cases same : other = member
        · simp [same, selected]
        · simp [same]
termination_by members.length

theorem nodup_eraseDups
    (members : List Member) :
    members.eraseDups.Nodup := by
  match members with
  | [] => exact List.nodup_nil
  | member :: rest =>
      have shorter : (rest.filter fun other => !other == member).length < rest.length + 1 :=
        Nat.lt_succ_of_le (List.length_filter_le _ rest)
      rw [List.eraseDups_cons, List.nodup_cons]
      exact ⟨by simp, nodup_eraseDups _⟩
termination_by members.length

/-- The latest member comes first, and its earlier place is given up. -/
theorem eraseDups_cons_eq_erase
    (member : Member)
    (members : List Member) :
    (member :: members).eraseDups = member :: members.eraseDups.erase member := by
  rw [List.eraseDups_cons, eraseDups_filter, (nodup_eraseDups members).erase_eq_filter]
  rfl

/-- A member that is moved to the front pushes one member out, if it was not among the first. -/
theorem take_cons_erase_take
    {members : List Member}
    (distinct : members.Nodup)
    (member : Member)
    (count : Nat) :
    (member :: (members.take count).erase member).take count =
      (member :: members.erase member).take count := by
  cases count with
  | zero => rfl
  | succ count =>
      rw [List.take_succ_cons, List.take_succ_cons]
      congr 1
      induction members generalizing count with
      | nil => rfl
      | cons first rest inductionHypothesis =>
          rw [List.nodup_cons] at distinct
          rw [List.take_succ_cons]
          by_cases same : first = member
          · rw [same, List.erase_cons_head, List.erase_cons_head, List.take_take, min_self]
          · rw [List.erase_cons_tail (by simpa using same),
              List.erase_cons_tail (by simpa using same)]
            cases count with
            | zero => rfl
            | succ count =>
                rw [List.take_succ_cons, List.take_succ_cons,
                  inductionHypothesis distinct.2 count]

end Recency

/-! ## Counts as bounds -/

namespace Quantity

/-- A quantity is a count, given as a number or as a truth value. -/
inductive IsCount :
    Quantity → Nat → Prop
  | integer
    (count : Nat) :
    IsCount (.number (.integer count)) count
  | truth
    (value : Bool) :
    IsCount (.truth value) value.toNat

theorem IsCount.capacity?_eq
    {quantity : Quantity}
    {count : Nat}
    (counts : quantity.IsCount count) :
    quantity.capacity? = some count := by
  cases counts with
  | integer => rfl
  | truth value => cases value <;> rfl

theorem IsCount.isPositive_iff
    {quantity : Quantity}
    {count : Nat}
    (counts : quantity.IsCount count) :
    quantity.isPositive = true ↔ 0 < count := by
  cases counts with
  | integer => simp [isPositive, JsonNumber.isPositive]
  | truth value => cases value <;> decide

end Quantity

/-! ## Recency in engines -/

variable {Number : Type}

/-- The keys that differ from each other and were used last, as many as there is room for. -/
def recentKeys
    (limit : Nat)
    (calls : List Call) :
    List CacheKey :=
  (usedKeys calls).eraseDups.take limit

theorem nodup_recentKeys
    (limit : Nat)
    (calls : List Call) :
    (recentKeys limit calls).Nodup :=
  (nodup_eraseDups _).sublist (List.take_sublist limit _)

theorem recentKeys_of_unused
    {call : Call}
    (unused : call.used? = none)
    (limit : Nat)
    (calls : List Call) :
    recentKeys limit (call :: calls) = recentKeys limit calls := by
  rw [recentKeys, usedKeys, List.filterMap_cons_none unused]
  rfl

/-- The key that is used last comes first, and an earlier place of it is given up. -/
theorem recentKeys_of_used
    {call : Call}
    {key : CacheKey}
    (used : call.used? = some key)
    (limit : Nat)
    (calls : List Call) :
    recentKeys limit (call :: calls) =
      (key :: (recentKeys limit calls).erase key).take limit := by
  rw [recentKeys, usedKeys, List.filterMap_cons_some used, eraseDups_cons_eq_erase]
  exact (take_cons_erase_take (nodup_eraseDups _) key limit).symm

/-- An engine keeps what was used last, and has counted the requests under a key. -/
structure LeastRecentlyUsed
    (limit : Nat)
    (calls : List Call)
    (engine : Engine Number) :
    Prop where
  keys : engine.keys = recentKeys limit calls
  counted : engine.hits + engine.misses = calls.countP fun call => call.key?.isSome

namespace LeastRecentlyUsed

variable {limit : Nat} {calls : List Call} {engine behind : Engine Number}

theorem empty
    (limit : Nat) :
    LeastRecentlyUsed limit [] (Engine.empty : Engine Number) :=
  ⟨List.take_nil.symm, rfl⟩

theorem distinct
    (used : LeastRecentlyUsed limit calls engine) :
    engine.keys.Nodup :=
  used.keys ▸ nodup_recentKeys limit calls

theorem keys_hit
    (used : LeastRecentlyUsed limit calls engine)
    {key : CacheKey}
    {program : Program Number}
    (found : engine.find? key = some program) :
    (engine.recordHit key program).keys =
      (key :: (recentKeys limit calls).erase key).take limit := by
  rw [Engine.keys_recordHit used.distinct, used.keys, List.take_of_length_le]
  -- the key was among the recent ones, so none of them is pushed out
  have member : key ∈ recentKeys limit calls := used.keys ▸ Engine.mem_keys_of_find? found
  have room : (recentKeys limit calls).length ≤ limit := List.length_take_le limit _
  have positive := List.length_pos_of_mem member
  rw [List.length_cons, List.length_erase_of_mem member]
  omega

theorem keys_missed
    (used : LeastRecentlyUsed limit calls engine)
    {settings : Config}
    (bounded : settings.cacheSize.IsCount limit)
    (key : CacheKey)
    (program : Program Number) :
    (engine.recordMiss.insert settings key program).keys =
      (key :: (recentKeys limit calls).erase key).take limit := by
  rw [← used.keys]
  by_cases keeps : settings.keepsPrograms = true
  · have distinct := used.distinct
    rw [← Engine.keys_recordMiss] at distinct
    rw [Engine.keys_insert distinct keeps, Config.programBound?, bounded.capacity?_eq]
    rfl
  · -- nothing is kept, and nothing has been
    have full : limit = 0 :=
      Nat.eq_zero_of_not_pos fun positive => keeps (bounded.isPositive_iff.2 positive)
    rw [Engine.insert_of_not_keepsPrograms (Bool.eq_false_iff.2 keeps), full, List.take_zero]
    exact used.keys.trans (by rw [recentKeys, full, List.take_zero])

/-- Every answer keeps to what was used last. -/
theorem step
    (used : LeastRecentlyUsed limit calls engine)
    {call : Call}
    {result : Except Error (Program Number)}
    (bounded : call.settings.cacheSize.IsCount limit)
    (answer : Engine.Answer call.settings call.key? engine result behind)
    (succeeds : call.succeeds = result.isOk) :
    LeastRecentlyUsed limit (call :: calls) behind where
  keys := by
    cases answer with
    | unkept nameless =>
        have unused : call.used? = none := by simp [Call.used?, nameless]
        rw [recentKeys_of_unused unused, used.keys]
    | hit asked found =>
        rw [recentKeys_of_used ((Call.used?_of_ok succeeds).trans asked), used.keys_hit found]
    | missed asked absent =>
        rw [recentKeys_of_used ((Call.used?_of_ok succeeds).trans asked),
          used.keys_missed bounded]
    | failed asked absent =>
        rw [recentKeys_of_unused (Call.used?_of_error succeeds)]
        exact used.keys
  counted := by rw [answer.counted, used.counted, List.countP_cons]

end LeastRecentlyUsed

open Compute

variable [Arithmetic Number] {limit : Nat} {calls : List Call} {context : Context Number}

/-- An engine keeps what was used last, and answers every request by that. -/
structure FollowsRecency
    (limit : Nat)
    (calls : List Call)
    (context : Context Number) :
    Prop where
  used : LeastRecentlyUsed limit calls context.engine
  answered :
    ∀ settings function entities,
      Engine.AnsweredBy (recentKeys limit calls) (function.cacheKey? entities) context.engine
        (outcome (compileWith settings function entities) context).1
        (outcome (compileWith settings function entities) context).2.engine

/--
Under a fixed bound, the keys that an engine keeps are those used last since it was made
or cleared, the requests under a key have been counted as hits or misses, and every
further request is a hit exactly if its key is one of those.
-/
theorem History.leastRecentlyUsed
    (history : History calls context)
    (bounded : ∀ call ∈ calls, call.settings.cacheSize.IsCount limit) :
    FollowsRecency limit calls context := by
  have used : LeastRecentlyUsed limit calls context.engine := by
    refine
      history.induct
        (motive := fun calls engine =>
          (∀ call ∈ calls, call.settings.cacheSize.IsCount limit) →
            LeastRecentlyUsed limit calls engine)
        (fun _ => .empty limit) ?_ bounded
    intro calls engine call result behind inductionHypothesis answer succeeds bounded
    rw [List.forall_mem_cons] at bounded
    exact (inductionHypothesis bounded.2).step bounded.1 answer succeeds
  refine ⟨used, fun settings function entities => ?_⟩
  rw [← used.keys]
  exact (compiled_outcome settings function entities context).answer.answeredBy

/-- Where there is room for one program, the second one takes the place of the first. -/
theorem leastRecentlyUsed_replaced :
    let settings := { Config.default with cacheSize := .number (.integer 1) }
    let reverse := LibraryFunction.reverse.toFunction
    let identity := LibraryFunction.identity.toFunction
    let start := World.untouched.context
    let between := (outcome (compileWith settings reverse [World.onePoint]) start).2
    let context := (outcome (compileWith settings identity [World.onePoint]) between).2
    let calls : List Call :=
      [.request settings identity [World.onePoint] between,
        .request settings reverse [World.onePoint] start]
    History calls context ∧
      (∀ call ∈ calls, call.settings.cacheSize.IsCount 1) ∧
      context.engine.keys = (identity.cacheKey? [World.onePoint]).toList ∧
      FollowsRecency 1 calls context := by
  intro settings reverse identity start between context calls
  have history : History calls context :=
    ((History.start _ _).compile settings reverse [World.onePoint]).compile settings identity
      [World.onePoint]
  have bounded : ∀ call ∈ calls, call.settings.cacheSize.IsCount 1 := by
    simp only [calls, List.forall_mem_cons]
    exact ⟨.integer 1, .integer 1, by simp⟩
  exact ⟨history, bounded, by decide +kernel, history.leastRecentlyUsed bounded⟩

end Versor
