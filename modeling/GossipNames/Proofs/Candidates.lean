import GossipNames.Proofs.InboundValues

/-! What the choice among candidates depends on: on the valid ones alone, and on their order only
where two of them rank alike. -/

namespace GossipNames

/-- Of the values that none exceeds, the first one is taken. -/
theorem argmax_eq_find? {α β : Type} [DecidableEq α] [LinearOrder β] (f : α → β) (values : List α) :
    values.argmax f = values.find? fun value => values.all fun other => !decide (f value < f other)
    := by
  cases highest : values.argmax f with
  | none =>
    rw [List.argmax_eq_none.mp highest]
    rfl
  | some value =>
    obtain ⟨member, bound, first⟩ := List.mem_argmax_iff.mp highest
    obtain ⟨before, after, split, new⟩ := List.eq_append_cons_of_mem member
    symm
    rw [List.find?_eq_some_iff_append]
    refine ⟨by simpa using bound, before, after, split, ?_⟩
    intro earlier ahead
    have present : earlier ∈ values := by
      rw [split]
      exact List.mem_append_left _ ahead
    have lower : f earlier < f value := by
      by_contra high
      have index := first earlier present (not_lt.mp high)
      rw [split, List.idxOf_append_of_notMem new, List.idxOf_append_of_mem ahead,
        List.idxOf_cons_self, Nat.add_zero] at index
      exact absurd (List.idxOf_lt_length_of_mem ahead) (Nat.not_lt.mpr index)
    simpa using ⟨value, member, lower⟩

theorem Timestamp.instant_inj {first second : Timestamp} :
    first.instant = second.instant ↔ first = second := by
  constructor
  · intro same
    obtain ⟨seconds, nanos⟩ := Prod.mk.inj (toLex_inj.mp same)
    cases first
    cases second
    cases seconds
    cases nanos
    rfl
  · exact congrArg instant

theorem NameRecord.rank_inj {record other : NameRecord} :
    record.rank = other.rank
      ↔ record.sequence = other.sequence ∧ record.validity = other.validity := by
  rw [rank, rank, toLex_inj, Prod.mk.injEq, UInt64.toNat_inj, Timestamp.instant_inj]

section Choosing

variable [SignatureScheme] {key : PublicKey} {now : Timestamp}

def isValid (key : PublicKey) (now : Timestamp) (candidate : Bytes) : Bool :=
  (validateRecord key now candidate).isOk

/-- Why the candidates that are not valid are not, in order. -/
def rejections (key : PublicKey) (now : Timestamp) (candidates : List Bytes) : List Rejection :=
  candidates.filterMap fun candidate =>
    match validateRecord key now candidate with
    | .error rejection => some rejection
    | .ok _ => none

theorem selectRecord_rejected (candidates : List Bytes) :
    (selectRecord key now candidates).rejected = rejections key now candidates := by
  induction candidates using List.reverseRecOn with
  | nil => rfl
  | append_singleton front candidate ih =>
    rw [selectRecord_concat, rejections, List.filterMap_append, ← rejections, ← ih]
    cases outcome : validateRecord key now candidate with
    | error rejection => simp [Selection.consider, outcome]
    | ok record =>
      simp only [Selection.consider, outcome]
      split <;> simp [outcome]

theorem validRecords_filter (candidates : List Bytes) :
    validRecords key now (candidates.filter (isValid key now))
      = validRecords key now candidates := by
  rw [validRecords, List.filterMap_filter, validRecords]
  apply List.filterMap_congr
  intro candidate _
  cases outcome : validateRecord key now candidate <;>
    simp [isValid, outcome, Except.isOk, Except.toBool, Except.toOption]

theorem best_eq_find? (candidates : List Bytes) :
    (selectRecord key now candidates).best
      = (validRecords key now candidates).find? fun record =>
        (validRecords key now candidates).all fun other => !other.supersedes record := by
  rw [selectRecord_best, argmax_eq_find?]
  simp only [← NameRecord.supersedes_iff, Bool.decide_eq_true]

theorem isSome_best_iff {candidates : List Bytes} :
    (selectRecord key now candidates).best.isSome = true
      ↔ ∃ candidate ∈ candidates, ∃ record, validateRecord key now candidate = .ok record := by
  constructor
  · intro selected
    obtain ⟨best, selected⟩ := Option.isSome_iff_exists.mp selected
    obtain ⟨candidate, member, valid⟩ := exists_of_best selected
    exact ⟨candidate, member, best, valid⟩
  · rintro ⟨candidate, member, record, valid⟩
    obtain ⟨best, selected, -⟩ := rank_le_best member valid
    rw [selected]
    rfl

/-- What is selected among some candidates is matched by what is selected among more of them. -/
theorem rank_best_le {candidates others : List Bytes} (among : others ⊆ candidates)
    {record : NameRecord} (selected : (selectRecord key now others).best = some record) :
    ∃ best, (selectRecord key now candidates).best = some best ∧ record.rank ≤ best.rank := by
  obtain ⟨candidate, member, valid⟩ := exists_of_best selected
  exact rank_le_best (among member) valid

/-- The same candidates in another order select a record of the same rank. -/
theorem rank_best_of_perm {candidates others : List Bytes} (same : others.Perm candidates) :
    (selectRecord key now others).best.map NameRecord.rank
      = (selectRecord key now candidates).best.map NameRecord.rank := by
  cases selected : (selectRecord key now others).best with
  | some other =>
    obtain ⟨record, best, above⟩ := rank_best_le same.subset selected
    obtain ⟨next, again, below⟩ := rank_best_le same.symm.subset best
    cases selected.symm.trans again
    rw [best]
    exact congrArg some (le_antisymm above below)
  | none =>
    cases best : (selectRecord key now candidates).best with
    | none => rfl
    | some record =>
      obtain ⟨other, again, -⟩ := rank_best_le same.symm.subset best
      cases selected.symm.trans again

/-- Of any candidates, at one time: a record is selected exactly when there is a valid one, namely
the first of the valid records that no other supersedes, and each of the other candidates is
rejected, in order. What is not valid can be put in or left out anywhere, and the same record is
selected. The same candidates in another order select a record with the same sequence number and the
same end of life, which is the same record unless two different candidates agree in both. -/
theorem selectRecord_first_highest (key : PublicKey) (now : Timestamp) (candidates : List Bytes) :
    let selection := selectRecord key now candidates
    let valid := validRecords key now candidates
    (selection.best.isSome = true
        ↔ ∃ candidate ∈ candidates, ∃ record, validateRecord key now candidate = .ok record)
      ∧ selection.best
        = (valid.find? fun record => valid.all fun other => !other.supersedes record)
      ∧ selection.rejected = rejections key now candidates
      ∧ (∀ others, others.filter (isValid key now) = candidates.filter (isValid key now) →
        (selectRecord key now others).best = selection.best)
      ∧ ∀ others, others.Perm candidates →
        let again := selectRecord key now others
        again.best.map (fun record => (record.sequence, record.validity))
            = selection.best.map (fun record => (record.sequence, record.validity))
          ∧ ∀ record other, selection.best = some record → again.best = some other →
            other = record ∨ ∃ first ∈ candidates, ∃ second ∈ candidates, first ≠ second
              ∧ validateRecord key now first = .ok record
              ∧ validateRecord key now second = .ok other
              ∧ record.sequence = other.sequence ∧ record.validity = other.validity := by
  intro selection valid
  refine ⟨isSome_best_iff, best_eq_find? candidates, selectRecord_rejected candidates, ?_, ?_⟩
  · intro others same
    change _ = (selectRecord key now candidates).best
    rw [best_eq_find?, best_eq_find?, ← validRecords_filter others, same, validRecords_filter]
  · intro others same again
    have ranks : again.best.map NameRecord.rank = selection.best.map NameRecord.rank :=
      rank_best_of_perm same
    cases reselected : again.best with
    | none =>
      rw [reselected, Option.map_none, eq_comm, Option.map_eq_none_iff] at ranks
      rw [ranks]
      exact ⟨rfl, nofun⟩
    | some other =>
      rw [reselected, Option.map_some, eq_comm, Option.map_eq_some_iff] at ranks
      obtain ⟨record, selected, level⟩ := ranks
      obtain ⟨number, validity⟩ := NameRecord.rank_inj.mp level
      rw [selected, Option.map_some, Option.map_some, number, validity]
      refine ⟨rfl, ?_⟩
      rintro _ _ ⟨⟩ ⟨⟩
      obtain ⟨first, member, valid⟩ := exists_of_best selected
      obtain ⟨second, present, alsoValid⟩ := exists_of_best reselected
      by_cases one : second = first
      · subst one
        cases valid.symm.trans alsoValid
        exact .inl rfl
      · exact .inr ⟨first, member, second, same.subset present, Ne.symm one, valid, alsoValid,
          number, validity⟩

end Choosing

open Resolving.Sample

namespace Candidates.Sample

theorem older_valid : (validateRecord publicKey early older).map (·.sequence) = .ok 1 := by
  decide +kernel

theorem newer_valid : (validateRecord publicKey early newer).map (·.sequence) = .ok 2 := by
  decide +kernel

theorem sequence_of_valid {candidate : Bytes} {record : NameRecord} {sequence : UInt64}
    (number : (validateRecord publicKey early candidate).map (·.sequence) = .ok sequence)
    (valid : validateRecord publicKey early candidate = .ok record) :
    record.sequence = sequence := by
  rw [valid] at number
  exact Except.ok.inj number

theorem sequence_ne {first second : Bytes} {record other : NameRecord}
    (one : first ∈ [older, newer]) (two : second ∈ [older, newer]) (different : first ≠ second)
    (valid : validateRecord publicKey early first = .ok record)
    (alsoValid : validateRecord publicKey early second = .ok other) :
    record.sequence ≠ other.sequence := by
  simp only [List.mem_cons, List.not_mem_nil, or_false] at one two
  rcases one with rfl | rfl <;> rcases two with rfl | rfl
  · exact absurd rfl different
  · rw [sequence_of_valid older_valid valid, sequence_of_valid newer_valid alsoValid]
    decide
  · rw [sequence_of_valid newer_valid valid, sequence_of_valid older_valid alsoValid]
    decide
  · exact absurd rfl different

end Candidates.Sample

open Candidates.Sample in
/-- Something that is no record changes nothing among two records, and neither does their order. -/
theorem selectRecord_first_highest_noise :
    (selectRecord publicKey early [older, [0], newer]).best
        = (selectRecord publicKey early [older, newer]).best
      ∧ ∃ record, (selectRecord publicKey early [older, newer]).best = some record
        ∧ (selectRecord publicKey early [newer, older]).best = some record := by
  obtain ⟨selects, -, -, noise, order⟩ :=
    selectRecord_first_highest publicKey early [older, newer]
  have alike : [older, [0], newer].filter (isValid publicKey early)
      = [older, newer].filter (isValid publicKey early) := by
    have invalid : isValid publicKey early [0] = false := by decide
    simp [List.filter_cons, invalid]
  refine ⟨noise _ alike, ?_⟩
  cases valid : validateRecord publicKey early newer with
  | error rejection =>
    have number := newer_valid
    rw [valid] at number
    cases number
  | ok newest =>
    obtain ⟨record, selected⟩ := Option.isSome_iff_exists.mp
      (selects.mpr ⟨newer, by simp, newest, valid⟩)
    obtain ⟨level, ties⟩ := order [newer, older] (List.Perm.swap older newer [])
    cases reselected : (selectRecord publicKey early [newer, older]).best with
    | none =>
      rw [reselected, selected] at level
      cases level
    | some other =>
      refine ⟨record, selected, ?_⟩
      rcases ties record other selected reselected with
        same | ⟨first, one, second, two, different, ok, alsoOk, level, -⟩
      · rw [same]
      · exact absurd level (sequence_ne one two different ok alsoOk)

end GossipNames
