import Mathlib
import GossipNames.Proofs.Wire
import GossipNames.Proofs.GossipResolver
import GossipNames.ValueStore.Resolver

/-! Which of several records wins. Of the valid candidates it is the first one that ranks highest,
and what else is among the candidates does not matter. -/

namespace GossipNames

namespace Timestamp

/-- Where a time stands among the others. -/
def instant (time : Timestamp) : Int ×ₗ Nat :=
  toLex (time.seconds, time.nanos)

theorem isBefore_iff {first second : Timestamp} :
    first.isBefore second = true ↔ first.instant < second.instant := by
  simp [isBefore, instant, Prod.Lex.toLex_lt_toLex]

end Timestamp

namespace NameRecord

/-- What records of a name are compared by: the sequence number, then the end of life. -/
def rank (record : NameRecord) : Nat ×ₗ Int ×ₗ Nat :=
  toLex (record.sequence.toNat, record.validity.instant)

theorem supersedes_iff {record other : NameRecord} :
    record.supersedes other = true ↔ other.rank < record.rank := by
  simp [supersedes, rank, Prod.Lex.toLex_lt_toLex, Timestamp.isBefore_iff, UInt64.lt_iff_toNat_lt,
    UInt64.toNat_inj]

end NameRecord

variable [SignatureScheme] {key : PublicKey} {now : Timestamp}

/-- The records of the candidates that are valid, in order. -/
def validRecords (key : PublicKey) (now : Timestamp) (candidates : List Bytes) : List NameRecord :=
  candidates.filterMap fun candidate => (validateRecord key now candidate).toOption

theorem mem_validRecords {candidates : List Bytes} {record : NameRecord} :
    record ∈ validRecords key now candidates ↔
      ∃ candidate ∈ candidates, validateRecord key now candidate = .ok record := by
  simp only [validRecords, List.mem_filterMap, toOption_eq_some_iff]

theorem validRecords_concat_error {candidates : List Bytes} {candidate : Bytes}
    {rejection : Rejection} (invalid : validateRecord key now candidate = .error rejection) :
    validRecords key now (candidates ++ [candidate]) = validRecords key now candidates := by
  simp [validRecords, List.filterMap_append, invalid, Except.toOption]

theorem validRecords_concat_ok {candidates : List Bytes} {candidate : Bytes} {record : NameRecord}
    (valid : validateRecord key now candidate = .ok record) :
    validRecords key now (candidates ++ [candidate])
      = validRecords key now candidates ++ [record] := by
  simp [validRecords, List.filterMap_append, valid, Except.toOption]

theorem selectRecord_concat (candidates : List Bytes) (candidate : Bytes) :
    selectRecord key now (candidates ++ [candidate])
      = (selectRecord key now candidates).consider key now candidate :=
  List.foldl_concat ..

theorem best_concat_error {candidates : List Bytes} {candidate : Bytes} {rejection : Rejection}
    (invalid : validateRecord key now candidate = .error rejection) :
    (selectRecord key now (candidates ++ [candidate])).best
      = (selectRecord key now candidates).best := by
  rw [selectRecord_concat]
  simp only [Selection.consider, invalid]

/-- One more valid candidate is selected when it ranks higher than what was selected before. -/
theorem best_concat_ok {candidates : List Bytes} {candidate : Bytes} {record : NameRecord}
    (valid : validateRecord key now candidate = .ok record) :
    (selectRecord key now (candidates ++ [candidate])).best
      = if ∀ best, (selectRecord key now candidates).best = some best → best.rank < record.rank then
          some record
        else (selectRecord key now candidates).best := by
  rw [selectRecord_concat]
  cases best : (selectRecord key now candidates).best with
  | none => simp [Selection.consider, valid, best]
  | some current =>
    by_cases higher : current.rank < record.rank
    · simp [Selection.consider, valid, best, NameRecord.supersedes_iff, higher]
    · simp [Selection.consider, valid, best, NameRecord.supersedes_iff, higher]

/-- The first of the valid records that rank highest is selected. -/
theorem selectRecord_best (candidates : List Bytes) :
    (selectRecord key now candidates).best
      = (validRecords key now candidates).argmax NameRecord.rank := by
  induction candidates using List.reverseRecOn with
  | nil => rfl
  | append_singleton front candidate ih =>
    cases outcome : validateRecord key now candidate with
    | error rejection => rw [best_concat_error outcome, validRecords_concat_error outcome, ih]
    | ok record =>
      rw [best_concat_ok outcome, validRecords_concat_ok outcome, List.argmax_concat, ← ih]
      cases (selectRecord key now front).best <;> simp

theorem exists_of_best {candidates : List Bytes} {best : NameRecord}
    (selected : (selectRecord key now candidates).best = some best) :
    ∃ candidate ∈ candidates, validateRecord key now candidate = .ok best := by
  rw [selectRecord_best] at selected
  exact mem_validRecords.mp (List.argmax_mem selected)

/-- No valid candidate ranks higher than what is selected. -/
theorem rank_le_best {candidates : List Bytes} {candidate : Bytes} {record : NameRecord}
    (member : candidate ∈ candidates) (valid : validateRecord key now candidate = .ok record) :
    ∃ best, (selectRecord key now candidates).best = some best ∧ record.rank ≤ best.rank := by
  have listed : record ∈ validRecords key now candidates :=
    mem_validRecords.mpr ⟨candidate, member, valid⟩
  rw [selectRecord_best]
  cases best : (validRecords key now candidates).argmax NameRecord.rank with
  | none =>
    rw [List.argmax_eq_none.mp best] at listed
    cases listed
  | some top => exact ⟨top, rfl, List.le_of_mem_argmax listed best⟩

/-- The candidate whose record is selected, the first one if several encode it. -/
def selectedCandidate? (key : PublicKey) (now : Timestamp) (candidates : List Bytes) :
    Option Bytes :=
  (selectRecord key now candidates).best.bind fun best =>
    candidates.find? fun candidate => validateRecord key now candidate = .ok best

/-- What is selected is the record of the selected candidate. -/
theorem selectedCandidate?_of_best {candidates : List Bytes} {best : NameRecord}
    (selected : (selectRecord key now candidates).best = some best) :
    ∃ candidate ∈ candidates, selectedCandidate? key now candidates = some candidate
      ∧ validateRecord key now candidate = .ok best := by
  obtain ⟨candidate, member, valid⟩ := exists_of_best selected
  rw [selectedCandidate?, selected, Option.bind_some]
  cases found : candidates.find? fun candidate => validateRecord key now candidate = .ok best with
  | none =>
    have absent := List.find?_eq_none.mp found candidate member
    simp [valid] at absent
  | some first =>
    have own := List.find?_some found
    exact ⟨first, List.mem_of_find?_eq_some found, rfl, of_decide_eq_true own⟩

theorem ofBytes_selectedCandidate? (candidates : List Bytes) :
    ((selectedCandidate? key now candidates).bind fun bytes => (NameRecord.ofBytes bytes).toOption)
      = (selectRecord key now candidates).best := by
  cases selected : (selectRecord key now candidates).best with
  | none => simp [selectedCandidate?, selected]
  | some best =>
    obtain ⟨candidate, -, found, valid⟩ := selectedCandidate?_of_best selected
    rw [found, Option.bind_some, toOption_eq_some_iff]
    exact (validateRecord_ok.mp valid).2.1

theorem selectedCandidate?_eq_none {candidates : List Bytes} :
    selectedCandidate? key now candidates = none
      ↔ (selectRecord key now candidates).best = none := by
  cases selected : (selectRecord key now candidates).best with
  | none => simp [selectedCandidate?, selected]
  | some best =>
    obtain ⟨candidate, -, found, -⟩ := selectedCandidate?_of_best selected
    simp [found]

theorem selectedCandidate?_concat_error {candidates : List Bytes} {candidate : Bytes}
    {rejection : Rejection} (invalid : validateRecord key now candidate = .error rejection) :
    selectedCandidate? key now (candidates ++ [candidate])
      = selectedCandidate? key now candidates := by
  rw [selectedCandidate?, selectedCandidate?, best_concat_error invalid]
  refine congrArg _ (funext fun best => ?_)
  simp [List.find?_append, invalid]

theorem selectedCandidate?_concat_ok {candidates : List Bytes} {candidate : Bytes}
    {record : NameRecord} (valid : validateRecord key now candidate = .ok record) :
    selectedCandidate? key now (candidates ++ [candidate])
      = if ∀ best, (selectRecord key now candidates).best = some best → best.rank < record.rank then
          some candidate
        else selectedCandidate? key now candidates := by
  rw [selectedCandidate?, best_concat_ok valid]
  split
  · rename_i higher
    -- No candidate before it encodes the same record, which ranks higher than all of them.
    have absent : candidates.find? (fun other => validateRecord key now other = .ok record)
        = none := by
      rw [List.find?_eq_none]
      intro other member same
      obtain ⟨best, selected, bound⟩ := rank_le_best member (of_decide_eq_true same)
      exact absurd (higher best selected) (not_lt_of_ge bound)
    simp [List.find?_append, absent, valid]
  · rename_i lower
    cases selected : (selectRecord key now candidates).best with
    | none =>
      rw [selected] at lower
      exact absurd (fun best found => by cases found) lower
    | some best =>
      obtain ⟨first, -, found, -⟩ := selectedCandidate?_of_best selected
      rw [selectedCandidate?, selected, Option.bind_some] at found ⊢
      rw [Option.bind_some, List.find?_append, found, Option.some_or]

end GossipNames
