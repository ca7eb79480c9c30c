import GossipNames.Proofs.InboundValues
import GossipNames.Proofs.Resolvable
import GossipNames.ValueStore.Republisher

/-! What becomes of a record that is signed again and put back. It stays the same statement about the
name, but how long it lives is up to the clock and the lifetime of the cycle alone: a record that was
to live longer than that is cut short, and who holds it does not take the new one. -/

namespace GossipNames

namespace Timestamp

/-- A time that is not past the latest one is past the end of a lifetime exactly when it is past the
clock and the lifetime together. -/
theorem isBefore_endOfLifeAfter {time : Timestamp} (timely : latest.isBefore time = false)
    (now : Timestamp) (seconds nanos : Nat) :
    (endOfLifeAfter now seconds nanos).isBefore time = (now.after seconds nanos).isBefore time := by
  unfold endOfLifeAfter
  dsimp only
  split
  · rename_i late
    have beyond : (now.after seconds nanos).isBefore time = false := by
      rw [Bool.eq_false_iff] at timely ⊢
      rw [ne_eq, isBefore_iff, not_lt] at timely ⊢
      exact timely.trans (isBefore_iff.mp late).le
    rw [timely, beyond]
  · rfl

theorem not_latest_isBefore_endOfLifeAfter (now : Timestamp) (seconds nanos : Nat) :
    latest.isBefore (endOfLifeAfter now seconds nanos) = false := by
  unfold endOfLifeAfter
  dsimp only
  split
  · decide
  · rename_i timely
    exact Bool.eq_false_iff.mpr timely

/-- Years before year 0 are before all others. -/
theorem year_nonneg_of_isBefore {first second : Timestamp} (early : 0 ≤ first.year)
    (before : first.isBefore second = true) : 0 ≤ second.year := by
  rw [year_nonneg_iff] at early ⊢
  simp only [isBefore, decide_eq_true_eq] at before
  omega

end Timestamp

theorem NameRecord.rank_lt_iff {record other : NameRecord}
    (same : other.sequence = record.sequence) :
    record.rank < other.rank ↔ record.validity.isBefore other.validity = true := by
  rw [← supersedes_iff]
  simp [supersedes, same]

section Renewing

variable [SignatureScheme]

section

variable {last? : PeerId → Except NameError (Option NameRecord)} {endOfLife : Timestamp}
  {key : Keypair} {renewed : NameRecord}

/-- What is put back is the last record, signed again. -/
theorem refresh_ok :
    refresh last? endOfLife key = .ok (some renewed) ↔
      ∃ record, last? key.peerId = .ok (some record)
        ∧ record.refreshed key endOfLife = .ok renewed := by
  cases last : last? key.peerId with
  | error error => simp [refresh, last]
  | ok found =>
    cases found with
    | none => simp [refresh, last]
    | some record =>
      cases again : record.refreshed key endOfLife <;>
        simp [refresh, last, again]

/-- Where nothing can be signed again, the last record is not to be had or cannot be signed. -/
theorem refresh_error {error : NameError} :
    refresh last? endOfLife key = .error error ↔
      last? key.peerId = .error error
        ∨ ∃ record fault, last? key.peerId = .ok (some record)
          ∧ record.refreshed key endOfLife = .error fault ∧ error = .record fault := by
  cases last : last? key.peerId with
  | error fault => simp [refresh, last]
  | ok found =>
    cases found with
    | none => simp [refresh, last]
    | some record =>
      cases again : record.refreshed key endOfLife <;>
        simp [refresh, last, again, eq_comm (a := error)]

theorem republishKey_run {m : Type → Type} [Monad m] [LawfulMonad m]
    (put : Bytes → Bytes → m (Except String Unit))
    (found : refresh last? endOfLife key = .ok (some renewed)) :
    (republishKey put last? endOfLife key).run = do
      return (← putRecord put key renewed).map fun _ => true := by
  unfold republishKey
  rw [found]
  simp only [ExceptT.run_bind, ExceptT.run_mk, pure_bind]
  refine bind_congr fun outcome => ?_
  cases outcome <;> rfl

end

theorem validatePut_stale {peer : PeerId} {publicKey : PublicKey} {value held : Bytes}
    {known : PeerId → Option PublicKey} {now : Timestamp} {record current : NameRecord}
    (inlined : peer.inlineKey? = some publicKey)
    (valid : validateRecord publicKey now value = .ok record)
    (holds : NameRecord.ofBytes held = .ok current) (lower : ¬ current.rank < record.rank) :
    validatePut (RoutingKey.record peer).toBytes value (some held) known now
      = .error (.staleSequence record.sequence current.sequence) := by
  have found : (peer.inlineKey? <|> known peer) = some publicKey := by
    rw [inlined]
    rfl
  have stays : record.supersedes current = false := by
    rw [Bool.eq_false_iff, ne_eq, NameRecord.supersedes_iff]
    exact lower
  simp [validatePut, RoutingKey.ofBytes?_toBytes, found, valid, holds, stays, Except.toOption]

variable {key : Keypair} {value : Path} {sequence : UInt64} {endOfLife : Timestamp}
  {record : NameRecord} {store : Datastore}

theorem NameRecord.fields_of_create (created : create key value sequence endOfLife = .ok record) :
    record.value = value ∧ record.sequence = sequence ∧ record.validity = endOfLife
      ∧ record.rawValidity = Bytes.ofString (Rfc3339.format endOfLife) := by
  obtain ⟨-, signature, -, rfl⟩ := create_ok.mp created
  exact ⟨rfl, rfl, rfl, rfl⟩

theorem NameRecord.verify_of_create
    (attests : key.Attests (signingPayload record.value record.rawValidity record.sequence))
    (created : create key value sequence endOfLife = .ok record) :
    record.verify key.publicKey = true := by
  obtain ⟨-, signature, signed, same⟩ := create_ok.mp created
  rw [same] at attests ⊢
  exact (attests signature signed).2

theorem Keypair.Signs.addressable (signs : key.Signs)
    (created : NameRecord.create key value sequence endOfLife = .ok record) :
    record.signature.Addressable := by
  obtain ⟨-, signature, sign, rfl⟩ := NameRecord.create_ok.mp created
  obtain ⟨same, found, small⟩ := signs _
  rw [found] at sign
  exact Except.ok.inj sign ▸ small

/-- A record that was issued is signed again unless it cannot be read. -/
theorem exists_refresh_iff (signs : key.Signs) (held : (Bytes.ofString value.text).Addressable)
    (created : NameRecord.create key value sequence endOfLife = .ok record)
    (kept : store.get? (.ofPeer key.peerId) = some record.toBytes) {next : Timestamp}
    (timely : Timestamp.latest.isBefore next = false) :
    (∃ renewed, refresh (RecordStore.last? .none store) next key = .ok (some renewed))
      ↔ 0 ≤ endOfLife.year := by
  have last := RecordStore.last?_of_kept kept
  constructor
  · rintro ⟨renewed, found⟩
    obtain ⟨current, read, -⟩ := refresh_ok.mp found
    by_contra early
    cases decoded : NameRecord.ofBytes record.toBytes with
    | error error =>
      rw [last, decoded] at read
      cases read
    | ok other => exact NameRecord.ofBytes_toBytes_of_create_early created early other decoded
  · intro early
    rw [NameRecord.ofBytes_toBytes_of_create held created (signs.addressable created) early] at last
    obtain ⟨signature, signed, -⟩ := signs (NameRecord.signingPayload record.value
      (Bytes.ofString (Rfc3339.format next)) record.sequence)
    exact ⟨_, refresh_ok.mpr ⟨record, last,
      NameRecord.create_ok.mpr ⟨timely, signature, signed, rfl⟩⟩⟩

/-- Who holds a record takes another one with the same sequence number exactly when it lives longer
and has not expired. -/
theorem validatePut_renewed (sound : key.IsSound) {renewed : NameRecord} {next : Timestamp}
    (read : NameRecord.ofBytes record.toBytes = .ok record) (early : 0 ≤ record.validity.year)
    (again : NameRecord.create key value record.sequence next = .ok renewed)
    (encodes : 0 ≤ next.year → Encodes key.publicKey renewed.toBytes renewed)
    (known : PeerId → Option PublicKey) (there : Timestamp) :
    let reply := validatePut (RoutingKey.record key.peerId).toBytes renewed.toBytes
      (some record.toBytes) known there
    (reply = .ok () ↔ record.validity.isBefore next = true ∧ next.isBefore there = false)
      ∧ (0 ≤ next.year → next.isBefore there = false → record.validity.isBefore next = false →
        reply = .error (.staleSequence record.sequence record.sequence)) := by
  intro reply
  obtain ⟨-, number, validity, -⟩ := NameRecord.fields_of_create again
  have later : record.rank < renewed.rank ↔ record.validity.isBefore next = true := by
    rw [NameRecord.rank_lt_iff number, validity]
  have live : renewed.isExpired there = next.isBefore there := by
    rw [NameRecord.isExpired, validity]
  constructor
  · rw [validatePut_record sound.inlined]
    constructor
    · rintro ⟨other, valid, higher⟩
      obtain ⟨shown, alive⟩ := validateRecord_iff_encodes.mp valid
      have shows : 0 ≤ next.year := by
        by_contra early
        exact NameRecord.ofBytes_toBytes_of_create_early again early other shown.decoded
      obtain rfl := shown.unique (encodes shows)
      exact ⟨later.mp (higher record (heldRecord?_some.mpr read)), live ▸ alive⟩
    · rintro ⟨longer, alive⟩
      have shows := encodes (Timestamp.year_nonneg_of_isBefore early longer)
      refine ⟨renewed, validateRecord_iff_encodes.mpr ⟨shows, live ▸ alive⟩, ?_⟩
      intro current found
      rw [heldRecord?_some, read] at found
      cases found
      exact later.mpr longer
  · intro shows alive shorter
    have valid := validateRecord_iff_encodes.mpr ⟨encodes shows, live ▸ alive⟩
    have lower : ¬ record.rank < renewed.rank := by
      rw [later, shorter]
      decide
    have stale : reply = .error (.staleSequence renewed.sequence record.sequence) :=
      validatePut_stale sound.inlined valid read lower
    rwa [number] at stale

/-- A record that was issued, with whatever end of life, is put back as the same statement, signed by
the same key, which lives until the lifetime of the cycle is over. It ends earlier than before exactly
when the lifetime is over earlier, and who holds the record before takes the new one in its place
exactly when it ends later and has not expired. -/
theorem republished_shortened_iff (sound : key.IsSound) (signs : key.Signs)
    (held : (Bytes.ofString value.text).Addressable)
    (created : NameRecord.create key value sequence endOfLife = .ok record)
    (kept : store.get? (.ofPeer key.peerId) = some record.toBytes) (now : Timestamp)
    (seconds nanos : Nat) (attests : key.Attests (NameRecord.signingPayload value
      (Bytes.ofString (Rfc3339.format (endOfLifeAfter now seconds nanos))) sequence)) :
    let next := endOfLifeAfter now seconds nanos
    let renewal := refresh (RecordStore.last? .none store) next key
    ((∃ renewed, renewal = .ok (some renewed)) ↔ 0 ≤ endOfLife.year)
      ∧ ∀ renewed, renewal = .ok (some renewed) →
        (∀ (m : Type → Type) [Monad m] [LawfulMonad m]
            (put : Bytes → Bytes → m (Except String Unit)),
          (republishKey put (RecordStore.last? .none store) next key).run = do
            return (← putRecord put key renewed).map fun _ => true)
        ∧ (renewed.value = value ∧ renewed.sequence = sequence ∧ renewed.validity = next
          ∧ renewed.verify key.publicKey = true)
        ∧ (renewed.validity.isBefore record.validity = true
          ↔ (now.after seconds nanos).isBefore endOfLife = true)
        ∧ ∀ (known : PeerId → Option PublicKey) (there : Timestamp),
          let reply := validatePut (RoutingKey.record key.peerId).toBytes renewed.toBytes
            (some record.toBytes) known there
          (reply = .ok () ↔ endOfLife.isBefore next = true ∧ next.isBefore there = false)
            ∧ (0 ≤ next.year → next.isBefore there = false → endOfLife.isBefore next = false →
              reply = .error (.staleSequence sequence sequence)) := by
  intro next renewal
  have renewable := exists_refresh_iff signs held created kept
    (Timestamp.not_latest_isBefore_endOfLifeAfter now seconds nanos)
  refine ⟨renewable, ?_⟩
  intro renewed found
  have early := renewable.mp ⟨renewed, found⟩
  have read := NameRecord.ofBytes_toBytes_of_create held created (signs.addressable created) early
  obtain ⟨content, rfl, rfl, -⟩ := NameRecord.fields_of_create created
  have again : NameRecord.create key value record.sequence next = .ok renewed := by
    obtain ⟨current, last, again⟩ := refresh_ok.mp found
    rw [RecordStore.last?_of_kept kept, read] at last
    cases last
    rwa [NameRecord.refreshed, content] at again
  obtain ⟨content', number, validity, raw⟩ := NameRecord.fields_of_create again
  have attested : key.Attests
      (NameRecord.signingPayload renewed.value renewed.rawValidity renewed.sequence) := by
    rw [content', number, raw]
    exact attests
  have timely : Timestamp.latest.isBefore record.validity = false :=
    (NameRecord.create_ok.mp created).1
  refine ⟨fun m _ _ put => republishKey_run put found, ⟨content', number, validity, ?_⟩, ?_, ?_⟩
  · exact NameRecord.verify_of_create attested again
  · rw [validity, Timestamp.isBefore_endOfLifeAfter timely]
  · have encodes := NameRecord.encodes_of_create attested held again
    intro known there
    exact validatePut_renewed sound read early again encodes known there

end Renewing

namespace Republishing.Sample

open NameRecord.Sample Resolvable.Sample

/-- The last day of 2098. -/
def clock : Timestamp :=
  .ofSeconds 4070822400

/-- Thirty days later. -/
def longer : Timestamp :=
  .ofSeconds 4073414400

theorem afterDay : endOfLifeAfter clock 86400 0 = endOfLife := by
  decide

/-- The first record of the key, which is to live for thirty days. -/
theorem published : ∃ store record, NameRecord.create key target 1 longer = .ok record
    ∧ RecordStore.issue .none .empty key target longer = (store, .ok record)
    ∧ store.get? (.ofPeer key.peerId) = some record.toBytes := by
  obtain ⟨signature, signed, -⟩ := key_signs
    (NameRecord.signingPayload target (Bytes.ofString (Rfc3339.format longer)) 1)
  have created := NameRecord.create_ok.mpr ⟨by decide, signature, signed, rfl⟩
  refine ⟨_, _, created, RecordStore.issue_ok.mpr
    ⟨RecordStore.next_ok.mpr ⟨0, rfl, by decide, created⟩, rfl⟩, ?_⟩
  rw [Table.get?_put, if_pos rfl]

theorem longer_year_nonneg : 0 ≤ longer.year := by
  rw [Timestamp.year_nonneg_iff]
  decide

end Republishing.Sample

open NameRecord.Sample Resolvable.Sample Republishing.Sample in
/-- A record that is to live for thirty days is put back to live for one, and a peer that holds it
refuses what is put back as not newer. -/
theorem republished_cut_short :
    ∃ store record renewed, RecordStore.issue .none .empty key target longer = (store, .ok record)
      ∧ refresh (RecordStore.last? .none store) (endOfLifeAfter clock 86400 0) key
        = .ok (some renewed)
      ∧ renewed.validity.isBefore record.validity = true
      ∧ validatePut (RoutingKey.record key.peerId).toBytes renewed.toBytes (some record.toBytes)
        (fun _ => none) clock = .error (.staleSequence 1 1) := by
  obtain ⟨store, record, before, issued, kept⟩ := published
  have held : (Bytes.ofString target.text).Addressable := by decide
  have signs : key.Signs := key_signs
  have read := NameRecord.ofBytes_toBytes_of_create held before (signs.addressable before)
    longer_year_nonneg
  obtain ⟨content, number, validity, -⟩ := NameRecord.fields_of_create before
  obtain ⟨signature, signed, -⟩ := key_signs payload
  have again := created signed
  have found : refresh (RecordStore.last? .none store) (endOfLifeAfter clock 86400 0) key
      = .ok (some (Resolvable.Sample.record signature)) := by
    rw [afterDay, refresh_ok]
    refine ⟨record, ?_, ?_⟩
    · rw [RecordStore.last?_of_kept kept, read]
      rfl
    · rw [NameRecord.refreshed, content, number, again]
  refine ⟨store, record, _, issued, found, ?_, ?_⟩
  · rw [validity, (NameRecord.fields_of_create again).2.2.1]
    decide
  · rw [← number] at again
    have shorter : record.validity.isBefore endOfLife = false := by
      rw [validity]
      decide
    have refused := (validatePut_renewed sound read (validity ▸ longer_year_nonneg) again
      (fun _ => encodes signed) (fun _ => none) clock).2 year_nonneg (by decide) shorter
    rwa [number] at refused

open NameRecord.Sample Resolvable.Sample Republishing.Sample in
/-- The same record is the same statement as before when it is put back. -/
theorem republished_shortened_iff_month :
    ∃ store record renewed, RecordStore.issue .none .empty key target longer = (store, .ok record)
      ∧ refresh (RecordStore.last? .none store) (endOfLifeAfter clock 86400 0) key
        = .ok (some renewed)
      ∧ (renewed.value = target ∧ renewed.sequence = 1 ∧ renewed.verify key.publicKey = true)
      ∧ renewed.validity.isBefore record.validity = true := by
  obtain ⟨store, record, created, issued, kept⟩ := published
  have held : (Bytes.ofString target.text).Addressable := by decide
  have attested : key.Attests (NameRecord.signingPayload target
      (Bytes.ofString (Rfc3339.format (endOfLifeAfter clock 86400 0))) 1) := by
    rw [afterDay]
    exact Resolvable.Sample.attests []
  obtain ⟨renewable, renews⟩ :=
    republished_shortened_iff sound key_signs held created kept clock 86400 0 attested
  obtain ⟨renewed, found⟩ := renewable.mpr longer_year_nonneg
  obtain ⟨-, ⟨content, number, -, verified⟩, shortened, -⟩ := renews renewed found
  exact ⟨store, record, renewed, issued, found, ⟨content, number, verified⟩,
    shortened.mpr (by decide)⟩

end GossipNames
