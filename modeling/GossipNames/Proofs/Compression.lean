import GossipNames.Gossip.Payload
import GossipNames.Proofs.Snappy
import GossipNames.Proofs.Wire
import Std.Data.HashMap.Lemmas

/-! Compressing is looking for copies, and whatever is found, the block holds the content. So a
message comes back as it was sent, as long as it is not over the limit. -/

namespace GossipNames.Snappy

/-- Elements that can be written: none is empty, and numbers have the room they need. -/
inductive Element.IsWritable : Element → Prop where
  | literal {content : Bytes} (positive : content ≠ []) (few : content.length ≤ lengthBound) :
      IsWritable (.literal content)
  | copy {offset length : Nat} (near : offset < lengthBound) (positive : 0 < length)
      (few : length ≤ 64) : IsWritable (.copy offset length)

/-- Elements that can be written make one content of another. -/
inductive Builds : (out : Bytes) → List Element → (final : Bytes) → Prop where
  | done {out : Bytes} : Builds out [] out
  | element {element : Element} {elements : List Element} {out added final : Bytes}
      (writable : element.IsWritable) (adds : element.Adds out added)
      (later : Builds (out ++ added) elements final) : Builds out (element :: elements) final

theorem Builds.append {out middle final : Bytes} {first second : List Element}
    (begun : Builds out first middle) (ended : Builds middle second final) :
    Builds out (first ++ second) final := by
  induction begun with
  | done => exact ended
  | element writable adds later ih => exact .element writable adds (ih ended)

theorem Builds.single {element : Element} {out added final : Bytes}
    (writable : element.IsWritable) (adds : element.Adds out added) (whole : out ++ added = final) :
    Builds out [element] final :=
  .element writable adds (whole ▸ .done)

/-! Writing. -/

theorem spelled_writeLiteral {content : Bytes} (positive : content ≠ [])
    (few : content.length ≤ lengthBound) (rest : Bytes) :
    (Element.literal content).Spelled (writeLiteral content) rest := by
  have length := List.length_pos_iff.mpr positive
  have present : content.isEmpty = false := by simpa using positive
  simp only [lengthBound, UInt32.size] at few
  unfold writeLiteral
  rw [present]
  by_cases short : content.length - 1 < 60
  · rw [if_neg (by decide), if_pos short]
    refine .short ?_ (by omega)
    rw [UInt8.toNat_ofNat_of_lt' (show _ < 256 by omega)]
    omega
  · -- The number of bytes that the length takes is the least one that has room for it.
    obtain ⟨width, chosen, one, four, room⟩ : ∃ width,
        (if content.length - 1 < 256 then 1 else if content.length - 1 < UInt16.size then 2
          else if content.length - 1 < 256 * UInt16.size then 3 else 4) = width
        ∧ 0 < width ∧ width ≤ 4 ∧ content.length - 1 < Nat.pow 256 width := by
      simp only [UInt16.size]
      split
      · exact ⟨1, rfl, by decide, by decide, by omega⟩
      · split
        · exact ⟨2, rfl, by decide, by decide, by omega⟩
        · split
          · exact ⟨3, rfl, by decide, by decide, by omega⟩
          · refine ⟨4, rfl, by decide, by decide, ?_⟩
            change content.length - 1 < 4294967296
            omega
    rw [if_neg (by decide), if_neg short]
    dsimp only
    rw [chosen]
    refine .long ?_ ?_ ?_ ?_
    · rw [UInt8.toNat_ofNat_of_lt' (show _ < 256 by omega), Bytes.length_ofNatLittleEndian]
    · rwa [Bytes.length_ofNatLittleEndian]
    · rw [Bytes.toNatLittleEndian_ofNatLittleEndian room]
      omega
    · omega

theorem spelled_writeCopy {offset length : Nat} (near : offset < lengthBound)
    (positive : 0 < length) (few : length ≤ 64) (rest : Bytes) :
    (Element.copy offset length).Spelled (writeCopy offset length) rest := by
  unfold writeCopy
  split
  · rename_i close
    have marked : (UInt8.ofNat (4 * (length - 1) + 2)).toNat + 2 = 4 * length := by
      rw [UInt8.toNat_ofNat_of_lt' (show _ < 256 by omega)]
      omega
    have spelled := @Element.Spelled.far _ _ rest _ marked (Bytes.length_ofNatLittleEndian 2 offset)
    rwa [Bytes.toNatLittleEndian_ofNatLittleEndian close] at spelled
  · have marked : (UInt8.ofNat (4 * (length - 1) + 3)).toNat + 1 = 4 * length := by
      rw [UInt8.toNat_ofNat_of_lt' (show _ < 256 by omega)]
      omega
    have spelled := @Element.Spelled.farther _ _ rest _ marked
      (Bytes.length_ofNatLittleEndian 4 offset)
    rwa [Bytes.toNatLittleEndian_ofNatLittleEndian near] at spelled

theorem spelled_write {element : Element} (writable : element.IsWritable) (rest : Bytes) :
    element.Spelled element.write rest := by
  cases writable with
  | literal positive few => exact spelled_writeLiteral positive few rest
  | copy near positive few => exact spelled_writeCopy near positive few rest

theorem Builds.expands {out final : Bytes} {elements : List Element}
    (builds : Builds out elements final) : Expands out (elements.flatMap Element.write) final := by
  induction builds with
  | done => exact .done
  | element writable adds later ih =>
    rw [List.flatMap_cons]
    exact .element (spelled_write writable _) adds ih

/-! Looking for copies. -/

/-- What repeats is the same, byte for byte, and ends within the content. -/
theorem repeatedLength_spec (content : Array UInt8) (earlier place limit : Nat) :
    repeatedLength content earlier place limit ≤ limit
      ∧ ∀ step < repeatedLength content earlier place limit,
        place + step < content.size ∧ content[place + step]? = content[earlier + step]? := by
  induction limit generalizing earlier place with
  | zero => exact ⟨Nat.le_refl _, nofun⟩
  | succ limit ih =>
    obtain ⟨bounded, repeats⟩ := ih (earlier + 1) (place + 1)
    unfold repeatedLength
    split
    · rename_i byte found
      split
      · rename_i same
        refine ⟨Nat.succ_le_succ bounded, fun step small => ?_⟩
        cases step with
        | zero =>
          obtain ⟨there, -⟩ := Array.getElem?_eq_some_iff.mp found
          exact ⟨there, found.trans same.symm⟩
        | succ step =>
          have later := repeats step (Nat.lt_of_succ_lt_succ small)
          rwa [Nat.add_right_comm, Nat.add_right_comm earlier] at later
      · exact ⟨Nat.zero_le _, nofun⟩
    · exact ⟨Nat.zero_le _, nofun⟩

section Search

variable {content : Array UInt8} {start place : Nat}

theorem builds_flush (short : content.size ≤ lengthBound) (ordered : start ≤ place)
    (within : place ≤ content.size) :
    Builds (content.toList.take start) (flush content start place) (content.toList.take place) := by
  unfold flush
  split
  · rename_i ahead
    have part : (content.extract start place).toList
        = (content.toList.drop start).take (place - start) := by
      rw [Array.toList_extract, List.extract_eq_take_drop]
    have length : (content.extract start place).toList.length = place - start := by
      rw [part, List.length_take, List.length_drop, Array.length_toList]
      omega
    refine .single (.literal ?_ ?_) .literal ?_
    · rw [← List.length_pos_iff, length]
      omega
    · rw [length]
      omega
    · rw [part, ← List.take_add, Nat.add_sub_cancel' ordered]
  · obtain rfl : start = place := by omega
    exact .done

/-- A copy of what repeats makes the content of what comes before it. -/
theorem builds_copy (short : content.size ≤ lengthBound) {earlier : Nat} (before : earlier < place)
    (positive : 0 < repeatedLength content earlier place 64) :
    let length := repeatedLength content earlier place 64
    place + length ≤ content.size
      ∧ Builds (content.toList.take place) [.copy (place - earlier) length]
        (content.toList.take (place + length)) := by
  intro length
  obtain ⟨bounded, repeats⟩ := repeatedLength_spec content earlier place 64
  have last := (repeats (length - 1) (by omega)).1
  have end_le : place + length ≤ content.size := by omega
  have taken : (content.toList.take place).length = place := by
    rw [List.length_take, Array.length_toList]
    omega
  have counted : ((content.toList.drop place).take length).length = length := by
    rw [List.length_take, List.length_drop, Array.length_toList]
    omega
  have whole : content.toList.take place ++ (content.toList.drop place).take length
      = content.toList.take (place + length) := List.take_add.symm
  refine ⟨end_le, .single (.copy (by omega) positive bounded)
    (.copy (by omega) (by omega) counted ?_) whole⟩
  intro step small
  have same := (repeats step small).2
  rw [← Array.getElem?_toList, ← Array.getElem?_toList] at same
  rw [whole, taken, List.getElem?_take_of_lt small, List.getElem?_drop, same,
    List.getElem?_take_of_lt (by omega)]
  congr 1
  omega

theorem place_lt_of_window? {window : UInt8 × UInt8 × UInt8 × UInt8}
    (found : window? content place = some window) : place < content.size := by
  unfold window? at found
  split at found
  · rename_i first _ _ _
    exact (Array.getElem?_eq_some_iff.mp first).1
  · cases found

theorem flush_reverse : (flush content start place).reverse = flush content start place := by
  unfold flush
  split <;> rfl

/-- What has not been written yet is written as a literal. -/
theorem builds_flushed (short : content.size ≤ lengthBound) {found : List Element}
    (builds : Builds [] found.reverse (content.toList.take start)) (ordered : start ≤ place)
    (within : place ≤ content.size) :
    Builds [] (flush content start place ++ found).reverse (content.toList.take place) := by
  rw [List.reverse_append, flush_reverse]
  exact builds.append (builds_flush short ordered within)

/-- Whatever was seen before, the elements that are found build the content. -/
theorem builds_search (short : content.size ≤ lengthBound) {fuel : Nat} {seen : Seen}
    {found : List Element} (builds : Builds [] found.reverse (content.toList.take start))
    (ordered : start ≤ place) (within : place ≤ content.size)
    (earlier : ∀ (window : UInt8 × UInt8 × UInt8 × UInt8) (other : Nat),
      seen[window]? = some other → other < place) :
    Builds [] (search content fuel seen start place found).reverse content.toList := by
  have whole : content.toList.take content.size = content.toList := by
    rw [← Array.length_toList, List.take_length]
  induction fuel generalizing seen start place found with
  | zero =>
    have ending := builds_flushed short builds (Nat.le_trans ordered within) (Nat.le_refl _)
    rwa [whole] at ending
  | succ fuel ih =>
    rw [search]
    split
    · have ending := builds_flushed short builds (Nat.le_trans ordered within) (Nat.le_refl _)
      rwa [whole] at ending
    · rename_i window present
      have inside := place_lt_of_window? present
      have next (bound : Nat) (beyond : place < bound) :
          ∀ (other : UInt8 × UInt8 × UInt8 × UInt8) (before : Nat),
            (seen.insert window place)[other]? = some before → before < bound := by
        intro other before listed
        rw [Std.HashMap.getElem?_insert] at listed
        split at listed
        · cases listed
          exact beyond
        · exact Nat.lt_trans (earlier _ _ listed) beyond
      have skipped := ih builds (Nat.le_succ_of_le ordered) inside (next _ (Nat.lt_succ_self _))
      split
      · exact skipped
      · rename_i before listed
        dsimp only
        split
        · exact skipped
        · obtain ⟨ends, copied⟩ := builds_copy short (earlier _ _ listed) (by omega)
          refine ih ?_ (Nat.le_refl _) ends (next _ (by omega))
          rw [List.reverse_cons]
          exact (builds_flushed short builds ordered (Nat.le_of_lt inside)).append copied

end Search

theorem builds_elements {content : Bytes} (present : content ≠ [])
    (short : content.length ≤ lengthBound) : Builds [] (elements content) content := by
  unfold elements
  split
  · exact .single (.literal present short) .literal rfl
  · exact builds_search short .done (Nat.le_refl _) (Nat.zero_le _) (by simp)

theorem readLength?_encode {length : Nat} (short : length < lengthBound) (rest : Bytes) :
    readLength? (Varint.encode length ++ rest) = some (length, rest) := by
  have fits : length < UInt64.size := Nat.lt_trans short (by decide)
  have within : length < Nat.pow 128 10 := Nat.lt_trans fits (by decide)
  have read : Varint.readWithin 10 (Varint.encode length ++ rest) = some (length, rest) := by
    rw [Varint.readWithin_encode, if_pos ⟨within, by decide⟩]
  simp only [readLength?, read, bind, Option.bind, Nat.mod_eq_of_lt fits, short, if_true]

/-- A length is read too when it stands in more bytes than it takes. -/
example : readLength? [133, 128, 128, 128, 128, 0, 16] = some (5, [16]) := by
  decide

theorem isBlock_of_compress? {content block : Bytes} (compressed : compress? content = some block) :
    IsBlock block content := by
  unfold compress? at compressed
  split at compressed
  · rename_i room
    cases compressed
    have short : content.length < lengthBound := by
      unfold roomFor at room
      omega
    refine ⟨_, readLength?_encode short _, ?_⟩
    cases content with
    | nil => exact .done
    | cons first rest =>
      exact (builds_elements (List.cons_ne_nil first rest) (Nat.le_of_lt short)).expands
  · cases compressed

end GossipNames.Snappy

namespace GossipNames.GossipMessage

open Snappy

variable {limit length : Nat} {rest : Bytes} {message wire restored : GossipMessage}

/-- What is behind the announced length does not matter when that is over the limit. -/
theorem restore_over (announced : readLength? wire.data = some (length, rest))
    (large : limit < length) : wire.restore limit = .error (.tooLarge length limit) := by
  simp [restore, announced, large]

theorem restore_within (announced : readLength? wire.data = some (length, rest))
    (within : length ≤ limit) :
    wire.restore limit = match decompress? wire.data with
      | some data => .ok { wire with data }
      | none => .error .malformed := by
  simp only [restore, announced, pure_eq_ok, throw_eq_error, Nat.not_lt.mpr within, if_false]
  cases decompress? wire.data <;> rfl

theorem restore_unannounced (unannounced : readLength? wire.data = none) :
    wire.restore limit = .error .malformed := by
  simp [restore, unannounced]

theorem restore_eq_ok_iff :
    wire.restore limit = .ok restored
      ↔ restored.topic = wire.topic ∧ restored.data.length ≤ limit
        ∧ IsBlock wire.data restored.data := by
  constructor
  · intro arrived
    cases announced : readLength? wire.data with
    | none =>
      rw [restore_unannounced announced] at arrived
      cases arrived
    | some header =>
      by_cases large : limit < header.1
      · rw [restore_over announced large] at arrived
        cases arrived
      · rw [restore_within announced (Nat.not_lt.mp large)] at arrived
        split at arrived
        · rename_i data found
          cases arrived
          have block := decompress?_eq_some_iff.mp found
          have ⟨rest, counted, _⟩ := block
          cases announced.symm.trans counted
          exact ⟨rfl, Nat.not_lt.mp large, block⟩
        · cases arrived
  · rintro ⟨topic, within, block⟩
    have found := decompress?_eq_some_iff.mpr block
    obtain ⟨rest, announced, -⟩ := block
    rw [restore_within announced within, found]
    cases restored
    cases topic
    rfl

theorem isBlock_of_compress? (compressed : message.compress? = some wire) :
    wire.topic = message.topic ∧ IsBlock wire.data message.data := by
  obtain ⟨block, written, same⟩ := Option.bind_eq_some_iff.mp compressed
  cases same
  exact ⟨rfl, Snappy.isBlock_of_compress? written⟩

/-- A message that was compressed, here or by anybody who writes blocks, comes back with its topic
exactly when its content is not over the limit, and is refused as too large exactly when it is. Of
any other bytes it is refused what announces a length over the limit, whatever follows; and what
comes back has the announced length, which is not over the limit, and is what the block holds. -/
theorem restore_compressed (limit : Nat) :
    (∀ message wire : GossipMessage,
        message.compress? = some wire
          ∨ (wire.topic = message.topic ∧ IsBlock wire.data message.data) →
        (wire.restore limit = .ok message ↔ message.data.length ≤ limit)
          ∧ (wire.restore limit = .error (.tooLarge message.data.length limit)
            ↔ limit < message.data.length))
      ∧ ∀ wire : GossipMessage,
        (∀ length rest, readLength? wire.data = some (length, rest) → limit < length →
          wire.restore limit = .error (.tooLarge length limit))
        ∧ ∀ restored, wire.restore limit = .ok restored →
          restored.topic = wire.topic
            ∧ restored.data.length ≤ limit
            ∧ (∃ rest, readLength? wire.data = some (restored.data.length, rest))
            ∧ IsBlock wire.data restored.data := by
  constructor
  · intro message wire written
    have held : wire.topic = message.topic ∧ IsBlock wire.data message.data :=
      written.elim isBlock_of_compress? fun block => block
    obtain ⟨topic, block⟩ := held
    have back : message.data.length ≤ limit → wire.restore limit = .ok message :=
      fun within => restore_eq_ok_iff.mpr ⟨topic.symm, within, block⟩
    obtain ⟨rest, announced, -⟩ := block
    refine ⟨⟨fun arrived => (restore_eq_ok_iff.mp arrived).2.1, back⟩, ?_,
      restore_over announced⟩
    intro refused
    apply Nat.lt_of_not_le
    intro within
    rw [back within] at refused
    cases refused
  · intro wire
    refine ⟨fun length rest => restore_over, fun restored arrived => ?_⟩
    obtain ⟨topic, within, block⟩ := restore_eq_ok_iff.mp arrived
    have ⟨rest, announced, _⟩ := block
    exact ⟨topic, within, ⟨rest, announced⟩, block⟩

namespace Sample

def hello : GossipMessage where
  topic := "/ipns/k51"
  data := [104, 101, 108, 108, 111]

/-- Two bytes, and a copy of them that runs into itself nine times. -/
def stuttering : GossipMessage where
  topic := "/ipns/k51"
  data := [20, 4, 97, 98, 70, 2, 0]

def stuttered : GossipMessage where
  topic := "/ipns/k51"
  data := (List.replicate 10 [97, 98]).flatten

theorem hello_compressed :
    hello.compress? = some { hello with data := [5, 16] ++ hello.data } := by
  cbv

theorem stuttering_isBlock : IsBlock stuttering.data stuttered.data :=
  decompress?_eq_some_iff.mp (by decide)

/-- A length of 2000 is announced, and nothing follows. -/
def boasting : GossipMessage where
  topic := "/ipns/k51"
  data := [208, 15]

end Sample

open Sample in
/-- A short message and one that somebody else compressed are restored within a limit of twenty
bytes, and neither within one of four. -/
theorem restore_compressed_stuttering :
    (∃ wire, hello.compress? = some wire ∧ wire.restore 20 = .ok hello
        ∧ wire.restore 4 = .error (.tooLarge 5 4))
      ∧ stuttering.restore 20 = .ok stuttered
      ∧ stuttering.restore 19 = .error (.tooLarge 20 19)
      ∧ boasting.restore 20 = .error (.tooLarge 2000 20)
      ∧ ∃ rest, readLength? stuttering.data = some (20, rest) := by
  have block := stuttering_isBlock
  refine ⟨⟨_, hello_compressed, ?_, ?_⟩, ?_, ?_, ?_, ?_⟩
  · exact ((restore_compressed 20).1 hello _ (.inl hello_compressed)).1.mpr (by decide)
  · exact ((restore_compressed 4).1 hello _ (.inl hello_compressed)).2.mpr (by decide)
  · exact ((restore_compressed 20).1 stuttered stuttering (.inr ⟨rfl, block⟩)).1.mpr (by decide)
  · exact ((restore_compressed 19).1 stuttered stuttering (.inr ⟨rfl, block⟩)).2.mpr (by decide)
  · exact ((restore_compressed 20).2 boasting).1 2000 [] (by decide) (by decide)
  · have arrived : stuttering.restore 20 = .ok stuttered :=
      restore_eq_ok_iff.mpr ⟨rfl, by decide, block⟩
    exact (((restore_compressed 20).2 stuttering).2 stuttered arrived).2.2.1

end GossipNames.GossipMessage
