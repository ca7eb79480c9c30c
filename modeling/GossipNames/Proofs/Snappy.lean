import GossipNames.Encoding.Snappy
import GossipNames.Proofs.Varint

/-! What a block holds, said by how its elements are spelled and by what they add to what came before
them. Reading a block finds this content, and finds none where there is none. -/

namespace GossipNames.Snappy

namespace Element

/-- What an element adds. A copy adds bytes each of which is the one `offset` places back, among
those before or among those just added. -/
inductive Adds : Element → (before added : Bytes) → Prop where
  | literal {before content : Bytes} : Adds (.literal content) before content
  | copy {offset length : Nat} {before added : Bytes} (positive : 0 < offset)
      (within : offset ≤ before.length) (counted : added.length = length)
      (repeats : ∀ place < length,
        added[place]? = (before ++ added)[before.length + place - offset]?) :
      Adds (.copy offset length) before added

/-- The ways an element is spelled in front of other bytes. Behind the tag of a long literal there
have to be four bytes, whether they belong to it or not. -/
inductive Spelled : Element → (front rest : Bytes) → Prop where
  | short {tag : UInt8} {content rest : Bytes} (marked : tag.toNat + 4 = 4 * content.length)
      (few : content.length ≤ 60) : Spelled (.literal content) (tag :: content) rest
  | long {tag : UInt8} {size content rest : Bytes} (marked : tag.toNat = 4 * (59 + size.length))
      (positive : 0 < size.length) (counted : content.length = size.toNatLittleEndian + 1)
      (room : 4 ≤ size.length + content.length + rest.length) :
      Spelled (.literal content) (tag :: (size ++ content)) rest
  | near {tag low : UInt8} {rest : Bytes} {high length : Nat}
      (marked : tag.toNat + 15 = 32 * high + 4 * length) (least : 4 ≤ length) (most : length ≤ 11) :
      Spelled (.copy (256 * high + low.toNat) length) [tag, low] rest
  | far {tag : UInt8} {offset rest : Bytes} {length : Nat} (marked : tag.toNat + 2 = 4 * length)
      (wide : offset.length = 2) : Spelled (.copy offset.toNatLittleEndian length) (tag :: offset) rest
  | farther {tag : UInt8} {offset rest : Bytes} {length : Nat} (marked : tag.toNat + 1 = 4 * length)
      (wide : offset.length = 4) : Spelled (.copy offset.toNatLittleEndian length) (tag :: offset) rest

end Element

/-- Elements, one after the other, make more of what is there. -/
inductive Expands : (out bytes final : Bytes) → Prop where
  | done {out : Bytes} : Expands out [] out
  | element {element : Element} {front rest out added final : Bytes}
      (spelled : element.Spelled front rest) (adds : element.Adds out added)
      (later : Expands (out ++ added) rest final) : Expands out (front ++ rest) final

/-- A block announces the length of its content, and its elements make the content of nothing. -/
def IsBlock (block content : Bytes) : Prop :=
  ∃ rest, readLength? block = some (content.length, rest) ∧ Expands [] rest content

/-! Copies. -/

theorem copyBack_append {offset : Nat} (positive : 0 < offset) {before : Array UInt8}
    (within : offset ≤ before.size) {added : Bytes}
    (repeats : ∀ place < added.length,
      added[place]? = (before.toList ++ added)[before.size + place - offset]?) :
    (copyBack offset added.length before).toList = before.toList ++ added := by
  induction added generalizing before with
  | nil => exact (List.append_nil _).symm
  | cons first rest ih =>
    have head : before[before.size - offset]?.getD 0 = first := by
      have same := repeats 0 (Nat.succ_pos _)
      rw [List.getElem?_cons_zero, Nat.add_zero, List.getElem?_append_left (by simp; omega)] at same
      rw [← Array.getElem?_toList, ← same]
      rfl
    have moved : (before.push first).toList ++ rest = before.toList ++ first :: rest := by simp
    rw [List.length_cons, copyBack, head, ih, moved]
    · simp only [Array.size_push]
      omega
    · intro place small
      have same := repeats (place + 1) (by simpa using small)
      rw [List.getElem?_cons_succ] at same
      rw [same, moved, Array.size_push]
      congr 1
      omega

theorem exists_copyBack {offset : Nat} (positive : 0 < offset) {before : Array UInt8}
    (within : offset ≤ before.size) (length : Nat) :
    ∃ added, added.length = length
      ∧ (copyBack offset length before).toList = before.toList ++ added
      ∧ ∀ place < length,
        added[place]? = (before.toList ++ added)[before.size + place - offset]? := by
  induction length generalizing before with
  | zero => exact ⟨[], rfl, (List.append_nil _).symm, nofun⟩
  | succ length ih =>
    have pushed : offset ≤ (before.push (before[before.size - offset]?.getD 0)).size := by
      rw [Array.size_push]
      exact Nat.le_succ_of_le within
    obtain ⟨added, counted, copied, repeats⟩ := ih pushed
    have moved (first : UInt8) :
        (before.push first).toList ++ added = before.toList ++ first :: added := by simp
    refine ⟨_ :: added, congrArg Nat.succ counted, by rw [copyBack, copied, moved], ?_⟩
    intro place small
    cases place with
    | zero =>
      have there : before.size - offset < before.size := by omega
      rw [List.getElem?_cons_zero, Nat.add_zero, List.getElem?_append_left (by simpa using there),
        Array.getElem?_toList, Array.getElem?_eq_getElem there]
      rfl
    | succ place =>
      rw [List.getElem?_cons_succ, repeats place (Nat.lt_of_succ_lt_succ small), moved,
        Array.size_push]
      congr 1
      omega

theorem Element.extend?_literal (limit : Nat) (out : Array UInt8) (content : Bytes) :
    (literal content).extend? limit out
      = if out.size + content.length ≤ limit then some (out ++ content) else none := rfl

theorem Element.extend?_copy (limit : Nat) (out : Array UInt8) (offset length : Nat) :
    (copy offset length).extend? limit out
      = if 0 < offset ∧ offset ≤ out.size ∧ out.size + length ≤ limit then
          some (copyBack offset length out)
        else none := rfl

theorem size_eq_of_toList {out next : Array UInt8} {added : Bytes}
    (shape : next.toList = out.toList ++ added) : next.size = out.size + added.length := by
  rw [← Array.length_toList, shape, List.length_append, Array.length_toList]

theorem Element.extend?_eq_some_iff {element : Element} {limit : Nat} {out next : Array UInt8} :
    element.extend? limit out = some next
      ↔ ∃ added, element.Adds out.toList added ∧ next.toList = out.toList ++ added
        ∧ next.size ≤ limit := by
  cases element with
  | literal content =>
    rw [extend?_literal]
    constructor
    · intro extended
      split at extended
      · rename_i fits
        cases extended
        have shape : (out ++ content).toList = out.toList ++ content := by simp
        exact ⟨content, .literal, shape, Nat.le_trans (Nat.le_of_eq (size_eq_of_toList shape)) fits⟩
      · cases extended
    · rintro ⟨added, adds, shape, fits⟩
      cases adds
      obtain rfl : next = out ++ content := Array.toList_inj.mp (by simpa using shape)
      exact if_pos (Nat.le_trans (Nat.le_of_eq (size_eq_of_toList shape).symm) fits)
  | copy offset length =>
    rw [extend?_copy]
    constructor
    · intro extended
      split at extended
      · rename_i bounds
        obtain ⟨positive, within, fits⟩ := bounds
        cases extended
        obtain ⟨added, counted, copied, repeats⟩ := exists_copyBack positive within length
        refine ⟨added, .copy positive (by simpa using within) counted (by simpa using repeats),
          copied, ?_⟩
        rw [size_eq_of_toList copied, counted]
        exact fits
      · cases extended
    · rintro ⟨added, adds, shape, fits⟩
      cases adds with
      | copy positive within counted repeats =>
        subst counted
        rw [Array.length_toList] at within
        have copied := copyBack_append positive within (by simpa using repeats)
        obtain rfl : copyBack offset added.length out = next :=
          Array.toList_inj.mp (copied.trans shape.symm)
        exact if_pos ⟨positive, within, Nat.le_trans (Nat.le_of_eq (size_eq_of_toList shape).symm) fits⟩

/-! Elements as they are spelled. -/

theorem splitAt?_eq_some_iff {count : Nat} {bytes front rest : Bytes} :
    splitAt? count bytes = some (front, rest) ↔ front.length = count ∧ front ++ rest = bytes := by
  unfold splitAt?
  constructor
  · intro split
    split at split
    · rename_i enough
      rw [List.splitAt_eq] at split
      cases split
      exact ⟨List.length_take_of_le enough, List.take_append_drop count bytes⟩
    · cases split
  · rintro ⟨rfl, rfl⟩
    rw [if_pos (by simp), List.splitAt_eq, List.take_left, List.drop_left]

theorem readLiteral?_short {mark : Nat} (short : mark < 60) {element : Element}
    {bytes rest : Bytes} :
    readLiteral? mark bytes = some (element, rest)
      ↔ ∃ content, content.length = mark + 1 ∧ content ++ rest = bytes
        ∧ element = .literal content := by
  unfold readLiteral?
  rw [if_pos short]
  constructor
  · intro read
    obtain ⟨⟨content, left⟩, split, same⟩ := Option.bind_eq_some_iff.mp read
    cases same
    obtain ⟨counted, whole⟩ := splitAt?_eq_some_iff.mp split
    exact ⟨content, counted, whole, rfl⟩
  · rintro ⟨content, counted, whole, rfl⟩
    exact Option.bind_eq_some_iff.mpr ⟨_, splitAt?_eq_some_iff.mpr ⟨counted, whole⟩, rfl⟩

theorem readLiteral?_long {mark : Nat} (long : ¬ mark < 60) (bounded : mark < 64)
    {element : Element} {bytes rest : Bytes} :
    readLiteral? mark bytes = some (element, rest)
      ↔ ∃ size content, size.length = mark - 59 ∧ content.length = size.toNatLittleEndian + 1
        ∧ size ++ (content ++ rest) = bytes ∧ 4 ≤ bytes.length ∧ element = .literal content := by
  have cut : bytes.splitAt (mark - 59) = (bytes.take (mark - 59), bytes.drop (mark - 59)) :=
    List.splitAt_eq ..
  unfold readLiteral?
  rw [if_neg long, cut]
  by_cases few : bytes.length < 4
  · refine iff_of_false (by simp [few]) ?_
    rintro ⟨size, content, -, -, -, enough, -⟩
    exact absurd enough (Nat.not_le.mpr few)
  · rw [if_neg few]
    constructor
    · intro read
      obtain ⟨⟨content, left⟩, split, same⟩ := Option.bind_eq_some_iff.mp read
      cases same
      obtain ⟨counted, whole⟩ := splitAt?_eq_some_iff.mp split
      refine ⟨bytes.take (mark - 59), content, List.length_take_of_le (by omega), counted, ?_,
        by omega, rfl⟩
      rw [whole]
      exact List.take_append_drop _ _
    · rintro ⟨size, content, sized, counted, rfl, -, rfl⟩
      refine Option.bind_eq_some_iff.mpr ⟨(content, rest), splitAt?_eq_some_iff.mpr ?_, rfl⟩
      rw [← sized, List.take_left, List.drop_left]
      exact ⟨counted, rfl⟩

theorem readCopy?_eq_some_iff {length high width : Nat} {element : Element}
    {bytes rest : Bytes} :
    readCopy? length high width bytes = some (element, rest)
      ↔ ∃ low, low.length = width ∧ low ++ rest = bytes
        ∧ element = .copy (high + low.toNatLittleEndian) length := by
  unfold readCopy?
  constructor
  · intro read
    obtain ⟨⟨low, left⟩, split, same⟩ := Option.bind_eq_some_iff.mp read
    cases same
    obtain ⟨wide, whole⟩ := splitAt?_eq_some_iff.mp split
    exact ⟨low, wide, whole, rfl⟩
  · rintro ⟨low, wide, whole, rfl⟩
    exact Option.bind_eq_some_iff.mpr ⟨_, splitAt?_eq_some_iff.mpr ⟨wide, whole⟩, rfl⟩

/-- The two low bits of a tag are the kind of its element. -/
theorem readElement?_literal {tag : UInt8} (kind : tag.toNat % 4 = 0) (bytes : Bytes) :
    readElement? (tag :: bytes) = readLiteral? (tag.toNat / 4) bytes := by
  simp only [readElement?, kind]

theorem readElement?_near {tag : UInt8} (kind : tag.toNat % 4 = 1) (bytes : Bytes) :
    readElement? (tag :: bytes)
      = readCopy? (tag.toNat / 4 % 8 + 4) (tag.toNat / 4 / 8 * 256) 1 bytes := by
  simp only [readElement?, kind]

theorem readElement?_far {tag : UInt8} (kind : tag.toNat % 4 = 2) (bytes : Bytes) :
    readElement? (tag :: bytes) = readCopy? (tag.toNat / 4 + 1) 0 2 bytes := by
  simp only [readElement?, kind]

theorem readElement?_farther {tag : UInt8} (kind : tag.toNat % 4 = 3) (bytes : Bytes) :
    readElement? (tag :: bytes) = readCopy? (tag.toNat / 4 + 1) 0 4 bytes := by
  simp only [readElement?, kind]

theorem spelled_of_readElement? {element : Element} {bytes rest : Bytes}
    (read : readElement? bytes = some (element, rest)) :
    ∃ front, element.Spelled front rest ∧ front ++ rest = bytes := by
  cases bytes with
  | nil => cases read
  | cons tag bytes =>
    have bound := tag.toNat_lt
    have kinds : tag.toNat % 4 = 0 ∨ tag.toNat % 4 = 1 ∨ tag.toNat % 4 = 2 ∨ tag.toNat % 4 = 3 := by
      omega
    rcases kinds with literal | near | far | farther
    · rw [readElement?_literal literal] at read
      by_cases short : tag.toNat / 4 < 60
      · obtain ⟨content, counted, rfl, rfl⟩ := (readLiteral?_short short).mp read
        exact ⟨tag :: content, .short (by omega) (by omega), rfl⟩
      · obtain ⟨size, content, sized, counted, rfl, room, rfl⟩ :=
          (readLiteral?_long short (by omega)).mp read
        simp only [List.length_append] at room
        exact ⟨tag :: (size ++ content), .long (by omega) (by omega) counted (by omega), by simp⟩
    · rw [readElement?_near near] at read
      obtain ⟨low, wide, rfl, rfl⟩ := readCopy?_eq_some_iff.mp read
      obtain ⟨low, rfl⟩ := List.length_eq_one_iff.mp wide
      refine ⟨[tag, low], ?_, rfl⟩
      have value : tag.toNat / 4 / 8 * 256 + Bytes.toNatLittleEndian [low]
          = 256 * (tag.toNat / 4 / 8) + low.toNat := by
        simp [Bytes.toNatLittleEndian, Nat.mul_comm]
      rw [value]
      exact .near (by omega) (by omega) (by omega)
    · rw [readElement?_far far] at read
      obtain ⟨offset, wide, rfl, rfl⟩ := readCopy?_eq_some_iff.mp read
      rw [Nat.zero_add]
      exact ⟨tag :: offset, .far (by omega) wide, rfl⟩
    · rw [readElement?_farther farther] at read
      obtain ⟨offset, wide, rfl, rfl⟩ := readCopy?_eq_some_iff.mp read
      rw [Nat.zero_add]
      exact ⟨tag :: offset, .farther (by omega) wide, rfl⟩

theorem readElement?_of_spelled {element : Element} {front rest : Bytes}
    (spelled : element.Spelled front rest) :
    readElement? (front ++ rest) = some (element, rest) := by
  cases spelled with
  | @short tag content _ marked few =>
    rw [List.cons_append, readElement?_literal (by omega), readLiteral?_short (by omega)]
    exact ⟨content, by omega, rfl, rfl⟩
  | @long tag size content _ marked positive counted room =>
    have bound := tag.toNat_lt
    rw [List.cons_append, readElement?_literal (by omega),
      readLiteral?_long (by omega) (by omega)]
    refine ⟨size, content, by omega, counted, (List.append_assoc _ _ _).symm, ?_, rfl⟩
    simp only [List.length_append]
    exact room
  | @near tag low _ high length marked least most =>
    rw [List.cons_append, readElement?_near (by omega), readCopy?_eq_some_iff]
    refine ⟨[low], rfl, rfl, ?_⟩
    have offset : 256 * high + low.toNat
        = tag.toNat / 4 / 8 * 256 + Bytes.toNatLittleEndian [low] := by
      simp only [Bytes.toNatLittleEndian, List.foldr_cons, List.foldr_nil]
      omega
    rw [offset, show length = tag.toNat / 4 % 8 + 4 by omega]
  | @far tag offset _ length marked wide =>
    rw [List.cons_append, readElement?_far (by omega), readCopy?_eq_some_iff]
    refine ⟨offset, wide, rfl, ?_⟩
    rw [Nat.zero_add, show length = tag.toNat / 4 + 1 by omega]
  | @farther tag offset _ length marked wide =>
    rw [List.cons_append, readElement?_farther (by omega), readCopy?_eq_some_iff]
    refine ⟨offset, wide, rfl, ?_⟩
    rw [Nat.zero_add, show length = tag.toNat / 4 + 1 by omega]

theorem readElement?_eq_some_iff {element : Element} {bytes rest : Bytes} :
    readElement? bytes = some (element, rest)
      ↔ ∃ front, element.Spelled front rest ∧ front ++ rest = bytes := by
  constructor
  · exact spelled_of_readElement?
  · rintro ⟨front, spelled, rfl⟩
    exact readElement?_of_spelled spelled

/-- An element takes at least the byte of its tag. -/
theorem Element.Spelled.length_pos {element : Element} {front rest : Bytes}
    (spelled : element.Spelled front rest) : 0 < front.length := by
  cases spelled <;> exact Nat.succ_pos _

/-! Blocks. -/

theorem expands_of_expand? {limit fuel : Nat} {out final : Array UInt8} {bytes : Bytes}
    (within : out.size ≤ limit) (expanded : expand? limit fuel out bytes = some final) :
    Expands out.toList bytes final.toList ∧ final.size ≤ limit := by
  induction fuel generalizing out bytes with
  | zero =>
    cases bytes with
    | nil =>
      cases expanded
      exact ⟨.done, within⟩
    | cons => cases expanded
  | succ fuel ih =>
    cases bytes with
    | nil =>
      cases expanded
      exact ⟨.done, within⟩
    | cons byte tail =>
      obtain ⟨⟨element, rest⟩, read, more⟩ := Option.bind_eq_some_iff.mp expanded
      obtain ⟨next, extended, later⟩ := Option.bind_eq_some_iff.mp more
      obtain ⟨front, spelled, whole⟩ := readElement?_eq_some_iff.mp read
      obtain ⟨added, adds, shape, fits⟩ := Element.extend?_eq_some_iff.mp extended
      obtain ⟨expands, bound⟩ := ih fits later
      rw [shape] at expands
      rw [← whole]
      exact ⟨.element spelled adds expands, bound⟩

theorem Expands.length_le {out bytes final : Bytes} (expands : Expands out bytes final) :
    out.length ≤ final.length := by
  induction expands with
  | done => exact Nat.le_refl _
  | element spelled adds later ih =>
    rw [List.length_append] at ih
    omega

/-- What the elements make is never longer on the way than at the end, so that no bound is met
before. -/
theorem expand?_of_expands {limit fuel : Nat} {out : Array UInt8} {start bytes final : Bytes}
    (expands : Expands start bytes final) (same : out.toList = start)
    (fits : final.length ≤ limit) (enough : bytes.length ≤ fuel) :
    expand? limit fuel out bytes = some final.toArray := by
  induction expands generalizing out fuel with
  | done =>
    subst same
    cases fuel <;> rfl
  | @element element front rest start added final spelled adds later ih =>
    subst same
    have read := readElement?_of_spelled spelled
    have taken := spelled.length_pos
    rw [List.length_append] at enough
    cases fuel with
    | zero => omega
    | succ fuel =>
      have grown := later.length_le
      rw [List.length_append, Array.length_toList] at grown
      have longer : (out ++ added).toList = out.toList ++ added := by simp
      have size := size_eq_of_toList longer
      have extended : element.extend? limit out = some (out ++ added) :=
        Element.extend?_eq_some_iff.mpr ⟨added, adds, longer, by omega⟩
      have whole : expand? limit fuel (out ++ added) rest = some final.toArray :=
        ih longer fits (by omega)
      cases shape : front ++ rest with
      | nil => simp_all
      | cons byte tail =>
        rw [shape] at read
        simp only [expand?, read, extended, whole, bind, Option.bind]

theorem decompress?_eq_some_iff {block content : Bytes} :
    decompress? block = some content ↔ IsBlock block content := by
  constructor
  · intro read
    obtain ⟨⟨length, rest⟩, announced, more⟩ := Option.bind_eq_some_iff.mp read
    obtain ⟨out, expanded, whole⟩ := Option.bind_eq_some_iff.mp more
    obtain ⟨expands, -⟩ := expands_of_expand? (Nat.zero_le _) expanded
    split at whole
    · rename_i size
      cases whole
      refine ⟨rest, ?_, expands⟩
      rw [announced, Array.length_toList, size]
    · cases whole
  · rintro ⟨rest, announced, expands⟩
    have expanded : expand? content.length rest.length #[] rest = some content.toArray :=
      expand?_of_expands expands rfl (Nat.le_refl _) (Nat.le_refl _)
    refine Option.bind_eq_some_iff.mpr ⟨_, announced, ?_⟩
    refine Option.bind_eq_some_iff.mpr ⟨_, expanded, ?_⟩
    rw [if_pos List.size_toArray]

end GossipNames.Snappy
