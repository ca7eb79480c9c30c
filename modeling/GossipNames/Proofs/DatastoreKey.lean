import GossipNames.Datastore
import GossipNames.Proofs.Base32
import GossipNames.Proofs.PeerId

/-! Keys of the local store as they are written: each key has one text, and each text that is read as
a key is the text of that key. -/

namespace GossipNames

namespace DatastoreKey

theorem binary_eq_ok_iff {text : String} {raw : Bytes} :
    binary text = .ok raw ↔ DatastoreKey.text { raw } = text := by
  unfold binary
  constructor
  · intro read
    split at read
    · cases read
    · rename_i found decoded
      cases read
      obtain ⟨rest, stripped, shown⟩ := Option.bind_eq_some_iff.mp decoded
      rw [DatastoreKey.text, Base32.decode?_eq_some_iff.mp shown]
      exact Text.after?_eq_some_iff.mp stripped
  · rintro rfl
    have stripped : Text.after? "/" (DatastoreKey.text { raw }) = some (Base32.encode raw) :=
      Text.after?_eq_some_iff.mpr rfl
    simp only [stripped, Option.bind_some, Base32.decode?_encode]

theorem parse_eq_ok_iff {text : String} {key : DatastoreKey} :
    parse text = .ok key ↔ key.text = text := by
  obtain ⟨raw⟩ := key
  rw [← binary_eq_ok_iff, parse]
  cases binary text with
  | error fault => simp [Except.map]
  | ok found => simp [Except.map]

theorem text_injective {first second : DatastoreKey} (same : first.text = second.text) :
    first = second := by
  have parsed := parse_eq_ok_iff.mpr same
  rw [parse_eq_ok_iff.mpr rfl] at parsed
  exact (Except.ok.inj parsed).symm

/-- The texts of keys: a slash with digits behind it that write whole bytes. -/
theorem exists_parse_iff {text : String} :
    (∃ key, parse text = .ok key) ↔ ∃ digits, Base32.IsWhole digits
      ∧ "/" ++ String.ofList (digits.map (Base32.alphabet.getD · 'A')) = text := by
  constructor
  · rintro ⟨key, parsed⟩
    have shown := parse_eq_ok_iff.mp parsed
    obtain ⟨digits, whole, same⟩ :=
      Base32.exists_decode?_iff.mp ⟨key.raw, Base32.decode?_encode key.raw⟩
    exact ⟨digits, whole, by rw [same, String.ofList_toList, ← shown, DatastoreKey.text]⟩
  · rintro ⟨digits, whole, rfl⟩
    obtain ⟨raw, decoded⟩ := Base32.exists_decode?_iff.mpr ⟨digits, whole, String.toList_ofList.symm⟩
    refine ⟨{ raw }, parse_eq_ok_iff.mpr ?_⟩
    rw [DatastoreKey.text, Base32.encode_of_decode? decoded]

/-- Keys and their texts belong together one to one. Whatever bytes a key has, its text is parsed as
the key and stands for the bytes; and whatever text is parsed as a key, it stands for the bytes of the
key and is their only text. Texts are parsed when behind the slash are digits that write whole bytes.
No two identities have a text in common. -/
theorem text_roundTrip :
    (∀ raw : Bytes, parse (text { raw }) = .ok { raw } ∧ binary (text { raw }) = .ok raw)
      ∧ (∀ shown key, parse shown = .ok key →
        ∃ raw, binary shown = .ok raw ∧ text { raw } = shown ∧ key = { raw })
      ∧ (∀ shown, (∃ key, parse shown = .ok key) ↔ ∃ digits, Base32.IsWhole digits
        ∧ "/" ++ String.ofList (digits.map (Base32.alphabet.getD · 'A')) = shown)
      ∧ (∀ first second key, parse first = .ok key → parse second = .ok key → first = second)
      ∧ ∀ first second, (ofPeer first).text = (ofPeer second).text ↔ first = second := by
  refine ⟨?_, ?_, fun shown => exists_parse_iff, ?_, ?_⟩
  · intro raw
    exact ⟨parse_eq_ok_iff.mpr rfl, binary_eq_ok_iff.mpr rfl⟩
  · intro shown key parsed
    have written := parse_eq_ok_iff.mp parsed
    exact ⟨key.raw, binary_eq_ok_iff.mpr written, written, rfl⟩
  · intro first second key parsed parsed'
    rw [← parse_eq_ok_iff.mp parsed, ← parse_eq_ok_iff.mp parsed']
  · intro first second
    rw [← ofPeer_inj]
    exact ⟨text_injective, congrArg DatastoreKey.text⟩

/-- Five digits write three bytes, with a bit left over that has to be zero. -/
example : text { raw := Bytes.ofString "foo" } = "/MZXW6"
    ∧ parse "/MZXW7" = .error (.datastoreKey "/MZXW7") := by
  decide

end DatastoreKey

namespace Datastore

/-- What is kept under a key as it is written. -/
def row? (store : Datastore) (text : String) : Option Bytes :=
  (DatastoreKey.parse text).toOption.bind store.get?

theorem row?_text (store : Datastore) (key : DatastoreKey) : store.row? key.text = store.get? key := by
  rw [row?, DatastoreKey.parse_eq_ok_iff.mpr rfl]
  rfl

/-- What is put under a key shows under its text and under no other. -/
theorem row?_put (store : Datastore) (key : DatastoreKey) (value : Bytes) (text : String) :
    row? (store.put key value) text = if text = key.text then some value else store.row? text := by
  cases parsed : DatastoreKey.parse text with
  | error fault =>
    have other : text ≠ key.text := by
      intro same
      rw [DatastoreKey.parse_eq_ok_iff.mpr same.symm] at parsed
      cases parsed
    simp [row?, parsed, other, Except.toOption]
  | ok read =>
    obtain rfl := DatastoreKey.parse_eq_ok_iff.mp parsed
    rw [row?_text, row?_text, Table.get?_put]
    by_cases own : read = key
    · rw [if_pos own, if_pos (congrArg DatastoreKey.text own)]
    · rw [if_neg own, if_neg fun same => own (DatastoreKey.text_injective same)]

end Datastore

end GossipNames
