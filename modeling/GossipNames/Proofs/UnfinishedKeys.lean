import GossipNames.Proofs.Keystores
import GossipNames.Proofs.RepublishCycle

/-! What a put leaves that fails on the way. The file of a key is created before the key is written
into it, and a failure does not take it away: the name is listed and taken from then on, whether
there is a key behind it or not, and a cycle of republishing goes no further than to it. -/

namespace GossipNames

open Republishing

namespace KeyDirectory

theorem leaves?_isPrefix {fault? : Option WriteFault} {content part : Bytes}
    (left : leaves? fault? content = some part) : part <+: content := by
  unfold leaves? at left
  split at left <;> cases left
  · exact List.prefix_rfl
  · exact List.prefix_rfl
  · exact List.take_prefix _ _

theorem leaves?_eq_none {fault? : Option WriteFault} {content : Bytes}
    (traceless : leaves? fault? content = none) : ∃ fault, fault? = some (.create fault) := by
  rcases fault? with _ | fault | _ | _
  · cases traceless
  · exact ⟨fault, rfl⟩
  · cases traceless
  · cases traceless

variable [SignatureScheme] {store : KeyDirectory} {name : String} {key : Keypair} {content : Bytes}

/-- What became of a directory when a put had created the file of its name and failed before its end:
the file is there with a part of the key, the name is listed for good, the other names give what they
gave, and no later put gets through to the name. Unless all of the key was written no key is given
for the name, and every cycle of republishing ends at it, if it has not failed before. -/
structure Leaves (store : KeyDirectory) (name : String) (key : Keypair) (content : Bytes)
    (after : KeyDirectory) : Prop where
  part : content <+: key.encode
  listed : name ∉ store.list ∧ after.list.Perm (name :: store.list)
  others : ∀ other, other ≠ name → after.get other = store.get other
  written : content = key.encode → after.get name = .ok key
  broken : content ≠ key.encode →
    ∃ fault, after.get name = .error (.corrupt (store.path name) fault)
  lasting : ∀ calls,
    let later := (runCalls call after calls).1
    name ∈ later.list ∧ later.get name = after.get name
      ∧ ∀ other, later.put name other = (later, .error (.taken name))
  barring : content ≠ key.encode → ∀ calls (conditions : Conditions) identity (node : Node),
    let later := (runCalls call after calls).1
    node.keyring? = some later.keyring →
      (∀ count, (conditions.cycle identity node).1 ≠ .ok count)
      ∧ ∃ front back fault, later.list = front ++ name :: back
        ∧ conditions.cycle identity node
          = cutBy (.keystore (.corrupt (store.path name) fault)) (conditions.run node.last?
            (.ok identity :: front.map fun other => (later.get other).mapError .keystore) 0 node)

/-- A cycle goes no further than to a name that is listed and that there is no key for. -/
theorem cycle_barred {node : Node} (conditions : Conditions) (identity : Keypair)
    {fault : KeystoreError} (given : node.keyring? = some store.keyring) (listed : name ∈ store.list)
    (failed : store.get name = .error fault) :
    ∃ front back, store.list = front ++ name :: back
      ∧ conditions.cycle identity node
        = cutBy (.keystore fault) (conditions.run node.last?
          (.ok identity :: front.map fun other => (store.get other).mapError .keystore) 0 node) := by
  obtain ⟨front, back, split⟩ := List.append_of_mem listed
  have names : store.keyring.names = .ok (front ++ name :: back) := congrArg Except.ok split
  have absent : store.keyring.key name = .error fault := failed
  have cycle := cycle_cut conditions identity given names absent
  exact ⟨front, back, split, cycle⟩

/-- A file with a part of a key holds none. -/
theorem get_unfinished (sized : SignatureScheme.Sized) (whole : key.IsWhole)
    (valid : validateKeyName name = .ok ()) (fits : nameFault? name = none)
    (file : store.entries.lookup name = some (.file content)) (part : content <+: key.encode)
    (unfinished : content ≠ key.encode) :
    ∃ fault, store.get name = .error (.corrupt (store.path name) fault) := by
  obtain ⟨left, split⟩ := part
  have more : left ≠ [] := by
    rintro rfl
    exact unfinished (List.append_nil content ▸ split)
  obtain ⟨fault, failed⟩ := Keypair.decode_unfinished whole sized split more
  rw [get_file valid fits file, failed]
  exact ⟨fault, rfl⟩

theorem IsFree.leaves (free : store.IsFree name) (sized : SignatureScheme.Sized)
    (whole : key.IsWhole) (part : content <+: key.encode) :
    Leaves store name key content (store.place name (.file content)) := by
  have file : (store.place name (.file content)).entries.lookup name = some (.file content) := by
    rw [lookup_place, if_pos rfl]
  have broken := get_unfinished sized whole free.valid free.fits file part
  refine ⟨part, free.list_place content, ?_, ?_, broken, ?_, ?_⟩
  · intro other unlike
    refine get_congr (by rfl) ?_
    rw [lookup_place, if_neg unlike]
  · intro all
    rw [get_file free.valid free.fits file, all, Keypair.decode_encode whole sized]
    rfl
  · intro calls later
    have kept := lookup_run file calls
    exact ⟨mem_list_of_lookup free.valid kept, get_run file calls,
      fun other => put_taken free.valid free.fits kept other⟩
  · -- No later call changes the file, so that every keyring has the name without a key.
    intro unfinished calls conditions identity node later keyring
    have kept := lookup_run file calls
    obtain ⟨fault, failed⟩ := broken unfinished
    rw [← get_run file calls] at failed
    obtain ⟨front, back, split, cycle⟩ := cycle_barred conditions identity keyring
      (mem_list_of_lookup free.valid kept) failed
    refine ⟨?_, front, back, fault, split, cycle⟩
    rw [cycle]
    exact cutBy_ne_ok _ _

/-- A put succeeds exactly when the file of the name can be created and no step fails. It leaves no
trace exactly when that file was not created: when the name cannot have one, or has one, or when
creating it is what failed. When a later step fails the name is listed and taken for good, by a part
of the key or by all of it. -/
theorem putWith_traceless_iff (sized : SignatureScheme.Sized) (whole : key.IsWhole)
    (store : KeyDirectory) (name : String) (fault? : Option WriteFault) :
    let after := (store.putWith fault? name key).1
    ((store.putWith fault? name key).2 = .ok () ↔ store.IsFree name ∧ fault? = none)
      ∧ ((after.list = store.list ∧ ∀ other, after.get other = store.get other)
        ↔ ¬ store.IsFree name ∨ ∃ fault, fault? = some (.create fault))
      ∧ ∀ content, store.IsFree name → leaves? fault? key.encode = some content →
        Leaves store name key content after := by
  intro after
  refine ⟨putWith_ok_iff, ?_⟩
  by_cases free : store.IsFree name
  · have made : after = _ := putWith_free free fault? key
    cases left : leaves? fault? key.encode with
    | none =>
      rw [left] at made
      obtain ⟨fault, rfl⟩ := leaves?_eq_none left
      refine ⟨iff_of_true ?_ (.inr ⟨fault, rfl⟩), nofun⟩
      rw [made]
      exact ⟨rfl, fun _ => rfl⟩
    | some content =>
      rw [left] at made
      have remains := free.leaves sized whole (leaves?_isPrefix left)
      rw [made]
      refine ⟨iff_of_false ?_ ?_, ?_⟩
      · rintro ⟨same, -⟩
        apply remains.listed.1
        rw [← same]
        exact remains.listed.2.mem_iff.mpr List.mem_cons_self
      · rintro (taken | ⟨fault, rfl⟩)
        · exact taken free
        · cases left
      · rintro _ - ⟨⟩
        exact remains
  · obtain ⟨error, refused⟩ := putWith_refused free
    have made : after = store := congrArg Prod.fst (refused fault? key)
    rw [made]
    exact ⟨iff_of_true ⟨rfl, fun _ => rfl⟩ (.inl free), fun _ isFree => absurd isFree free⟩

end KeyDirectory

namespace UnfinishedKeys.Sample

open NameRecord.Sample Keystores.Sample

def keys : KeyDirectory :=
  .ofLocation "keys"

def denied : WriteFault :=
  .create (.other "Permission denied (os error 13)")

def unsynced : WriteFault :=
  .sync (.other "Input/output error (os error 5)")

/-- The disk is full after the first bytes of a key. -/
def full : WriteFault :=
  .write 10 (.other "No space left on device (os error 28)")

theorem free : keys.IsFree "site" where
  valid := by decide
  fits := by decide
  untaken := rfl

theorem cut : key.encode.take 10 ≠ key.encode := by
  intro same
  have data := key_whole.length_data SignatureScheme.standard_sized
  have held : key.data.length ≤ key.encode.length := by
    rw [Keypair.encode_eq, KeyMessage.encode, Wire.writeBytes]
    simp only [List.length_append]
    omega
  have length := List.length_take_le 10 key.encode
  rw [same] at length
  exact absurd (Nat.le_trans (data ▸ held) length) (by decide)

end UnfinishedKeys.Sample

open UnfinishedKeys.Sample NameRecord.Sample Keystores.Sample

/-- Where no file can be created nothing is left; a key whose file cannot be made durable is there
all the same. -/
theorem KeyDirectory.putWith_traceless_iff_denied :
    (keys.putWith (some denied) "site" key).1.list = keys.list
      ∧ (keys.putWith (some unsynced) "site" key).2 ≠ .ok ()
      ∧ (keys.putWith (some unsynced) "site" key).1.get "site" = .ok key := by
  obtain ⟨-, traceless, -⟩ :=
    putWith_traceless_iff SignatureScheme.standard_sized key_whole keys "site" (some denied)
  obtain ⟨answer, -, remains⟩ :=
    putWith_traceless_iff SignatureScheme.standard_sized key_whole keys "site" (some unsynced)
  refine ⟨(traceless.mpr (.inr ⟨_, rfl⟩)).1, ?_, ?_⟩
  · rw [ne_eq, answer]
    exact fun done => nomatch done.2
  · exact (remains key.encode free rfl).written rfl

/-- The disk is full, and the put of a key under a free name fails. But from then on the name is
listed, there is no key for it, and no key can be put under it. -/
theorem KeyDirectory.unfinished_key_remains :
    let (after, outcome) := keys.putWith (some full) "site" key
    outcome = .error (.unwritable (.other "No space left on device (os error 28)"))
      ∧ (keys.list = [] ∧ after.list = ["site"])
      ∧ (keys.get "site" = .error (.unreadable "keys/site" .missing)
        ∧ ∃ fault, after.get "site" = .error (.corrupt "keys/site" fault))
      ∧ (after.put "site" key).2 = .error (.taken "site") := by
  have remains := free.leaves SignatureScheme.standard_sized key_whole (List.take_prefix 10 key.encode)
  have unlisted : keys.list = [] := by simp [list, keys, ofLocation]
  refine ⟨rfl, ⟨unlisted, ?_⟩, ⟨rfl, remains.broken cut⟩, ?_⟩
  · exact List.perm_singleton.mp (unlisted ▸ remains.listed.2)
  · exact congrArg Prod.snd ((remains.lasting []).2.2 key)

end GossipNames
