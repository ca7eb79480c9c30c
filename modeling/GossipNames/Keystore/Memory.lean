import GossipNames.Keystore.Name

/-! Signing keys held in memory, ordered by name. -/

namespace GossipNames

structure MemoryKeystore where
  keys : List (String × Keypair)
  ascending : (keys.map (·.1)).Pairwise (· < ·)
  deriving DecidableEq

namespace MemoryKeystore

def empty : MemoryKeystore where
  keys := []
  ascending := .nil

def list (store : MemoryKeystore) : List String :=
  store.keys.map (·.1)

def get (store : MemoryKeystore) (name : String) : Except KeystoreError Keypair := do
  validateKeyName name
  match store.keys.lookup name with
  | some key => return key
  | none => throw (.missing name)

def insert (name : String) (key : Keypair) :
    List (String × Keypair) → List (String × Keypair)
  | [] => [(name, key)]
  | (other, otherKey) :: rest =>
    if name < other then (name, key) :: (other, otherKey) :: rest
    else (other, otherKey) :: insert name key rest

private theorem mem_insert {name other : String} {key : Keypair} {keys : List (String × Keypair)}
    (member : other ∈ (insert name key keys).map (·.1)) :
    other = name ∨ other ∈ keys.map (·.1) := by
  induction keys with
  | nil => exact .inl (List.mem_singleton.mp member)
  | cons first rest ih =>
    unfold insert at member
    split at member
    · exact List.mem_cons.mp member
    · rcases List.mem_cons.mp member with same | later
      · exact .inr (List.mem_cons.mpr (.inl same))
      · exact (ih later).imp_right (List.mem_cons_of_mem _)

theorem ascending_insert {name : String} {key : Keypair} {keys : List (String × Keypair)}
    (ascending : (keys.map (·.1)).Pairwise (· < ·)) (free : ∀ entry ∈ keys, entry.1 ≠ name) :
    ((insert name key keys).map (·.1)).Pairwise (· < ·) := by
  induction keys with
  | nil => exact List.pairwise_singleton _ _
  | cons first rest ih =>
    obtain ⟨least, later⟩ := List.pairwise_cons.mp ascending
    obtain ⟨unlike, others⟩ := List.forall_mem_cons.mp free
    unfold insert
    split
    · rename_i below
      refine List.pairwise_cons.mpr ⟨?_, ascending⟩
      intro other member
      rcases List.mem_cons.mp member with rfl | beyond
      · exact below
      · exact String.lt_trans below (least other beyond)
    · rename_i above
      refine List.pairwise_cons.mpr ⟨?_, ih later others⟩
      intro other member
      rcases mem_insert member with rfl | beyond
      · exact Std.lt_of_le_of_ne (String.not_lt.mp above) unlike
      · exact least other beyond

theorem free_of_lookup {name : String} {keys : List (String × Keypair)}
    (free : ¬ (keys.lookup name).isSome = true) : ∀ entry ∈ keys, entry.1 ≠ name := by
  rw [Bool.not_eq_true, Option.isSome_eq_false_iff, Option.isNone_iff_eq_none,
    List.lookup_eq_none_iff] at free
  intro entry member same
  simpa [same] using free entry member

/-- A name is taken once and for all. -/
def put (store : MemoryKeystore) (name : String) (key : Keypair) :
    Except KeystoreError MemoryKeystore := do
  validateKeyName name
  if taken : (store.keys.lookup name).isSome then throw (.taken name)
  else return {
    keys := insert name key store.keys
    ascending := ascending_insert store.ascending (free_of_lookup taken) }

end MemoryKeystore

end GossipNames
