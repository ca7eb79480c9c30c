import GossipNames.Keystore.Directory
import GossipNames.Proofs.Wire

/-! What a directory of keys does with its files: which of them it lists, which one it reads or
creates for a name, and where that one is. -/

namespace GossipNames

/-- The names along a path. -/
def pathSegments (path : List Char) : List (List Char) :=
  (path.splitOn '/').filter (· ≠ [])

theorem pathSegments_append (front back : List Char) :
    pathSegments (front ++ '/' :: back) = pathSegments front ++ pathSegments back := by
  rw [pathSegments, List.splitOn_append_cons_self, List.filter_append]
  rfl

theorem pathSegments_name {name : List Char} (plain : '/' ∉ name) (nonempty : name ≠ []) :
    pathSegments name = [name] := by
  rw [pathSegments, List.splitOn_eq_singleton plain]
  simp [nonempty]

/-- Nothing but the name stands between a directory and the file, and the name leads to no other
directory. -/
structure IsDirectChild (directory file name : String) : Prop where
  segments : pathSegments file.toList = pathSegments directory.toList ++ [name.toList]
  rooted : file.toList.head? = some '/' ↔ directory.toList.head? = some '/'
  ordinary : name ≠ "." ∧ name ≠ ".."

theorem lookup_cons {α : Type} (entry : String × α) (rest : List (String × α)) (name : String) :
    (entry :: rest).lookup name = if name = entry.1 then some entry.2 else rest.lookup name := by
  rw [List.lookup_cons]
  split
  · rename_i same
    rw [if_pos (eq_of_beq same)]
  · rename_i unlike
    rw [if_neg (ne_of_beq_false unlike)]

theorem validateKeyName_eq_ok_iff {name : String} :
    validateKeyName name = .ok ()
      ↔ name.toList ≠ [] ∧ '/' ∉ name.toList ∧ name.toList.head? ≠ some '.' := by
  unfold validateKeyName
  grind

namespace KeyDirectory

theorem isDirectChild_path (store : KeyDirectory) {name : String}
    (valid : validateKeyName name = .ok ()) :
    IsDirectChild store.location (store.path name) name := by
  obtain ⟨nonempty, plain, shown⟩ := validateKeyName_eq_ok_iff.mp valid
  have alone := pathSegments_name plain nonempty
  have relative : name.toList.head? ≠ some '/' := by
    intro rooted
    exact plain (List.mem_of_mem_head? rooted)
  have ordinary : name ≠ "." ∧ name ≠ ".." := by
    constructor <;> rintro rfl <;> simp at shown
  unfold path
  rw [if_neg relative]
  split
  · rename_i closed
    rcases closed with nowhere | closed
    · rw [nowhere]
      refine ⟨?_, ?_, ordinary⟩
      · simpa [pathSegments] using alone
      · simpa using relative
    · obtain ⟨front, ends⟩ := List.getLast?_eq_some_iff.mp closed
      refine ⟨?_, ?_, ordinary⟩
      · rw [String.toList_append, ends, List.append_assoc, List.singleton_append,
          pathSegments_append, pathSegments_append, alone]
        simp [pathSegments]
      · rw [String.toList_append, ends]
        simp
  · rename_i opened
    refine ⟨?_, ?_, ordinary⟩
    · simp [pathSegments_append, alone]
    · have somewhere : store.location.toList ≠ [] := by
        simpa using (not_or.mp opened).1
      obtain ⟨first, rest, chars⟩ := List.exists_cons_of_ne_nil somewhere
      simp [chars]

private theorem lookup_filter {name other : String} (unlike : other ≠ name)
    (entries : List (String × DirectoryEntry)) :
    (entries.filter (·.1 ≠ name)).lookup other = entries.lookup other := by
  induction entries with
  | nil => rfl
  | cons entry rest ih =>
    by_cases dropped : entry.1 = name
    · rw [List.filter_cons_of_neg (by simpa using dropped), ih, lookup_cons,
        if_neg (dropped ▸ unlike)]
    · rw [List.filter_cons_of_pos (by simpa using dropped), lookup_cons, lookup_cons, ih]

theorem lookup_place (store : KeyDirectory) (name other : String) (entry : DirectoryEntry) :
    (store.place name entry).entries.lookup other
      = if other = name then some entry else store.entries.lookup other := by
  rw [place, lookup_cons]
  split
  · rfl
  · rename_i unlike
    exact lookup_filter unlike store.entries

/-- No two entries have one name. -/
def IsDistinct (store : KeyDirectory) : Prop :=
  (store.entries.map (·.1)).Nodup

theorem IsDistinct.place {store : KeyDirectory} (distinct : store.IsDistinct) (name : String)
    (entry : DirectoryEntry) : (store.place name entry).IsDistinct := by
  refine List.nodup_cons.mpr ⟨?_, ?_⟩
  · simp
  · exact distinct.sublist (List.filter_sublist.map _)

theorem IsDistinct.mem_iff {store : KeyDirectory} (distinct : store.IsDistinct) {name : String}
    {entry : DirectoryEntry} :
    (name, entry) ∈ store.entries ↔ store.entries.lookup name = some entry := by
  rw [List.lookup_eq_some_iff]
  constructor
  · intro member
    obtain ⟨before, after, split⟩ := List.append_of_mem member
    refine ⟨before, after, split, fun other earlier => ?_⟩
    rw [IsDistinct, split, List.map_append, List.map_cons, List.nodup_append] at distinct
    simpa using (distinct.2.2 _ (List.mem_map_of_mem earlier) name List.mem_cons_self).symm
  · rintro ⟨before, after, split, -⟩
    rw [split]
    exact List.mem_append_right before List.mem_cons_self

theorem mem_list_iff {store : KeyDirectory} {name : String} :
    name ∈ store.list
      ↔ validateKeyName name = .ok () ∧ ∃ content, (name, .file content) ∈ store.entries := by
  rw [list, List.mem_mergeSort, List.mem_filterMap]
  constructor
  · rintro ⟨⟨other, entry⟩, member, kept⟩
    dsimp only at kept
    split at kept
    · rename_i content valid
      cases kept
      exact ⟨valid, content, member⟩
    · cases kept
  · rintro ⟨valid, content, member⟩
    refine ⟨_, member, ?_⟩
    simp only [valid]

theorem IsDistinct.pairwise_list {store : KeyDirectory} (distinct : store.IsDistinct) :
    store.list.Pairwise (· < ·) := by
  apply pairwise_lt_mergeSort
  refine (List.pairwise_map.mp distinct).filterMap _ ?_
  intro first second apart name kept other keptToo
  dsimp only at kept keptToo
  split at kept <;> cases kept
  split at keptToo <;> cases keptToo
  exact apart

/-- The file of a name can be created. -/
structure IsFree (store : KeyDirectory) (name : String) : Prop where
  valid : validateKeyName name = .ok ()
  fits : nameFault? name = none
  untaken : store.entries.lookup name = none

theorem IsFree.ne_of_mem {store : KeyDirectory} {name : String} (free : store.IsFree name) :
    ∀ entry ∈ store.entries, entry.1 ≠ name := by
  intro entry member same
  have unlike := List.lookup_eq_none_iff.mp free.untaken entry member
  simp [same] at unlike

/-- A file that is created for a free name is listed besides the others. -/
theorem IsFree.list_place {store : KeyDirectory} {name : String} (free : store.IsFree name)
    (content : Bytes) :
    name ∉ store.list ∧ (store.place name (.file content)).list.Perm (name :: store.list) := by
  constructor
  · intro listed
    obtain ⟨-, other, member⟩ := mem_list_iff.mp listed
    exact free.ne_of_mem _ member rfl
  · have others : store.entries.filter (·.1 ≠ name) = store.entries := by
      rw [List.filter_eq_self]
      intro entry member
      simpa using free.ne_of_mem entry member
    refine (List.mergeSort_perm _ _).trans ?_
    simp only [place, others, List.filterMap_cons, free.valid]
    exact (List.mergeSort_perm _ _).symm.cons name

theorem mem_list_of_lookup {store : KeyDirectory} {name : String} {content : Bytes}
    (valid : validateKeyName name = .ok ())
    (found : store.entries.lookup name = some (.file content)) : name ∈ store.list := by
  obtain ⟨before, after, split, -⟩ := List.lookup_eq_some_iff.mp found
  exact mem_list_iff.mpr ⟨valid, content, by simp [split]⟩

/-- What is in the file of a name after the steps that were taken, when it was created. -/
def leaves? (fault? : Option WriteFault) (content : Bytes) : Option Bytes :=
  match fault? with
  | none | some (.sync _) => some content
  | some (.write count _) => some (content.take count)
  | some (.create _) => none

section Keys

variable [SignatureScheme] {store : KeyDirectory} {name other : String}

/-- Of all the files only that of the name is read. -/
theorem get_congr {first second : KeyDirectory} (location : first.location = second.location)
    (file : first.entries.lookup name = second.entries.lookup name) :
    first.get name = second.get name := by
  simp only [get, read, path, location, file]

theorem get_refused {error : KeystoreError} (invalid : validateKeyName name = .error error) :
    store.get name = .error error := by
  simp [get, invalid]

theorem get_file {content : Bytes} (valid : validateKeyName name = .ok ())
    (fits : nameFault? name = none) (file : store.entries.lookup name = some (.file content)) :
    store.get name = (Keypair.decode content).mapError (.corrupt (store.path name)) := by
  simp [get, read, valid, fits, file]

/-- A key that is given was in the file of its name. -/
theorem get_ok {key : Keypair} (given : store.get name = .ok key) :
    nameFault? name = none ∧ ∃ content, store.entries.lookup name = some (.file content) := by
  cases valid : validateKeyName name with
  | error error => cases (get_refused valid).symm.trans given
  | ok _ =>
    simp only [get, read, valid, ok_bind] at given
    cases fits : nameFault? name with
    | some fault => simp [fits] at given
    | none =>
      cases file : store.entries.lookup name with
      | none => simp [fits, file] at given
      | some entry =>
        cases entry with
        | directory => simp [fits, file] at given
        | file content => exact ⟨rfl, content, rfl⟩

theorem get_missing (valid : validateKeyName name = .ok ()) (fits : nameFault? name = none)
    (absent : store.entries.lookup name = none) :
    store.get name = .error (.unreadable (store.path name) .missing) := by
  simp [get, read, valid, fits, absent]

theorem putWith_free (free : store.IsFree name) (fault? : Option WriteFault) (key : Keypair) :
    (store.putWith fault? name key).1 = match leaves? fault? key.encode with
      | none => store
      | some content => store.place name (.file content) := by
  unfold putWith leaves?
  simp only [free.valid, free.fits, free.untaken]
  rcases fault? with _ | _ | _ | _ <;> rfl

theorem putWith_invalid {error : KeystoreError} (invalid : validateKeyName name = .error error)
    (fault? : Option WriteFault) (key : Keypair) :
    store.putWith fault? name key = (store, .error error) := by
  simp only [putWith, invalid]

/-- Where no file can be created nothing is changed, and it is always for the same reason. -/
theorem putWith_refused (refused : ¬ store.IsFree name) :
    ∃ error, ∀ fault? key, store.putWith fault? name key = (store, .error error) := by
  cases valid : validateKeyName name with
  | error error => exact ⟨error, putWith_invalid valid⟩
  | ok _ =>
    unfold putWith
    rw [valid]
    cases fits : nameFault? name with
    | some fault => exact ⟨.unwritable fault, fun _ _ => rfl⟩
    | none =>
      have taken : (store.entries.lookup name).isSome := by
        rw [Option.isSome_iff_ne_none]
        exact fun untaken => refused ⟨valid, fits, untaken⟩
      exact ⟨.taken name, fun _ _ => if_pos taken⟩

theorem putWith_ok_iff {fault? : Option WriteFault} {key : Keypair} :
    (store.putWith fault? name key).2 = .ok () ↔ store.IsFree name ∧ fault? = none := by
  by_cases free : store.IsFree name
  · unfold putWith
    simp only [free.valid, free.fits, free.untaken]
    rcases fault? with _ | _ | _ | _ <;> simp [free]
  · obtain ⟨error, same⟩ := putWith_refused free
    simp [same, free]

theorem put_free (free : store.IsFree name) (key : Keypair) :
    store.put name key = (store.place name (.file key.encode), .ok ()) := by
  simp [put, putWith, free.valid, free.fits, free.untaken]

theorem put_taken {entry : DirectoryEntry} (valid : validateKeyName name = .ok ())
    (fits : nameFault? name = none) (found : store.entries.lookup name = some entry)
    (key : Keypair) : store.put name key = (store, .error (.taken name)) := by
  simp [put, putWith, valid, fits, found]

/-- A put without a fault that fails all the same changes nothing. -/
theorem put_error {key : Keypair} {error : KeystoreError}
    (failed : (store.put name key).2 = .error error) : (store.put name key).1 = store := by
  by_cases free : store.IsFree name
  · rw [put_free free] at failed
    cases failed
  · obtain ⟨_, same⟩ := putWith_refused free
    rw [put, same]

/-- A put changes no other file than that of its name. -/
theorem lookup_putWith_of_ne (fault? : Option WriteFault) (key : Keypair) (unlike : other ≠ name) :
    (store.putWith fault? name key).1.entries.lookup other = store.entries.lookup other := by
  by_cases free : store.IsFree name
  · rw [putWith_free free]
    split
    · rfl
    · rw [lookup_place, if_neg unlike]
  · obtain ⟨error, same⟩ := putWith_refused free
    rw [same]

/-- What there is stays, whatever is put and however it fails. -/
theorem lookup_putWith {entry : DirectoryEntry} (fault? : Option WriteFault) (key : Keypair)
    (found : store.entries.lookup other = some entry) :
    (store.putWith fault? name key).1.entries.lookup other = some entry := by
  by_cases same : other = name
  · have taken : ¬ store.IsFree name := fun free => by
      cases free.untaken.symm.trans (same ▸ found)
    obtain ⟨error, unchanged⟩ := putWith_refused taken
    rw [unchanged, found]
  · rw [lookup_putWith_of_ne fault? key same, found]

theorem location_putWith (fault? : Option WriteFault) (key : Keypair) :
    (store.putWith fault? name key).1.location = store.location := by
  by_cases free : store.IsFree name
  · rw [putWith_free free]
    split <;> rfl
  · obtain ⟨error, same⟩ := putWith_refused free
    rw [same]

end Keys

end KeyDirectory

end GossipNames
