import GossipNames.Table
import GossipNames.Text.Order

/-! The keys of a table: each stands there once, and they can be listed in order. -/

namespace GossipNames

namespace Table

variable {κ α : Type} [DecidableEq κ] {table : Table κ α}

theorem contains_iff (table : Table κ α) (key : κ) :
    table.contains key = true ↔ key ∈ table.keys :=
  table.isSome_get?_iff key

omit [DecidableEq κ] in
theorem length_keys (table : Table κ α) : table.keys.length = table.size :=
  List.length_map _

omit [DecidableEq κ] in
theorem eq_empty_of_keys (keyless : table.keys = []) : table = .empty := by
  rw [keys, List.map_eq_nil_iff] at keyless
  exact congrArg mk keyless

theorem keys_put (table : Table κ α) (key : κ) (value : α) :
    (table.put key value).keys = if key ∈ table.keys then table.keys else table.keys ++ [key] := by
  unfold put keys
  split
  · rw [List.map_map]
    apply List.map_congr_left
    intro entry member
    by_cases same : entry.1 = key
    · simp [same]
    · simp [same]
  · simp

theorem keys_erase (table : Table κ α) (key : κ) :
    (table.erase key).keys = table.keys.filter (· ≠ key) := by
  unfold erase keys
  rw [List.filter_map]
  rfl

theorem nodup_keys_put (distinct : table.keys.Nodup) (key : κ) (value : α) :
    (table.put key value).keys.Nodup := by
  rw [keys_put]
  split
  · exact distinct
  · rename_i absent
    rw [List.nodup_append]
    refine ⟨distinct, by simp, ?_⟩
    intro other member last same
    rw [List.mem_singleton.mp same]
    rintro rfl
    exact absent member

theorem nodup_keys_erase (distinct : table.keys.Nodup) (key : κ) :
    (table.erase key).keys.Nodup := by
  rw [keys_erase]
  exact distinct.filter _

end Table

end GossipNames
