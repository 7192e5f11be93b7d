import Mathlib.Data.List.AList

/-!
# Association lists: sweeps

`AList.keep` drops the entries that fail a test, as `retain` does for a hash map.

* `lookup_keep`: what a key is mapped to afterwards.
* `length_keep_le`: a sweep makes no map larger.
-/

namespace AList

universe u v

variable {α : Type u} {β : Type v} {p : α → β → Bool} {m : AList fun _ : α => β}

def keep (p : α → β → Bool) (m : AList fun _ : α => β) : AList fun _ : α => β where
  entries := m.entries.filter fun e => p e.1 e.2
  nodupKeys := m.nodupKeys.sublist List.filter_sublist

theorem lookup_keep [DecidableEq α] {k : α} : (m.keep p).lookup k = (m.lookup k).filter (p k) := by
  refine Option.ext fun v => ?_
  rw [← Option.mem_def, mem_lookup_iff, keep, List.mem_filter, ← mem_lookup_iff,
    Option.mem_def, Option.filter_eq_some_iff]

theorem length_keep_le : (m.keep p).keys.length ≤ m.keys.length :=
  (List.filter_sublist.map _).length_le

end AList
