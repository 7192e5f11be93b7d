import NebulaId.Store.Entries
import Mathlib.Tactic.Common

/-!
# The authentication failures of each address (`server/middleware/api_key_auth.rs`)

The map from client addresses to the times of their recent failures. `checkAuthFailureRate`
prunes the entry of the address it is asked about and no other, and looks at the capacity only
for an address that has failures left and is below the limit. `recordAuthFailure` inserts.
Times are nanoseconds; `duration_since` is zero for a time that lies ahead.

* `checkAuthFailureRate_fst`: the verdict counts the recent failures of the address.
* `failuresOf_check`: unless the map overflows, nobody else's failures are touched.
* `overflows_iff`: while no entry is empty the sweep removes nothing, and more than
  `maxTrackedAuthFailureIps` entries are all dropped.
-/

namespace NebulaId

abbrev FailureMap := AList fun _ : String => List ℕ

namespace FailureTracker

def maxTrackedAuthFailureIps : ℕ := 10000

def second : ℕ := 1000000000

def window : ℕ := 300 * second

def limit : ℕ := 10

/-- `now.duration_since(t) < 300 s` -/
def recent (now t : ℕ) : Bool := now - t < window

/-- The entry of an address, `or_default`. -/
def failuresOf (m : FailureMap) (ip : String) : List ℕ := (m.lookup ip).getD []

/-- `len()` -/
def tracked (m : FailureMap) : ℕ := m.keys.length

/-- `retain(|_, v| !v.is_empty())` -/
def dropEmpty (m : FailureMap) : FailureMap := m.keep fun _ failures => !failures.isEmpty

def checkAuthFailureRate (now : ℕ) (clientIp : String) (m : FailureMap) : Bool × FailureMap :=
  let failures := (failuresOf m clientIp).filter (recent now)
  let m := m.insert clientIp failures
  if failures.isEmpty then (true, m.erase clientIp)
  else if failures.length ≥ limit then (false, m)
  else if tracked m > maxTrackedAuthFailureIps then
    let m := dropEmpty m
    if tracked m > maxTrackedAuthFailureIps then (true, ∅) else (true, m)
  else (true, m)

def recordAuthFailure (now : ℕ) (clientIp : String) (m : FailureMap) : FailureMap :=
  m.insert clientIp (failuresOf m clientIp ++ [now])

/-- The check clears the map. -/
def overflows (now : ℕ) (clientIp : String) (m : FailureMap) : Bool :=
  let failures := (failuresOf m clientIp).filter (recent now)
  !failures.isEmpty && decide (failures.length < limit) &&
    decide (maxTrackedAuthFailureIps < tracked (dropEmpty (m.insert clientIp failures)))

/-! ## The map -/

variable {m : FailureMap} {now : ℕ} {ip ip' : String} {ts : List ℕ}

theorem failuresOf_insert :
    failuresOf (m.insert ip ts) ip' = if ip' = ip then ts else failuresOf m ip' := by
  unfold failuresOf
  split
  · rename_i h
    rw [h, AList.lookup_insert, Option.getD_some]
  · rename_i h
    rw [AList.lookup_insert_ne h]

theorem failuresOf_erase :
    failuresOf (m.erase ip) ip' = if ip' = ip then [] else failuresOf m ip' := by
  unfold failuresOf
  split
  · rename_i h
    rw [h, AList.lookup_erase, Option.getD_none]
  · rename_i h
    rw [AList.lookup_erase_ne h]

theorem failuresOf_empty : failuresOf ∅ ip = [] := rfl

theorem mem_of_failuresOf (h : failuresOf m ip ≠ []) : ip ∈ m := by
  rw [← AList.lookup_isSome, Option.isSome_iff_ne_none]
  intro hnone
  exact h (by rw [failuresOf, hnone, Option.getD_none])

theorem failuresOf_dropEmpty : failuresOf (dropEmpty m) ip = failuresOf m ip := by
  rw [failuresOf, failuresOf, dropEmpty, AList.lookup_keep]
  cases m.lookup ip with
  | none => rfl
  | some ts =>
    cases ts with
    | nil => rfl
    | cons t ts => rfl

theorem length_erase_add_one :
    (m.keys.erase ip).length + 1 = if ip ∈ m then tracked m else tracked m + 1 := by
  unfold tracked
  split
  · rename_i h
    have hpos := List.length_pos_of_mem (AList.mem_keys.mp h)
    rw [List.length_erase_of_mem (AList.mem_keys.mp h)]
    omega
  · rename_i h
    rw [List.erase_of_not_mem fun hk => h (AList.mem_keys.mpr hk)]

theorem tracked_insert : tracked (m.insert ip ts) = if ip ∈ m then tracked m else tracked m + 1 := by
  rw [← length_erase_add_one, tracked, AList.keys_insert, List.length_cons]

theorem tracked_erase_insert_le : tracked ((m.insert ip ts).erase ip) ≤ tracked m := by
  unfold tracked
  rw [AList.keys_erase, AList.keys_insert, List.erase_cons_head]
  exact List.length_erase_le

theorem tracked_dropEmpty_le : tracked (dropEmpty m) ≤ tracked m := AList.length_keep_le

/-! ## The check -/

/-- The recent failures of an address. -/
def live (now : ℕ) (m : FailureMap) (ip : String) : List ℕ := (failuresOf m ip).filter (recent now)

theorem mem_of_live (h : live now m ip ≠ []) : ip ∈ m := by
  refine mem_of_failuresOf fun hnil => h ?_
  rw [live, hnil, List.filter_nil]

theorem checkAuthFailureRate_fst :
    (checkAuthFailureRate now ip m).1 = decide ((live now m ip).length < limit) := by
  unfold checkAuthFailureRate live
  dsimp only
  split
  · rename_i h
    rw [List.isEmpty_iff.mp h]
    rfl
  · split
    · rename_i h
      simpa using h
    · rename_i h
      rw [decide_eq_true (by omega)]
      split
      · split <;> rfl
      · rfl

/-- Unless the map overflows, only the asked address is pruned. -/
theorem failuresOf_check (h : overflows now ip m = false) :
    failuresOf (checkAuthFailureRate now ip m).2 ip' =
      if ip' = ip then live now m ip else failuresOf m ip' := by
  unfold checkAuthFailureRate live
  dsimp only
  split
  · rename_i hnil
    rw [failuresOf_erase, failuresOf_insert, List.isEmpty_iff.mp hnil]
    split <;> rfl
  · rename_i hnil
    split
    · exact failuresOf_insert
    · rename_i hlen
      split
      · split
        · rename_i hover
          simp [overflows, hnil, Nat.lt_of_not_le hlen, hover] at h
        · exact failuresOf_dropEmpty.trans failuresOf_insert
      · exact failuresOf_insert

/-- A check makes the map no larger. -/
theorem tracked_check_le : tracked (checkAuthFailureRate now ip m).2 ≤ tracked m := by
  unfold checkAuthFailureRate
  dsimp only
  split
  · exact tracked_erase_insert_le
  · rename_i hnil
    have hne : live now m ip ≠ [] := fun h => hnil (List.isEmpty_iff.mpr h)
    have hsame : tracked (m.insert ip (live now m ip)) = tracked m := by
      rw [tracked_insert, if_pos (mem_of_live hne)]
    split
    · exact Nat.le_of_eq hsame
    · split
      · split
        · exact Nat.zero_le _
        · exact Nat.le_trans tracked_dropEmpty_le (Nat.le_of_eq hsame)
      · exact Nat.le_of_eq hsame

theorem failuresOf_record : failuresOf (recordAuthFailure now ip m) ip' =
    if ip' = ip then failuresOf m ip ++ [now] else failuresOf m ip' := failuresOf_insert

theorem tracked_record : tracked (recordAuthFailure now ip m) =
    if ip ∈ m then tracked m else tracked m + 1 := tracked_insert

/-! ## No entry is empty -/

def NoEmpty (m : FailureMap) : Prop := ∀ ip ∈ m, failuresOf m ip ≠ []

theorem noEmpty_empty : NoEmpty ∅ := fun ip h => absurd h (AList.notMem_empty ip)

theorem NoEmpty.insert (h : NoEmpty m) (hts : ts ≠ []) : NoEmpty (m.insert ip ts) := by
  intro ip' hin
  rw [failuresOf_insert]
  split
  · exact hts
  · rename_i hne
    exact h ip' ((AList.mem_insert m).mp hin |>.resolve_left hne)

theorem NoEmpty.record (h : NoEmpty m) : NoEmpty (recordAuthFailure now ip m) := h.insert (by simp)

theorem NoEmpty.dropEmpty_eq (h : NoEmpty m) : dropEmpty m = m := by
  refine AList.ext (List.filter_eq_self.mpr fun e he => ?_)
  have hlookup : m.lookup e.1 = some e.2 := AList.mem_lookup_iff.mpr he
  have hne := h e.1 (AList.lookup_isSome.mp (by rw [hlookup]; rfl))
  rw [failuresOf, hlookup, Option.getD_some] at hne
  simpa using hne

theorem NoEmpty.check (h : NoEmpty m) : NoEmpty (checkAuthFailureRate now ip m).2 := by
  unfold checkAuthFailureRate
  dsimp only
  split
  · intro ip' hin
    obtain ⟨hne, hin⟩ := AList.mem_erase.mp hin
    rw [failuresOf_erase, if_neg hne, failuresOf_insert, if_neg hne]
    exact h ip' ((AList.mem_insert m).mp hin |>.resolve_left hne)
  · rename_i hnil
    have hne : live now m ip ≠ [] := fun h => hnil (List.isEmpty_iff.mpr h)
    have hinsert : NoEmpty (m.insert ip (live now m ip)) := h.insert hne
    split
    · exact hinsert
    · split
      · split
        · exact noEmpty_empty
        · exact hinsert.dropEmpty_eq.symm ▸ hinsert
      · exact hinsert

/-- The sweep has nothing to remove, so too many entries are all dropped. -/
theorem overflows_iff (h : NoEmpty m) : overflows now ip m = true ↔
    live now m ip ≠ [] ∧ (live now m ip).length < limit ∧ maxTrackedAuthFailureIps < tracked m := by
  unfold overflows live
  simp only [Bool.and_eq_true, Bool.not_eq_true', decide_eq_true_eq, List.isEmpty_eq_false_iff,
    and_assoc]
  refine and_congr_right fun hne => and_congr_right fun _ => ?_
  rw [(h.insert hne).dropEmpty_eq, tracked_insert, if_pos (mem_of_live hne)]

theorem NoEmpty.mem_iff (h : NoEmpty m) : ip ∈ m ↔ failuresOf m ip ≠ [] :=
  ⟨h ip, mem_of_failuresOf⟩

theorem NoEmpty.overflows_of_le (h : NoEmpty m) (hle : tracked m ≤ maxTrackedAuthFailureIps) :
    overflows now ip m = false := by
  rw [← Bool.not_eq_true, overflows_iff h]
  omega

theorem overflows_of_fresh (h : failuresOf m ip = []) : overflows now ip m = false := by
  simp [overflows, h]

theorem check_of_overflows (h : overflows now ip m = true) :
    (checkAuthFailureRate now ip m).2 = ∅ := by
  simp only [overflows, Bool.and_eq_true, Bool.not_eq_true', decide_eq_true_eq] at h
  obtain ⟨⟨hne, hlen⟩, hover⟩ := h
  have hfull := Nat.lt_of_lt_of_le hover tracked_dropEmpty_le
  simp [checkAuthFailureRate, hne, Nat.not_le.mpr hlen, hfull, hover]

theorem check_of_stale (h : live now m ip = []) :
    (checkAuthFailureRate now ip m).2 = (m.insert ip []).erase ip := by
  rw [live] at h
  simp [checkAuthFailureRate, h]

theorem NoEmpty.check_of_live (h : NoEmpty m) (hfit : overflows now ip m = false)
    (hlive : live now m ip ≠ []) :
    (checkAuthFailureRate now ip m).2 = m.insert ip (live now m ip) := by
  have hinsert : dropEmpty (m.insert ip (live now m ip)) = m.insert ip (live now m ip) :=
    (h.insert hlive).dropEmpty_eq
  unfold overflows at hfit
  unfold checkAuthFailureRate
  unfold live at hlive hinsert ⊢
  dsimp only at hfit ⊢
  rw [if_neg (by simpa using hlive)]
  split
  · rfl
  · rename_i hlen
    split
    · rename_i hfull
      rw [hinsert] at hfit
      simp [hlive, Nat.lt_of_not_le hlen, hfull] at hfit
    · rfl

/-- A failed attempt, check and record, adds an entry for a new address only. -/
theorem NoEmpty.tracked_failed (h : NoEmpty m) (hfit : overflows now ip m = false) :
    tracked (recordAuthFailure now ip (checkAuthFailureRate now ip m).2) =
      if ip ∈ m then tracked m else tracked m + 1 := by
  rw [tracked_record]
  by_cases hlive : live now m ip = []
  · rw [check_of_stale hlive, if_neg (by simp), tracked, AList.keys_erase, AList.keys_insert,
      List.erase_cons_head, length_erase_add_one]
  · rw [h.check_of_live hfit hlive, if_pos (by simp), tracked_insert]

end FailureTracker

end NebulaId
