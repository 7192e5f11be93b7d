import Mathlib
import NebulaId.Types.Id

/-!
# The segment table and its two entry points (`core/database/repository.rs`)

`allocate_segment` and `allocate_segment_with_dc` differ in the name of their lock, in the
rows they look at and in the first id of a new row. Both read one row and then either
advance its `current_id` or insert a new row. `Entry` holds the differences, and `commit`
is the write of both, for the row that the call has read before.

`TableInv` says that every range handed out lies below the `current_id` of a row and above
the first id of the datacenter of that row. `TableInv.advance` and `TableInv.insert` say
when the two writes keep it. Integers of type `i64` are integers in the range of `i64`.
-/

namespace NebulaId

def i64Max : ℤ := 2 ^ 63 - 1

def i64Min : ℤ := -2 ^ 63

/-- `i64::saturating_add` -/
def saturatingAdd (a b : ℤ) : ℤ := max i64Min (min i64Max (a + b))

/-- The `i64` arithmetic of the release profile wraps. -/
def wrapI64 (x : ℤ) : ℤ := Int.bmod x (2 ^ 64)

/-- `x as u32` of an `i32`. -/
def asU32 (x : ℤ) : ℤ := x % 2 ^ 32

structure SegmentInfo where
  id : ℤ
  workspaceId : String
  bizTag : String
  currentId : ℤ
  maxId : ℤ
  step : ℤ
  delta : ℤ
  deriving DecidableEq

structure SegmentRow where
  id : ℤ
  workspaceId : String
  bizTag : String
  currentId : ℤ
  maxId : ℤ
  step : ℤ
  delta : ℤ
  dcId : ℤ
  deriving DecidableEq

/-- The rows, and the next value of the sequence behind the primary key. -/
structure SegmentTable where
  rows : List SegmentRow
  nextId : ℤ
  numbered : ∀ r ∈ rows, r.id < nextId
  unique : (rows.map SegmentRow.id).Nodup

namespace SegmentTable

def empty : SegmentTable := ⟨[], 1, fun _ h => (List.not_mem_nil h).elim, List.nodup_nil⟩

/-- `.one()`: one of the matching rows, whichever the database comes across first. -/
def one (t : SegmentTable) (p : SegmentRow → Bool) (pick : ℕ) : Option SegmentRow :=
  (t.rows.filter p)[pick % (t.rows.filter p).length]?

theorem map_id_setCurrent (rows : List SegmentRow) (id value : ℤ) :
    (rows.map fun r => if r.id = id then { r with currentId := value } else r).map SegmentRow.id =
      rows.map SegmentRow.id := by
  rw [List.map_map]
  apply List.map_congr_left
  intro r _
  by_cases h : r.id = id <;> simp [h]

/-- `UPDATE ... SET current_id = value WHERE id = ...` -/
def setCurrent (t : SegmentTable) (id value : ℤ) : SegmentTable where
  rows := t.rows.map fun r => if r.id = id then { r with currentId := value } else r
  nextId := t.nextId
  numbered r h := by
    obtain ⟨r', hr', rfl⟩ := List.mem_map.mp h
    have hlt := t.numbered r' hr'
    split <;> exact hlt
  unique := by
    rw [map_id_setCurrent]
    exact t.unique

/-- `INSERT`; the database gives the new row its id. -/
def insert (t : SegmentTable) (row : ℤ → SegmentRow) (h : ∀ i, (row i).id = i) : SegmentTable where
  rows := t.rows ++ [row t.nextId]
  nextId := t.nextId + 1
  numbered r hr := by
    rcases List.mem_append.mp hr with hr | hr
    · have := t.numbered r hr
      omega
    · rw [List.mem_singleton.mp hr, h]
      omega
  unique := by
    rw [List.map_append, List.nodup_append]
    refine ⟨t.unique, List.nodup_singleton _, ?_⟩
    intro i hi j hj
    obtain ⟨r, hr, rfl⟩ := List.mem_map.mp hi
    obtain ⟨r', hr', rfl⟩ := List.mem_map.mp hj
    have hlt := t.numbered r hr
    rw [List.mem_singleton.mp hr', h]
    omega

variable {t : SegmentTable} {r : SegmentRow} {p : SegmentRow → Bool} {pick : ℕ}

theorem one_eq_some (h : t.one p pick = some r) : r ∈ t.rows ∧ p r = true :=
  List.mem_filter.mp (List.mem_of_getElem? h)

theorem one_eq_none (h : t.one p pick = none) : ∀ r ∈ t.rows, p r = false := by
  intro r hr
  by_contra hp
  have hmem : r ∈ t.rows.filter p := List.mem_filter.mpr ⟨hr, by simpa using hp⟩
  have hlen := List.length_pos_of_mem hmem
  have hlt := Nat.mod_lt pick hlen
  rw [one, List.getElem?_eq_getElem hlt] at h
  cases h

theorem eq_of_id_eq {r' : SegmentRow} (hr : r ∈ t.rows) (hr' : r' ∈ t.rows)
    (h : r.id = r'.id) : r = r' := List.inj_on_of_nodup_map t.unique hr hr' h

/-- After an update a row is an old one, untouched, or the one that was updated. -/
theorem mem_setCurrent {value : ℤ} (hr : r ∈ t.rows) {x : SegmentRow}
    (hx : x ∈ (t.setCurrent r.id value).rows) :
    x = { r with currentId := value } ∨ (x ∈ t.rows ∧ x ≠ r) := by
  obtain ⟨y, hy, rfl⟩ := List.mem_map.mp hx
  by_cases hid : y.id = r.id
  · rw [if_pos hid, eq_of_id_eq hy hr hid]
    exact Or.inl rfl
  · rw [if_neg hid]
    refine Or.inr ⟨hy, ?_⟩
    rintro rfl
    exact hid rfl

theorem setCurrent_mem {value : ℤ} (hr : r ∈ t.rows) :
    { r with currentId := value } ∈ (t.setCurrent r.id value).rows :=
  List.mem_map.mpr ⟨r, hr, if_pos rfl⟩

theorem setCurrent_mem_of_ne {value : ℤ} {x : SegmentRow} (hr : r ∈ t.rows) (hx : x ∈ t.rows)
    (hne : x ≠ r) : x ∈ (t.setCurrent r.id value).rows :=
  List.mem_map.mpr ⟨x, hx, if_neg fun hid => hne (eq_of_id_eq hx hr hid)⟩

end SegmentTable

/-! ## The two entry points -/

/-- What the two functions differ in. -/
structure Entry where
  workspaceId : String
  bizTag : String
  lockKey : String
  selects : SegmentRow → Bool
  startId : ℤ
  dcId : ℤ

def segmentLockKey (workspaceId bizTag : String) : Option ℤ → String
  | some dc => "segment:" ++ workspaceId ++ ":" ++ bizTag ++ ":dc:" ++ toString dc
  | none => "segment:" ++ workspaceId ++ ":" ++ bizTag

/-- The first id of a new row of a datacenter. -/
def dcStart (dcId : ℤ) : ℤ := wrapI64 (wrapI64 (dcId * 1000000000000) + 1)

/-- The column default of `dc_id`. -/
def defaultDcId : ℤ := 0

def allocateSegment (workspaceId bizTag : String) : Entry where
  workspaceId := workspaceId
  bizTag := bizTag
  lockKey := segmentLockKey workspaceId bizTag none
  selects r := r.workspaceId == workspaceId && r.bizTag == bizTag
  startId := 1
  dcId := defaultDcId

def allocateSegmentWithDc (workspaceId bizTag : String) (dcId : ℤ) : Entry where
  workspaceId := workspaceId
  bizTag := bizTag
  lockKey := segmentLockKey workspaceId bizTag (some dcId)
  selects r := r.workspaceId == workspaceId && r.bizTag == bizTag && r.dcId == dcId
  startId := dcStart dcId
  dcId := dcId

/-- The row that a call without an existing row inserts. -/
def newRow (e : Entry) (step : ℤ) (id : ℤ) : SegmentRow where
  id := id
  workspaceId := e.workspaceId
  bizTag := e.bizTag
  currentId := saturatingAdd e.startId step
  maxId := saturatingAdd e.startId step
  step := step
  delta := 1
  dcId := e.dcId

/-- The write of a call that has read `existing`, and the segment it returns. -/
def commit (e : Entry) (step : ℤ) (t : SegmentTable) :
    Option SegmentRow → SegmentInfo × SegmentTable
  | some model =>
    let newMaxId := saturatingAdd model.currentId step
    (⟨model.id, model.workspaceId, model.bizTag, model.currentId, newMaxId, asU32 model.step,
      asU32 model.delta⟩, t.setCurrent model.id newMaxId)
  | none =>
    (⟨t.nextId, e.workspaceId, e.bizTag, e.startId, saturatingAdd e.startId step, asU32 step,
      asU32 1⟩, t.insert (newRow e step) fun _ => rfl)

/-! ## Ranges under the rows of their datacenters -/

/-- The ids of a returned segment. -/
def SegmentInfo.ids (s : SegmentInfo) : Set ℤ := Set.Ico s.currentId s.maxId

/-- A datacenter id that the configuration admits. -/
def Admitted (dcId : ℤ) : Prop := 0 ≤ dcId ∧ dcId ≤ 31

instance (dcId : ℤ) : Decidable (Admitted dcId) := inferInstanceAs (Decidable (_ ∧ _))

theorem dcStart_eq {d : ℤ} (h : Admitted d) : dcStart d = d * 1000000000000 + 1 := by
  obtain ⟨h0, h31⟩ := h
  have hmul : wrapI64 (d * 1000000000000) = d * 1000000000000 :=
    Int.bmod_eq_of_le (by omega) (by omega)
  rw [dcStart, hmul]
  exact Int.bmod_eq_of_le (by omega) (by omega)

theorem admitted_default : Admitted defaultDcId := by decide

/-- `allocate_segment` starts where the column default for `dc_id` says. -/
theorem dcStart_default : 1 = dcStart defaultDcId := by decide

theorem saturatingAdd_eq {a b : ℤ} (ha : 0 ≤ a) (hb : 0 ≤ b) :
    saturatingAdd a b = min i64Max (a + b) := by
  unfold saturatingAdd i64Min i64Max
  omega

/-- The table of one workspace and business tag, and the segments handed out from it. -/
structure TableInv (workspaceId bizTag : String) (t : SegmentTable) (issued : List SegmentInfo) :
    Prop where
  keyed : ∀ r ∈ t.rows, r.workspaceId = workspaceId ∧ r.bizTag = bizTag
  bounded : ∀ r ∈ t.rows, Admitted r.dcId ∧ dcStart r.dcId ≤ r.currentId ∧ r.currentId ≤ i64Max
  single : ∀ r ∈ t.rows, ∀ r' ∈ t.rows, r.dcId = r'.dcId → r = r'
  apart : ∀ r ∈ t.rows, ∀ r' ∈ t.rows, r.dcId < r'.dcId → r.currentId ≤ dcStart r'.dcId
  below : ∀ s ∈ issued, s.currentId < s.maxId ∧
    ∃ r ∈ t.rows, r.id = s.id ∧ dcStart r.dcId ≤ s.currentId ∧ s.maxId ≤ r.currentId
  disjoint : issued.Pairwise fun s s' => Disjoint s.ids s'.ids
  /-- a later segment of a row (further up in the list) ends later -/
  grows : issued.Pairwise fun s s' => s.id = s'.id → s'.maxId < s.maxId

variable {workspaceId bizTag : String} {t : SegmentTable} {issued : List SegmentInfo}
  {r : SegmentRow} {step : ℤ}

theorem tableInv_empty : TableInv workspaceId bizTag .empty [] where
  keyed _ h := (List.not_mem_nil h).elim
  bounded _ h := (List.not_mem_nil h).elim
  single _ h := (List.not_mem_nil h).elim
  apart _ h := (List.not_mem_nil h).elim
  below _ h := (List.not_mem_nil h).elim
  disjoint := List.Pairwise.nil
  grows := List.Pairwise.nil

/-- A segment that nobody gets to see can be left out. -/
theorem TableInv.forget {s : SegmentInfo} (h : TableInv workspaceId bizTag t (s :: issued)) :
    TableInv workspaceId bizTag t issued :=
  { h with
    below := fun s' hs' => h.below s' (List.mem_cons_of_mem _ hs')
    disjoint := (List.pairwise_cons.mp h.disjoint).2
    grows := (List.pairwise_cons.mp h.grows).2 }

theorem disjoint_of_le {s s' : SegmentInfo} (h : s.maxId ≤ s'.currentId) :
    Disjoint s.ids s'.ids :=
  Set.Ico_disjoint_Ico.mpr ((min_le_left _ _).trans (h.trans (le_max_right _ _)))

/-- **Advancing a row** hands out a fresh range while the row is not at the end of `i64`
and stays below the rows of the later datacenters. -/
theorem TableInv.advance (h : TableInv workspaceId bizTag t issued) (hr : r ∈ t.rows)
    (hstep : 0 < step) (hroom : r.currentId < i64Max)
    (hnext : ∀ r' ∈ t.rows, r.dcId < r'.dcId →
      saturatingAdd r.currentId step ≤ dcStart r'.dcId) {s : SegmentInfo} (hid : s.id = r.id)
    (hlo : s.currentId = r.currentId) (hhi : s.maxId = saturatingAdd r.currentId step) :
    TableInv workspaceId bizTag (t.setCurrent r.id (saturatingAdd r.currentId step))
      (s :: issued) := by
  obtain ⟨hadm, hstart, hmax⟩ := h.bounded r hr
  have hpos : 0 ≤ r.currentId := by
    rw [dcStart_eq hadm] at hstart
    have := hadm.1
    omega
  have hnew : saturatingAdd r.currentId step = min i64Max (r.currentId + step) :=
    saturatingAdd_eq hpos hstep.le
  have hgrow : r.currentId < saturatingAdd r.currentId step := by omega
  have hle : saturatingAdd r.currentId step ≤ i64Max := by omega
  refine ⟨?_, ?_, ?_, ?_, ?_, ?_, ?_⟩
  · intro x hx
    rcases SegmentTable.mem_setCurrent hr hx with rfl | ⟨hx, -⟩
    · exact h.keyed r hr
    · exact h.keyed x hx
  · intro x hx
    rcases SegmentTable.mem_setCurrent hr hx with rfl | ⟨hx, -⟩
    · exact ⟨hadm, hstart.trans hgrow.le, hle⟩
    · exact h.bounded x hx
  · intro x hx y hy hdc
    rcases SegmentTable.mem_setCurrent hr hx with rfl | ⟨hx, hxr⟩
    · rcases SegmentTable.mem_setCurrent hr hy with rfl | ⟨hy, hyr⟩
      · rfl
      · exact absurd (h.single y hy r hr hdc.symm) hyr
    · rcases SegmentTable.mem_setCurrent hr hy with rfl | ⟨hy, -⟩
      · exact absurd (h.single x hx r hr hdc) hxr
      · exact h.single x hx y hy hdc
  · intro x hx y hy hlt
    rcases SegmentTable.mem_setCurrent hr hx with rfl | ⟨hx, -⟩
    · rcases SegmentTable.mem_setCurrent hr hy with rfl | ⟨hy, -⟩
      · exact absurd hlt (lt_irrefl _)
      · exact hnext y hy hlt
    · rcases SegmentTable.mem_setCurrent hr hy with rfl | ⟨hy, -⟩
      · exact h.apart x hx r hr hlt
      · exact h.apart x hx y hy hlt
  · intro x hx
    rcases List.mem_cons.mp hx with rfl | hx
    · exact ⟨by omega, _, SegmentTable.setCurrent_mem hr, hid.symm, by rw [hlo]; exact hstart,
        hhi.le⟩
    · obtain ⟨hlt, y, hy, hyid, hy1, hy2⟩ := h.below x hx
      by_cases hyr : y = r
      · subst hyr
        exact ⟨hlt, _, SegmentTable.setCurrent_mem hr, hyid, hy1, hy2.trans hgrow.le⟩
      · exact ⟨hlt, y, SegmentTable.setCurrent_mem_of_ne hr hy hyr, hyid, hy1, hy2⟩
  · refine List.pairwise_cons.mpr ⟨fun x hx => ?_, h.disjoint⟩
    obtain ⟨-, y, hy, -, hy1, hy2⟩ := h.below x hx
    rcases lt_trichotomy y.dcId r.dcId with hdc | hdc | hdc
    · exact (disjoint_of_le (by rw [hlo]; exact hy2.trans ((h.apart y hy r hr hdc).trans hstart))).symm
    · obtain rfl := h.single y hy r hr hdc
      exact (disjoint_of_le (by rw [hlo]; exact hy2)).symm
    · exact disjoint_of_le (by rw [hhi]; exact (hnext y hy hdc).trans hy1)
  · refine List.pairwise_cons.mpr ⟨fun x hx hsame => ?_, h.grows⟩
    obtain ⟨-, y, hy, hyid, -, hy2⟩ := h.below x hx
    obtain rfl := SegmentTable.eq_of_id_eq hy hr (by rw [hyid, ← hsame, hid])
    omega

/-- **Inserting a row** hands out a fresh range while no row of the datacenter exists and
the rows of the earlier datacenters stay below its first id. -/
theorem TableInv.insert {e : Entry} (h : TableInv workspaceId bizTag t issued)
    (hkey : e.workspaceId = workspaceId ∧ e.bizTag = bizTag) (hadm : Admitted e.dcId)
    (hstart : e.startId = dcStart e.dcId) (hstep : 0 < step) (hfits : step < 2 ^ 31)
    (hfree : ∀ x ∈ t.rows, x.dcId ≠ e.dcId)
    (hprev : ∀ x ∈ t.rows, x.dcId < e.dcId → x.currentId ≤ dcStart e.dcId) {s : SegmentInfo}
    (hid : s.id = t.nextId) (hlo : s.currentId = e.startId) (hhi : s.maxId = saturatingAdd e.startId step) :
    TableInv workspaceId bizTag (t.insert (newRow e step) fun _ => rfl) (s :: issued) := by
  have hvalue := dcStart_eq hadm
  have hend : saturatingAdd e.startId step = dcStart e.dcId + step := by
    obtain ⟨h0, h31⟩ := hadm
    rw [hstart, hvalue, saturatingAdd_eq (by omega) hstep.le, i64Max]
    omega
  have hmem : ∀ {x}, x ∈ (t.insert (newRow e step) fun _ => rfl).rows →
      x ∈ t.rows ∨ x = newRow e step t.nextId := fun hx =>
    (List.mem_append.mp hx).imp_right List.mem_singleton.mp
  have hlast : newRow e step t.nextId ∈ (t.insert (newRow e step) fun _ => rfl).rows :=
    List.mem_append_right _ (List.mem_singleton.mpr rfl)
  -- every later datacenter starts far behind the new range
  have hlater : ∀ d, Admitted d → e.dcId < d → dcStart e.dcId + step ≤ dcStart d := by
    intro d hd hlt
    rw [hvalue, dcStart_eq hd]
    omega
  refine ⟨?_, ?_, ?_, ?_, ?_, ?_, ?_⟩
  · intro x hx
    rcases hmem hx with hx | rfl
    · exact h.keyed x hx
    · exact hkey
  · intro x hx
    rcases hmem hx with hx | rfl
    · exact h.bounded x hx
    · refine ⟨hadm, ?_, ?_⟩
      · change dcStart e.dcId ≤ saturatingAdd e.startId step
        omega
      · change saturatingAdd e.startId step ≤ i64Max
        obtain ⟨h0, h31⟩ := hadm
        rw [hend, hvalue, i64Max]
        omega
  · intro x hx y hy hdc
    rcases hmem hx with hx | rfl
    · rcases hmem hy with hy | rfl
      · exact h.single x hx y hy hdc
      · exact absurd hdc (hfree x hx)
    · rcases hmem hy with hy | rfl
      · exact absurd hdc.symm (hfree y hy)
      · rfl
  · intro x hx y hy hlt
    rcases hmem hx with hx | rfl
    · rcases hmem hy with hy | rfl
      · exact h.apart x hx y hy hlt
      · exact hprev x hx hlt
    · rcases hmem hy with hy | rfl
      · exact hend.le.trans (hlater y.dcId (h.bounded y hy).1 hlt)
      · exact absurd hlt (lt_irrefl _)
  · intro x hx
    rcases List.mem_cons.mp hx with rfl | hx
    · exact ⟨by omega, _, hlast, hid.symm, by rw [hlo, hstart]; exact le_rfl, hhi.le⟩
    · obtain ⟨hlt, y, hy, hyid, hy1, hy2⟩ := h.below x hx
      exact ⟨hlt, y, List.mem_append_left _ hy, hyid, hy1, hy2⟩
  · refine List.pairwise_cons.mpr ⟨fun x hx => ?_, h.disjoint⟩
    obtain ⟨-, y, hy, -, hy1, hy2⟩ := h.below x hx
    rcases lt_or_gt_of_ne (hfree y hy) with hdc | hdc
    · exact (disjoint_of_le (by rw [hlo, hstart]; exact hy2.trans (hprev y hy hdc))).symm
    · exact disjoint_of_le (by rw [hhi, hend]; exact (hlater y.dcId (h.bounded y hy).1 hdc).trans hy1)
  · refine List.pairwise_cons.mpr ⟨fun x hx hsame => ?_, h.grows⟩
    obtain ⟨-, y, hy, hyid, -, -⟩ := h.below x hx
    have hlt := t.numbered y hy
    omega

/-! ## Requests -/

/-- A call: the datacenter it names, if any, and its step. -/
structure Request where
  dcId : Option ℤ
  step : ℤ
  admitted : ∀ d ∈ dcId, Admitted d
  positive : 0 < step
  fits : step < 2 ^ 31

def Request.entry (q : Request) (workspaceId bizTag : String) : Entry :=
  match q.dcId with
  | some dcId => allocateSegmentWithDc workspaceId bizTag dcId
  | none => allocateSegment workspaceId bizTag

/-- What a call has read is what the table still holds. -/
def Current (e : Entry) (t : SegmentTable) : Option SegmentRow → Prop
  | some r => r ∈ t.rows
  | none => ∀ r ∈ t.rows, e.selects r = false

/-- The row has ids left, and its datacenter does not run into the ids of another one. -/
def HasRoom (e : Entry) (step : ℤ) (t : SegmentTable) : Option SegmentRow → Prop
  | some r => r.currentId < i64Max ∧ ∀ r' ∈ t.rows, r.dcId < r'.dcId →
      saturatingAdd r.currentId step ≤ dcStart r'.dcId
  | none => ∀ r' ∈ t.rows, r'.dcId < e.dcId → r'.currentId ≤ dcStart e.dcId

theorem current_one (e : Entry) (t : SegmentTable) (pick : ℕ) :
    Current e t (t.one e.selects pick) := by
  cases h : t.one e.selects pick with
  | some r => exact (SegmentTable.one_eq_some h).1
  | none => exact SegmentTable.one_eq_none h

/-- **A write** that finds what its call has read, and room, hands out a fresh range. -/
theorem TableInv.commit {q : Request} {found : Option SegmentRow}
    (h : TableInv workspaceId bizTag t issued)
    (hcurrent : Current (q.entry workspaceId bizTag) t found)
    (hroom : HasRoom (q.entry workspaceId bizTag) q.step t found) :
    TableInv workspaceId bizTag (commit (q.entry workspaceId bizTag) q.step t found).2
      ((commit (q.entry workspaceId bizTag) q.step t found).1 :: issued) := by
  cases found with
  | some r => exact h.advance hcurrent q.positive hroom.1 hroom.2 rfl rfl rfl
  | none =>
    unfold Current at hcurrent
    unfold HasRoom at hroom
    unfold Request.entry at *
    cases hdc : q.dcId with
    | some dcId =>
      rw [hdc] at hcurrent hroom
      refine h.insert ⟨rfl, rfl⟩ (q.admitted dcId hdc) rfl q.positive q.fits ?_ hroom rfl rfl rfl
      intro x hx heq
      have hno := hcurrent x hx
      obtain ⟨hws, htag⟩ := h.keyed x hx
      simp [allocateSegmentWithDc, hws, htag] at hno heq
      exact hno heq
    | none =>
      -- no row of the workspace and the tag at all
      rw [hdc] at hcurrent
      have hempty : ∀ x, x ∉ t.rows := by
        intro x hx
        have hno := hcurrent x hx
        obtain ⟨hws, htag⟩ := h.keyed x hx
        simp [allocateSegment, hws, htag] at hno
      exact h.insert ⟨rfl, rfl⟩ admitted_default dcStart_default q.positive q.fits
        (fun x hx => absurd hx (hempty x)) (fun x hx => absurd hx (hempty x)) rfl rfl rfl

end NebulaId
