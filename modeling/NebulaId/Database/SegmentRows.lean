import NebulaId.Database.Allocation
import NebulaId.Machine.Purge

/-!
# One segment table for everybody (`core/database/repository.rs`)

The rows of all workspaces and business tags are in one table, with one sequence of ids. Any
statement may fail, before it has any effect or after.

* `one_alike`, `setCurrent_alike`: a choice among the rows of a key, and a write to the chosen one
  by its id, do not depend on the other rows.
* `others_unseen`: so what a workspace, or a business tag of it, sees of its own calls is what it
  would see if nobody else called anything, but for the ids of the rows.
-/

namespace NebulaId

open Machine

/-! ## The functions of the repository -/

namespace SegmentTable

/-- `UPDATE ... SET current_id = value WHERE p` -/
def updateMany (t : SegmentTable) (p : SegmentRow → Bool) (value : ℤ) : SegmentTable where
  rows := t.rows.map fun r => if p r then { r with currentId := value } else r
  nextId := t.nextId
  numbered r h := by
    obtain ⟨r', hr', rfl⟩ := List.mem_map.mp h
    have hlt := t.numbered r' hr'
    split <;> exact hlt
  unique := by
    have hid : SegmentRow.id ∘ (fun r => if p r then { r with currentId := value } else r) =
        SegmentRow.id := by
      funext r
      simp only [Function.comp]
      split <;> rfl
    rw [List.map_map, hid]
    exact t.unique

/-- `DELETE ... WHERE p` -/
def deleteMany (t : SegmentTable) (p : SegmentRow → Bool) : SegmentTable where
  rows := t.rows.filter fun r => !p r
  nextId := t.nextId
  numbered r h := t.numbered r (List.mem_of_mem_filter h)
  unique := t.unique.sublist (List.filter_sublist.map _)

end SegmentTable

def SegmentRow.info (r : SegmentRow) : SegmentInfo :=
  ⟨r.id, r.workspaceId, r.bizTag, r.currentId, r.maxId, asU32 r.step, asU32 r.delta⟩

inductive SegmentOp where
  | getSegment (workspaceId bizTag : String) (pick : ℕ)
  | allocateSegment (workspaceId bizTag : String) (dcId : Option ℤ) (step : ℤ) (pick : ℕ)
  | updateSegment (workspaceId bizTag : String) (currentId maxId : ℤ)
  | createSegment (workspaceId bizTag : String) (startId maxId step delta : ℤ)
  | listSegments (workspaceId : String)
  | deleteSegment (workspaceId bizTag : String)

inductive SegmentReply where
  | found (segment : Option SegmentInfo)
  | segment (segment : SegmentInfo)
  | segments (segments : List SegmentInfo)
  | unit

/-- A call and how it ends. -/
structure SegmentStatement where
  op : SegmentOp
  outcome : Outcome

namespace SegmentTable

/-- The rows of a key. -/
def ofKey (workspaceId bizTag : String) (r : SegmentRow) : Bool :=
  r.workspaceId == workspaceId && r.bizTag == bizTag

/-- `CoreError::NotFound` -/
def notFound (workspaceId bizTag : String) : CoreError :=
  .notFound ("Segment not found for " ++ workspaceId ++ "/" ++ bizTag)

/-- The row that `create_segment` inserts. -/
def createdRow (workspaceId bizTag : String) (startId maxId step delta id : ℤ) : SegmentRow :=
  ⟨id, workspaceId, bizTag, startId, maxId, step, delta, defaultDcId⟩

/-- The entry point of `allocate_segment`, or of `allocate_segment_with_dc`. -/
def entryPoint (workspaceId bizTag : String) : Option ℤ → Entry
  | some dcId => NebulaId.allocateSegmentWithDc workspaceId bizTag dcId
  | none => NebulaId.allocateSegment workspaceId bizTag

def exec (t : SegmentTable) : SegmentOp → SegmentTable × Result SegmentReply
  | .getSegment workspaceId bizTag pick =>
    (t, .ok (.found ((t.one (ofKey workspaceId bizTag) pick).map SegmentRow.info)))
  | .allocateSegment workspaceId bizTag dcId step pick =>
    let e := entryPoint workspaceId bizTag dcId
    let (segment, t) := commit e step t (t.one e.selects pick)
    (t, .ok (.segment segment))
  | .updateSegment workspaceId bizTag currentId _ =>
    if t.rows.any (ofKey workspaceId bizTag) then
      (t.updateMany (ofKey workspaceId bizTag) currentId, .ok .unit)
    else (t, .error (notFound workspaceId bizTag))
  | .createSegment workspaceId bizTag startId maxId step delta =>
    let row := createdRow workspaceId bizTag startId maxId step delta
    (t.insert row fun _ => rfl, .ok (.segment (row t.nextId).info))
  | .listSegments workspaceId =>
    (t, .ok (.segments ((t.rows.filter fun r => r.workspaceId == workspaceId).map
      SegmentRow.info)))
  | .deleteSegment workspaceId bizTag =>
    if t.rows.any (ofKey workspaceId bizTag) then
      (t.deleteMany (ofKey workspaceId bizTag), .ok .unit)
    else (t, .error (notFound workspaceId bizTag))

def call (t : SegmentTable) (c : SegmentStatement) : SegmentTable × Result SegmentReply :=
  match c.outcome with
  | .done => t.exec c.op
  | .rolledBack e => (t, .error e)
  | .unseen e => ((t.exec c.op).1, .error e)

end SegmentTable

/-! ## Observers -/

/-- A workspace, or one of its business tags. -/
structure SegmentObserver where
  workspaceId : String
  bizTag : Option String

namespace SegmentOp

def workspace : SegmentOp → String
  | .getSegment w _ _ | .allocateSegment w _ _ _ _ | .updateSegment w _ _ _
  | .createSegment w _ _ _ _ _ | .listSegments w | .deleteSegment w _ => w

def tag : SegmentOp → Option String
  | .getSegment _ t _ | .allocateSegment _ t _ _ _ | .updateSegment _ t _ _
  | .createSegment _ t _ _ _ _ | .deleteSegment _ t => some t
  | .listSegments _ => none

end SegmentOp

namespace SegmentObserver

/-- The rows that the observer has to do with. -/
def selects (o : SegmentObserver) (r : SegmentRow) : Bool :=
  r.workspaceId == o.workspaceId && o.bizTag.all fun bizTag => r.bizTag == bizTag

/-- The calls that it makes. -/
def Concerns (o : SegmentObserver) (c : SegmentStatement) : Prop :=
  c.op.workspace = o.workspaceId ∧ ∀ bizTag ∈ o.bizTag, c.op.tag = some bizTag

instance (o : SegmentObserver) : DecidablePred o.Concerns := fun _ =>
  inferInstanceAs (Decidable (_ ∧ _))

end SegmentObserver

def SegmentRow.unnumbered (r : SegmentRow) : SegmentRow := { r with id := 0 }

def SegmentInfo.unnumbered (s : SegmentInfo) : SegmentInfo := { s with id := 0 }

/-- The reply without the ids of rows. -/
def SegmentReply.unnumbered : SegmentReply → SegmentReply
  | .found s => .found (s.map SegmentInfo.unnumbered)
  | .segment s => .segment s.unnumbered
  | .segments l => .segments (l.map SegmentInfo.unnumbered)
  | .unit => .unit

/-! ## Tables that are alike -/

namespace SegmentTable

variable {o : SegmentObserver} {s t : SegmentTable} {z : List (SegmentRow × SegmentRow)}
  {p : SegmentRow → Bool} {r : SegmentRow} {value : ℤ} {pick : ℕ}

/-- The rows that the observer has to do with are the same, but for their ids; the list has a row of
one table with its like of the other. -/
structure Pairs (o : SegmentObserver) (s t : SegmentTable) (z : List (SegmentRow × SegmentRow)) :
    Prop where
  left : z.map Prod.fst = s.rows.filter o.selects
  right : z.map Prod.snd = t.rows.filter o.selects
  same : ∀ e ∈ z, e.1.unnumbered = e.2.unnumbered

def Alike (o : SegmentObserver) (s t : SegmentTable) : Prop := ∃ z, Pairs o s t z

/-- A condition on a row that does not look at its id, and keeps to the rows of the observer. -/
structure Within (o : SegmentObserver) (p : SegmentRow → Bool) : Prop where
  unnumbered : ∀ r : SegmentRow, p r.unnumbered = p r
  selects : ∀ r, p r = true → o.selects r = true

theorem Within.congr (h : Within o p) {e : SegmentRow × SegmentRow}
    (he : e.1.unnumbered = e.2.unnumbered) : p e.2 = p e.1 := by
  rw [← h.unnumbered, ← he, h.unnumbered]

theorem filter_within (h : Within o p) (rows : List SegmentRow) :
    (rows.filter o.selects).filter p = rows.filter p := by
  rw [List.filter_filter]
  apply List.filter_congr
  intro r _
  cases hp : p r with
  | false => simp
  | true => simp [h.selects r hp]

namespace Pairs

variable (h : Pairs o s t z)

include h

theorem filter_left (hp : Within o p) :
    s.rows.filter p = (z.filter fun e => p e.1).map Prod.fst := by
  rw [← filter_within hp, ← h.left, List.filter_map]
  rfl

theorem filter_right (hp : Within o p) :
    t.rows.filter p = (z.filter fun e => p e.1).map Prod.snd := by
  rw [← filter_within hp, ← h.right, List.filter_map]
  congr 1
  apply List.filter_congr
  intro e he
  exact hp.congr (h.same e he)

/-- The database comes across the same row in both. -/
theorem one_alike (pick : ℕ) (hp : Within o p) :
    (s.one p pick = none ∧ t.one p pick = none) ∨
      ∃ e ∈ z, p e.1 = true ∧ s.one p pick = some e.1 ∧ t.one p pick = some e.2 := by
  have hs : s.one p pick = ((z.filter fun e => p e.1)[pick % (z.filter fun e => p e.1).length]?).map
      Prod.fst := by
    rw [one, h.filter_left hp, List.length_map, List.getElem?_map]
  have ht : t.one p pick = ((z.filter fun e => p e.1)[pick % (z.filter fun e => p e.1).length]?).map
      Prod.snd := by
    rw [one, h.filter_right hp, List.length_map, List.getElem?_map]
  cases he : (z.filter fun e => p e.1)[pick % (z.filter fun e => p e.1).length]? with
  | none =>
    rw [he] at hs ht
    exact Or.inl ⟨hs, ht⟩
  | some e =>
    rw [he] at hs ht
    obtain ⟨hmem, hpe⟩ := List.mem_filter.mp (List.mem_of_getElem? he)
    exact Or.inr ⟨e, hmem, hpe, hs, ht⟩

theorem any_alike (hp : Within o p) : s.rows.any p = t.rows.any p := by
  have hany : ∀ rows : List SegmentRow, rows.any p = !(rows.filter p).isEmpty := by
    intro rows
    induction rows with
    | nil => rfl
    | cons r rows ih => cases hr : p r <;> simp [hr, ih]
  rw [hany, hany, h.filter_left hp, h.filter_right hp, List.isEmpty_map, List.isEmpty_map]

theorem map_alike {f g : SegmentRow → SegmentRow} (hf : ∀ r, o.selects (f r) = o.selects r)
    (hg : ∀ r, o.selects (g r) = o.selects r)
    (hsame : ∀ e ∈ z, (f e.1).unnumbered = (g e.2).unnumbered) {s' t' : SegmentTable}
    (hs : s'.rows = s.rows.map f) (ht : t'.rows = t.rows.map g) :
    Pairs o s' t' (z.map (Prod.map f g)) := by
  refine ⟨?_, ?_, ?_⟩
  · have hcomp : o.selects ∘ f = o.selects := funext hf
    rw [hs, List.filter_map, hcomp, ← h.left, List.map_map, List.map_map]
    rfl
  · have hcomp : o.selects ∘ g = o.selects := funext hg
    rw [ht, List.filter_map, hcomp, ← h.right, List.map_map, List.map_map]
    rfl
  · intro e he
    obtain ⟨e', he', rfl⟩ := List.mem_map.mp he
    exact hsame e' he'

theorem deleteMany_alike (hp : Within o p) :
    Pairs o (s.deleteMany p) (t.deleteMany p) (z.filter fun e => !p e.1) := by
  refine ⟨?_, ?_, fun e he => h.same e (List.mem_of_mem_filter he)⟩
  · rw [deleteMany, List.filter_comm, ← h.left, List.filter_map]
    rfl
  · rw [deleteMany, List.filter_comm, ← h.right, List.filter_map]
    congr 1
    apply List.filter_congr
    intro e he
    simp [hp.congr (h.same e he)]

/-- **The chosen row is the same one in both**, so it does not matter that it is found by its id. -/
theorem setCurrent_alike {e : SegmentRow × SegmentRow} (he : e ∈ z) :
    Pairs o (s.setCurrent e.1.id value) (t.setCurrent e.2.id value)
      (z.map (Prod.map (fun r => if r.id = e.1.id then { r with currentId := value } else r)
        (fun r => if r.id = e.2.id then { r with currentId := value } else r))) := by
  have hleft : ∀ e' ∈ z, e'.1 ∈ s.rows := fun e' he' =>
    List.mem_of_mem_filter (h.left ▸ List.mem_map_of_mem he')
  have hright : ∀ e' ∈ z, e'.2 ∈ t.rows := fun e' he' =>
    List.mem_of_mem_filter (h.right ▸ List.mem_map_of_mem he')
  have hfst : (z.map Prod.fst).Nodup := by
    rw [h.left]
    exact (List.Nodup.of_map _ s.unique).filter _
  have hsnd : (z.map Prod.snd).Nodup := by
    rw [h.right]
    exact (List.Nodup.of_map _ t.unique).filter _
  apply h.map_alike
  · intro r
    simp only [SegmentObserver.selects]
    split <;> rfl
  · intro r
    simp only [SegmentObserver.selects]
    split <;> rfl
  · intro e' he'
    have hsame := h.same e' he'
    have hiff : e'.1.id = e.1.id ↔ e'.2.id = e.2.id := by
      constructor
      · intro hid
        have hrow := eq_of_id_eq (hleft e' he') (hleft e he) hid
        rw [List.inj_on_of_nodup_map hfst he' he hrow]
      · intro hid
        have hrow := eq_of_id_eq (hright e' he') (hright e he) hid
        rw [List.inj_on_of_nodup_map hsnd he' he hrow]
    by_cases hid : e'.1.id = e.1.id
    · simp only [hid, hiff.mp hid, if_true]
      simp_all [SegmentRow.unnumbered]
    · simp only [hid, mt hiff.mpr hid, if_false]
      exact hsame
  · rfl
  · rfl

end Pairs

theorem Pairs.alike (h : Pairs o s t z) : Alike o s t := ⟨z, h⟩

theorem alike_refl (o : SegmentObserver) (t : SegmentTable) : Alike o t t := by
  refine ⟨(t.rows.filter o.selects).map fun r => (r, r), ?_, ?_, ?_⟩
  · simp [Function.comp_def]
  · simp [Function.comp_def]
  · intro e he
    obtain ⟨r, -, rfl⟩ := List.mem_map.mp he
    rfl

/-- Nothing is done to the rows of the observer. -/
theorem Alike.of_filter_eq (h : Alike o s t) {s' : SegmentTable}
    (heq : s'.rows.filter o.selects = s.rows.filter o.selects) : Alike o s' t := by
  obtain ⟨z, hz⟩ := h
  exact ⟨z, hz.left.trans heq.symm, hz.right, hz.same⟩

theorem Pairs.insert_alike (h : Pairs o s t z) {row row' : ℤ → SegmentRow}
    (hid : ∀ i, (row i).id = i) (hid' : ∀ i, (row' i).id = i)
    (hrow : o.selects (row s.nextId) = true)
    (hsame : (row s.nextId).unnumbered = (row' t.nextId).unnumbered)
    (hrow' : o.selects (row' t.nextId) = true) :
    Alike o (s.insert row hid) (t.insert row' hid') := by
  refine ⟨z ++ [(row s.nextId, row' t.nextId)], ?_, ?_, ?_⟩
  · simp [insert, h.left, hrow]
  · simp [insert, h.right, hrow']
  · intro e he
    rcases List.mem_append.mp he with he | he
    · exact h.same e he
    · rw [List.mem_singleton.mp he]
      exact hsame

/-! ## What the calls do to the rows of others -/

/-- The row of another key is not one of the observer. -/
def Outside (o : SegmentObserver) (p : SegmentRow → Bool) : Prop :=
  ∀ r, p r = true → o.selects r = false

theorem filter_setCurrent (hr : r ∈ s.rows) (hout : o.selects r = false) :
    (s.setCurrent r.id value).rows.filter o.selects = s.rows.filter o.selects := by
  have hcomp : (o.selects ∘ fun r' : SegmentRow =>
      if r'.id = r.id then { r' with currentId := value } else r') = o.selects := by
    funext r'
    simp only [Function.comp, SegmentObserver.selects]
    split <;> rfl
  rw [setCurrent, List.filter_map, hcomp]
  refine (List.map_congr_left fun r' hr' => if_neg fun hid => ?_).trans (List.map_id _)
  obtain ⟨hmem, hsel⟩ := List.mem_filter.mp hr'
  rw [eq_of_id_eq hmem hr hid, hout] at hsel
  cases hsel

theorem filter_updateMany (hout : Outside o p) :
    (s.updateMany p value).rows.filter o.selects = s.rows.filter o.selects := by
  have hcomp : (o.selects ∘ fun r : SegmentRow =>
      if p r then { r with currentId := value } else r) = o.selects := by
    funext r
    simp only [Function.comp, SegmentObserver.selects]
    split <;> rfl
  rw [updateMany, List.filter_map, hcomp]
  refine (List.map_congr_left fun r hr => if_neg fun hp => ?_).trans (List.map_id _)
  have hsel := (List.mem_filter.mp hr).2
  rw [hout r hp] at hsel
  cases hsel

theorem filter_deleteMany (hout : Outside o p) :
    (s.deleteMany p).rows.filter o.selects = s.rows.filter o.selects := by
  rw [deleteMany, List.filter_filter]
  apply List.filter_congr
  intro r _
  cases hp : p r with
  | false => simp
  | true => simp [hout r hp]

theorem filter_insert {row : ℤ → SegmentRow} (hid : ∀ i, (row i).id = i)
    (hout : o.selects (row s.nextId) = false) :
    (s.insert row hid).rows.filter o.selects = s.rows.filter o.selects := by
  simp [insert, hout]

/-! ## The keys of the calls -/

variable {workspaceId bizTag : String} {dcId : Option ℤ} {e : Entry} {step : ℤ} {op : SegmentOp}
  {c : SegmentStatement}

/-- The key is one of the observer. -/
def OfKey (o : SegmentObserver) (workspaceId bizTag : String) : Prop :=
  workspaceId = o.workspaceId ∧ ∀ bizTag' ∈ o.bizTag, bizTag = bizTag'

theorem selects_key (hw : r.workspaceId = workspaceId) (ht : r.bizTag = bizTag) :
    o.selects r = true ↔ OfKey o workspaceId bizTag := by
  subst hw ht
  cases hb : o.bizTag <;> simp [SegmentObserver.selects, OfKey, hb]

theorem ofKey_eq_true : ofKey workspaceId bizTag r = true ↔
    r.workspaceId = workspaceId ∧ r.bizTag = bizTag := by
  simp [ofKey]

theorem within_ofKey (h : OfKey o workspaceId bizTag) : Within o (ofKey workspaceId bizTag) := by
  refine ⟨fun _ => rfl, fun r hr => ?_⟩
  obtain ⟨hw, ht⟩ := ofKey_eq_true.mp hr
  exact (selects_key hw ht).mpr h

theorem outside_ofKey (h : ¬ OfKey o workspaceId bizTag) :
    Outside o (ofKey workspaceId bizTag) := by
  intro r hr
  obtain ⟨hw, ht⟩ := ofKey_eq_true.mp hr
  rw [← Bool.not_eq_true, selects_key hw ht]
  exact h

theorem entryPoint_key (hr : (entryPoint workspaceId bizTag dcId).selects r = true) :
    r.workspaceId = workspaceId ∧ r.bizTag = bizTag := by
  cases dcId <;> simp_all [entryPoint, allocateSegment, allocateSegmentWithDc]

theorem within_entryPoint (dcId : Option ℤ) (h : OfKey o workspaceId bizTag) :
    Within o (entryPoint workspaceId bizTag dcId).selects := by
  refine ⟨fun r => by cases dcId <;> rfl, fun r hr => ?_⟩
  obtain ⟨hw, ht⟩ := entryPoint_key hr
  exact (selects_key hw ht).mpr h

theorem newRow_key (dcId : Option ℤ) (step id : ℤ) :
    (newRow (entryPoint workspaceId bizTag dcId) step id).workspaceId = workspaceId ∧
      (newRow (entryPoint workspaceId bizTag dcId) step id).bizTag = bizTag := by
  cases dcId <;> exact ⟨rfl, rfl⟩

theorem not_selects_newRow (h : ¬ OfKey o workspaceId bizTag) (id : ℤ) :
    o.selects (newRow (entryPoint workspaceId bizTag dcId) step id) = false := by
  obtain ⟨hw, ht⟩ := newRow_key dcId step id
  rw [← Bool.not_eq_true, selects_key hw ht]
  exact h

/-! ## One call -/

/-- A call on a key leaves the rows of every other key. -/
theorem exec_outside (h : ¬ (op.workspace = o.workspaceId ∧ ∀ tag ∈ o.bizTag, op.tag = some tag)) :
    (s.exec op).1.rows.filter o.selects = s.rows.filter o.selects := by
  cases op with
  | getSegment workspaceId bizTag pick => rfl
  | listSegments workspaceId => rfl
  | allocateSegment workspaceId bizTag dcId step pick =>
    have hkey : ¬ OfKey o workspaceId bizTag := by
      simpa [SegmentOp.workspace, SegmentOp.tag, OfKey] using h
    simp only [exec]
    cases hone : s.one (entryPoint workspaceId bizTag dcId).selects pick with
    | none => exact filter_insert (fun _ => rfl) (not_selects_newRow hkey _)
    | some r =>
      obtain ⟨hmem, hsel⟩ := one_eq_some hone
      obtain ⟨hw, ht⟩ := entryPoint_key hsel
      apply filter_setCurrent hmem
      rw [← Bool.not_eq_true, selects_key hw ht]
      exact hkey
  | updateSegment workspaceId bizTag currentId maxId =>
    have hkey : ¬ OfKey o workspaceId bizTag := by
      simpa [SegmentOp.workspace, SegmentOp.tag, OfKey] using h
    simp only [exec]
    split
    · exact filter_updateMany (outside_ofKey hkey)
    · rfl
  | createSegment workspaceId bizTag startId maxId step delta =>
    have hkey : ¬ OfKey o workspaceId bizTag := by
      simpa [SegmentOp.workspace, SegmentOp.tag, OfKey] using h
    refine filter_insert (fun _ => rfl) ?_
    rw [← Bool.not_eq_true, selects_key rfl rfl]
    exact hkey
  | deleteSegment workspaceId bizTag =>
    have hkey : ¬ OfKey o workspaceId bizTag := by
      simpa [SegmentOp.workspace, SegmentOp.tag, OfKey] using h
    simp only [exec]
    split
    · exact filter_deleteMany (outside_ofKey hkey)
    · rfl

/-- The replies, but for ids. -/
def SameReply (x y : Result SegmentReply) : Prop :=
  x.map SegmentReply.unnumbered = y.map SegmentReply.unnumbered

theorem info_unnumbered {r r' : SegmentRow} (h : r.unnumbered = r'.unnumbered) :
    r.info.unnumbered = r'.info.unnumbered := by
  have hinfo : ∀ r : SegmentRow, r.info.unnumbered = r.unnumbered.info := fun _ => rfl
  rw [hinfo, hinfo, h]

theorem Pairs.exec_allocate (h : Pairs o s t z) (hkey : OfKey o workspaceId bizTag) :
    Alike o (s.exec (.allocateSegment workspaceId bizTag dcId step pick)).1
      (t.exec (.allocateSegment workspaceId bizTag dcId step pick)).1 ∧
    SameReply (s.exec (.allocateSegment workspaceId bizTag dcId step pick)).2
      (t.exec (.allocateSegment workspaceId bizTag dcId step pick)).2 := by
  simp only [exec]
  rcases h.one_alike pick (within_entryPoint dcId hkey) with
    ⟨hs, ht⟩ | ⟨e, he, -, hs, ht⟩
  · rw [hs, ht]
    refine ⟨h.insert_alike (fun _ => rfl) (fun _ => rfl) ?_ rfl ?_, rfl⟩
    · obtain ⟨hw, ht⟩ := newRow_key dcId step s.nextId
      exact (selects_key hw ht).mpr hkey
    · obtain ⟨hw, ht⟩ := newRow_key dcId step t.nextId
      exact (selects_key hw ht).mpr hkey
  · have hsame := h.same e he
    have hcurrent : e.1.unnumbered.currentId = e.2.unnumbered.currentId :=
      congrArg SegmentRow.currentId hsame
    change e.1.currentId = e.2.currentId at hcurrent
    rw [hs, ht]
    simp only [commit, hcurrent]
    refine ⟨(h.setCurrent_alike he).alike, ?_⟩
    simp_all [SameReply, Except.map, SegmentReply.unnumbered, SegmentInfo.unnumbered,
      SegmentRow.unnumbered]

theorem Pairs.exec_alike (h : Pairs o s t z)
    (hop : op.workspace = o.workspaceId ∧ ∀ tag ∈ o.bizTag, op.tag = some tag) :
    Alike o (s.exec op).1 (t.exec op).1 ∧ SameReply (s.exec op).2 (t.exec op).2 := by
  cases op with
  | getSegment workspaceId bizTag pick =>
    have hkey : OfKey o workspaceId bizTag := by
      simpa [SegmentOp.workspace, SegmentOp.tag, OfKey] using hop
    refine ⟨h.alike, ?_⟩
    simp only [exec]
    rcases h.one_alike pick (within_ofKey hkey) with ⟨hs, ht⟩ | ⟨e, he, -, hs, ht⟩
    · rw [hs, ht]
      rfl
    · rw [hs, ht]
      simp [SameReply, Except.map, SegmentReply.unnumbered, info_unnumbered (h.same e he)]
  | listSegments workspaceId =>
    refine ⟨h.alike, ?_⟩
    have hwithin : Within o (fun r => r.workspaceId == workspaceId) := by
      refine ⟨fun _ => rfl, fun r hr => ?_⟩
      have hnone : o.bizTag = none := by
        cases hb : o.bizTag with
        | none => rfl
        | some tag => cases hop.2 tag hb
      have hw : workspaceId = o.workspaceId := hop.1
      simpa [SegmentObserver.selects, hnone, ← hw] using hr
    simp only [exec, SameReply, Except.map, SegmentReply.unnumbered, h.filter_left hwithin,
      h.filter_right hwithin, List.map_map]
    congr 2
    refine List.map_congr_left fun e he => ?_
    exact info_unnumbered (h.same e (List.mem_of_mem_filter he))
  | allocateSegment workspaceId bizTag dcId step pick =>
    apply h.exec_allocate
    simpa [SegmentOp.workspace, SegmentOp.tag, OfKey] using hop
  | updateSegment workspaceId bizTag currentId maxId =>
    have hkey : OfKey o workspaceId bizTag := by
      simpa [SegmentOp.workspace, SegmentOp.tag, OfKey] using hop
    have hwithin := within_ofKey hkey
    simp only [exec, h.any_alike hwithin]
    split
    · refine ⟨(h.map_alike ?_ ?_ ?_ rfl rfl).alike, rfl⟩
      · intro r
        simp only [SegmentObserver.selects]
        split <;> rfl
      · intro r
        simp only [SegmentObserver.selects]
        split <;> rfl
      · intro e he
        have hsame := h.same e he
        rw [hwithin.congr hsame]
        split
        · simp_all [SegmentRow.unnumbered]
        · exact hsame
    · exact ⟨h.alike, rfl⟩
  | createSegment workspaceId bizTag startId maxId step delta =>
    have hkey : OfKey o workspaceId bizTag := by
      simpa [SegmentOp.workspace, SegmentOp.tag, OfKey] using hop
    exact ⟨h.insert_alike (fun _ => rfl) (fun _ => rfl) ((selects_key rfl rfl).mpr hkey) rfl
      ((selects_key rfl rfl).mpr hkey), rfl⟩
  | deleteSegment workspaceId bizTag =>
    have hkey : OfKey o workspaceId bizTag := by
      simpa [SegmentOp.workspace, SegmentOp.tag, OfKey] using hop
    have hwithin := within_ofKey hkey
    simp only [exec, h.any_alike hwithin]
    split
    · exact ⟨(h.deleteMany_alike hwithin).alike, rfl⟩
    · exact ⟨h.alike, rfl⟩

/-- **Others make no difference.** A workspace, or a business tag of it, gets the same replies to
its own calls, but for the ids of the rows, as if there were no other calls; whatever calls there
are, in whatever order, and however they end. -/
theorem others_unseen (o : SegmentObserver) (t : SegmentTable) (calls : List SegmentStatement) :
    observed o.Concerns (Except.map SegmentReply.unnumbered) (outputs call t calls) =
      observed o.Concerns (Except.map SegmentReply.unnumbered)
        (outputs call t (calls.filter o.Concerns)) := by
  refine observed_purge ?_ (alike_refl o t)
  refine ⟨fun s t c h hc => ?_, fun s t c h hc => ?_, fun s t c h hc => ?_⟩
  · unfold call
    cases c.outcome with
    | done => exact h.of_filter_eq (exec_outside hc)
    | rolledBack e => exact h
    | unseen e => exact h.of_filter_eq (exec_outside hc)
  · obtain ⟨z, hz⟩ := h
    unfold call
    cases c.outcome with
    | done => exact (hz.exec_alike hc).1
    | rolledBack e => exact hz.alike
    | unseen e => exact (hz.exec_alike hc).1
  · obtain ⟨z, hz⟩ := h
    unfold call
    cases c.outcome with
    | done => exact (hz.exec_alike hc).2
    | rolledBack e => rfl
    | unseen e => rfl

end SegmentTable

end NebulaId
