import NebulaId.Machine.Along
import NebulaId.Segment.Carried
import NebulaId.Store.Slots

/-!
# Segments that are lost (`core/algorithm/segment.rs`)

Neither store of a pointer looks at what it overwrites: another call may have filled the next slot
in the meantime, or have put a new segment in use.

* `slots_step`: a step makes a segment, moves one, or leaves all where they are.
* `nothing_lost_iff`: along a run no segment is lost if and only if each store finds the next slot
  empty, or a current segment with fewer ids left than its call needs.
* `segment_lost`: two batches that load at the same time.
-/

namespace NebulaId

open Machine

/-- The calls, and the segments that were replaced because a request needed more ids than were
left. -/
structure SegmentLedger where
  world : World SharedSegments Task
  abandoned : List ℕ

def noLoads : SegmentLedger := ⟨noCalls, []⟩

/-- The segment in each slot. -/
def contents (w : World SharedSegments Task) : Slot → Option ℕ
  | .current key => (w.shared.pointers key).1
  | .next key => (w.shared.pointers key).2
  | .carried i => (w.threads i).carried.map Prod.snd

/-- The current segment, where the call replaces it and needs more ids than are left. -/
def abandons (w : World SharedSegments Task) (i : ℕ) : List ℕ :=
  match (w.threads i).target with
  | some (.current key) =>
    (contents w (.current key)).toList.filter fun j => w.shared.Short j (w.threads i).need
  | _ => []

def ledgerStep (below : UInt64 → UInt64 → Bool) (l : SegmentLedger) (act : ℕ × Input) :
    Option SegmentLedger :=
  (World.step (segmentStep below) l.world act).map fun w =>
    ⟨w, abandons l.world act.1 ++ l.abandoned⟩

/-- The segment is in one of the two slots of the key, or with a call that will store it there. -/
def Available (w : World SharedSegments Task) (key : String) (j : ℕ) : Prop :=
  (∃ b, w.shared.buffers key = some b ∧ (b.current = j ∨ b.next = some j)) ∨
    ∃ i, (w.threads i).carried = some (key, j)

/-- Every segment is available or was abandoned, and so every id of a range that was loaded is
issued or left in such a segment. -/
structure NothingLost (l : SegmentLedger) : Prop where
  segments : ∀ (j : ℕ) key s, l.world.shared.heap[j]? = some (key, s) →
    Available l.world key j ∨ j ∈ l.abandoned
  ids : ∀ key d, (key, d) ∈ l.world.shared.loaded → ∀ n ∈ d.ids,
    (∃ id, (key, id) ∈ l.world.shared.issued ∧ id.asU128.toNat = n) ∨
      ∃ (j : ℕ) (s : Segment), l.world.shared.heap[j]? = some (key, s) ∧
        n ∈ Set.Ico s.currentId.toNat s.maxId.toNat ∧
        (Available l.world key j ∨ j ∈ l.abandoned)

/-- A store into the next slot finds it empty, and a segment that is replaced has fewer ids left
than the call needs. -/
structure StoresInOrder (w : World SharedSegments Task) (act : ℕ × Input) : Prop where
  next : ∀ key, (w.threads act.1).target = some (.next key) →
    ∀ b, w.shared.buffers key = some b → b.next = none
  current : ∀ key, (w.threads act.1).target = some (.current key) →
    ∀ b, w.shared.buffers key = some b → w.shared.Short b.current (w.threads act.1).need

variable {w w' : World SharedSegments Task} {l l' : SegmentLedger} {i j k : ℕ} {act : ℕ × Input}
  {key : String} {below : UInt64 → UInt64 → Bool} {input : Input} {m m' : SharedSegments}
  {p p' : Task}

def SegmentLedger.slots (l : SegmentLedger) : Slots Slot :=
  ⟨contents l.world, l.world.shared.heap.length, l.abandoned⟩

theorem mem_abandons : k ∈ abandons w i ↔ ∃ key, (w.threads i).target = some (.current key) ∧
    contents w (.current key) = some k ∧ w.shared.Short k (w.threads i).need := by
  unfold abandons
  split
  · rename_i key hkey
    rw [List.mem_filter, Option.mem_toList, decide_eq_true_iff]
    constructor
    · exact fun h => ⟨key, hkey, h⟩
    · rintro ⟨key', hkey', h⟩
      cases hkey.symm.trans hkey'
      exact h
  · rename_i hother
    refine iff_of_false (List.not_mem_nil) ?_
    rintro ⟨key, hkey, -⟩
    exact hother key hkey

theorem abandons_of_none (h : (w.threads i).target = none) : abandons w i = [] := by
  unfold abandons
  rw [h]

theorem abandons_next (h : (w.threads i).target = some (.next key)) : abandons w i = [] := by
  unfold abandons
  rw [h]

/-- In terms of the slots: what a store overwrites is abandoned. -/
theorem storesInOrder_iff : StoresInOrder w act ↔ ∀ t, (w.threads act.1).target = some t →
    ∀ k, contents w t = some k → k ∈ abandons w act.1 := by
  constructor
  · intro h t ht k hk
    cases t with
    | current key =>
      obtain ⟨b, hb, rfl⟩ := Option.map_eq_some_iff.mp hk
      exact mem_abandons.mpr ⟨key, ht, hk, h.current key ht b hb⟩
    | next key =>
      obtain ⟨b, hb, hnext⟩ := Option.bind_eq_some_iff.mp hk
      rw [h.next key ht b hb] at hnext
      cases hnext
    | carried j =>
      exact absurd ht (Task.target_ne_carried _ j)
  · intro h
    refine ⟨fun key ht b hb => ?_, fun key ht b hb => ?_⟩
    · by_contra hne
      obtain ⟨k, hk⟩ := Option.ne_none_iff_exists'.mp hne
      have hin := h _ ht k (Option.bind_eq_some_iff.mpr ⟨b, hb, hk⟩)
      rw [abandons_next ht] at hin
      cases hin
    · have hin := h _ ht b.current (Option.map_eq_some_iff.mpr ⟨b, hb, rfl⟩)
      obtain ⟨-, -, -, hshort⟩ := mem_abandons.mp hin
      exact hshort

/-- The slots after one call has moved and one pair of pointers is new. -/
theorem contents_write {a b : Option ℕ}
    (hm : m'.pointers = Function.update w.shared.pointers key (a, b)) :
    contents ⟨m', Function.update w.threads i p'⟩ =
      Function.update (Function.update (Function.update (contents w) (.current key) a)
        (.next key) b) (.carried i) (p'.carried.map Prod.snd) := by
  funext slot
  cases slot with
  | current k =>
    unfold contents
    dsimp only
    rw [Function.update_of_ne (by simp), Function.update_of_ne (by simp), hm]
    by_cases hk : k = key
    · subst hk
      rw [Function.update_self, Function.update_self]
    · rw [Function.update_of_ne hk, Function.update_of_ne (by simpa using hk)]
  | next k =>
    unfold contents
    dsimp only
    rw [Function.update_of_ne (by simp), hm]
    by_cases hk : k = key
    · subst hk
      rw [Function.update_self, Function.update_self]
    · rw [Function.update_of_ne hk, Function.update_of_ne (by simpa using hk),
        Function.update_of_ne (by simp)]
  | carried j =>
    unfold contents
    dsimp only
    by_cases hj : j = i
    · subst hj
      rw [Function.update_self, Function.update_self]
    · rw [Function.update_of_ne hj, Function.update_of_ne (by simpa using hj),
        Function.update_of_ne (by simp), Function.update_of_ne (by simp)]

theorem contents_keep (hm : m'.pointers = w.shared.pointers) :
    contents ⟨m', Function.update w.threads i p'⟩ =
      Function.update (contents w) (.carried i) (p'.carried.map Prod.snd) := by
  have hsame : m'.pointers = Function.update w.shared.pointers ""
      ((w.shared.pointers "").1, (w.shared.pointers "").2) :=
    hm.trans (Function.update_eq_self "" w.shared.pointers).symm
  rw [contents_write hsame]
  congr 1
  rw [Function.update_eq_self_iff.mpr, Function.update_eq_self_iff.mpr]
  · rfl
  · rw [Function.update_of_ne (by simp)]
    rfl

theorem contents_carried (h : (w.threads i).carried = none) : contents w (.carried i) = none :=
  congrArg (Option.map Prod.snd) h

theorem contents_current {b : DoubleBuffer} (hb : w.shared.buffers key = some b) :
    contents w (.current key) = some b.current :=
  congrArg Prod.fst (SharedSegments.pointers_of_buffer hb)

theorem contents_next {b : DoubleBuffer} (hb : w.shared.buffers key = some b) :
    contents w (.next key) = b.next :=
  congrArg Prod.snd (SharedSegments.pointers_of_buffer hb)

/-- **One step** makes a segment in an empty slot, or moves one, or leaves all where they are. -/
theorem slots_step (hw : ledgerStep below l (i, input) = some l') :
    (l'.slots = l.slots ∧ (l.world.threads i).target = none) ∨
    (∃ s, contents l.world s = none ∧ l'.slots = l.slots.make s ∧
      (l.world.threads i).target = none) ∨
    ∃ s t j, contents l.world s = some j ∧ s ≠ t ∧
      l'.slots = l.slots.move s t j (abandons l.world i) ∧
      ((l.world.threads i).target = some t ∨
        (l.world.threads i).target = none ∧ contents l.world t = none) := by
  obtain ⟨w', hstep, rfl⟩ := Option.map_eq_some_iff.mp hw
  obtain ⟨m, p, hs, rfl⟩ := World.step_eq_some.mp hstep
  unfold SegmentLedger.slots
  dsimp only
  cases segmentStep_slots hs with
  | keep hm hlen hp ht =>
    refine Or.inl ⟨?_, ht⟩
    rw [abandons_of_none ht, hlen, contents_keep hm, hp]
    exact congrArg (Slots.mk · _ _) (Function.update_eq_self (Slot.carried i) (contents l.world))
  | create key hfree hm hlen hp ht =>
    have hcurrent : contents l.world (.current key) = none := congrArg Prod.fst hfree
    have hnext : contents l.world (.next key) = none := congrArg Prod.snd hfree
    refine Or.inr (Or.inl ⟨.current key, hcurrent, ?_, ht⟩)
    rw [abandons_of_none ht, hlen, contents_write hm, hp]
    refine congrArg (Slots.mk · _ _) ?_
    rw [Function.update_eq_self_iff.mpr, Function.update_eq_self_iff.mpr]
    · rw [Function.update_of_ne (by simp), hnext]
    · rw [Function.update_of_ne (by simp), Function.update_of_ne (by simp)]
      rfl
  | load key hm hlen hp hp' ht =>
    refine Or.inr (Or.inl ⟨.carried i, contents_carried hp, ?_, ht⟩)
    rw [abandons_of_none ht, hlen, contents_keep hm, hp']
    rfl
  | takeNext key b j hb hj hm hlen hp hp' ht =>
    have hnext : contents l.world (.next key) = some j := (contents_next hb).trans hj
    refine Or.inr (Or.inr ⟨.next key, .carried i, j, hnext, by simp, ?_,
      Or.inr ⟨ht, contents_carried hp⟩⟩)
    rw [hlen, contents_write hm, hp', ← contents_current hb, Function.update_eq_self]
    rfl
  | setNext key b j hb hm hlen hp hp' ht =>
    have hcarried : contents l.world (.carried i) = some j := congrArg (Option.map Prod.snd) hp
    refine Or.inr (Or.inr ⟨.carried i, .next key, j, hcarried, by simp, ?_, Or.inl ht⟩)
    rw [hlen, contents_write hm, hp', ← contents_current hb, Function.update_eq_self,
      Function.update_comm (by simp)]
    rfl
  | storeCurrent key b j hb hm hlen hp hp' ht =>
    have hcarried : contents l.world (.carried i) = some j := congrArg (Option.map Prod.snd) hp
    have hnext : contents l.world (.next key) = b.next := contents_next hb
    refine Or.inr (Or.inr ⟨.carried i, .current key, j, hcarried, by simp, ?_, Or.inl ht⟩)
    have hkeep : Function.update (Function.update (contents l.world) (.current key) (some j))
        (.next key) b.next = Function.update (contents l.world) (.current key) (some j) :=
      Function.update_eq_self_iff.mpr (hnext.symm.trans (Function.update_of_ne (by simp) _ _).symm)
    rw [hlen, contents_write hm, hp', hkeep, Function.update_comm (by simp)]
    rfl

/-! ## What was loaded is accounted for -/

/-- A call for the key has returned the id. -/
def SharedSegments.Issued (m : SharedSegments) (key : String) (n : ℕ) : Prop :=
  ∃ id, (key, id) ∈ m.issued ∧ id.asU128.toNat = n

/-- Each range that was loaded has a segment, and its ids below the cursor are issued. -/
def Accounted (m : SharedSegments) : Prop :=
  ∀ key d, (key, d) ∈ m.loaded → ∃ (j : ℕ) (s : Segment), m.heap[j]? = some (key, s) ∧
    s.maxId = d.maxId ∧ ∀ n, d.startId.toNat ≤ n → n < s.currentId.toNat → m.Issued key n

theorem issued_answer_of {a : Answer} {key' : String} {n : ℕ} (h : m.Issued key n) :
    (m.answer key' a).Issued key n := by
  obtain ⟨id, hid, hn⟩ := h
  exact ⟨id, List.mem_append_right _ hid, hn⟩

/-- Segments keep their keys and ends, and what a cursor has passed is issued. -/
theorem Accounted.mono (h : Accounted m) (hloaded : m'.loaded = m.loaded)
    (hissued : ∀ key n, m.Issued key n → m'.Issued key n)
    (hheap : ∀ (j : ℕ) key s, m.heap[j]? = some (key, s) → ∃ s', m'.heap[j]? = some (key, s') ∧
      s'.maxId = s.maxId ∧
      ∀ n, n < s'.currentId.toNat → n < s.currentId.toNat ∨ m'.Issued key n) :
    Accounted m' := by
  intro key d hd
  rw [hloaded] at hd
  obtain ⟨j, s, hj, hmax, hbelow⟩ := h key d hd
  obtain ⟨s', hj', hmax', hcursor⟩ := hheap j key s hj
  refine ⟨j, s', hj', hmax'.trans hmax, fun n hstart hn => ?_⟩
  rcases hcursor n hn with hold | hnew
  · exact hissued key n (hbelow n hstart hold)
  · exact hnew

theorem Accounted.append {c : String × Segment} (h : Accounted m)
    (hheap : m'.heap = m.heap ++ [c]) (hanswers : m'.answers = m.answers)
    (hloaded : m'.loaded = m.loaded) : Accounted m' := by
  have hsame : m'.issued = m.issued := by
    unfold SharedSegments.issued
    rw [hanswers]
  refine h.mono hloaded (fun key n hn => ?_) fun j key s hj => ⟨s, ?_, rfl, fun _ hn => Or.inl hn⟩
  · unfold SharedSegments.Issued
    rwa [hsame]
  · rw [hheap, List.getElem?_append_left (List.getElem?_eq_some_iff.mp hj).1, hj]

/-- What the cursor has passed now are the ids of the answer; a sum that wraps takes it back. -/
theorem issued_of_consume {c s : Segment} {count start stop : UInt64} {a : Answer} {n : ℕ}
    (hs : c.tryConsume count = (some (start, stop), s))
    (ha : a.ids = (u64Range start stop).map Id.ofU64 ∨ a.ids = [Id.ofU64 start] ∧ count = 1)
    (hn : n < s.currentId.toNat) :
    n < c.currentId.toNat ∨ (m.answer key a).Issued key n := by
  obtain ⟨-, hstop, hcursor⟩ := Segment.tryConsume_cursor hs
  rw [hcursor, hstop, UInt64.toNat_add] at hn
  by_cases hwrap : c.currentId.toNat + count.toNat < 2 ^ 64
  · rw [Nat.mod_eq_of_lt hwrap] at hn
    refine (Nat.lt_or_ge n c.currentId.toNat).imp_right fun hge => ?_
    have hmem : n ∈ a.ids.map fun id => id.asU128.toNat := by
      rw [map_toNat_ids hs (Or.inl hwrap) ha, List.mem_range'_1]
      omega
    obtain ⟨id, hid, rfl⟩ := List.mem_map.mp hmem
    exact ⟨id, List.mem_append_left _ (List.mem_map_of_mem hid), rfl⟩
  · have := c.currentId.toNat_lt
    have := count.toNat_lt
    rw [Nat.mod_eq_sub_mod (by omega), Nat.mod_eq_of_lt (by omega)] at hn
    exact Or.inl (by omega)

/-- The segment that a call has consumed from is the only one to change. -/
theorem Accounted.setSegment {c : String × Segment} {s : Segment} {count : UInt64}
    {r : Option (UInt64 × UInt64)} (h : Accounted m) (hc : m.heap[i]? = some c)
    (hs : c.2.tryConsume count = (r, s)) (hheap : m'.heap = m.heap.set i (c.1, s))
    (hloaded : m'.loaded = m.loaded) (hissued : ∀ key n, m.Issued key n → m'.Issued key n)
    (hcursor : ∀ n, n < s.currentId.toNat → n < c.2.currentId.toNat ∨ m'.Issued c.1 n) :
    Accounted m' := by
  refine h.mono hloaded hissued fun j key t hj => ?_
  by_cases hij : i = j
  · subst hij
    obtain rfl := Option.some.inj (hc.symm.trans hj)
    refine ⟨s, ?_, (Segment.tryConsume_range hs).2, hcursor⟩
    rw [hheap]
    exact List.getElem?_set_self (List.getElem?_eq_some_iff.mp hj).1
  · refine ⟨t, ?_, rfl, fun _ hn => Or.inl hn⟩
    rw [hheap, List.getElem?_set_ne hij, hj]

theorem Accounted.move {held : Option (String × ℕ)} (h : Accounted m) (hp : HoldsOwn m 0 p)
    (hmove : Move input m p m' held) : Accounted m' := by
  have hanswer : ∀ key a, Accounted (m.answer key a) := fun key a =>
    h.mono rfl (fun _ _ hn => issued_answer_of hn)
      fun _ _ s hj => ⟨s, hj, rfl, fun _ hn => Or.inl hn⟩
  cases hmove with
  | fail key a ha => exact hanswer key a
  | abandon key b a hb ha => exact hanswer key a
  | create key hb => exact h.append rfl rfl rfl
  | load key d hload hd =>
    have hold : Accounted { m.load key d with loaded := m.loaded } := h.append rfl rfl rfl
    intro key' d' hd'
    rcases List.mem_cons.mp hd' with heq | hd'
    · obtain ⟨rfl, rfl⟩ := Prod.mk.inj heq
      refine ⟨m.heap.length, _, List.getElem?_concat_length, rfl, fun n hstart hn => ?_⟩
      exact absurd hstart (Nat.not_le_of_lt hn)
    · exact hold key' d' hd'
  | consume key i count start stop c s a hi hcount hc hs ha =>
    obtain ⟨t, ht⟩ := hp key i hi
    obtain rfl := Option.some.inj (hc.symm.trans ht)
    exact h.setSegment hc hs rfl rfl (fun _ _ hn => issued_answer_of hn)
      fun n hn => issued_of_consume (m := m.setSegment i (key, s)) hs ha hn
  | waste key i count start stop c s hi hcount hc hs hempty =>
    refine h.setSegment hc hs rfl rfl (fun _ _ hn => hn) fun n hn => Or.inl ?_
    obtain ⟨hstart, -, hcursor⟩ := Segment.tryConsume_cursor hs
    have hlen := congrArg List.length (toNat_u64Range start stop)
    rw [hempty, List.length_range', List.map_nil, List.length_nil] at hlen
    rw [hcursor] at hn
    rw [← hstart]
    omega
  | _ => exact h

/-! ## Runs -/

theorem Task.held_of_carried {x : String × ℕ} (h : p.carried = some x) : p.held = some x := by
  cases p with
  | idle => cases h
  | generate ctx tries next | batchGenerate ctx size fits next =>
    obtain ⟨j, hj, rfl⟩ := Option.map_eq_some_iff.mp h
    refine Option.map_eq_some_iff.mpr ⟨j, ?_, rfl⟩
    unfold Next.carried at hj
    split at hj <;> cases hj <;> rfl

/-- A segment of the key lies in a slot of the key, or its call is one of the key. -/
theorem available_iff {s : Segment} (h : SegmentsInv w) (hj : w.shared.heap[j]? = some (key, s)) :
    Available w key j ↔ ∃ slot, contents w slot = some j := by
  have hkey : ∀ k, Owns w.shared k j → k = key := by
    rintro k ⟨t, ht⟩
    exact (Prod.mk.inj (Option.some.inj (ht.symm.trans hj))).1
  constructor
  · rintro (⟨b, hb, hcurrent | hnext⟩ | ⟨i, hi⟩)
    · exact ⟨.current key, (contents_current hb).trans (congrArg some hcurrent)⟩
    · exact ⟨.next key, (contents_next hb).trans hnext⟩
    · exact ⟨.carried i, congrArg (Option.map Prod.snd) hi⟩
  · rintro ⟨slot, hslot⟩
    cases slot with
    | current k =>
      obtain ⟨b, hb, rfl⟩ := Option.map_eq_some_iff.mp hslot
      obtain rfl := hkey k (h.memory.pointers k b hb).1
      exact Or.inl ⟨b, hb, Or.inl rfl⟩
    | next k =>
      obtain ⟨b, hb, hnext⟩ := Option.bind_eq_some_iff.mp hslot
      obtain rfl := hkey k ((h.memory.pointers k b hb).2 j hnext)
      exact Or.inl ⟨b, hb, Or.inr hnext⟩
    | carried i =>
      obtain ⟨⟨k, _⟩, hi, rfl⟩ := Option.map_eq_some_iff.mp hslot
      obtain rfl := hkey k (h.thread i k _ (Task.held_of_carried hi))
      exact Or.inr ⟨i, hi⟩

/-- What no step breaks. -/
structure LedgerInv (l : SegmentLedger) : Prop where
  segments : SegmentsInv l.world
  apart : l.slots.Apart
  accounted : Accounted l.world.shared

theorem nothingLost_iff (h : LedgerInv l) : NothingLost l ↔ l.slots.Kept := by
  constructor
  · intro hl j hj
    have hget : l.world.shared.heap[j]? = some (_, _) := List.getElem?_eq_getElem hj
    exact (hl.segments j _ _ hget).imp_left (available_iff h.segments hget).mp
  · intro hkept
    have hsegments : ∀ (j : ℕ) key s, l.world.shared.heap[j]? = some (key, s) →
        Available l.world key j ∨ j ∈ l.abandoned := fun j key s hj =>
      (hkept j (List.getElem?_eq_some_iff.mp hj).1).imp_left (available_iff h.segments hj).mpr
    refine ⟨hsegments, fun key d hd n hn => ?_⟩
    obtain ⟨j, s, hj, hmax, hbelow⟩ := h.accounted key d hd
    rcases Nat.lt_or_ge n s.currentId.toNat with hlt | hge
    · exact Or.inl (hbelow n hn.1 hlt)
    · exact Or.inr ⟨j, s, hj, ⟨hge, hmax ▸ hn.2⟩, hsegments j key s hj⟩

theorem ledgerInv_noLoads : LedgerInv noLoads where
  segments := segmentsInv_noCalls
  apart := by
    have hempty : ∀ slot, noLoads.slots.content slot = none := by
      intro slot
      cases slot <;> rfl
    refine ⟨fun s _ j h => ?_, fun s j h => ?_, fun _ h => (List.not_mem_nil h).elim⟩
    all_goals
      rw [hempty] at h
      cases h
  accounted _ _ h := (List.not_mem_nil h).elim

theorem LedgerInv.step (h : LedgerInv l) (hstep : ledgerStep below l act = some l') :
    LedgerInv l' := by
  obtain ⟨i, input⟩ := act
  have hapart : l'.slots.Apart := by
    rcases slots_step hstep with ⟨heq, -⟩ | ⟨s, -, heq, -⟩ | ⟨s, t, j, hj, hne, heq, ht⟩ <;>
      rw [heq]
    · exact h.apart
    · exact h.apart.make
    · refine h.apart.move hj hne fun k hk => ?_
      obtain ⟨key, htarget, hcontent, -⟩ := mem_abandons.mp hk
      rcases ht with ht | ⟨hnone, -⟩
      · cases ht.symm.trans htarget
        exact hcontent
      · cases hnone.symm.trans htarget
  obtain ⟨w', hw, rfl⟩ := Option.map_eq_some_iff.mp hstep
  refine ⟨segmentsInv_step h.segments hw, hapart, ?_⟩
  obtain ⟨m, p, hs, rfl⟩ := World.step_eq_some.mp hw
  exact h.accounted.move (h.segments.thread i) (segmentStep_cases hs)

/-- **One step** loses nothing if and only if it stores in order. -/
theorem nothingLost_step_iff (h : LedgerInv l) (hl : NothingLost l)
    (hstep : ledgerStep below l act = some l') : NothingLost l' ↔ StoresInOrder l.world act := by
  rw [nothingLost_iff h] at hl
  rw [nothingLost_iff (h.step hstep), storesInOrder_iff]
  obtain ⟨i, input⟩ := act
  have hquiet : (l.world.threads i).target = none → ∀ t, (l.world.threads i).target = some t →
      ∀ k, contents l.world t = some k → k ∈ abandons l.world i := by
    intro hnone t ht
    cases hnone.symm.trans ht
  rcases slots_step hstep with ⟨heq, hnone⟩ | ⟨s, hs, heq, hnone⟩ | ⟨s, t, j, hj, hne, heq, ht⟩ <;>
    rw [heq]
  · exact iff_of_true hl (hquiet hnone)
  · exact iff_of_true (hl.make hs) (hquiet hnone)
  · rw [Slots.kept_move_iff h.apart hl hj hne]
    rcases ht with ht | ⟨hnone, hempty⟩
    · constructor
      · intro hk t' ht'
        cases ht.symm.trans ht'
        exact hk
      · exact fun hall => hall t ht
    · refine iff_of_true (fun k hk => ?_) (hquiet hnone)
      cases hempty.symm.trans hk

/-- **Nothing is lost** along a run if and only if every store is in order. -/
theorem nothing_lost_iff (below : UInt64 → UInt64 → Bool) (acts : List (ℕ × Input)) :
    EachStep (ledgerStep below) (fun _ _ l => NothingLost l) noLoads acts ↔
      EachStep (ledgerStep below) (fun l act _ => StoresInOrder l.world act) noLoads acts := by
  have hstart : NothingLost noLoads :=
    (nothingLost_iff ledgerInv_noLoads).mpr fun j hj => absurd hj (Nat.not_lt_zero j)
  refine eachStep_iff_of_invariants hstart ledgerInv_noLoads ?_ ?_
  · intro l act l' h hstep
    exact h.step hstep
  · intro l act l' h hl hstep
    exact nothingLost_step_iff h hl hstep

/-- Two batches find the next slot empty, and both load. -/
theorem segment_lost : ∃ l, Reaches (ledgerStep belowTenth) Free noLoads l ∧ ¬ NothingLost l := by
  let acts : List (ℕ × Input) := (0, .batchGenerate ⟨"w", "g", "t"⟩ 3) ::
    List.replicate 7 (0, .proceed) ++ (1, .batchGenerate ⟨"w", "g", "t"⟩ 3) ::
    List.replicate 6 (1, .proceed) ++ [(0, .reply (.ok ⟨1, 100, 1, 0⟩)),
      (1, .reply (.ok ⟨101, 200, 1, 0⟩)), (0, .proceed)]
  have hrun : ((run (ledgerStep belowTenth) noLoads acts).map fun l =>
      ((l.world.threads 1).target, contents l.world (.next "w:t"),
        (ledgerStep belowTenth l (1, .proceed)).isSome)) =
      some (some (.next "w:t"), some 1, true) := by
    decide +kernel
  obtain ⟨l, hl, heq⟩ := Option.map_eq_some_iff.mp hrun
  obtain ⟨htarget, heq⟩ := Prod.mk.inj heq
  obtain ⟨hnext, hstep⟩ := Prod.mk.inj heq
  obtain ⟨l', hstep⟩ := Option.isSome_iff_exists.mp hstep
  have hreach := reaches_of_run hl
  have hinv : LedgerInv l := hreach.invariant (I := LedgerInv) ledgerInv_noLoads
    fun _ _ _ h _ hs => h.step hs
  by_contra hnever
  have hkept : ∀ l, Reaches (ledgerStep belowTenth) Free noLoads l → NothingLost l := by
    intro l hl
    by_contra hlost
    exact hnever ⟨l, hl, hlost⟩
  have hstores := (nothingLost_step_iff hinv (hkept l hreach) hstep).mp
    (hkept l' (hreach.trans (Reaches.single trivial hstep)))
  obtain ⟨b, hb, hb'⟩ := Option.bind_eq_some_iff.mp hnext
  cases (hstores.next "w:t" htarget b hb).symm.trans hb'

end NebulaId
