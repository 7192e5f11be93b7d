import NebulaId.Database.Statements
import NebulaId.Machine.Along
import NebulaId.Server.IdHandlers

/-!
# The settings of a biz tag and its ids (`core/types/id.rs`, `core/algorithm/router.rs`)

A biz tag is stored with an algorithm, a format and a prefix. None of them goes further than the
table: the router has its own table of algorithms by name, the context of a generation says
`Numeric` and no prefix whatever the tag, and an id is shown as its version bits say.

* `display_eq_rendering_iff`: when an id is shown as a format and a prefix want it.
* `generate_governed_iff`, `batchGenerate_governed_iff`: the ids of a request, against the settings.
* `settings_govern_iff`: the ids of a run.
* `settings_ignored`: a new tag for Snowflake with a prefix gets the bare ids of Segment.
-/

namespace NebulaId

open Machine

open SeaOrmRepository

/-! ## Ids as texts -/

namespace Id

/-- The version bits are those of a UUID. -/
def Versioned (id : Id) : Prop :=
  (id.value >>> 76) &&& 0xF = 7 ∨ (id.value >>> 76) &&& 0xF = 4

instance (id : Id) : Decidable id.Versioned := inferInstanceAs (Decidable (_ ∨ _))

/-- An id in a format; the prefixed one is that of `to_prefixed`. -/
def rendering (format : IdFormat) (idPrefix : String) (id : Id) : String :=
  match format with
  | .numeric => toString id.value.toNat
  | .prefixed => idPrefix ++ toString id.value.toNat
  | .uuid => uuidText id.value

/-- The ids that are shown in the format. -/
def Suits (format : IdFormat) (idPrefix : String) (id : Id) : Prop :=
  match format with
  | .numeric => ¬ id.Versioned
  | .prefixed => ¬ id.Versioned ∧ idPrefix = ""
  | .uuid => id.Versioned

theorem display_of_versioned {id : Id} (h : id.Versioned) : id.display = uuidText id.value := if_pos h

theorem display_of_not_versioned {id : Id} (h : ¬ id.Versioned) :
    id.display = toString id.value.toNat := if_neg h

theorem length_hexDigits (k n : ℕ) : (hexDigits k n).length = k := by
  induction k generalizing n with
  | zero => rfl
  | succ k ih => rw [hexDigits, List.length_append, ih, List.length_singleton]

theorem length_uuidText (value : BitVec 128) : (uuidText value).toList.length = 36 := by
  simp [uuidText, length_hexDigits]

/-- The last hyphen. -/
theorem uuidText_hyphen (value : BitVec 128) : (uuidText value).toList[23]? = some '-' := by
  simp [uuidText, length_hexDigits]

theorem hyphen_notMem_toString (n : ℕ) : '-' ∉ (toString n).toList := by
  intro hmem
  have hdigits : '-' ∈ Nat.toDigits 10 n := by rwa [← Nat.toList_repr]
  have hdigit := Nat.isDigit_of_mem_toDigits (by decide) (by decide) hdigits
  exact absurd hdigit (by decide)

theorem uuidText_ne_toString (value : BitVec 128) (n : ℕ) : uuidText value ≠ toString n := by
  intro heq
  exact hyphen_notMem_toString n (heq ▸ List.mem_of_getElem? (uuidText_hyphen value))

/-- The number of a UUID is long. -/
theorem versioned_ge {id : Id} (h : id.Versioned) : 10 ^ 23 ≤ id.value.toNat := by
  by_contra hlt
  have hquotient : (id.value >>> 76).toNat < 2 := by
    rw [BitVec.toNat_ushiftRight, Nat.shiftRight_eq_div_pow]
    omega
  have hshift : id.value >>> 76 = 0 ∨ id.value >>> 76 = 1 := by
    rcases Nat.le_one_iff_eq_zero_or_eq_one.mp (Nat.lt_succ_iff.mp hquotient) with hzero | hone
    · exact Or.inl (BitVec.eq_of_toNat_eq hzero)
    · exact Or.inr (BitVec.eq_of_toNat_eq hone)
  rw [Versioned] at h
  rcases hshift with hshift | hshift
  · rw [hshift] at h
    exact absurd h (by decide)
  · rw [hshift] at h
    exact absurd h (by decide)

/-- Such a number ends no UUID: the last hyphen would be one of its digits. -/
theorem uuidText_ne_append {id : Id} (h : id.Versioned) (idPrefix : String) :
    uuidText id.value ≠ idPrefix ++ toString id.value.toNat := by
  intro heq
  have htext := congrArg String.toList heq
  rw [String.toList_append] at htext
  have hlength := congrArg List.length htext
  rw [length_uuidText, List.length_append] at hlength
  have hlong : 23 < (toString id.value.toNat).toList.length := by
    by_contra hshort
    have hdigits : id.value.toNat.repr.length ≤ 23 := Nat.not_lt.mp hshort
    have hsmall := (Nat.length_repr_le_iff (by decide)).mp hdigits
    exact absurd (versioned_ge h) (Nat.not_le.mpr hsmall)
  have hhyphen := uuidText_hyphen id.value
  rw [htext, List.getElem?_append_right (by omega)] at hhyphen
  exact hyphen_notMem_toString _ (List.mem_of_getElem? hhyphen)

theorem append_eq_self_iff (before after : String) : after = before ++ after ↔ before = "" := by
  constructor
  · intro h
    have hlength := congrArg (fun s => s.toList.length) h
    simp only [String.toList_append, List.length_append] at hlength
    exact String.toList_eq_nil_iff.mp (List.length_eq_zero_iff.mp (by omega))
  · rintro rfl
    exact (String.empty_append).symm

/-- **How an id is shown**, against how it should be. -/
theorem display_eq_rendering_iff (format : IdFormat) (idPrefix : String) (id : Id) :
    id.display = id.rendering format idPrefix ↔ id.Suits format idPrefix := by
  by_cases hversion : id.Versioned
  · rw [display_of_versioned hversion]
    cases format with
    | numeric => exact iff_of_false (uuidText_ne_toString _ _) (not_not.mpr hversion)
    | prefixed =>
      exact iff_of_false (uuidText_ne_append hversion _) fun hsuits => hsuits.1 hversion
    | uuid => exact iff_of_true rfl hversion
  · rw [display_of_not_versioned hversion]
    cases format with
    | numeric => exact iff_of_true rfl hversion
    | prefixed =>
      exact (append_eq_self_iff _ _).trans ⟨fun hnone => ⟨hversion, hnone⟩, And.right⟩
    | uuid => exact iff_of_false (uuidText_ne_toString _ _).symm hversion

end Id

/-! ## Who answers, and with what -/

/-- The algorithm is in the table, and answers when it is called now. -/
def AlgorithmRouter.Available {α : Type} (r : AlgorithmRouter) (ask : IdAlgorithm → ℕ → Result α)
    (algType : AlgorithmType) : Prop :=
  ∃ alg x, r.algorithms algType = some alg ∧ ask alg r.calls.length = .ok x

/-- The first algorithm to answer, the one routed and then those of the chain, is this one, and its
answer is as it should be. -/
def AlgorithmRouter.FirstServes {α : Type} (r : AlgorithmRouter) (ask : IdAlgorithm → ℕ → Result α)
    (asked algType : AlgorithmType) (Good : α → Prop) : Prop :=
  ∀ other x, firstOk (r.candidates ask asked) = some (other, x) → other = algType ∧ Good x

theorem AlgorithmRouter.firstServes_iff {α : Type} {r : AlgorithmRouter}
    {ask : IdAlgorithm → ℕ → Result α} {asked algType : AlgorithmType} {Good : α → Prop} :
    (∀ x, (r.withAlgorithm ask asked).1 = .ok x →
      (r.withAlgorithm ask asked).2.calls.getLast? = some algType ∧ Good x) ↔
        r.FirstServes ask asked algType Good := by
  constructor
  · intro h other x hfirst
    have hok : (r.withAlgorithm ask asked).1 = .ok x := by
      rw [AlgorithmRouter.withAlgorithm_eq, hfirst]
    obtain ⟨made, hmade, hlast⟩ := AlgorithmRouter.withAlgorithm_ok hok
    cases hfirst.symm.trans hmade
    obtain ⟨hlast', hgood⟩ := h x hok
    cases hlast.symm.trans hlast'
    exact ⟨rfl, hgood⟩
  · intro h x hok
    obtain ⟨other, hfirst, hlast⟩ := AlgorithmRouter.withAlgorithm_ok hok
    obtain ⟨rfl, hgood⟩ := h other x hfirst
    exact ⟨hlast, hgood⟩

namespace ApiHandlers

variable {h : ApiHandlers} {atEnd : AtEnd} {b : SeaOrmRepository.BizTag}

/-- The id of a request is made by the algorithm of the biz tag, and shown in its format. -/
def OneGoverned (h : ApiHandlers) (atEnd : AtEnd) (req : GenerateRequest)
    (b : SeaOrmRepository.BizTag) : Prop :=
  ∀ resp, (h.generate atEnd req).1 = .ok resp →
    (h.generate atEnd req).2.idGenerator.calls.getLast? = some b.algorithm ∧
      ∃ id, (h.idGenerator.generate ⟨req.workspace, req.group, req.bizTag⟩).1 = .ok id ∧
        resp.id = id.rendering b.format b.idPrefix

def BatchGoverned (t : String → List (String × String) → String) (h : ApiHandlers) (atEnd : AtEnd)
    (req : BatchGenerateRequest) (b : SeaOrmRepository.BizTag) : Prop :=
  ∀ resp, (h.batchGenerate t atEnd req).1 = .ok resp →
    (h.batchGenerate t atEnd req).2.idGenerator.calls.getLast? = some b.algorithm ∧
      ∃ batch, (h.idGenerator.batchGenerate ⟨req.workspace, req.group, req.bizTag⟩
          (req.size.getD 10)).1 = .ok batch ∧
        resp.ids = batch.ids.map (Id.rendering b.format b.idPrefix)

theorem generate_governed_iff {req : GenerateRequest} (hnone : req.algorithm = none) :
    h.OneGoverned atEnd req b ↔
      let ctx : GenerateContext := ⟨req.workspace, req.group, req.bizTag⟩
      h.idGenerator.FirstServes (AlgorithmRouter.askOne ctx) (h.idGenerator.getAlgorithm ctx)
        b.algorithm (Id.Suits b.format b.idPrefix) := by
  have hparsed : parseAlgorithm req.algorithm = .ok none := by rw [hnone, parseAlgorithm]
  obtain ⟨hanswer, hcalls⟩ := generate_parsed h atEnd req hparsed
  rw [← AlgorithmRouter.firstServes_iff]
  unfold OneGoverned
  rw [hanswer, hcalls]
  constructor
  · intro hall id hid
    obtain ⟨hlast, made, hmade, hshown⟩ := hall _ (congrArg (Except.map _) hid)
    cases hid.symm.trans hmade
    exact ⟨hlast, (Id.display_eq_rendering_iff _ _ _).mp hshown⟩
  · intro hall resp hresp
    obtain ⟨id, hid, rfl⟩ := except_map_eq_ok.mp hresp
    obtain ⟨hlast, hsuits⟩ := hall id hid
    exact ⟨hlast, id, hid, (Id.display_eq_rendering_iff _ _ _).mpr hsuits⟩

theorem batchGenerate_governed_iff (t : String → List (String × String) → String)
    {req : BatchGenerateRequest} (hnone : req.algorithm = none) :
    h.BatchGoverned t atEnd req b ↔
      let ctx : GenerateContext := ⟨req.workspace, req.group, req.bizTag⟩
      req.size.getD 10 ≠ 0 → req.size.getD 10 ≤ h.batchMaxSize.toNat →
        h.idGenerator.FirstServes (AlgorithmRouter.askBatch ctx (req.size.getD 10))
          (h.idGenerator.getAlgorithm ctx) b.algorithm
          (fun batch => ∀ id ∈ batch.ids, id.Suits b.format b.idPrefix) := by
  by_cases hsize : req.size.getD 10 = 0 ∨ h.batchMaxSize.toNat < req.size.getD 10
  · obtain ⟨e, hout⟩ := batchGenerate_refused t h atEnd req hsize
    refine iff_of_true (fun resp hresp => ?_) fun hzero hmax => absurd hsize (by omega)
    cases hout.symm.trans hresp
  · obtain ⟨hzero, hmax⟩ := not_or.mp hsize
    have hmax := Nat.not_lt.mp hmax
    have hparsed : parseAlgorithm req.algorithm = .ok none := by rw [hnone, parseAlgorithm]
    obtain ⟨hanswer, hcalls⟩ := batchGenerate_parsed t h atEnd req hzero hmax hparsed
    dsimp only
    rw [forall_prop_of_true hzero, forall_prop_of_true hmax, ← AlgorithmRouter.firstServes_iff]
    unfold BatchGoverned
    rw [hanswer, hcalls]
    have hshown : ∀ batch : IdBatch, batch.ids.map Id.display =
        batch.ids.map (Id.rendering b.format b.idPrefix) ↔
          ∀ id ∈ batch.ids, id.Suits b.format b.idPrefix := fun batch => by
      simp only [List.map_inj_left, Id.display_eq_rendering_iff]
    constructor
    · intro hall batch hbatch
      obtain ⟨hlast, made, hmade, hids⟩ := hall _ (congrArg (Except.map _) hbatch)
      cases hbatch.symm.trans hmade
      exact ⟨hlast, (hshown batch).mp hids⟩
    · intro hall resp hresp
      obtain ⟨batch, hbatch, rfl⟩ := except_map_eq_ok.mp hresp
      obtain ⟨hlast, hsuits⟩ := hall batch hbatch
      exact ⟨hlast, batch, hbatch, (hshown batch).mpr hsuits⟩

end ApiHandlers

/-! ## Runs -/

/-- A request says the names of a biz tag. -/
def SeaOrmRepository.Catalog.Names (c : Catalog) (workspace group bizTag : String) (b : BizTagRow) :
    Prop :=
  b ∈ c.bizTags.rows ∧ b.name = bizTag ∧
    (∃ w ∈ c.workspaces.rows, w.id = b.workspaceId ∧ w.name = workspace) ∧
    ∃ g ∈ c.groups.rows, g.id = b.groupId ∧ g.name = group

/-- The tables and the handlers, which share nothing. -/
structure TagService where
  catalog : Catalog
  handlers : ApiHandlers

inductive TagAct where
  | createBizTag (db : Replies) (now : ℤ) (id : Uuid) (bizTag : CreateBizTagRequest)
  | updateBizTag (db : Replies) (now : ℤ) (id : Uuid) (bizTag : UpdateBizTagRequest)
  | generate (atEnd : AtEnd) (req : GenerateRequest)
  | batchGenerate (t : String → List (String × String) → String) (atEnd : AtEnd)
      (req : BatchGenerateRequest)

namespace TagService

def step (s : TagService) : TagAct → Option TagService
  | .createBizTag db now id bizTag =>
    some { s with catalog := (createBizTag db 0 now id s.catalog bizTag).2 }
  | .updateBizTag db now id bizTag =>
    some { s with catalog := (updateBizTagIn db 0 now id s.catalog bizTag).2 }
  | .generate atEnd req => some { s with handlers := (s.handlers.generate atEnd req).2 }
  | .batchGenerate t atEnd req => some { s with handlers := (s.handlers.batchGenerate t atEnd req).2 }

/-- The ids of a request without an algorithm are as the biz tag wants them, while its algorithm is
available. -/
def Governed (s : TagService) : TagAct → Prop
  | .generate atEnd req => req.algorithm = none →
    ∀ b, s.catalog.Names req.workspace req.group req.bizTag b →
      s.handlers.idGenerator.Available
        (AlgorithmRouter.askOne ⟨req.workspace, req.group, req.bizTag⟩) b.toBizTag.algorithm →
      s.handlers.OneGoverned atEnd req b.toBizTag
  | .batchGenerate t atEnd req => req.algorithm = none →
    ∀ b, s.catalog.Names req.workspace req.group req.bizTag b →
      s.handlers.idGenerator.Available
        (AlgorithmRouter.askBatch ⟨req.workspace, req.group, req.bizTag⟩ (req.size.getD 10))
          b.toBizTag.algorithm →
      s.handlers.BatchGoverned t atEnd req b.toBizTag
  | .createBizTag _ _ _ _ | .updateBizTag _ _ _ _ => True

/-- The first algorithm to answer is the one of the biz tag, and makes ids that are shown so. -/
def Served (s : TagService) : TagAct → Prop
  | .generate _ req => req.algorithm = none →
    ∀ b, s.catalog.Names req.workspace req.group req.bizTag b →
      let ctx : GenerateContext := ⟨req.workspace, req.group, req.bizTag⟩
      s.handlers.idGenerator.Available (AlgorithmRouter.askOne ctx) b.toBizTag.algorithm →
      s.handlers.idGenerator.FirstServes (AlgorithmRouter.askOne ctx)
        (s.handlers.idGenerator.getAlgorithm ctx) b.toBizTag.algorithm
        (Id.Suits b.toBizTag.format b.toBizTag.idPrefix)
  | .batchGenerate _ _ req => req.algorithm = none →
    ∀ b, s.catalog.Names req.workspace req.group req.bizTag b →
      let ctx : GenerateContext := ⟨req.workspace, req.group, req.bizTag⟩
      s.handlers.idGenerator.Available (AlgorithmRouter.askBatch ctx (req.size.getD 10))
        b.toBizTag.algorithm →
      req.size.getD 10 ≠ 0 → req.size.getD 10 ≤ s.handlers.batchMaxSize.toNat →
      s.handlers.idGenerator.FirstServes (AlgorithmRouter.askBatch ctx (req.size.getD 10))
        (s.handlers.idGenerator.getAlgorithm ctx) b.toBizTag.algorithm
        (fun batch => ∀ id ∈ batch.ids, id.Suits b.toBizTag.format b.toBizTag.idPrefix)
  | .createBizTag _ _ _ _ | .updateBizTag _ _ _ _ => True

theorem governed_iff (s : TagService) (act : TagAct) : s.Governed act ↔ s.Served act := by
  cases act with
  | createBizTag db now id bizTag => exact Iff.rfl
  | updateBizTag db now id bizTag => exact Iff.rfl
  | generate atEnd req =>
    refine forall_congr' fun hnone => forall_congr' fun b => forall_congr' fun _ =>
      forall_congr' fun _ => ?_
    exact ApiHandlers.generate_governed_iff hnone
  | batchGenerate t atEnd req =>
    refine forall_congr' fun hnone => forall_congr' fun b => forall_congr' fun _ =>
      forall_congr' fun _ => ?_
    exact ApiHandlers.batchGenerate_governed_iff t hnone

/-- **The settings of a biz tag govern its ids** in a run of creations, updates and requests, if and
only if for every request without an algorithm the first algorithm to answer is the one of the biz
tag, and makes ids that are shown as its format and prefix want them. -/
theorem settings_govern_iff (s : TagService) (acts : List TagAct) :
    EachStep step (fun s act _ => s.Governed act) s acts ↔
      EachStep step (fun s act _ => s.Served act) s acts :=
  eachStep_iff fun s act _ _ => governed_iff s act

/-- The default router, with Segment and Snowflake. -/
def bothUp : ApiHandlers where
  idGenerator := ((AlgorithmRouter.new .default).register .segment
      ⟨fun turn _ => .ok (Id.fromU128 (.ofNat 128 (turn + 1))),
        fun turn _ _ => .ok ⟨[Id.fromU128 (.ofNat 128 (turn + 1))], .segment, ""⟩⟩).register .snowflake
      ⟨fun turn _ => .ok (Id.fromU128 (.ofNat 128 (2 ^ 40 + turn))),
        fun turn _ _ => .ok ⟨[Id.fromU128 (.ofNat 128 (2 ^ 40 + turn))], .snowflake, ""⟩⟩
  metrics := .zero
  batchMaxSize := 100

/-- A workspace with a group. -/
def shop : Catalog :=
  let acme := (serve (.insertWorkspace ⟨"acme", none, none, none⟩) ⟨⟨none, ""⟩, 0, 7⟩ .empty).2
  (serve (.insertGroup ⟨7, "shop", none, none⟩) ⟨⟨none, ""⟩, 0, 8⟩ acme).2

/-- A new biz tag for Snowflake, its ids with a prefix. -/
def prefixedOrders : CreateBizTagRequest :=
  ⟨7, 8, "orders", none, some .snowflake, some .prefixed, some "ORD-", none, none, none⟩

/-- Its first id is made by Segment and has no prefix. -/
theorem settings_ignored :
    (bothUp.generate ApiHandlers.atNoon ⟨"acme", "shop", "orders", none⟩).1 =
      .ok ⟨"1", "segment", ApiHandlers.atNoon.timestamp⟩ ∧
    ¬ EachStep step (fun s act _ => s.Governed act) ⟨shop, bothUp⟩
      [.createBizTag (fun _ => ⟨none, ""⟩) 0 9 prefixedOrders,
        .generate ApiHandlers.atNoon ⟨"acme", "shop", "orders", none⟩] := by
  refine ⟨rfl, fun heach => ?_⟩
  obtain ⟨-, hrest⟩ := heach _ rfl
  obtain ⟨hgoverned, -⟩ := hrest _ rfl
  have hnames : (createBizTag (fun _ => ⟨none, ""⟩) 0 0 9 shop prefixedOrders).2.Names "acme" "shop"
      "orders" (prefixedOrders.row 9 0) :=
    ⟨List.mem_cons_self, rfl, ⟨_, List.mem_cons_self, rfl, rfl⟩, _, List.mem_cons_self, rfl, rfl⟩
  obtain ⟨hlast, -⟩ := hgoverned rfl _ hnames ⟨_, _, rfl, rfl⟩ _ rfl
  cases hlast

end TagService

end NebulaId
