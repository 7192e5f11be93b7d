import NebulaId.Server.Isolation

/-!
# The same request over gRPC and over HTTP (`server/grpc.rs`, `server/router.rs`)

Both ask the same handlers. Over gRPC the time of a response is read as a number, an error of the
handlers is `internal` for ids and `invalid_argument` for parsing, and nobody looks at the length of
a name; over HTTP the time is a text, the class of an error is that of its status code, and the
request is checked before.

* `grpcTimestamp_of_instant`: the time of a response over gRPC is zero.
* `generate_agrees_iff`, `batchGenerate_agrees_iff`, `parse_agrees_iff`: when both answer alike.
* `batch_accepted_iff`: of a caller that passes the checks, both accept the same sizes.
* `adapters_agree_iff`: all of them.
* `grpc_time_lost`: an id made at noon has no time over gRPC.
-/

namespace NebulaId

open Machine

/-! ## Answers that are alike -/

inductive ErrorClass where
  | client
  | internal
  deriving DecidableEq

def ErrorResponse.errorClass (e : ErrorResponse) : ErrorClass :=
  if e.code < 500 then .client else .internal

def GrpcStatus.errorClass : GrpcStatus → ErrorClass
  | .internal _ => .internal
  | .invalidArgument _ => .client

/-- Both succeed alike, or fail with errors of the same class. -/
def Alike {γ ρ : Type} (same : γ → ρ → Prop) : Except GrpcStatus γ → Except ErrorResponse ρ → Prop
  | .ok g, .ok r => same g r
  | .error e, .error r => e.errorClass = r.errorClass
  | _, _ => False

/-- What `chrono` writes: the instant that a text denotes, in the unit of the times over gRPC. A T
parts the date and the time. -/
structure Rfc3339 where
  instant : String → Option ℤ
  parted : ∀ text now, instant text = some now → 'T' ∈ text.toList

/-- A number and a text for the same instant. -/
def Rfc3339.Same (rfc : Rfc3339) (timestamp : Int64) (text : String) : Prop :=
  rfc.instant text = some timestamp.toInt

/-- The text of a time is no number. -/
theorem grpcTimestamp_of_instant {rfc : Rfc3339} {text : String} {now : ℤ}
    (hnow : rfc.instant text = some now) : grpcTimestamp text = 0 := by
  rw [grpcTimestamp, parseI64_of_letter (rfc.parted text now hnow) (by decide) (by decide) (by decide)]
  rfl

theorem same_grpcTimestamp_iff {rfc : Rfc3339} {text : String} {now : ℤ}
    (hnow : rfc.instant text = some now) : rfc.Same (grpcTimestamp text) text ↔ now = 0 := by
  rw [Rfc3339.Same, grpcTimestamp_of_instant hnow, hnow, Option.some.injEq]
  rfl

structure GrpcParseResponse where
  id : String
  timestamp : Int64
  sequence : Int32
  workerId : Int32
  algorithm : String
  metadata : List (String × String)

/-- The entries of the map that is made of the metadata. -/
def IdMetadataResponse.fields (m : IdMetadataResponse) : List (String × String) :=
  [("timestamp", toString m.timestamp), ("datacenter_id", toString m.datacenterId),
    ("worker_id", toString m.workerId), ("sequence", toString m.sequence),
    ("algorithm", m.algorithm), ("biz_tag", m.bizTag)]

theorem IdMetadataResponse.fields_injective {m m' : IdMetadataResponse} (h : m.fields = m'.fields) :
    m = m' := by
  obtain ⟨timestamp, datacenterId, workerId, sequence, algorithm, bizTag⟩ := m
  obtain ⟨timestamp', datacenterId', workerId', sequence', algorithm', bizTag'⟩ := m'
  simp only [fields, List.cons.injEq, Prod.mk.injEq, true_and, and_true] at h
  obtain ⟨htimestamp, hdatacenterId, hworkerId, hsequence, rfl, rfl⟩ := h
  rw [UInt64.toNat_inj.mp (toString_nat_injective htimestamp),
    UInt8.toNat_inj.mp (toString_nat_injective hdatacenterId),
    UInt16.toNat_inj.mp (toString_nat_injective hworkerId),
    UInt16.toNat_inj.mp (toString_nat_injective hsequence)]

/-- The same id, under the name of the same algorithm, at the same instant. -/
def SameId (rfc : Rfc3339) (g : GrpcGenerateResponse) (r : GenerateResponse) : Prop :=
  g.id = r.id ∧ g.algorithm = r.algorithm ∧ rfc.Same g.timestamp r.timestamp

def SameIds (rfc : Rfc3339) (g : List GrpcGenerateResponse) (r : BatchGenerateResponse) : Prop :=
  g.map GrpcGenerateResponse.id = r.ids ∧
    ∀ one ∈ g, one.algorithm = r.algorithm ∧ rfc.Same one.timestamp r.timestamp

def SameFields (rfc : Rfc3339) (g : GrpcParseResponse) (r : ParseResponse) : Prop :=
  g.id = r.originalId ∧ g.algorithm = r.algorithm ∧ g.metadata = r.metadata.fields ∧
    g.sequence.toInt = r.metadata.sequence.toNat ∧ g.workerId.toInt = r.metadata.workerId.toNat ∧
    rfc.Same g.timestamp r.timestamp

/-! ## The checks over HTTP -/

variable {b : Surroundings} {workspaceId : Option Uuid} {role : ApiKeyRole} {rfc : Rfc3339} {now : ℤ}

namespace Surroundings

def checks (b : Surroundings) (workspaceId : Option Uuid) (role : ApiKeyRole)
    (errors : List (String × String)) (workspace : String) : Except ErrorResponse Unit := do
  verifyUserRole b.t role
  validateRequest b.t errors
  b.verifyWorkspace workspace workspaceId

/-- A handler that checks the request first. -/
theorem checks_bind {α : Type} {errors : List (String × String)} {workspace : String}
    (x : Except ErrorResponse α) : (do
      verifyUserRole b.t role
      validateRequest b.t errors
      b.verifyWorkspace workspace workspaceId
      x) = match b.checks workspaceId role errors workspace with
        | .ok _ => x
        | .error r => .error r := by
  unfold checks
  cases verifyUserRole b.t role with
  | error r => rfl
  | ok _ =>
    cases validateRequest b.t errors with
    | error r => rfl
    | ok _ =>
      cases hworkspace : b.verifyWorkspace workspace workspaceId with
      | error r => simp [bind, Except.bind]
      | ok _ => simp [bind, Except.bind]

/-- A request that is not valid is refused, if not for the role of its key. -/
theorem checks_of_invalid {errors : List (String × String)} (h : errors ≠ []) (workspace : String) :
    ∃ r, b.checks workspaceId role errors workspace = .error r ∧ r.errorClass = .client := by
  have hvalidate : validateRequest b.t errors = .error (.validationError b.t errors) := if_neg h
  cases role with
  | admin => exact ⟨_, rfl, rfl⟩
  | anonymous => exact ⟨_, rfl, rfl⟩
  | user =>
    refine ⟨.validationError b.t errors, ?_, rfl⟩
    unfold checks
    rw [hvalidate]
    rfl

end Surroundings

theorem ErrorResponse.errorClass_eq_internal (r : ErrorResponse) :
    .internal = r.errorClass ↔ 500 ≤ r.code := by
  rw [ErrorResponse.errorClass]
  split
  · exact iff_of_false (by decide) (Nat.not_le.mpr ‹_›)
  · exact iff_of_true rfl (Nat.not_lt.mp ‹_›)

/-! ## One id -/

namespace GrpcGenerateRequest

def context (req : GrpcGenerateRequest) : GenerateContext := ⟨req.nameSpace, req.tag, req.tag⟩

def toRequest (req : GrpcGenerateRequest) : GenerateRequest := ⟨req.nameSpace, req.tag, req.tag, none⟩

end GrpcGenerateRequest

namespace Surroundings

/-- There is no id, and the error over HTTP is internal too; or there is one, and it is zero
o'clock. -/
def OneAgrees (b : Surroundings) (workspaceId : Option Uuid) (role : ApiKeyRole) (now : ℤ)
    (req : GrpcGenerateRequest) : Prop :=
  match (b.handlers.idGenerator.generate req.context).1,
    b.checks workspaceId role req.toRequest.validate req.nameSpace with
  | .ok _, .ok _ => now = 0
  | .ok _, .error _ => False
  | .error e, .ok _ => 500 ≤ e.statusCode
  | .error _, .error r => 500 ≤ r.code

/-- What the handlers answer to a request without an algorithm. -/
theorem generate_eq (b : Surroundings) (req : GrpcGenerateRequest) :
    (b.handlers.generate b.atEnd req.toRequest).1 =
      (b.handlers.idGenerator.generate req.context).1.map fun id => ⟨id.display,
        (b.atEnd.algorithm b.handlers.idGenerator req.tag).display, b.atEnd.timestamp⟩ := by
  have hparsed : parseAlgorithm req.toRequest.algorithm = .ok none := rfl
  exact (b.handlers.generate_parsed b.atEnd req.toRequest hparsed).1

theorem generate_agrees_iff (hnow : rfc.instant b.atEnd.timestamp = some now)
    (workspaceId : Option Uuid) (role : ApiKeyRole) (req : GrpcGenerateRequest) :
    Alike (SameId rfc) (b.grpcGenerate req) (b.handleGenerate workspaceId role req.toRequest) ↔
      b.OneAgrees workspaceId role now req := by
  have hanswer := b.generate_eq req
  have hgrpc : (b.handlers.generate b.atEnd ⟨req.nameSpace, req.tag, req.tag, none⟩).1 = _ := hanswer
  have hrest : b.handleGenerate workspaceId role req.toRequest = _ :=
    checks_bind ((b.handlers.generate b.atEnd req.toRequest).1.mapError (CoreError.toResponse b.t))
  unfold OneAgrees grpcGenerate
  rw [hrest, hanswer, hgrpc]
  have hpass : b.checks workspaceId role req.toRequest.validate req.toRequest.workspace =
      b.checks workspaceId role req.toRequest.validate req.nameSpace := rfl
  rw [hpass]
  cases (b.handlers.idGenerator.generate req.context).1 with
  | ok id =>
    cases b.checks workspaceId role req.toRequest.validate req.nameSpace with
    | ok _ => exact (and_iff_right rfl).trans ((and_iff_right rfl).trans (same_grpcTimestamp_iff hnow))
    | error r => exact Iff.rfl
  | error e =>
    cases b.checks workspaceId role req.toRequest.validate req.nameSpace with
    | ok _ => exact ErrorResponse.errorClass_eq_internal _
    | error r => exact ErrorResponse.errorClass_eq_internal r

end Surroundings

/-! ## A batch -/

/-- A negative count is a very large size. -/
theorem asUsize_cases (count : Int32) :
    (0 ≤ count.toInt ∧ (asUsize count : ℤ) = count.toInt) ∨
      (count.toInt < 0 ∧ 2 ^ 63 ≤ asUsize count) := by
  have hsame : (count.toBitVec.signExtend 64).toInt = count.toInt :=
    BitVec.toInt_signExtend_of_le (by decide)
  have hbound := (count.toBitVec.signExtend 64).isLt
  rw [BitVec.toInt_eq_toNat_cond] at hsame
  unfold asUsize
  split at hsame <;> omega

theorem count_eq_zero_iff (count : Int32) : count = 0 ↔ count.toInt = 0 := Int32.toInt_inj.symm

theorem count_lt_zero_iff (count : Int32) : count < 0 ↔ count.toInt < 0 := Int32.lt_iff_toInt_lt

theorem hundred_lt_count_iff (count : Int32) : 100 < count ↔ 100 < count.toInt :=
  Int32.lt_iff_toInt_lt

theorem rangeError_eq_nil {field : String} {least most n : ℤ} :
    rangeError field least most n = [] ↔ least ≤ n ∧ n ≤ most := by
  unfold rangeError
  by_cases h : least ≤ n ∧ n ≤ most
  · rw [if_pos h]
    exact iff_of_true rfl h
  · rw [if_neg h]
    exact iff_of_false (List.cons_ne_nil _ _) h

/-- The checks of a batch are those of one id and that of the size. -/
theorem GrpcBatchGenerateRequest.validate_eq_nil (req : GrpcBatchGenerateRequest) :
    req.toRequest.validate = [] ↔
      (GrpcGenerateRequest.toRequest ⟨req.nameSpace, req.tag⟩).validate = [] ∧
        1 ≤ asUsize req.count ∧ asUsize req.count ≤ 100 := by
  have hbatch : req.toRequest.validate =
      (lengthError "workspace" 1 64 req.nameSpace ++ lengthError "group" 1 64 req.tag ++
        lengthError "biz_tag" 1 64 req.tag) ++ rangeError "size" 1 100 (asUsize req.count) :=
    List.append_nil _
  have hone : (GrpcGenerateRequest.toRequest ⟨req.nameSpace, req.tag⟩).validate =
      lengthError "workspace" 1 64 req.nameSpace ++ lengthError "group" 1 64 req.tag ++
        lengthError "biz_tag" 1 64 req.tag := List.append_nil _
  rw [hbatch, hone, List.append_eq_nil_iff, rangeError_eq_nil, Nat.one_le_cast, Nat.cast_le_ofNat]

namespace Surroundings

/-- No size from 1 to 100 is asked for, and not a negative one; or the checks and the handlers have
the same to say. -/
def BatchAgrees (b : Surroundings) (workspaceId : Option Uuid) (role : ApiKeyRole) (now : ℤ)
    (req : GrpcBatchGenerateRequest) : Prop :=
  if req.count = 0 ∨ 100 < req.count then True
  else if req.count < 0 then False
  else
    let size := asUsize req.count
    match b.checks workspaceId role req.toRequest.validate req.nameSpace with
    | .ok _ => size ≤ b.handlers.batchMaxSize.toNat ∧
      match (b.handlers.idGenerator.batchGenerate req.context size).1 with
      | .ok batch => batch.ids = [] ∨ now = 0
      | .error e => 500 ≤ e.statusCode
    | .error r => 500 ≤ r.code ∧ (size ≤ b.handlers.batchMaxSize.toNat →
      ∃ e, (b.handlers.idGenerator.batchGenerate req.context size).1 = .error e)

variable {req : GrpcBatchGenerateRequest}

theorem batchGenerate_eq (hzero : asUsize req.count ≠ 0)
    (hmax : asUsize req.count ≤ b.handlers.batchMaxSize.toNat) :
    (b.handlers.batchGenerate b.t b.atEnd req.toRequest).1 =
      (b.handlers.idGenerator.batchGenerate req.context (asUsize req.count)).1.map fun batch =>
        ⟨batch.ids.map Id.display, batch.ids.length,
          (b.atEnd.algorithm b.handlers.idGenerator req.tag).display, b.atEnd.timestamp⟩ := by
  have hparsed : parseAlgorithm req.toRequest.algorithm = .ok none := rfl
  exact (b.handlers.batchGenerate_parsed b.t b.atEnd req.toRequest hzero hmax hparsed).1

/-- A size that is not allowed is the fault of the client. -/
theorem batchGenerate_of_size
    (hsize : asUsize req.count = 0 ∨ b.handlers.batchMaxSize.toNat < asUsize req.count) :
    ∃ text, (b.handlers.batchGenerate b.t b.atEnd req.toRequest).1 = .error (.invalidInput text) := by
  have hdefault : req.toRequest.size.getD 10 = asUsize req.count := rfl
  unfold ApiHandlers.batchGenerate
  rw [hdefault]
  by_cases hzero : asUsize req.count = 0
  · exact ⟨_, by rw [if_pos hzero]⟩
  · exact ⟨_, by rw [if_neg hzero, if_pos (hsize.resolve_left hzero)]⟩

theorem handleBatchGenerate_eq (workspaceId : Option Uuid) (role : ApiKeyRole) :
    b.handleBatchGenerate workspaceId role req.toRequest =
      match b.checks workspaceId role req.toRequest.validate req.nameSpace with
      | .ok _ => (b.handlers.batchGenerate b.t b.atEnd req.toRequest).1.mapError
          (CoreError.toResponse b.t)
      | .error r => .error r := checks_bind _

/-- Over HTTP no other size is accepted. -/
theorem handleBatchGenerate_of_size (workspaceId : Option Uuid) (role : ApiKeyRole)
    (hsize : ¬ (1 ≤ asUsize req.count ∧ asUsize req.count ≤ 100)) :
    ∃ r, b.handleBatchGenerate workspaceId role req.toRequest = .error r ∧
      r.errorClass = .client := by
  have hinvalid : req.toRequest.validate ≠ [] := fun h =>
    hsize (req.validate_eq_nil.mp h).2
  obtain ⟨r, hpass, hclient⟩ : ∃ r, b.checks workspaceId role req.toRequest.validate req.nameSpace =
      .error r ∧ r.errorClass = .client := checks_of_invalid hinvalid req.nameSpace
  exact ⟨r, by rw [handleBatchGenerate_eq, hpass], hclient⟩

/-- The answer over gRPC to a size that is not refused at once. -/
theorem grpcBatchGenerate_eq (hzero : req.count ≠ 0) (hmost : ¬ 100 < req.count) :
    b.grpcBatchGenerate req = match (b.handlers.batchGenerate b.t b.atEnd req.toRequest).1 with
      | .ok resp => .ok (resp.ids.map fun id =>
          ⟨id, grpcTimestamp resp.timestamp, 0, 0, resp.algorithm⟩)
      | .error e => .error (.internal (e.display b.t)) := by
  unfold grpcBatchGenerate
  exact (if_neg hzero).trans (if_neg hmost)

/-- What the handlers refuse is internal over gRPC. -/
theorem grpcBatchGenerate_of_size (hzero : req.count ≠ 0) (hmost : ¬ 100 < req.count)
    (hsize : b.handlers.batchMaxSize.toNat < asUsize req.count) :
    ∃ text, b.grpcBatchGenerate req = .error (.internal text) := by
  obtain ⟨text, hrefused⟩ := batchGenerate_of_size (Or.inr hsize)
  exact ⟨_, by rw [grpcBatchGenerate_eq hzero hmost, hrefused]⟩

/-- Zero and more than a hundred are the fault of the client on both sides. -/
theorem batchGenerate_alike_of_refused (workspaceId : Option Uuid) (role : ApiKeyRole)
    (hrefused : req.count = 0 ∨ 100 < req.count) :
    Alike (SameIds rfc) (b.grpcBatchGenerate req)
      (b.handleBatchGenerate workspaceId role req.toRequest) := by
  have hsize : ¬ (1 ≤ asUsize req.count ∧ asUsize req.count ≤ 100) := by
    have hcases := asUsize_cases req.count
    rw [count_eq_zero_iff, hundred_lt_count_iff] at hrefused
    omega
  obtain ⟨r, hrest, hclient⟩ := handleBatchGenerate_of_size (b := b) workspaceId role hsize
  rw [hrest]
  unfold grpcBatchGenerate
  by_cases hzero : req.count = 0
  · rw [if_pos hzero]
    exact hclient.symm
  · rw [if_neg hzero, if_pos (hrefused.resolve_left hzero)]
    exact hclient.symm

/-- A negative count is an internal error over gRPC, and the fault of the client over HTTP. -/
theorem batchGenerate_not_alike_of_neg (workspaceId : Option Uuid) (role : ApiKeyRole)
    (hneg : req.count < 0) :
    ¬ Alike (SameIds rfc) (b.grpcBatchGenerate req)
      (b.handleBatchGenerate workspaceId role req.toRequest) := by
  have hmax : b.handlers.batchMaxSize.toNat < 2 ^ 32 := b.handlers.batchMaxSize.toNat_lt
  have hcases := asUsize_cases req.count
  rw [count_lt_zero_iff] at hneg
  have hzero : req.count ≠ 0 := by
    rw [ne_eq, count_eq_zero_iff]
    omega
  have hmost : ¬ 100 < req.count := by
    rw [hundred_lt_count_iff]
    omega
  obtain ⟨text, hgrpc⟩ := grpcBatchGenerate_of_size (b := b) hzero hmost (by omega)
  have hsize : ¬ (1 ≤ asUsize req.count ∧ asUsize req.count ≤ 100) := by omega
  obtain ⟨r, hrest, hclient⟩ := handleBatchGenerate_of_size (b := b) workspaceId role hsize
  rw [hgrpc, hrest]
  intro halike
  have hinternal : ErrorClass.internal = r.errorClass := halike
  rw [hclient] at hinternal
  cases hinternal

/-- The ids of a batch are the same; their times are if there are none, or at zero o'clock. -/
theorem sameIds_iff {text algorithm : String} (hnow : rfc.instant text = some now)
    (ids : List String) (size : ℕ) :
    SameIds rfc (ids.map fun id => ⟨id, grpcTimestamp text, 0, 0, algorithm⟩)
      ⟨ids, size, algorithm, text⟩ ↔ ids = [] ∨ now = 0 := by
  have hids : (ids.map fun id => (⟨id, grpcTimestamp text, 0, 0, algorithm⟩ :
      GrpcGenerateResponse)).map GrpcGenerateResponse.id = ids := by
    rw [List.map_map]
    exact List.map_id ids
  rw [SameIds, and_iff_right hids, List.forall_mem_map]
  constructor
  · intro h
    cases ids with
    | nil => exact Or.inl rfl
    | cons id ids =>
      exact Or.inr ((same_grpcTimestamp_iff hnow).mp (h id List.mem_cons_self).2)
  · intro h id hid
    have hzero := h.resolve_left (List.ne_nil_of_mem hid)
    exact ⟨rfl, (same_grpcTimestamp_iff hnow).mpr hzero⟩

theorem batchGenerate_agrees_iff (hnow : rfc.instant b.atEnd.timestamp = some now)
    (workspaceId : Option Uuid) (role : ApiKeyRole) (req : GrpcBatchGenerateRequest) :
    Alike (SameIds rfc) (b.grpcBatchGenerate req)
        (b.handleBatchGenerate workspaceId role req.toRequest) ↔
      b.BatchAgrees workspaceId role now req := by
  unfold BatchAgrees
  by_cases hrefused : req.count = 0 ∨ 100 < req.count
  · rw [if_pos hrefused]
    exact iff_of_true (batchGenerate_alike_of_refused workspaceId role hrefused) trivial
  rw [if_neg hrefused]
  obtain ⟨hzero, hmost⟩ := not_or.mp hrefused
  by_cases hneg : req.count < 0
  · rw [if_pos hneg]
    exact iff_of_false (batchGenerate_not_alike_of_neg workspaceId role hneg) not_false
  rw [if_neg hneg, handleBatchGenerate_eq]
  have hsize : asUsize req.count ≠ 0 := by
    have hcases := asUsize_cases req.count
    rw [count_eq_zero_iff] at hzero
    rw [count_lt_zero_iff] at hneg
    omega
  by_cases hmax : asUsize req.count ≤ b.handlers.batchMaxSize.toNat
  · rw [grpcBatchGenerate_eq hzero hmost, batchGenerate_eq hsize hmax]
    dsimp only
    cases (b.handlers.idGenerator.batchGenerate req.context (asUsize req.count)).1 with
    | ok batch =>
      cases b.checks workspaceId role req.toRequest.validate req.nameSpace with
      | ok _ =>
        refine (sameIds_iff hnow _ _).trans ?_
        rw [and_iff_right hmax, List.map_eq_nil_iff]
      | error r =>
        refine iff_of_false id fun h => ?_
        obtain ⟨e, he⟩ := h.2 hmax
        cases he
    | error e =>
      cases b.checks workspaceId role req.toRequest.validate req.nameSpace with
      | ok _ => exact (ErrorResponse.errorClass_eq_internal _).trans (and_iff_right hmax).symm
      | error r =>
        exact (ErrorResponse.errorClass_eq_internal r).trans
          (and_iff_left fun _ => ⟨e, rfl⟩).symm
  · obtain ⟨text, hgrpc⟩ := grpcBatchGenerate_of_size (b := b) hzero hmost (Nat.not_le.mp hmax)
    obtain ⟨text', hrefused⟩ := batchGenerate_of_size (b := b) (Or.inr (Nat.not_le.mp hmax))
    rw [hgrpc, hrefused]
    dsimp only
    cases b.checks workspaceId role req.toRequest.validate req.nameSpace with
    | ok _ => exact iff_of_false (fun h => ErrorClass.noConfusion h) fun h => hmax h.1
    | error r =>
      exact (ErrorResponse.errorClass_eq_internal r).trans
        (and_iff_left fun h => absurd h hmax).symm

/-! ## The sizes that are accepted -/

theorem checks_eq_ok {errors : List (String × String)} {workspace : String} :
    b.checks workspaceId role errors workspace = .ok () ↔
      role = .user ∧ errors = [] ∧ b.verifyWorkspace workspace workspaceId = .ok () := by
  unfold checks
  constructor
  · intro h
    obtain ⟨⟨⟩, hrole, h⟩ := except_bind_eq_ok.mp h
    obtain ⟨⟨⟩, hvalid, hverify⟩ := except_bind_eq_ok.mp h
    exact ⟨verifyUserRole_eq_ok.mp hrole, validateRequest_eq_ok.mp hvalid, hverify⟩
  · rintro ⟨rfl, rfl, hverify⟩
    exact hverify

/-- A caller that may ask for an id gets a batch of the same sizes. -/
theorem batch_accepted_iff
    (hpass : b.checks workspaceId role
      (GrpcGenerateRequest.toRequest ⟨req.nameSpace, req.tag⟩).validate req.nameSpace = .ok ()) :
    (∃ ids, b.grpcBatchGenerate req = .ok ids) ↔
      ∃ resp, b.handleBatchGenerate workspaceId role req.toRequest = .ok resp := by
  obtain ⟨hrole, hnames, hverify⟩ := checks_eq_ok.mp hpass
  have hmax : b.handlers.batchMaxSize.toNat < 2 ^ 32 := b.handlers.batchMaxSize.toNat_lt
  have hcases := asUsize_cases req.count
  rw [grpcBatchGenerate_ok_iff, handleBatchGenerate_eq]
  constructor
  · rintro ⟨hzero, hmost, hbatch⟩
    obtain ⟨hsize, hallowed, -⟩ := id hbatch
    rw [Int32.le_iff_toInt_le] at hmost
    have hsmall : asUsize req.count ≤ 100 := by
      have hhundred : (100 : Int32).toInt = 100 := by decide
      omega
    have hvalid := req.validate_eq_nil.mpr ⟨hnames, by omega, hsmall⟩
    obtain ⟨resp, hresp⟩ := (batchGenerate_ok_iff b.t b.handlers b.atEnd req).mpr hbatch
    refine ⟨resp, ?_⟩
    rw [checks_eq_ok.mpr ⟨hrole, hvalid, hverify⟩, hresp]
    rfl
  · rintro ⟨resp, hresp⟩
    cases hchecked : b.checks workspaceId role req.toRequest.validate req.nameSpace with
    | error r =>
      rw [hchecked] at hresp
      cases hresp
    | ok _ =>
      rw [hchecked] at hresp
      obtain ⟨-, hvalid, -⟩ := checks_eq_ok.mp hchecked
      have hsize := (req.validate_eq_nil.mp hvalid).2
      have hbatch : HasBatch b.handlers req := by
        rw [← batchGenerate_ok_iff b.t b.handlers b.atEnd]
        exact ⟨resp, except_mapError_eq_ok.mp hresp⟩
      refine ⟨?_, ?_, hbatch⟩
      · rw [ne_eq, count_eq_zero_iff]
        omega
      · rw [Int32.le_iff_toInt_le]
        have hhundred : (100 : Int32).toInt = 100 := by decide
        omega

end Surroundings

/-! ## What an id tells -/

namespace ApiHandlers

/-- The algorithm that the answer to a request names. -/
def algorithmNamed (h : ApiHandlers) (req : ParseRequest) : String :=
  if req.algorithm.isEmpty then
    match h.idGenerator.getAlgorithmName req.workspace req.group req.bizTag with
    | .ok name => name
    | .error _ => "unknown"
  else req.algorithm

end ApiHandlers

/-- What an id tells under the name of an algorithm. -/
def metadataOf (uuids : UuidCrate) (id : Id) (bizTag : String) : String → IdMetadataResponse
  | "snowflake" => extractSnowflakeMetadata id
  | "uuid_v7" => extractUuidV7Metadata uuids id
  | "segment" => extractSegmentMetadata id bizTag
  | _ => plainMetadata 0 "unknown" bizTag

theorem ApiHandlers.parse_eq (uuids : UuidCrate) (t : Texts) (h : ApiHandlers) (timestamp : String)
    {req : ParseRequest} {id : Id} (hid : Id.fromString uuids req.id = .ok id) :
    h.parse uuids t timestamp req = .ok ⟨req.id, toString id.asU128.toNat, h.algorithmNamed req,
      metadataOf uuids id req.bizTag (h.algorithmNamed req), timestamp⟩ := by
  unfold ApiHandlers.parse
  rw [hid]
  rfl

/-- Only Snowflake and UUID v7 forget the tag. -/
theorem metadataOf_eq_iff (uuids : UuidCrate) (id : Id) {bizTag bizTag' : String}
    (hne : bizTag ≠ bizTag') (name : String) :
    metadataOf uuids id bizTag name = metadataOf uuids id bizTag' name ↔
      name = "snowflake" ∨ name = "uuid_v7" := by
  unfold metadataOf
  split
  · exact iff_of_true rfl (Or.inl rfl)
  · exact iff_of_true rfl (Or.inr rfl)
  · exact iff_of_false (fun h => hne (congrArg IdMetadataResponse.bizTag h)) (by decide)
  · rename_i hsnowflake huuid hsegment
    refine iff_of_false (fun h => hne (congrArg IdMetadataResponse.bizTag h)) ?_
    rintro (rfl | rfl)
    · exact hsnowflake rfl
    · exact huuid rfl

namespace TenantService

/-- The names and the algorithm of the request are empty. -/
def grpcParseRequest (id : String) : ParseRequest := ⟨id, "", "", "", ""⟩

def grpcParse (s : TenantService) (id : String) : Except GrpcStatus GrpcParseResponse :=
  match s.outside.handlers.parse s.uuids s.outside.t s.outside.atEnd.timestamp
    (grpcParseRequest id) with
  | .ok resp => .ok ⟨resp.originalId, grpcTimestamp resp.timestamp,
      .ofNat resp.metadata.sequence.toNat, .ofNat resp.metadata.workerId.toNat, resp.algorithm,
      resp.metadata.fields⟩
  | .error e => .error (.invalidArgument (e.display s.outside.t))

/-- The id is none; or the request is valid over HTTP, names the algorithm of the empty tag, which
forgets the tags, and it is zero o'clock. -/
def ParseAgrees (s : TenantService) (now : ℤ) (req : ParseRequest) : Prop :=
  match Id.fromString s.uuids req.id with
  | .error _ => True
  | .ok _ => req.validate = [] ∧ now = 0 ∧
    s.outside.handlers.algorithmNamed (grpcParseRequest req.id) =
      s.outside.handlers.algorithmNamed req ∧
    (s.outside.handlers.algorithmNamed req = "snowflake" ∨
      s.outside.handlers.algorithmNamed req = "uuid_v7")

variable {s : TenantService}

theorem toInt_ofNat_toNat (n : UInt16) : (Int32.ofNat n.toNat).toInt = n.toNat := by
  have hbound := n.toNat_lt
  rw [Int32.toInt_ofNat_of_lt (by omega)]

/-- A valid request has a tag. -/
theorem bizTag_ne_of_validate {req : ParseRequest} (h : req.validate = []) : "" ≠ req.bizTag := by
  simp only [ParseRequest.validate, List.append_eq_nil_iff] at h
  intro htag
  have hlength : lengthError "biz_tag" 1 64 req.bizTag = [] := h.1.2
  rw [← htag] at hlength
  cases hlength

/-- The same is told of an id, under the same name, if the tag does not matter. -/
theorem sameFields_iff (hnow : rfc.instant s.outside.atEnd.timestamp = some now) {req : ParseRequest}
    (htag : "" ≠ req.bizTag) (id : Id) (name name' : String) (value : String) :
    SameFields rfc
        (let metadata := metadataOf s.uuids id "" name
        ⟨req.id, grpcTimestamp s.outside.atEnd.timestamp, .ofNat metadata.sequence.toNat,
          .ofNat metadata.workerId.toNat, name, metadata.fields⟩)
        ⟨req.id, value, name', metadataOf s.uuids id req.bizTag name', s.outside.atEnd.timestamp⟩ ↔
      now = 0 ∧ name = name' ∧ (name' = "snowflake" ∨ name' = "uuid_v7") := by
  constructor
  · rintro ⟨-, rfl, hmetadata, -, -, htime⟩
    have hsame := IdMetadataResponse.fields_injective hmetadata
    exact ⟨(same_grpcTimestamp_iff hnow).mp htime, rfl,
      (metadataOf_eq_iff s.uuids id htag name).mp hsame⟩
  · rintro ⟨hzero, rfl, hname⟩
    have hsame := (metadataOf_eq_iff s.uuids id htag name).mpr hname
    rw [← hsame]
    exact ⟨rfl, rfl, rfl, toInt_ofNat_toNat _, toInt_ofNat_toNat _,
      (same_grpcTimestamp_iff hnow).mpr hzero⟩

theorem parse_agrees_iff (hnow : rfc.instant s.outside.atEnd.timestamp = some now)
    (req : ParseRequest) :
    Alike (SameFields rfc) (s.grpcParse req.id) (s.handleParse req) ↔ s.ParseAgrees now req := by
  unfold ParseAgrees
  cases hid : Id.fromString s.uuids req.id with
  | error e =>
    -- A text that is no id is the fault of the client on both sides.
    have hgrpc : Id.fromString s.uuids (grpcParseRequest req.id).id = .error e := hid
    unfold grpcParse handleParse ApiHandlers.parse validateRequest
    rw [hgrpc, hid]
    by_cases hvalid : req.validate = []
    · rw [if_pos hvalid]
      exact iff_of_true rfl trivial
    · rw [if_neg hvalid]
      exact iff_of_true rfl trivial
  | ok id =>
    have hgrpc : Id.fromString s.uuids (grpcParseRequest req.id).id = .ok id := hid
    unfold grpcParse handleParse respond validateRequest
    rw [ApiHandlers.parse_eq _ _ _ _ hgrpc, ApiHandlers.parse_eq _ _ _ _ hid]
    by_cases hvalid : req.validate = []
    · rw [if_pos hvalid, and_iff_right hvalid]
      exact sameFields_iff hnow (bizTag_ne_of_validate hvalid) id _ _ _
    · rw [if_neg hvalid]
      exact iff_of_false (fun h => h) fun h => hvalid h.1

/-! ## All of them -/

/-- A request that can be made over gRPC and over HTTP. Over gRPC only the id is parsed. -/
inductive AdapterCall where
  | generate (req : GrpcGenerateRequest)
  | batchGenerate (req : GrpcBatchGenerateRequest)
  | parse (req : ParseRequest)

def Agree (s : TenantService) (rfc : Rfc3339) (workspaceId : Option Uuid) (role : ApiKeyRole) :
    AdapterCall → Prop
  | .generate req => Alike (SameId rfc) (s.outside.grpcGenerate req)
      (s.outside.handleGenerate workspaceId role req.toRequest)
  | .batchGenerate req => Alike (SameIds rfc) (s.outside.grpcBatchGenerate req)
      (s.outside.handleBatchGenerate workspaceId role req.toRequest)
  | .parse req => Alike (SameFields rfc) (s.grpcParse req.id) (s.handleParse req)

def AgreesWhen (s : TenantService) (workspaceId : Option Uuid) (role : ApiKeyRole) (now : ℤ) :
    AdapterCall → Prop
  | .generate req => s.outside.OneAgrees workspaceId role now req
  | .batchGenerate req => s.outside.BatchAgrees workspaceId role now req
  | .parse req => s.ParseAgrees now req

/-- **gRPC and HTTP agree** at zero o'clock, or where both fail alike. The same sizes are accepted of
a caller that may ask for an id. -/
theorem adapters_agree_iff (s : TenantService) (workspaceId : Option Uuid) (role : ApiKeyRole)
    (hnow : rfc.instant s.outside.atEnd.timestamp = some now) :
    (∀ call, s.Agree rfc workspaceId role call ↔ s.AgreesWhen workspaceId role now call) ∧
      ∀ req : GrpcBatchGenerateRequest, s.outside.checks workspaceId role
          (GrpcGenerateRequest.toRequest ⟨req.nameSpace, req.tag⟩).validate req.nameSpace = .ok () →
        ((∃ ids, s.outside.grpcBatchGenerate req = .ok ids) ↔
          ∃ resp, s.outside.handleBatchGenerate workspaceId role req.toRequest = .ok resp) := by
  refine ⟨fun call => ?_, fun req hpass => Surroundings.batch_accepted_iff hpass⟩
  cases call with
  | generate req => exact Surroundings.generate_agrees_iff hnow workspaceId role req
  | batchGenerate req => exact Surroundings.batchGenerate_agrees_iff hnow workspaceId role req
  | parse req => exact parse_agrees_iff hnow req

/-- The first noon of 2026. -/
def atNoonRfc : Rfc3339 where
  instant := fun text =>
    if text = ApiHandlers.atNoon.timestamp then some 1767268800 else none
  parted := fun text now h => by
    obtain ⟨htext, -⟩ := Option.ite_none_right_eq_some.mp h
    rw [htext]
    decide

/-- A service with the workspaces `acme` and `globex`. -/
def twoWorkspaces : TenantService :=
  { calm noUuids 4 with outside := (calm noUuids 4).seeing withoutGroup }

theorem instant_noon :
    atNoonRfc.instant twoWorkspaces.outside.atEnd.timestamp = some 1767268800 := rfl

/-- Both refuse a batch of no ids; and both accept one of a single id, or none does. -/
theorem empty_batch_agrees :
    twoWorkspaces.Agree atNoonRfc (some 1) .user (.batchGenerate ⟨"acme", "orders", 0⟩) ∧
      ((∃ ids, twoWorkspaces.outside.grpcBatchGenerate ⟨"acme", "orders", 1⟩ = .ok ids) ↔
        ∃ resp, twoWorkspaces.outside.handleBatchGenerate (some 1) .user
          (GrpcBatchGenerateRequest.toRequest ⟨"acme", "orders", 1⟩) = .ok resp) := by
  obtain ⟨hagree, hsizes⟩ := adapters_agree_iff twoWorkspaces (some 1) .user instant_noon
  refine ⟨(hagree _).mpr ?_, hsizes ⟨"acme", "orders", 1⟩ rfl⟩
  unfold AgreesWhen Surroundings.BatchAgrees
  dsimp only
  rw [if_pos (Or.inl rfl)]
  trivial

/-- An id that is made at noon: over HTTP it is noon, over gRPC it is zero o'clock. -/
theorem grpc_time_lost :
    twoWorkspaces.outside.grpcGenerate ⟨"acme", "orders"⟩ = .ok ⟨"1", 0, 0, 0, "segment"⟩ ∧
    twoWorkspaces.outside.handleGenerate (some 1) .user
      (GrpcGenerateRequest.toRequest ⟨"acme", "orders"⟩) =
        .ok ⟨"1", "segment", "2026-01-01T12:00:00+00:00"⟩ ∧
    ¬ twoWorkspaces.Agree atNoonRfc (some 1) .user (.generate ⟨"acme", "orders"⟩) := by
  refine ⟨rfl, rfl, fun hagree => ?_⟩
  have htime : atNoonRfc.instant "2026-01-01T12:00:00+00:00" = some 0 := hagree.2.2
  cases htime

end TenantService

end NebulaId
