import NebulaId.Algorithm.Implementations
import NebulaId.Server.IdHandlers
import NebulaId.Server.TagSettings
import NebulaId.Types.Numbers

/-!
# The size of a batch (`router.rs`, `id_handlers.rs`)

The router passes the batch of the first algorithm that succeeds on, and the handler answers with
the texts of its ids. So a batch is complete for a client exactly when the call that made it met
what it needs.

* `Id.display_inj`: different ids have different texts.
* `batches_complete_iff`: when a batch is complete, for the implementations, the router and the
  handler.
* `batch_cut_short`: a Snowflake batch that is not.
-/

namespace NebulaId

open Machine

namespace Id

/-! ## The texts of the ids -/

theorem digitChar_inj {m n : ℕ} (hm : m < 16) (hn : n < 16)
    (h : Nat.digitChar m = Nat.digitChar n) : m = n := by
  have hall : ∀ i < 16, ∀ j < 16, Nat.digitChar i = Nat.digitChar j → i = j := by decide
  exact hall m hm n hn h

theorem hexDigits_inj {k m n : ℕ} (hm : m < 16 ^ k) (hn : n < 16 ^ k)
    (h : hexDigits k m = hexDigits k n) : m = n := by
  induction k generalizing m n with
  | zero => omega
  | succ k ih =>
    obtain ⟨hhigh, hlow⟩ := List.append_inj h (by rw [length_hexDigits, length_hexDigits])
    rw [Nat.pow_succ] at hm hn
    have hquotient := ih (by omega) (by omega) hhigh
    have hdigit := digitChar_inj (Nat.mod_lt m (by decide)) (Nat.mod_lt n (by decide))
      (List.cons.inj hlow).1
    omega

/-- The five groups of the digits of a UUID. -/
theorem groups_of_digits (x : List Char) : x = x.take 8 ++ ((x.drop 8).take 4 ++
    ((x.drop 12).take 4 ++ ((x.drop 16).take 4 ++ x.drop 20))) := by
  have hgroup : ∀ n, (x.drop n).take 4 ++ x.drop (n + 4) = x.drop n := by
    intro n
    rw [← List.drop_drop, List.take_append_drop]
  rw [hgroup 16, hgroup 12, hgroup 8, List.take_append_drop]

theorem uuidText_inj {v w : BitVec 128} (h : uuidText v = uuidText w) : v = w := by
  have hv := length_hexDigits 32 v.toNat
  have hw := length_hexDigits 32 w.toNat
  have hdigits : hexDigits 32 v.toNat = hexDigits 32 w.toNat := by
    have htext := String.ofList_injective h
    generalize hexDigits 32 v.toNat = x at *
    generalize hexDigits 32 w.toNat = y at *
    obtain ⟨htext, hfifth⟩ := List.append_inj' htext (by simp [hv, hw])
    obtain ⟨htext, hfourth⟩ := List.append_inj' htext (by simp [hv, hw])
    obtain ⟨htext, hthird⟩ := List.append_inj' htext (by simp [hv, hw])
    obtain ⟨hfirst, hsecond⟩ := List.append_inj' htext (by simp [hv, hw])
    rw [groups_of_digits x, groups_of_digits y, hfirst, (List.cons.inj hsecond).2,
      (List.cons.inj hthird).2, (List.cons.inj hfourth).2, (List.cons.inj hfifth).2]
  exact BitVec.eq_of_toNat_eq (hexDigits_inj v.isLt w.isLt hdigits)

/-- Different ids have different texts. -/
theorem display_inj {i j : Id} (h : i.display = j.display) : i = j := by
  by_cases hi : i.Versioned
  · by_cases hj : j.Versioned
    · rw [display_of_versioned hi, display_of_versioned hj] at h
      exact congrArg Id.mk (uuidText_inj h)
    · rw [display_of_versioned hi, display_of_not_versioned hj] at h
      exact absurd h (uuidText_ne_toString _ _)
  · by_cases hj : j.Versioned
    · rw [display_of_not_versioned hi, display_of_versioned hj] at h
      exact absurd h.symm (uuidText_ne_toString _ _)
    · rw [display_of_not_versioned hi, display_of_not_versioned hj] at h
      exact congrArg Id.mk (BitVec.eq_of_toNat_eq (toString_nat_injective h))

end Id

/-! ## The router -/

/-- The table holds the implementations: `call turn` is the call that is made after so many
others. -/
structure Backed (r : AlgorithmRouter) (ctx : GenerateContext) (size : ℕ)
    (call : ℕ → AlgorithmType → AlgorithmCall) : Prop where
  kind : ∀ turn algType, (call turn algType).algorithm = algType
  noRepeats : ∀ turn algType, (call turn algType).NoRepeats
  returns : ∀ algType alg, r.algorithms algType = some alg → ∀ turn,
    (call turn algType).BatchGenerates ctx size (alg.batchGenerate turn ctx size)

/-- The first call that succeeds meets what it needs. -/
def FirstSuffices (r : AlgorithmRouter) (ctx : GenerateContext) (size : ℕ)
    (algorithm : AlgorithmType) (call : ℕ → AlgorithmType → AlgorithmCall) : Prop :=
  ∀ failed algType batch later,
    r.candidates (AlgorithmRouter.askBatch ctx size) algorithm =
        failed ++ (algType, .ok batch) :: later →
      AllFail failed → (call (r.calls.length + failed.length) algType).Suffices size

variable {r : AlgorithmRouter} {ctx : GenerateContext} {size : ℕ} {algorithm : AlgorithmType}
  {call : ℕ → AlgorithmType → AlgorithmCall}

/-- The batch that a call returns in its turn. -/
theorem Backed.complete_iff (h : Backed r ctx size call) (hsize : 0 < size)
    {failed later : List (AlgorithmType × Result IdBatch)} {algType : AlgorithmType}
    {x : Result IdBatch}
    (hsplit : r.candidates (AlgorithmRouter.askBatch ctx size) algorithm =
      failed ++ (algType, x) :: later) :
    Complete size x ↔ (call (r.calls.length + failed.length) algType).Suffices size := by
  obtain ⟨alg, halg, hx⟩ := AlgorithmRouter.outcomes_split hsplit
  subst hx
  exact AlgorithmCall.complete_iff (h.noRepeats _ _) hsize (h.returns algType alg halg _)

/-- **The router.** -/
theorem routed_complete_iff (h : Backed r ctx size call) (hsize : 0 < size) :
    Complete size (r.batchGenerateWithAlgorithmInternal algorithm ctx size).1 ↔
      FirstSuffices r ctx size algorithm call := by
  constructor
  · intro hcomplete failed algType batch later hsplit hfail
    refine (h.complete_iff hsize hsplit).mp ?_
    have hout := (AlgorithmRouter.served (AlgorithmRouter.askBatch ctx size) r algorithm).first
      failed algType batch later hsplit hfail
    have hok : (r.batchGenerateWithAlgorithmInternal algorithm ctx size).1 = .ok batch :=
      congrArg Prod.fst hout
    rw [← hok]
    exact hcomplete
  · intro hsuffices batch hok
    obtain ⟨algType, hfirst, -⟩ := AlgorithmRouter.withAlgorithm_ok hok
    obtain ⟨failed, later, hsplit, hfail⟩ := firstOk_eq_some_iff.mp hfirst
    have hcall := hsuffices failed algType batch later hsplit hfail
    exact (h.complete_iff hsize hsplit).mpr hcall batch rfl

/-! ## The handler -/

/-- A response with so many texts, no two alike, if there is a response. -/
def CompleteResponse (size : ℕ) (r : Result BatchGenerateResponse) : Prop :=
  ∀ res, r = .ok res → res.size = size ∧ res.ids.length = size ∧ res.ids.Nodup

def BatchGenerateRequest.context (req : BatchGenerateRequest) : GenerateContext :=
  ⟨req.workspace, req.group, req.bizTag⟩

def BatchGenerateRequest.count (req : BatchGenerateRequest) : ℕ := req.size.getD 10

/-- The handler refuses the request, or the first call that succeeds meets what it needs. -/
def RequestSuffices (h : ApiHandlers) (req : BatchGenerateRequest)
    (call : ℕ → AlgorithmType → AlgorithmCall) : Prop :=
  req.count ≠ 0 → req.count ≤ h.batchMaxSize.toNat → ∀ parsed,
    parseAlgorithm req.algorithm = .ok parsed →
      FirstSuffices h.idGenerator req.context req.count
        (parsed.getD (h.idGenerator.getAlgorithm req.context)) call

theorem completeResponse_map_iff {x : Result IdBatch} (name timestamp : String) :
    CompleteResponse size (x.map fun batch =>
      ⟨batch.ids.map Id.display, batch.ids.length, name, timestamp⟩) ↔ Complete size x := by
  cases x with
  | error e => exact iff_of_true nofun nofun
  | ok batch =>
    have hnodup : (batch.ids.map Id.display).Nodup ↔ batch.ids.Nodup :=
      List.nodup_map_iff fun _ _ => Id.display_inj
    constructor
    · rintro h _ ⟨⟩
      obtain ⟨hlength, -, hdistinct⟩ := h _ rfl
      exact ⟨hlength, hnodup.mp hdistinct⟩
    · rintro h _ ⟨⟩
      obtain ⟨hlength, hdistinct⟩ := h batch rfl
      refine ⟨hlength, ?_, hnodup.mpr hdistinct⟩
      exact (List.length_map _).trans hlength

/-- **The handler.** -/
theorem response_complete_iff (t : String → List (String × String) → String) (h : ApiHandlers)
    (atEnd : AtEnd) (req : BatchGenerateRequest)
    (hbacked : Backed h.idGenerator req.context req.count call) :
    CompleteResponse req.count (h.batchGenerate t atEnd req).1 ↔ RequestSuffices h req call := by
  by_cases hsize : req.count = 0 ∨ h.batchMaxSize.toNat < req.count
  · obtain ⟨e, he⟩ := ApiHandlers.batchGenerate_refused t h atEnd req hsize
    rw [he]
    refine iff_of_true nofun fun hzero hmax => ?_
    exact absurd hsize (not_or.mpr ⟨hzero, Nat.not_lt.mpr hmax⟩)
  · obtain ⟨hzero, hmax⟩ := not_or.mp hsize
    have hmax' := Nat.not_lt.mp hmax
    unfold RequestSuffices
    cases hparsed : parseAlgorithm req.algorithm with
    | error e =>
      refine iff_of_true ?_ fun _ _ _ hok => by cases hok
      have hrefused : (h.batchGenerate t atEnd req).1 = .error e := by
        unfold ApiHandlers.batchGenerate
        simp only [if_neg (show req.size.getD 10 ≠ 0 from hzero),
          if_neg (show ¬ req.size.getD 10 > h.batchMaxSize.toNat from hmax), hparsed]
      rw [hrefused]
      exact nofun
    | ok parsed =>
      rw [(ApiHandlers.batchGenerate_parsed t h atEnd req hzero hmax' hparsed).1,
        completeResponse_map_iff]
      have hpos : 0 < req.count := Nat.pos_of_ne_zero hzero
      constructor
      · rintro hcomplete - - _ ⟨⟩
        exact (routed_complete_iff hbacked hpos).mp hcomplete
      · intro hsuffices
        exact (routed_complete_iff hbacked hpos).mpr (hsuffices hzero hmax' parsed rfl)

/-- **Batches.** A batch has as many ids as were asked for, no two alike, if and only if the call
that made it met what it needs; for the answer of an implementation, of the router and of the
handler. -/
theorem batches_complete_iff (c : AlgorithmCall) (r : AlgorithmRouter) (h : ApiHandlers)
    (call : ℕ → AlgorithmType → AlgorithmCall) :
    (c.NoRepeats → ∀ (ctx : GenerateContext) (size : ℕ) (x : Result IdBatch), 0 < size →
      c.BatchGenerates ctx size x → (Complete size x ↔ c.Suffices size)) ∧
    (∀ (algorithm : AlgorithmType) (ctx : GenerateContext) (size : ℕ), Backed r ctx size call →
      0 < size → (Complete size (r.batchGenerateWithAlgorithmInternal algorithm ctx size).1 ↔
        FirstSuffices r ctx size algorithm call)) ∧
    ∀ (t : String → List (String × String) → String) (atEnd : AtEnd) (req : BatchGenerateRequest),
      Backed h.idGenerator req.context req.count call →
        (CompleteResponse req.count (h.batchGenerate t atEnd req).1 ↔
          RequestSuffices h req call) := by
  refine ⟨?_, ?_, ?_⟩
  · intro hrepeats ctx size x hsize hx
    exact AlgorithmCall.complete_iff hrepeats hsize hx
  · intro algorithm ctx size hbacked hsize
    exact routed_complete_iff hbacked hsize
  · intro t atEnd req hbacked
    exact response_complete_iff t h atEnd req hbacked

/-- Handlers whose router has nothing but UUIDs v4. -/
def uuidOnly : ApiHandlers where
  idGenerator := (AlgorithmRouter.new .default).register .uuidV4
    ⟨fun _ _ => .ok (UuidImpl.fromUuid 1),
      fun _ _ _ => .ok ⟨[UuidImpl.fromUuid 1, UuidImpl.fromUuid 2], .uuidV4, ""⟩⟩
  metrics := .zero
  batchMaxSize := 100

def twoCalls (_ : ℕ) : AlgorithmType → AlgorithmCall
  | .segment => .segment belowTenth noCalls (0, .proceed)
  | .snowflake => .snowflake (SnowflakeAlgorithm.build .default) []
  | .uuidV7 => .uuidV7 .new []
  | .uuidV4 => .uuidV4 .new [1, 2]

theorem uuidOnly_algorithms {algType : AlgorithmType} {alg : IdAlgorithm}
    (h : uuidOnly.idGenerator.algorithms algType = some alg) : algType = .uuidV4 := by
  by_contra hne
  have hnone : uuidOnly.idGenerator.algorithms algType = none := Function.update_of_ne hne _ _
  cases hnone.symm.trans h

/-- Two UUIDs are asked for. -/
theorem two_uuids_complete :
    Complete 2 (.ok ⟨[UuidImpl.fromUuid 1, UuidImpl.fromUuid 2], .uuidV4, ""⟩) ∧
      CompleteResponse 2 (uuidOnly.batchGenerate (fun key _ => key) atNoon
        ⟨"w", "g", "t", some 2, some "uuid_v4"⟩).1 := by
  have hnodup : [(1 : BitVec 128), 2].Nodup := by decide
  constructor
  · have hiff := (batches_complete_iff (.uuidV4 .new [1, 2]) uuidOnly.idGenerator uuidOnly
      twoCalls).1 hnodup ⟨"w", "g", "t"⟩ 2
        (.ok ⟨[UuidImpl.fromUuid 1, UuidImpl.fromUuid 2], .uuidV4, ""⟩) (by decide) ⟨_, rfl⟩
    exact hiff.mpr trivial
  · have hbacked : Backed uuidOnly.idGenerator ⟨"w", "g", "t"⟩ 2 twoCalls := by
      refine ⟨?_, ?_, ?_⟩
      · intro turn algType
        cases algType <;> rfl
      · intro turn algType
        cases algType with
        | segment => exact trivial
        | snowflake => exact trivial
        | uuidV7 => exact List.nodup_nil
        | uuidV4 => exact hnodup
      · intro algType alg halg turn
        obtain rfl := uuidOnly_algorithms halg
        cases halg
        exact ⟨_, rfl⟩
    have hiff := (batches_complete_iff (.uuidV4 .new [1, 2]) uuidOnly.idGenerator uuidOnly
      twoCalls).2.2 (fun key _ => key) atNoon ⟨"w", "g", "t", some 2, some "uuid_v4"⟩ hbacked
    refine hiff.mpr ?_
    intro _ _ parsed hparsed failed algType batch later hsplit _
    obtain ⟨alg, halg, -⟩ := AlgorithmRouter.outcomes_split hsplit
    obtain rfl := uuidOnly_algorithms halg
    exact trivial

/-- Two Snowflake ids are asked for, and one comes. -/
theorem batch_cut_short :
    ¬ ∀ (c : AlgorithmCall) (ctx : GenerateContext) (size : ℕ) (x : Result IdBatch), c.NoRepeats →
      0 < size → c.BatchGenerates ctx size x → Complete size x := by
  intro h
  obtain ⟨id, s, hs⟩ := SnowflakeAlgorithm.batchGenerate_cut
  have hcomplete := h (.snowflake (SnowflakeAlgorithm.build .default)
    (10000 :: List.replicate 100 0)) ⟨"w", "g", "t"⟩ 2 _ trivial (by decide) ⟨s, hs⟩
  obtain ⟨hlength, -⟩ := hcomplete _ rfl
  exact absurd hlength (show 1 ≠ 2 by decide)

end NebulaId
