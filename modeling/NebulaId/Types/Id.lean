import Mathlib.Data.Nat.Notation

/-!
# Ids, algorithm types and errors

`Id` is the 128-bit id value of `core/types/id.rs`, `AlgorithmType` the enumeration there with
its names, `GenerateContext` what `core/algorithm/traits.rs` hands to an algorithm, and
`CoreError` the error type of `core/types/error.rs`. Machine integers of the source are Lean's fixed-width integers and
`BitVec 128`; their arithmetic wraps, as that of the release profile does, which sets no
overflow checks.
-/

namespace NebulaId

structure Id where
  value : BitVec 128
  deriving DecidableEq

namespace Id

def fromU128 (value : BitVec 128) : Id := ⟨value⟩

def asU128 (id : Id) : BitVec 128 := id.value

/-- `Id::from_u128(value.into())` for a `u64` value. -/
def ofU64 (value : UInt64) : Id := fromU128 (value.toBitVec.setWidth 128)

@[simp] theorem toNat_asU128_ofU64 (value : UInt64) :
    (ofU64 value).asU128.toNat = value.toNat := by
  have h : value.toNat < 2 ^ 128 := Nat.lt_trans value.toNat_lt (by decide)
  simp only [ofU64, fromU128, asU128, BitVec.toNat_setWidth, UInt64.toNat_toBitVec]
  exact Nat.mod_eq_of_lt h

/-- So many lower-case hexadecimal digits of a number. -/
def hexDigits : ℕ → ℕ → List Char
  | 0, _ => []
  | k + 1, n => hexDigits k (n / 16) ++ [Nat.digitChar (n % 16)]

/-- The hyphenated text of a UUID. -/
def uuidText (value : BitVec 128) : String :=
  let digits := hexDigits 32 value.toNat
  String.ofList (digits.take 8 ++ '-' :: (digits.drop 8).take 4 ++ '-' :: (digits.drop 12).take 4 ++
    '-' :: (digits.drop 16).take 4 ++ '-' :: digits.drop 20)

/-- `Display`; the version bits tell a UUID. -/
def display (id : Id) : String :=
  let versionBits := (id.value >>> 76) &&& 0xF
  if versionBits = 7 ∨ versionBits = 4 then uuidText id.value else toString id.value.toNat

end Id

inductive AlgorithmType where
  | segment
  | snowflake
  | uuidV7
  | uuidV4
  deriving DecidableEq

inductive IdFormat where
  | numeric
  | prefixed
  | uuid
  deriving DecidableEq

/-- `char::to_lowercase` as far as its result may be an ASCII letter: the one other letter
with such a lower case is the Kelvin sign. -/
def lowercase (c : Char) : Char := if c = '\u212A' then 'k' else c.toLower

def toLowercase (s : String) : String := String.ofList (s.toList.map lowercase)

/-- `group_id` is carried along; no algorithm reads it. -/
structure GenerateContext where
  workspaceId : String
  groupId : String
  bizTag : String

structure IdBatch where
  ids : List Id
  algorithm : AlgorithmType
  bizTag : String
  deriving DecidableEq

inductive CoreError where
  | invalidIdFormat (value : String)
  | invalidIdString (value : String)
  | invalidAlgorithmType (value : String)
  | clockMovedBackward (lastTimestamp : UInt64)
  | sequenceOverflow (timestamp : UInt64)
  | segmentExhausted (maxId : UInt64)
  | databaseError (value : String)
  | cacheError (value : String)
  | configurationError (value : String)
  | authenticationError (value : String)
  | rateLimitExceeded
  | notFound (value : String)
  | workspaceDisabled (value : String)
  | bizTagNotFound (value : String)
  | apiKeyDisabled
  | apiKeyExpired
  | invalidApiKeySignature
  | etcdError (value : String)
  | parseError (value : String)
  | ioError (value : String)
  | timeoutError
  | internalError (value : String)
  | invalidInput (value : String)
  | unknown
  deriving DecidableEq

abbrev Result (α : Type) := Except CoreError α

namespace AlgorithmType

/-- `Display` -/
def display : AlgorithmType → String
  | .segment => "segment"
  | .snowflake => "snowflake"
  | .uuidV7 => "uuid_v7"
  | .uuidV4 => "uuid_v4"

def fromStr (s : String) : Result AlgorithmType :=
  match toLowercase s with
  | "segment" => .ok .segment
  | "snowflake" => .ok .snowflake
  | "uuid_v7" | "uuidv7" | "uuid7" => .ok .uuidV7
  | "uuid_v4" | "uuidv4" | "uuid4" => .ok .uuidV4
  | _ => .error (.invalidAlgorithmType s)

/-- The name of an algorithm is parsed back. -/
theorem fromStr_display (alg : AlgorithmType) : fromStr alg.display = .ok alg := by
  cases alg <;> rfl

theorem display_injective {alg other : AlgorithmType} (h : alg.display = other.display) :
    alg = other := by
  have hparsed : fromStr alg.display = fromStr other.display := by rw [h]
  rw [fromStr_display, fromStr_display] at hparsed
  exact Except.ok.inj hparsed

end AlgorithmType

end NebulaId
