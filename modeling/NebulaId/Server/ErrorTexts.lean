import NebulaId.Server.EntryPoints
import NebulaId.Server.Locale

/-!
# What a client reads of an error (`core/types/error.rs`, `server/grpc.rs`, `locales`)

The text of an error is that of its variant in the language, and at its end what the variant
carries. Over HTTP a server error has a text without that end; over gRPC it has all of it.

* `display_eq_append`: the text of an error, from its variant and what it carries.
* `sanitized_size`: what is cut has at most 200 bytes, and the mark.
* `uniform_iff`: two server errors of one variant look alike over both if and only if they are one.
* `database_text_leaks`: the text of a database error over gRPC.
-/

namespace NebulaId

/-! ## The texts of the languages -/

/-- A text, and at its end an argument (`text%\x7bname\x7d`). -/
structure Template where
  text : String
  arg : Option String

/-- `replace_patterns` -/
def Template.fill (template : Template) (args : List (String × String)) : String :=
  template.text ++ (template.arg.bind fun name => args.lookup name).getD ""

/-- The texts of errors in `locales/en.yml` and `locales/zh-CN.yml`. -/
def errorTemplates : Locale → List (String × Template)
  | .en =>
    [("api.error.internal_error", ⟨"Internal server error", none⟩),
      ("api.error.database_error", ⟨"Database operation failed", none⟩),
      ("api.error.cache_error", ⟨"Cache service unavailable", none⟩),
      ("api.error.configuration_error", ⟨"Configuration error", none⟩),
      ("api.error.algorithm_error", ⟨"ID generation algorithm error", none⟩),
      ("api.error.etcd_error", ⟨"Etcd service unavailable", none⟩),
      ("api.error.io_error", ⟨"I/O error", none⟩),
      ("error.invalid_id_format", ⟨"Invalid ID format: ", some "value"⟩),
      ("error.invalid_id_string", ⟨"Invalid ID string: ", some "value"⟩),
      ("error.invalid_algorithm_type", ⟨"Invalid algorithm type: ", some "value"⟩),
      ("error.clock_moved_backward",
        ⟨"Clock moved backward, last timestamp: ", some "last_timestamp"⟩),
      ("error.sequence_overflow", ⟨"Sequence overflow, timestamp: ", some "timestamp"⟩),
      ("error.segment_exhausted", ⟨"Segment exhausted, max_id: ", some "max_id"⟩),
      ("error.database_error", ⟨"Database error: ", some "value"⟩),
      ("error.cache_error", ⟨"Cache error: ", some "value"⟩),
      ("error.configuration_error", ⟨"Configuration error: ", some "value"⟩),
      ("error.authentication_error", ⟨"Authentication error: ", some "value"⟩),
      ("error.rate_limit_exceeded", ⟨"Rate limit exceeded", none⟩),
      ("error.not_found", ⟨"Resource not found: ", some "value"⟩),
      ("error.workspace_disabled", ⟨"Workspace disabled: ", some "value"⟩),
      ("error.biz_tag_not_found", ⟨"Biz tag not found: ", some "value"⟩),
      ("error.api_key_disabled", ⟨"API key disabled", none⟩),
      ("error.api_key_expired", ⟨"API key expired", none⟩),
      ("error.invalid_api_key_signature", ⟨"Invalid API key signature", none⟩),
      ("error.etcd_error", ⟨"Etcd error: ", some "value"⟩),
      ("error.parse_error", ⟨"Parse error: ", some "value"⟩),
      ("error.io_error", ⟨"I/O error: ", some "value"⟩),
      ("error.timeout_error", ⟨"Timeout error", none⟩),
      ("error.internal_error", ⟨"Internal error: ", some "value"⟩),
      ("error.invalid_input", ⟨"Invalid input: ", some "value"⟩),
      ("error.unknown", ⟨"Unknown error", none⟩)]
  | .zhCn =>
    [("api.error.internal_error", ⟨"内部服务器错误", none⟩),
      ("api.error.database_error", ⟨"数据库操作失败", none⟩),
      ("api.error.cache_error", ⟨"缓存服务不可用", none⟩),
      ("api.error.configuration_error", ⟨"配置错误", none⟩),
      ("api.error.algorithm_error", ⟨"ID 生成算法错误", none⟩),
      ("api.error.etcd_error", ⟨"Etcd 服务不可用", none⟩),
      ("api.error.io_error", ⟨"I/O 错误", none⟩),
      ("error.invalid_id_format", ⟨"无效的 ID 格式：", some "value"⟩),
      ("error.invalid_id_string", ⟨"无效的 ID 字符串：", some "value"⟩),
      ("error.invalid_algorithm_type", ⟨"无效的算法类型：", some "value"⟩),
      ("error.clock_moved_backward", ⟨"时钟回拨，最后时间戳：", some "last_timestamp"⟩),
      ("error.sequence_overflow", ⟨"序列号溢出，时间戳：", some "timestamp"⟩),
      ("error.segment_exhausted", ⟨"号段耗尽，max_id：", some "max_id"⟩),
      ("error.database_error", ⟨"数据库错误：", some "value"⟩),
      ("error.cache_error", ⟨"缓存错误：", some "value"⟩),
      ("error.configuration_error", ⟨"配置错误：", some "value"⟩),
      ("error.authentication_error", ⟨"认证错误：", some "value"⟩),
      ("error.rate_limit_exceeded", ⟨"速率限制超出", none⟩),
      ("error.not_found", ⟨"资源未找到：", some "value"⟩),
      ("error.workspace_disabled", ⟨"工作空间已禁用：", some "value"⟩),
      ("error.biz_tag_not_found", ⟨"业务标签未找到：", some "value"⟩),
      ("error.api_key_disabled", ⟨"API 密钥已禁用", none⟩),
      ("error.api_key_expired", ⟨"API 密钥已过期", none⟩),
      ("error.invalid_api_key_signature", ⟨"无效的 API 密钥签名", none⟩),
      ("error.etcd_error", ⟨"Etcd 错误：", some "value"⟩),
      ("error.parse_error", ⟨"解析错误：", some "value"⟩),
      ("error.io_error", ⟨"I/O 错误：", some "value"⟩),
      ("error.timeout_error", ⟨"超时错误", none⟩),
      ("error.internal_error", ⟨"内部错误：", some "value"⟩),
      ("error.invalid_input", ⟨"无效输入：", some "value"⟩),
      ("error.unknown", ⟨"未知错误", none⟩)]

/-- `translate_with_locale_args_cow`, with English to fall back to. -/
def localeTexts (locale : Locale) : Texts := fun key args =>
  match ((errorTemplates locale).lookup key).or ((errorTemplates .en).lookup key) with
  | some template => template.fill args
  | none => key

namespace CoreError

def i18nKey : CoreError → String
  | .invalidIdFormat _ => "error.invalid_id_format"
  | .invalidIdString _ => "error.invalid_id_string"
  | .invalidAlgorithmType _ => "error.invalid_algorithm_type"
  | .clockMovedBackward _ => "error.clock_moved_backward"
  | .sequenceOverflow _ => "error.sequence_overflow"
  | .segmentExhausted _ => "error.segment_exhausted"
  | .databaseError _ => "error.database_error"
  | .cacheError _ => "error.cache_error"
  | .configurationError _ => "error.configuration_error"
  | .authenticationError _ => "error.authentication_error"
  | .rateLimitExceeded => "error.rate_limit_exceeded"
  | .notFound _ => "error.not_found"
  | .workspaceDisabled _ => "error.workspace_disabled"
  | .bizTagNotFound _ => "error.biz_tag_not_found"
  | .apiKeyDisabled => "error.api_key_disabled"
  | .apiKeyExpired => "error.api_key_expired"
  | .invalidApiKeySignature => "error.invalid_api_key_signature"
  | .etcdError _ => "error.etcd_error"
  | .parseError _ => "error.parse_error"
  | .ioError _ => "error.io_error"
  | .timeoutError => "error.timeout_error"
  | .internalError _ => "error.internal_error"
  | .invalidInput _ => "error.invalid_input"
  | .unknown => "error.unknown"

def i18nArgs : CoreError → List (String × String)
  | .clockMovedBackward lastTimestamp => [("last_timestamp", toString lastTimestamp)]
  | .sequenceOverflow timestamp => [("timestamp", toString timestamp)]
  | .segmentExhausted maxId => [("max_id", toString maxId)]
  | .invalidIdFormat value | .invalidIdString value | .invalidAlgorithmType value
  | .databaseError value | .cacheError value | .configurationError value
  | .authenticationError value | .notFound value | .workspaceDisabled value
  | .bizTagNotFound value | .etcdError value | .parseError value | .ioError value
  | .internalError value | .invalidInput value => [("value", value)]
  | .rateLimitExceeded | .apiKeyDisabled | .apiKeyExpired | .invalidApiKeySignature
  | .timeoutError | .unknown => []

/-- `to_localized_string` -/
theorem display_eq (t : Texts) (e : CoreError) : e.display t = t e.i18nKey e.i18nArgs := by
  cases e <;> rfl

/-- What the variant carries, as a text. -/
def payload (e : CoreError) : String := (e.i18nArgs.head?.map Prod.snd).getD ""

/-- The text of the variant. -/
def label (locale : Locale) (e : CoreError) : String :=
  (((errorTemplates locale).lookup e.i18nKey).map Template.text).getD ""

/-- Every error has a text, with the argument that it has. -/
theorem exists_template (locale : Locale) (e : CoreError) :
    ∃ template, (errorTemplates locale).lookup e.i18nKey = some template ∧
      template.arg = e.i18nArgs.head?.map Prod.fst := by
  cases locale <;> cases e <;> exact ⟨_, rfl, rfl⟩

theorem arg_i18nArgs (e : CoreError) :
    ((e.i18nArgs.head?.map Prod.fst).bind fun name => e.i18nArgs.lookup name) =
      e.i18nArgs.head?.map Prod.snd := by
  cases e.i18nArgs with
  | nil => rfl
  | cons arg rest =>
    dsimp only [List.head?_cons, Option.map_some, Option.bind_some]
    rw [List.lookup_cons_self]

/-- **The text of an error** ends with what it carries. -/
theorem display_eq_append (locale : Locale) (e : CoreError) :
    e.display (localeTexts locale) = e.label locale ++ e.payload := by
  obtain ⟨template, hlookup, harg⟩ := exists_template locale e
  rw [display_eq, localeTexts, label, payload, hlookup]
  dsimp only [Option.some_or, Option.map_some, Option.getD_some]
  rw [Template.fill, harg, arg_i18nArgs]

/-! ## Errors of one variant -/

/-- Two errors of one variant, which is that of a server error. -/
inductive SameServerError : CoreError → CoreError → Prop
  | clockMovedBackward (a b : UInt64) : SameServerError (.clockMovedBackward a) (.clockMovedBackward b)
  | sequenceOverflow (a b : UInt64) : SameServerError (.sequenceOverflow a) (.sequenceOverflow b)
  | segmentExhausted (a b : UInt64) : SameServerError (.segmentExhausted a) (.segmentExhausted b)
  | databaseError (a b : String) : SameServerError (.databaseError a) (.databaseError b)
  | cacheError (a b : String) : SameServerError (.cacheError a) (.cacheError b)
  | configurationError (a b : String) :
    SameServerError (.configurationError a) (.configurationError b)
  | etcdError (a b : String) : SameServerError (.etcdError a) (.etcdError b)
  | ioError (a b : String) : SameServerError (.ioError a) (.ioError b)
  | internalError (a b : String) : SameServerError (.internalError a) (.internalError b)
  | timeoutError : SameServerError .timeoutError .timeoutError
  | unknown : SameServerError .unknown .unknown

theorem sameServerError_self_iff {e : CoreError} : SameServerError e e ↔ 500 ≤ e.statusCode := by
  cases e with
  | clockMovedBackward | sequenceOverflow | segmentExhausted | databaseError | cacheError
  | configurationError | etcdError | ioError | internalError | timeoutError | unknown =>
    exact iff_of_true (by constructor) (by simp [statusCode])
  | _ => exact iff_of_false (by rintro ⟨⟩) (by simp [statusCode])

variable {e e' : CoreError}

/-- **Over HTTP** a server error is its variant. -/
theorem SameServerError.toResponse_eq (h : SameServerError e e') (t : Texts) :
    e.toResponse t = e'.toResponse t := by
  cases h <;> rfl

theorem SameServerError.label_eq (h : SameServerError e e') (locale : Locale) :
    e.label locale = e'.label locale := by
  have hkey : e.i18nKey = e'.i18nKey := by cases h <;> rfl
  rw [label, hkey, label]

theorem toString_inj {a b : UInt64} (h : toString a = toString b) : a = b := by
  have hparse := congrArg parseU64 h
  rw [parseU64_toString, parseU64_toString] at hparse
  exact Option.some.inj hparse

theorem SameServerError.payload_inj (h : SameServerError e e') : e.payload = e'.payload ↔ e = e' := by
  constructor
  · intro hpayload
    cases h with
    | clockMovedBackward | sequenceOverflow | segmentExhausted =>
      exact congrArg _ (toString_inj hpayload)
    | timeoutError | unknown => rfl
    | _ => exact congrArg _ hpayload
  · exact congrArg payload

theorem SameServerError.display_inj (h : SameServerError e e') (locale : Locale) :
    e.display (localeTexts locale) = e'.display (localeTexts locale) ↔ e = e' := by
  rw [display_eq_append, display_eq_append, h.label_eq, String.append_right_inj, h.payload_inj]

/-! ## Messages over HTTP -/

theorem utf8Len_fitting_le (bytes : ℕ) (cs : List Char) :
    String.utf8Len (ErrorResponse.fitting bytes cs) ≤ bytes := by
  induction cs generalizing bytes with
  | nil =>
    rw [ErrorResponse.fitting, String.utf8Len_nil]
    exact Nat.zero_le _
  | cons c cs ih =>
    rw [ErrorResponse.fitting]
    split
    · have hrest := ih (bytes - c.utf8Size)
      rw [String.utf8Len_cons]
      omega
    · rw [String.utf8Len_nil]
      exact Nat.zero_le _

/-- The mark of a text that was cut. -/
def truncated : String := "... (truncated)"

theorem sanitized_size (msg : String) :
    (ErrorResponse.sanitizeForProduction msg).utf8ByteSize ≤ 200 + truncated.utf8ByteSize := by
  unfold ErrorResponse.sanitizeForProduction ErrorResponse.cut
  split
  · rw [String.utf8ByteSize_append, String.utf8ByteSize_ofList]
    exact Nat.add_le_add_right (utf8Len_fitting_le 200 msg.toList) _
  · have hshort : msg.utf8ByteSize ≤ 200 := Nat.not_lt.mp ‹_›
    omega

theorem message_size (locale : Locale) (e : CoreError) (he : e.statusCode < 500) :
    (e.toResponse (localeTexts locale)).message.utf8ByteSize ≤ 200 + truncated.utf8ByteSize := by
  cases e with
  | rateLimitExceeded | apiKeyDisabled | apiKeyExpired | invalidApiKeySignature =>
    cases locale <;> decide +kernel
  | invalidInput | notFound | bizTagNotFound | authenticationError | workspaceDisabled
  | invalidIdFormat | invalidIdString | invalidAlgorithmType | parseError =>
    exact sanitized_size _
  | _ => exact absurd he (by simp [statusCode])

end CoreError

/-! ## Over gRPC -/

/-- `Status::internal(format!("{}", e))`, in the language of the process. -/
def grpcStatus (locale : Locale) (e : CoreError) : GrpcStatus :=
  .internal (e.display (localeTexts locale))

theorem grpcStatus_inj {e e' : CoreError} (h : CoreError.SameServerError e e') (locale : Locale) :
    grpcStatus locale e = grpcStatus locale e' ↔ e = e' := by
  rw [grpcStatus, grpcStatus, GrpcStatus.internal.injEq, h.display_inj]

section Methods

variable {b : Surroundings} {locale : Locale} {e : CoreError}

theorem grpcGenerate_of_error {req : GrpcGenerateRequest} (ht : b.t = localeTexts locale)
    (h : (b.handlers.generate b.atEnd ⟨req.nameSpace, req.tag, req.tag, none⟩).1 = .error e) :
    b.grpcGenerate req = .error (grpcStatus locale e) := by
  rw [Surroundings.grpcGenerate, h, ht]
  rfl

theorem grpcBatchGenerate_of_error {req : GrpcBatchGenerateRequest} (ht : b.t = localeTexts locale)
    (hzero : req.count ≠ 0) (hmost : ¬ req.count > 100)
    (h : (b.handlers.batchGenerate b.t b.atEnd req.toRequest).1 = .error e) :
    b.grpcBatchGenerate req = .error (grpcStatus locale e) := by
  rw [Surroundings.grpcBatchGenerate, if_neg hzero, if_neg hmost, h, ht]
  rfl

end Methods

/-- **Two server errors of one variant** look alike over HTTP and over gRPC if and only if they carry
the same; this is what the methods of both answer with; and every other message over HTTP has at
most 200 bytes and the mark. -/
theorem uniform_iff (locale process : Locale) :
    (∀ e e', CoreError.SameServerError e e' →
      ((e.toResponse (localeTexts locale) = e'.toResponse (localeTexts locale) ∧
        grpcStatus process e = grpcStatus process e') ↔ e = e') ∧
      e.toResponse (localeTexts locale) = e'.toResponse (localeTexts locale)) ∧
    (∀ e : CoreError, CoreError.SameServerError e e ↔ 500 ≤ e.statusCode) ∧
    (∀ (b : Surroundings) (e : CoreError), b.t = localeTexts process →
      (∀ req : GrpcGenerateRequest,
        (b.handlers.generate b.atEnd ⟨req.nameSpace, req.tag, req.tag, none⟩).1 = .error e →
        b.grpcGenerate req = .error (grpcStatus process e)) ∧
      ∀ req : GrpcBatchGenerateRequest, req.count ≠ 0 → ¬ req.count > 100 →
        (b.handlers.batchGenerate b.t b.atEnd req.toRequest).1 = .error e →
        b.grpcBatchGenerate req = .error (grpcStatus process e)) ∧
    ∀ e : CoreError, e.statusCode < 500 →
      (e.toResponse (localeTexts locale)).message.utf8ByteSize ≤
        200 + CoreError.truncated.utf8ByteSize := by
  refine ⟨fun e e' h => ⟨?_, h.toResponse_eq _⟩, fun e => CoreError.sameServerError_self_iff,
    fun b e ht => ⟨fun req => grpcGenerate_of_error ht, fun req => grpcBatchGenerate_of_error ht⟩,
    CoreError.message_size locale⟩
  rw [grpcStatus_inj h]
  exact and_iff_right (h.toResponse_eq _)

/-- The address of a database in an answer over gRPC. -/
theorem database_text_leaks :
    grpcStatus .en (.databaseError "no route to postgresql://idgen:secret@db:5432/idgen") =
      .internal "Database error: no route to postgresql://idgen:secret@db:5432/idgen" ∧
    ¬ ∀ e e', CoreError.SameServerError e e' → grpcStatus .en e = grpcStatus .en e' := by
  refine ⟨by rw [grpcStatus, CoreError.display_eq_append]; rfl, fun h => ?_⟩
  have hsame := h _ _ (.databaseError "no route to postgresql://idgen:secret@db:5432/idgen" "")
  rw [grpcStatus_inj (.databaseError _ _)] at hsame
  exact absurd (CoreError.databaseError.inj hsame) (by decide)

end NebulaId
