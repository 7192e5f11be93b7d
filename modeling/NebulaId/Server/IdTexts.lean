import Mathlib.Data.String.Basic
import NebulaId.Server.BatchSizes
import NebulaId.Server.ClientIp
import NebulaId.Server.TagSettings
import NebulaId.Server.TenantHandlers
import NebulaId.Types.Numbers
import NebulaId.Types.Texts

/-!
# Texts of ids (`core/types/id.rs`)

`Display` writes an id as a UUID or in decimal, by its version bits; `from_string` goes by hyphens
and the length of the text. The two choices agree.

* `fromString_display`: the text of an id is read back, in white space or not.
* `id_texts_round_trip`: and so different ids have different texts.
-/

namespace NebulaId

/-! ## White space around a text -/

/-- Visible ASCII is no white space, and takes one byte. -/
theorem isWhitespace_of_addressChar {c : Char} (h : IpAddr.AddressChar c) :
    isWhitespace c = false := by
  obtain ⟨hlow, hhigh, -⟩ := h
  unfold isWhitespace
  simp only [List.mem_cons, List.not_mem_nil, or_false, decide_eq_false_iff_not]
  omega

namespace Id

theorem addressChar_uuidText (value : BitVec 128) :
    ∀ c ∈ (uuidText value).toList, IpAddr.AddressChar c := by
  have hdigit := IpAddr.addressChar_hexDigits 32 value.toNat
  have hhyphen : IpAddr.AddressChar '-' := by decide
  intro c hc
  unfold uuidText at hc
  simp only [String.toList_ofList, List.mem_append, List.mem_cons] at hc
  rcases hc with (((hc | rfl | hc) | rfl | hc) | rfl | hc) | rfl | hc
  · exact hdigit c (List.mem_of_mem_take hc)
  · exact hhyphen
  · exact hdigit c (List.mem_of_mem_drop (List.mem_of_mem_take hc))
  · exact hhyphen
  · exact hdigit c (List.mem_of_mem_drop (List.mem_of_mem_take hc))
  · exact hhyphen
  · exact hdigit c (List.mem_of_mem_drop (List.mem_of_mem_take hc))
  · exact hhyphen
  · exact hdigit c (List.mem_of_mem_drop hc)

theorem addressChar_toString (n : ℕ) : ∀ c ∈ (toString n).toList, IpAddr.AddressChar c := by
  intro c hc
  have htext : (toString n).toList = Nat.toDigits 10 n := Nat.toList_repr
  rw [htext] at hc
  have hdigit : c.isDigit = true := Nat.isDigit_of_mem_toDigits (by decide) (by decide) hc
  rw [Char.isDigit_iff_toNat] at hdigit
  obtain ⟨hlow, hhigh⟩ := hdigit
  refine ⟨?_, ?_, ?_⟩
  · exact le_trans (by decide) hlow
  · exact lt_of_le_of_lt hhigh (by decide)
  · rintro rfl
    exact absurd hlow (by decide)

theorem addressChar_display (id : Id) : ∀ c ∈ id.display.toList, IpAddr.AddressChar c := by
  by_cases hversion : id.Versioned
  · rw [display_of_versioned hversion]
    exact addressChar_uuidText id.value
  · rw [display_of_not_versioned hversion]
    exact addressChar_toString id.value.toNat

theorem display_ne_nil (id : Id) : id.display.toList ≠ [] := by
  by_cases hversion : id.Versioned
  · rw [display_of_versioned hversion]
    intro h
    have hlength := length_uuidText id.value
    rw [h] at hlength
    cases hlength
  · rw [display_of_not_versioned hversion]
    have htext : (toString id.value.toNat).toList = Nat.toDigits 10 id.value.toNat :=
      Nat.toList_repr
    rw [htext]
    exact Nat.toDigits_ne_nil

/-- Visible ASCII takes one byte a character. -/
theorem utf8ByteSize_ofList_of_addressChar {cs : List Char} (h : ∀ c ∈ cs, IpAddr.AddressChar c) :
    (String.ofList cs).utf8ByteSize = cs.length := by
  rw [String.utf8ByteSize_ofList]
  induction cs with
  | nil => rfl
  | cons c cs ih =>
    have hbyte : c.utf8Size = 1 := by
      obtain ⟨-, hhigh, -⟩ := h c List.mem_cons_self
      rw [Char.utf8Size_eq_one_iff, UInt32.le_iff_toNat_le]
      exact Nat.le_of_lt hhigh
    rw [String.utf8Len_cons, hbyte, ih fun d hd => h d (List.mem_cons_of_mem c hd),
      List.length_cons]

/-! ## Reading a text back -/

section Reading

variable {uuids : UuidCrate} {text : List Char}

/-- A text of 36 bytes with a hyphen goes to the crate. -/
theorem fromString_of_uuid {before after : List Char} {uuid : Uuid}
    (hbefore : ∀ c ∈ before, isWhitespace c = true) (hafter : ∀ c ∈ after, isWhitespace c = true)
    (htext : ∀ c ∈ text, IpAddr.AddressChar c) (hhyphen : '-' ∈ text) (hlength : text.length = 36)
    (hparsed : uuids.parseStr (String.ofList text) = some uuid) :
    fromString uuids (String.ofList (before ++ text ++ after)) = .ok ⟨uuid⟩ := by
  have hclean := Text.trim_between hbefore hafter
    (fun c hc => isWhitespace_of_addressChar (htext c hc)) (List.ne_nil_of_mem hhyphen)
  rw [Text.trim] at hclean
  have hsize : (String.ofList text).utf8ByteSize = 36 := by
    rw [utf8ByteSize_ofList_of_addressChar htext, hlength]
  simp only [fromString, String.toList_ofList, hclean, hhyphen, hsize, and_self, if_true, hparsed]

/-- A text without hyphens is read as a number. -/
theorem fromString_of_decimal {before after : List Char} {n : ℕ}
    (hbefore : ∀ c ∈ before, isWhitespace c = true) (hafter : ∀ c ∈ after, isWhitespace c = true)
    (htext : ∀ c ∈ text, IpAddr.AddressChar c) (hne : text ≠ []) (hhyphen : '-' ∉ text)
    (hparsed : parseUnsigned (2 ^ 128) (String.ofList text) = some n) :
    fromString uuids (String.ofList (before ++ text ++ after)) = .ok ⟨.ofNat 128 n⟩ := by
  have hclean := Text.trim_between hbefore hafter
    (fun c hc => isWhitespace_of_addressChar (htext c hc)) hne
  rw [Text.trim] at hclean
  simp only [fromString, String.toList_ofList, hclean, hhyphen, false_and, if_false, hparsed]

/-- The text of an id is read back as that id. -/
theorem fromString_display (hinverse : ∀ v, uuids.parseStr (uuidText v) = some v)
    {before after : List Char} (hbefore : ∀ c ∈ before, isWhitespace c = true)
    (hafter : ∀ c ∈ after, isWhitespace c = true) (id : Id) :
    fromString uuids (String.ofList (before ++ id.display.toList ++ after)) = .ok id := by
  by_cases hversion : id.Versioned
  · rw [display_of_versioned hversion]
    apply fromString_of_uuid hbefore hafter (addressChar_uuidText id.value)
    · exact List.mem_of_getElem? (uuidText_hyphen id.value)
    · exact length_uuidText id.value
    · rw [String.ofList_toList]
      exact hinverse id.value
  · have hne : (toString id.value.toNat).toList ≠ [] := by
      rw [← display_of_not_versioned hversion]
      exact display_ne_nil id
    have hnumber : id = ⟨.ofNat 128 id.value.toNat⟩ := by
      rw [BitVec.ofNat_toNat, BitVec.setWidth_eq]
    rw [display_of_not_versioned hversion]
    conv_rhs => rw [hnumber]
    apply fromString_of_decimal hbefore hafter (addressChar_toString _) hne
      (hyphen_notMem_toString _)
    rw [String.ofList_toList]
    exact parseUnsigned_toString id.value.isLt

end Reading

/-- The text of an id is read back as that id, in white space or not, and different ids have
different texts, in whichever of the two forms. -/
theorem id_texts_round_trip (uuids : UuidCrate)
    (hinverse : ∀ v, uuids.parseStr (uuidText v) = some v) (id : Id) :
    (∀ before after : String, (∀ c ∈ before.toList, isWhitespace c = true) →
      (∀ c ∈ after.toList, isWhitespace c = true) →
        fromString uuids (before ++ id.display ++ after) = .ok id) ∧
    ∀ other : Id, id ≠ other → id.display ≠ other.display := by
  constructor
  · intro before after hbefore hafter
    have htext : before ++ id.display ++ after =
        String.ofList (before.toList ++ id.display.toList ++ after.toList) := by
      rw [← String.toList_append, ← String.toList_append, String.ofList_toList]
    rw [htext]
    exact fromString_display hinverse hbefore hafter id
  · exact fun other hne hsame => hne (display_inj hsame)

/-! ## A crate that reads the hyphenated form -/

/-- The number that hexadecimal digits write. -/
def ofHexDigits (digits : List Char) : ℕ :=
  digits.foldl (fun n c => n * 16 + if c.isDigit then c.toNat - 48 else c.toNat - 87) 0

theorem ofHexDigits_hexDigits (k n : ℕ) : ofHexDigits (hexDigits k n) = n % 16 ^ k := by
  have hdigit : ∀ d < 16, (if (Nat.digitChar d).isDigit then (Nat.digitChar d).toNat - 48
      else (Nat.digitChar d).toNat - 87) = d := by decide
  induction k generalizing n with
  | zero => exact (Nat.mod_one n).symm
  | succ k ih =>
    unfold ofHexDigits at ih ⊢
    rw [hexDigits, List.foldl_append, ih, List.foldl_cons, List.foldl_nil,
      hdigit _ (Nat.mod_lt n (by decide)), Nat.pow_succ', Nat.mod_mul]
    omega

theorem hyphen_notMem_hexDigits (k n : ℕ) : '-' ∉ hexDigits k n := by
  have hdigit : ∀ d < 16, '-' ≠ Nat.digitChar d := by decide
  induction k generalizing n with
  | zero => exact List.not_mem_nil
  | succ k ih =>
    intro hmem
    rcases List.mem_append.mp hmem with hmem | hmem
    · exact ih _ hmem
    · exact hdigit _ (Nat.mod_lt n (by decide)) (List.mem_singleton.mp hmem)

/-- The digits of the hyphenated text. -/
theorem filter_uuidText (value : BitVec 128) :
    (uuidText value).toList.filter (· != '-') = hexDigits 32 value.toNat := by
  have hskip : ∀ l : List Char, ('-' :: l).filter (· != '-') = l.filter (· != '-') := fun _ => rfl
  have hkept : (hexDigits 32 value.toNat).filter (· != '-') = hexDigits 32 value.toNat := by
    refine List.filter_eq_self.mpr fun c hc => bne_iff_ne.mpr ?_
    rintro rfl
    exact hyphen_notMem_hexDigits 32 value.toNat hc
  simp only [uuidText, String.toList_ofList, List.append_assoc, List.cons_append,
    List.filter_append, hskip]
  conv_rhs => rw [← hkept, groups_of_digits (hexDigits 32 value.toNat)]
  simp only [List.filter_append]

/-- A crate that reads the hyphenated form by its digits. -/
def hyphenatedCrate : UuidCrate where
  parseStr s :=
    let digits := s.toList.filter (· != '-')
    if digits.length = 32 then some (.ofNat 128 (ofHexDigits digits)) else none
  getTimestamp _ := none

theorem hyphenatedCrate_inverse (v : BitVec 128) :
    hyphenatedCrate.parseStr (uuidText v) = some v := by
  have hbound : v.toNat % 16 ^ 32 = v.toNat := Nat.mod_eq_of_lt v.isLt
  unfold hyphenatedCrate
  simp only [filter_uuidText, length_hexDigits, if_true, ofHexDigits_hexDigits, hbound,
    BitVec.ofNat_toNat, BitVec.setWidth_eq]

/-- A UUID of version 7 between blanks. -/
theorem id_texts_round_trip_uuid :
    fromString hyphenatedCrate
      ("  " ++ Id.display ⟨0x0190163d86947c9b8a2d1f0e5a6b7c8d⟩ ++ "\n") =
        .ok ⟨0x0190163d86947c9b8a2d1f0e5a6b7c8d⟩ ∧
    Id.display ⟨0x0190163d86947c9b8a2d1f0e5a6b7c8d⟩ ≠ Id.display ⟨42⟩ := by
  obtain ⟨hread, hdiffer⟩ := id_texts_round_trip hyphenatedCrate hyphenatedCrate_inverse
    ⟨0x0190163d86947c9b8a2d1f0e5a6b7c8d⟩
  exact ⟨hread "  " "\n" (List.all_eq_true.mp rfl) (List.all_eq_true.mp rfl),
    hdiffer ⟨42⟩ (by decide)⟩

end Id

end NebulaId
