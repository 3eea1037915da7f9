import GatewayProvisioning.Proofs.Utf8
import GatewayProvisioning.Url.Percent

/-!
# What percent encoding keeps

Encoded bytes are read back by decoding, and an encoded segment is made of characters that mean
nothing in an address.
-/

namespace GatewayProvisioning.Url

/-! ## Characters of an encoded segment -/

/-- The characters of an encoded segment: those that stand for themselves, and the percent sign. -/
def isWordChar (c : Char) : Bool :=
  c.toNat < 0x80 && (isUnreserved (UInt8.ofNat c.toNat) || c == '%')

theorem isWordChar_hexDigitUpper {n : Nat} (h : n < 16) :
    isWordChar (Text.hexDigitUpper n) = true := by
  have hall : ∀ m < 16, isWordChar (Text.hexDigitUpper m) = true := by decide
  exact hall n h

theorem isUnreserved_lt {b : UInt8} (h : isUnreserved b = true) : b.toNat < 0x80 ∧ b ≠ 0x25 := by
  have hall : ∀ n < 256, isUnreserved (UInt8.ofNat n) = true →
      (UInt8.ofNat n).toNat < 0x80 ∧ UInt8.ofNat n ≠ 0x25 := by decide +kernel
  have hb := hall b.toNat b.toNat_lt
  rw [UInt8.ofNat_toNat] at hb
  exact hb h

theorem toNat_ofNat_ascii {n : Nat} (h : n < 0x80) : (Char.ofNat n).toNat = n := by
  have hall : ∀ m < 0x80, (Char.ofNat m).toNat = m := by decide
  exact hall n h

theorem isWordChar_unreserved {b : UInt8} (h : isUnreserved b = true) :
    isWordChar (Char.ofNat b.toNat) = true := by
  have hlt := (isUnreserved_lt h).1
  unfold isWordChar
  rw [toNat_ofNat_ascii hlt, UInt8.ofNat_toNat, h]
  simpa using hlt

theorem isWordChar_percentEncode (bytes : Bytes) :
    ∀ c ∈ percentEncode isUnreserved bytes, isWordChar c = true := by
  intro c hc
  obtain ⟨b, -, hc⟩ := List.mem_flatMap.mp hc
  by_cases hb : isUnreserved b = true
  · rw [if_pos hb, List.mem_singleton] at hc
    rw [hc]
    exact isWordChar_unreserved hb
  · rw [if_neg hb] at hc
    have hlt := b.toNat_lt
    simp only [percentByte, List.mem_cons, List.not_mem_nil, or_false] at hc
    rcases hc with rfl | rfl | rfl
    · decide
    · exact isWordChar_hexDigitUpper (by omega)
    · exact isWordChar_hexDigitUpper (by omega)

theorem isWordChar_encodeSegment (raw : String) :
    ∀ c ∈ (encodeSegment raw).toList, isWordChar c = true := by
  unfold encodeSegment
  rw [String.toList_ofList]
  exact isWordChar_percentEncode _

theorem isWordChar_ascii {c : Char} (h : isWordChar c = true) : c.toNat < 0x80 := by
  unfold isWordChar at h
  rw [Bool.and_eq_true] at h
  exact of_decide_eq_true h.1

/-! ## Decoding -/

theorem percentDecode_kept {b : UInt8} (h : b ≠ 0x25) (rest : Bytes) :
    percentDecode (b :: rest) = b :: percentDecode rest := by
  rw [percentDecode]
  intro first second rest' hb
  exact absurd hb h

theorem hexValue?_hexDigitUpper {n : Nat} (h : n < 16) :
    Text.hexValue? (Text.hexDigitUpper n) = some n := by
  have hall : ∀ m < 16, Text.hexValue? (Text.hexDigitUpper m) = some m := by decide
  exact hall n h

/-- The byte of a digit is read as that digit. -/
theorem hexValue?_byte {n : Nat} (h : n < 16) :
    Text.hexValue? (Char.ofNat (UInt8.ofNat (Text.hexDigitUpper n).toNat).toNat) = some n := by
  have hascii := isWordChar_ascii (isWordChar_hexDigitUpper h)
  rw [Utf8.toNat_byte (by omega), Char.ofNat_toNat]
  exact hexValue?_hexDigitUpper h

theorem percentDecode_percentByte (b : UInt8) (rest : Bytes) :
    percentDecode ((percentByte b).map (fun c => UInt8.ofNat c.toNat) ++ rest) =
      b :: percentDecode rest := by
  have hlt := b.toNat_lt
  have hhigh := hexValue?_byte (n := b.toNat / 16) (by omega)
  have hlow := hexValue?_byte (n := b.toNat % 16) (by omega)
  have hvalue : UInt8.ofNat (16 * (b.toNat / 16) + b.toNat % 16) = b := by
    rw [Nat.div_add_mod, UInt8.ofNat_toNat]
  change percentDecode (0x25 :: UInt8.ofNat _ :: UInt8.ofNat _ :: rest) = _
  rw [percentDecode, hhigh, hlow]
  exact congrArg (· :: percentDecode rest) hvalue

/-- Encoded bytes are read back. -/
theorem percentDecode_percentEncode (bytes : Bytes) :
    percentDecode (Utf8.encodeChars (percentEncode isUnreserved bytes)) = bytes := by
  rw [Utf8.encodeChars_ascii fun c hc => isWordChar_ascii (isWordChar_percentEncode bytes c hc)]
  induction bytes with
  | nil => rfl
  | cons b bytes ih =>
    have hcons : percentEncode isUnreserved (b :: bytes) =
        (if isUnreserved b then [Char.ofNat b.toNat] else percentByte b) ++
          percentEncode isUnreserved bytes := rfl
    rw [hcons, List.map_append]
    by_cases hb : isUnreserved b = true
    · obtain ⟨hlt, hne⟩ := isUnreserved_lt hb
      rw [if_pos hb, List.map_singleton, toNat_ofNat_ascii hlt, UInt8.ofNat_toNat,
        List.singleton_append, percentDecode_kept hne, ih]
    · rw [if_neg hb, percentDecode_percentByte, ih]

/-- A name is read back from its segment. -/
theorem percentDecode_encodeSegment (name : String) :
    percentDecode (Utf8.encode (encodeSegment name)) = Utf8.encode name := by
  unfold encodeSegment
  rw [Utf8.encode, String.toList_ofList]
  exact percentDecode_percentEncode _

/-- A byte that is no part of an escape stays. -/
theorem mem_percentDecode {b : UInt8} (hmark : b ≠ 0x25)
    (hhex : Text.hexValue? (Char.ofNat b.toNat) = none) {bytes : Bytes} (hmem : b ∈ bytes) :
    b ∈ percentDecode bytes := by
  induction bytes using percentDecode.induct with
  | case1 => cases hmem
  | case2 first second rest high low hsecond hfirst ih =>
    -- the two digits of an escape are other bytes
    have hrest : b ∈ rest := by
      simp only [List.mem_cons] at hmem
      rcases hmem with rfl | rfl | rfl | hmem
      · exact absurd rfl hmark
      · rw [hhex] at hfirst
        cases hfirst
      · rw [hhex] at hsecond
        cases hsecond
      · exact hmem
    rw [percentDecode, hfirst, hsecond]
    exact List.mem_cons_of_mem _ (ih hrest)
  | case3 first second rest hbad ih =>
    have hrest : b ∈ first :: second :: rest := List.mem_of_ne_of_mem hmark hmem
    rw [percentDecode]
    split
    · rename_i high low hhigh hlow
      exact (hbad high low hhigh hlow).elim
    · exact List.mem_cons_of_mem _ (ih hrest)
  | case4 d rest hd ih =>
    rw [percentDecode]
    · rcases List.mem_cons.mp hmem with rfl | hmem
      · exact List.mem_cons_self
      · exact List.mem_cons_of_mem d (ih hmem)
    · exact hd

theorem percentDecode_eq_nil {bytes : Bytes} (h : percentDecode bytes = []) : bytes = [] := by
  unfold percentDecode at h
  split at h
  · rfl
  · split at h <;> cases h
  · cases h

/-- Only the empty name has an empty segment. -/
theorem encodeSegment_eq_empty {name : String} (h : encodeSegment name = "") : name = "" := by
  have hbytes := percentDecode_encodeSegment name
  rw [h] at hbytes
  exact Utf8.encode_inj hbytes.symm

end GatewayProvisioning.Url
