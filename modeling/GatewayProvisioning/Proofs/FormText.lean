import GatewayProvisioning.Proofs.Cutting
import GatewayProvisioning.Proofs.Percent

/-!
# Forms, read back

A form is read by the rules for `application/x-www-form-urlencoded`: the fields stand between the
signs `&`, the first `=` of a field ends its name, a plus sign is a blank, and then the escapes are
bytes. Whatever texts the fields hold, they are read back as they were, in the order in which they
were given.
-/

namespace GatewayProvisioning.Url

/-! ## Reading -/

/-- A plus sign is a blank. Every other byte is itself. -/
def plusAsBlank (b : UInt8) : UInt8 :=
  if b == 0x2B then 0x20 else b

/-- The text of one side of a field. The plus signs are read before the escapes are, so an escaped
plus sign stays one. -/
def decodeFormText (bytes : Bytes) : String :=
  Utf8.decodeLossy (percentDecode (bytes.map plusAsBlank))

/-- A field: its name ends at the first `=`, and without one it is all name. -/
def decodeField (bytes : Bytes) : String × String :=
  let (name, value) := (Text.splitFirst? (· == 0x3D) bytes).getD (bytes, [])
  (decodeFormText name, decodeFormText value)

/-- The fields of a form. Between two signs `&` with nothing between them there is none. -/
def decodeForm (body : Bytes) : Form :=
  ((Text.splitWhere (· == 0x26) body).filter (!·.isEmpty)).map decodeField

/-! ## One byte -/

/-- How a byte of a text is written in a form. -/
def formByte (b : UInt8) : List Char :=
  if b == 0x20 then ['+'] else if isFormByte b then [Char.ofNat b.toNat] else percentByte b

theorem encodeFormText_eq (s : String) : encodeFormText s = (Utf8.encode s).flatMap formByte := rfl

/-- The characters that a text is written with in a form: none of them ends a field or its name. -/
def isFormChar (c : Char) : Bool :=
  c.toNat < 0x80 && c != '&' && c != '='

theorem isFormByte_plain {b : UInt8} (h : isFormByte b = true) :
    isFormChar (Char.ofNat b.toNat) = true ∧ (Char.ofNat b.toNat).toNat = b.toNat ∧ b ≠ 0x25 ∧
      plusAsBlank b = b := by
  have hall : ∀ n < 256, isFormByte (UInt8.ofNat n) = true →
      isFormChar (Char.ofNat (UInt8.ofNat n).toNat) = true ∧
        (Char.ofNat (UInt8.ofNat n).toNat).toNat = (UInt8.ofNat n).toNat ∧ UInt8.ofNat n ≠ 0x25 ∧
        plusAsBlank (UInt8.ofNat n) = UInt8.ofNat n := by decide +kernel
  have hb := hall b.toNat b.toNat_lt
  rw [UInt8.ofNat_toNat] at hb
  exact hb h

theorem isFormChar_hexDigitUpper {n : Nat} (h : n < 16) :
    isFormChar (Text.hexDigitUpper n) = true := by
  have hall : ∀ m < 16, isFormChar (Text.hexDigitUpper m) = true := by decide
  exact hall n h

theorem plusAsBlank_hexDigitUpper {n : Nat} (h : n < 16) :
    plusAsBlank (UInt8.ofNat (Text.hexDigitUpper n).toNat) =
      UInt8.ofNat (Text.hexDigitUpper n).toNat := by
  have hall : ∀ m < 16, plusAsBlank (UInt8.ofNat (Text.hexDigitUpper m).toNat) =
      UInt8.ofNat (Text.hexDigitUpper m).toNat := by decide
  exact hall n h

theorem isFormChar_formByte (b : UInt8) : ∀ c ∈ formByte b, isFormChar c = true := by
  have hb := b.toNat_lt
  unfold formByte
  split
  · exact List.forall_mem_singleton.mpr (by decide)
  · split
    · rename_i hform
      simpa using (isFormByte_plain hform).1
    · simp only [percentByte, List.forall_mem_cons]
      refine ⟨by decide, isFormChar_hexDigitUpper (by omega), isFormChar_hexDigitUpper (by omega), ?_⟩
      exact List.forall_mem_nil _

/-- A written byte is read back, whatever follows it. -/
theorem percentDecode_formByte (b : UInt8) (rest : Bytes) :
    percentDecode (((formByte b).map fun c => UInt8.ofNat c.toNat).map plusAsBlank ++ rest) =
      b :: percentDecode rest := by
  have hb := b.toNat_lt
  unfold formByte
  split
  · -- the blank comes back from its plus sign
    rename_i hblank
    rw [eq_of_beq hblank]
    exact percentDecode_kept (by decide) rest
  · split
    · rename_i hform
      obtain ⟨-, hsame, hmark, hplus⟩ := isFormByte_plain hform
      rw [List.map_singleton, List.map_singleton, hsame, UInt8.ofNat_toNat, hplus]
      exact percentDecode_kept hmark rest
    · -- no character of an escape is a plus sign
      have hescape : ((percentByte b).map fun c => UInt8.ofNat c.toNat).map plusAsBlank =
          (percentByte b).map fun c => UInt8.ofNat c.toNat := by
        have hsign : plusAsBlank (UInt8.ofNat '%'.toNat) = UInt8.ofNat '%'.toNat := by decide
        simp only [percentByte, List.map_cons, List.map_nil, hsign,
          plusAsBlank_hexDigitUpper (show b.toNat / 16 < 16 by omega),
          plusAsBlank_hexDigitUpper (show b.toNat % 16 < 16 by omega)]
      rw [hescape]
      exact percentDecode_percentByte b rest

/-! ## One text -/

theorem isFormChar_encodeFormText (s : String) : ∀ c ∈ encodeFormText s, isFormChar c = true := by
  intro c hc
  rw [encodeFormText_eq] at hc
  obtain ⟨b, -, hb⟩ := List.mem_flatMap.mp hc
  exact isFormChar_formByte b c hb

theorem isFormChar_ascii {c : Char} (h : isFormChar c = true) : c.toNat < 0x80 := by
  simp only [isFormChar, Bool.and_eq_true, decide_eq_true_eq] at h
  exact h.1.1

/-- The bytes of a text in a form. -/
def formTextBytes (s : String) : Bytes :=
  Utf8.encodeChars (encodeFormText s)

theorem formTextBytes_eq (s : String) :
    formTextBytes s = (encodeFormText s).map fun c => UInt8.ofNat c.toNat :=
  Utf8.encodeChars_ascii fun c hc => isFormChar_ascii (isFormChar_encodeFormText s c hc)

/-- No byte of a text is the sign after a field or after its name. -/
theorem formTextBytes_unmarked (s : String) :
    ∀ b ∈ formTextBytes s, (b == 0x26) = false ∧ (b == 0x3D) = false := by
  have hall : ∀ n < 0x80, isFormChar (Char.ofNat n) = true →
      (UInt8.ofNat n == 0x26) = false ∧ (UInt8.ofNat n == 0x3D) = false := by decide
  intro b hb
  rw [formTextBytes_eq] at hb
  obtain ⟨c, hc, rfl⟩ := List.mem_map.mp hb
  have hform := isFormChar_encodeFormText s c hc
  apply hall c.toNat (isFormChar_ascii hform)
  rw [Char.ofNat_toNat]
  exact hform

/-- The induction is on the bytes of the text, each of which is read back by itself. -/
theorem percentDecode_formTextBytes (s : String) :
    percentDecode ((formTextBytes s).map plusAsBlank) = Utf8.encode s := by
  rw [formTextBytes_eq, encodeFormText_eq]
  induction Utf8.encode s with
  | nil => rfl
  | cons b bytes ih =>
    rw [List.flatMap_cons, List.map_append, List.map_append, percentDecode_formByte, ih]

theorem decodeFormText_formTextBytes (s : String) : decodeFormText (formTextBytes s) = s := by
  have hglyphs := Utf8.glyphs_encodeChars s.toList
  rw [decodeFormText, percentDecode_formTextBytes, Utf8.decodeLossy, Utf8.encode, hglyphs]
  simp [Function.comp_def]

/-! ## Fields -/

/-- The bytes of a field. -/
def fieldBytes (field : String × String) : Bytes :=
  formTextBytes field.1 ++ 0x3D :: formTextBytes field.2

theorem decodeField_fieldBytes (field : String × String) : decodeField (fieldBytes field) = field := by
  have hcut : Text.splitFirst? (· == 0x3D) (fieldBytes field) =
      some (formTextBytes field.1, formTextBytes field.2) :=
    Text.splitFirst?_of_first (fun b hb => (formTextBytes_unmarked field.1 b hb).2) rfl _
  rw [decodeField, hcut]
  simp [decodeFormText_formTextBytes]

theorem fieldBytes_unmarked (field : String × String) :
    ∀ b ∈ fieldBytes field, (b == 0x26) = false := by
  intro b hb
  simp only [fieldBytes, List.mem_append, List.mem_cons] at hb
  rcases hb with hb | rfl | hb
  · exact (formTextBytes_unmarked field.1 b hb).1
  · decide
  · exact (formTextBytes_unmarked field.2 b hb).1

/-- A form is its fields with the sign `&` between them. -/
theorem encode_encodeForm (fields : Form) :
    Utf8.encode (encodeForm fields) = [0x26].intercalate (fields.map fieldBytes) := by
  have hsigns : Utf8.encodeChars ['='] = [0x3D] ∧ Utf8.encodeChars ['&'] = [0x26] := by decide
  have happend : ∀ xs ys, Utf8.encodeChars (xs ++ ys) = Utf8.encodeChars xs ++ Utf8.encodeChars ys :=
    fun xs ys => List.flatMap_append
  have hfield : ∀ k v, Utf8.encodeChars (encodeFormText k ++ '=' :: encodeFormText v) =
      fieldBytes (k, v) := by
    intro k v
    rw [happend, ← List.singleton_append, happend, hsigns.1]
    rfl
  rw [encodeForm, Utf8.encode, String.toList_ofList]
  induction fields using encodeFields.induct with
  | case1 => rfl
  | case2 k v => rw [encodeFields, hfield, List.map_singleton, List.intercalate_singleton]
  | case3 k v rest hrest ih =>
    have hne : rest.map fieldBytes ≠ [] := by simpa using hrest
    rw [encodeFields, List.map_cons, List.intercalate_cons_of_ne_nil hne, ← ih,
      ← List.singleton_append, ← hfield, ← hsigns.2, ← happend, ← happend]
    · simp
    · exact hrest

/-- Fields are read back from their form, with whatever texts and however often a name occurs. -/
theorem decodeForm_encodeForm (fields : Form) :
    decodeForm (Utf8.encode (encodeForm fields)) = fields := by
  rw [encode_encodeForm]
  by_cases hnil : fields = []
  · rw [hnil]
    rfl
  · have hsplit : Text.splitWhere (· == 0x26) ([0x26].intercalate (fields.map fieldBytes)) =
        fields.map fieldBytes := by
      apply Text.splitWhere_intercalate (by decide) (by simpa using hnil)
      intro part hpart
      obtain ⟨field, -, rfl⟩ := List.mem_map.mp hpart
      exact fieldBytes_unmarked field
    -- no field is empty, since each has its sign
    have hfull : (fields.map fieldBytes).filter (!·.isEmpty) = fields.map fieldBytes := by
      apply List.filter_eq_self.mpr
      intro part hpart
      obtain ⟨field, -, rfl⟩ := List.mem_map.mp hpart
      simp [fieldBytes]
    rw [decodeForm, hsplit, hfull, List.map_map]
    simp [Function.comp_def, decodeField_fieldBytes]

theorem encodeForm_inj {fields others : Form} (h : encodeForm fields = encodeForm others) :
    fields = others := by
  have hback := decodeForm_encodeForm fields
  rw [h, decodeForm_encodeForm others] at hback
  exact hback.symm

end GatewayProvisioning.Url
