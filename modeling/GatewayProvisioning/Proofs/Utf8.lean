import GatewayProvisioning.Text.Utf8

/-!
# Reading back the bytes of a text

The bytes of a character take the decoder from between two characters to between two characters, and
it has then found that character. So a text is the text of its bytes, and no two texts share theirs.
Of bytes that are no text, the ASCII characters are found all the same.
-/

namespace GatewayProvisioning.Utf8

/-! ## Steps of the decoder -/

theorem glyphsFrom_ascii {b : UInt8} (h : b.toNat < 0x80) (rest : Bytes) :
    glyphsFrom .between (b :: rest) = some (Char.ofNat b.toNat) :: glyphsFrom .between rest := by
  rw [glyphsFrom, step, enter, if_pos h]
  rfl

theorem glyphsFrom_lead {b : UInt8} {missing low high : Nat} (hb : 0x80 ≤ b.toNat)
    (h : continuation? b.toNat = some (missing, low, high)) (rest : Bytes) :
    glyphsFrom .between (b :: rest) =
      glyphsFrom (.within (b.toNat % Nat.pow 2 (6 - missing)) missing low high) rest := by
  rw [glyphsFrom, step, enter, if_neg (by omega), h]
  rfl

theorem glyphsFrom_more {b : UInt8} {value missing low high : Nat} (hm : 1 < missing)
    (hlow : low ≤ b.toNat) (hhigh : b.toNat ≤ high) (rest : Bytes) :
    glyphsFrom (.within value missing low high) (b :: rest) =
      glyphsFrom (.within (value * 64 + (b.toNat - 0x80)) (missing - 1) 0x80 0xBF) rest := by
  have hin : (decide (low ≤ b.toNat) && decide (b.toNat ≤ high)) = true := by simp [hlow, hhigh]
  rw [glyphsFrom, step, if_pos hin, if_neg (by omega)]
  rfl

theorem glyphsFrom_last {b : UInt8} {value low high : Nat} (hlow : low ≤ b.toNat)
    (hhigh : b.toNat ≤ high) (rest : Bytes) :
    glyphsFrom (.within value 1 low high) (b :: rest) =
      some (Char.ofNat (value * 64 + (b.toNat - 0x80))) :: glyphsFrom .between rest := by
  have hin : (decide (low ≤ b.toNat) && decide (b.toNat ≤ high)) = true := by simp [hlow, hhigh]
  rw [glyphsFrom, step, if_pos hin, if_pos (Nat.le_refl 1)]
  rfl

/-! ## First bytes -/

theorem continuation?_two {b : Nat} (hlow : 0xC2 ≤ b) (hhigh : b ≤ 0xDF) :
    continuation? b = some (1, 0x80, 0xBF) := by
  unfold continuation?
  simp [hlow, hhigh]

/-- After the first byte of three, the bounds leave out what two bytes can say and the surrogates. -/
theorem continuation?_three {b : Nat} (hlow : 0xE0 ≤ b) (hhigh : b ≤ 0xEF) :
    ∃ low high, continuation? b = some (2, low, high) ∧
      (low = if b = 0xE0 then 0xA0 else 0x80) ∧ (high = if b = 0xED then 0x9F else 0xBF) := by
  have hcases : b = 0xE0 ∨ b = 0xED ∨ (b ≠ 0xE0 ∧ b ≠ 0xED) := by omega
  rcases hcases with rfl | rfl | ⟨h0, h1⟩
  · exact ⟨0xA0, 0xBF, rfl, rfl, rfl⟩
  · exact ⟨0x80, 0x9F, rfl, rfl, rfl⟩
  · refine ⟨0x80, 0xBF, ?_, by rw [if_neg h0], by rw [if_neg h1]⟩
    have htwo : ¬b ≤ 0xDF := by omega
    have hthree : 0xE1 ≤ b := by omega
    unfold continuation?
    simp [htwo, h0, h1, hthree, hhigh]

/-- After the first byte of four, the bounds leave out what three bytes can say and what no character
has as its number. -/
theorem continuation?_four {b : Nat} (hlow : 0xF0 ≤ b) (hhigh : b ≤ 0xF4) :
    ∃ low high, continuation? b = some (3, low, high) ∧
      (low = if b = 0xF0 then 0x90 else 0x80) ∧ (high = if b = 0xF4 then 0x8F else 0xBF) := by
  have hcases : b = 0xF0 ∨ b = 0xF4 ∨ (b ≠ 0xF0 ∧ b ≠ 0xF4) := by omega
  rcases hcases with rfl | rfl | ⟨h0, h1⟩
  · exact ⟨0x90, 0xBF, rfl, rfl, rfl⟩
  · exact ⟨0x80, 0x8F, rfl, rfl, rfl⟩
  · refine ⟨0x80, 0xBF, ?_, by rw [if_neg h0], by rw [if_neg h1]⟩
    have htwo : ¬b ≤ 0xDF := by omega
    have hthree : ¬b ≤ 0xEF := by omega
    have he0 : b ≠ 0xE0 := by omega
    have hed : b ≠ 0xED := by omega
    have hfour : 0xF1 ≤ b ∧ b ≤ 0xF3 := by omega
    unfold continuation?
    simp [htwo, hthree, he0, hed, h0, hfour.1, hfour.2]

/-! ## Characters -/

theorem toNat_valid (c : Char) : c.toNat < 0xD800 ∨ (0xDFFF < c.toNat ∧ c.toNat < 0x110000) :=
  c.valid

theorem toNat_byte {n : Nat} (h : n < 256) : (UInt8.ofNat n).toNat = n := by
  rw [UInt8.toNat_ofNat']
  exact Nat.mod_eq_of_lt h

/-- A byte that goes on a character, by its six bits. -/
theorem toNat_next (n : Nat) : (UInt8.ofNat (n % 64 + 0x80)).toNat = n % 64 + 0x80 :=
  toNat_byte (by omega)

theorem glyphsFrom_two {v : Nat} (hlow : 0x7f < v) (hhigh : v ≤ 0x7ff) (rest : Bytes) :
    glyphsFrom .between
        (UInt8.ofNat (v / 64 % 0x20 + 0xc0) :: UInt8.ofNat (v % 0x40 + 0x80) :: rest) =
      some (Char.ofNat v) :: glyphsFrom .between rest := by
  have hlead : (UInt8.ofNat (v / 64 % 0x20 + 0xc0)).toNat = v / 64 + 0xc0 := by
    rw [toNat_byte (by omega)]
    omega
  have hnext := toNat_next v
  have hcont : continuation? (UInt8.ofNat (v / 64 % 0x20 + 0xc0)).toNat = some (1, 0x80, 0xBF) := by
    rw [hlead]
    exact continuation?_two (by omega) (by omega)
  have hpow : Nat.pow 2 (6 - 1) = 32 := rfl
  have hvalue : (v / 64 + 0xc0) % Nat.pow 2 (6 - 1) * 64 + (v % 64 + 0x80 - 0x80) = v := by
    rw [hpow]
    omega
  rw [glyphsFrom_lead (by omega) hcont, glyphsFrom_last (by omega) (by omega), hlead, hnext, hvalue]

theorem glyphsFrom_three {v : Nat} (hlow : 0x7ff < v) (hhigh : v ≤ 0xffff)
    (hvalid : v < 0xD800 ∨ 0xDFFF < v) (rest : Bytes) :
    glyphsFrom .between
        (UInt8.ofNat (v / 4096 % 0x10 + 0xe0) :: UInt8.ofNat (v / 64 % 0x40 + 0x80) ::
          UInt8.ofNat (v % 0x40 + 0x80) :: rest) =
      some (Char.ofNat v) :: glyphsFrom .between rest := by
  have hlead : (UInt8.ofNat (v / 4096 % 0x10 + 0xe0)).toNat = v / 4096 + 0xe0 := by
    rw [toNat_byte (by omega)]
    omega
  have hsecond := toNat_next (v / 64)
  have hthird := toNat_next v
  obtain ⟨low, high, hcont, hl, hh⟩ :=
    continuation?_three (b := v / 4096 + 0xe0) (by omega) (by omega)
  rw [← hlead] at hcont
  -- the narrow bounds hold, since the number needs three bytes and is no surrogate
  have hbounds : low ≤ v / 64 % 64 + 0x80 ∧ v / 64 % 64 + 0x80 ≤ high := by
    split at hl <;> split at hh <;> omega
  have hpow : Nat.pow 2 (6 - 2) = 16 := rfl
  have hvalue : ((v / 4096 + 0xe0) % Nat.pow 2 (6 - 2) * 64 + (v / 64 % 64 + 0x80 - 0x80)) * 64 +
      (v % 64 + 0x80 - 0x80) = v := by
    rw [hpow]
    omega
  rw [glyphsFrom_lead (by omega) hcont,
    glyphsFrom_more (by omega) (by rw [hsecond]; exact hbounds.1) (by rw [hsecond]; exact hbounds.2),
    glyphsFrom_last (by omega) (by omega), hlead, hsecond, hthird, hvalue]

theorem glyphsFrom_four {v : Nat} (hlow : 0xffff < v) (hhigh : v < 0x110000) (rest : Bytes) :
    glyphsFrom .between
        (UInt8.ofNat (v / 262144 % 0x08 + 0xf0) :: UInt8.ofNat (v / 4096 % 0x40 + 0x80) ::
          UInt8.ofNat (v / 64 % 0x40 + 0x80) :: UInt8.ofNat (v % 0x40 + 0x80) :: rest) =
      some (Char.ofNat v) :: glyphsFrom .between rest := by
  have hlead : (UInt8.ofNat (v / 262144 % 0x08 + 0xf0)).toNat = v / 262144 + 0xf0 := by
    rw [toNat_byte (by omega)]
    omega
  have hsecond := toNat_next (v / 4096)
  have hthird := toNat_next (v / 64)
  have hfourth := toNat_next v
  obtain ⟨low, high, hcont, hl, hh⟩ :=
    continuation?_four (b := v / 262144 + 0xf0) (by omega) (by omega)
  rw [← hlead] at hcont
  have hbounds : low ≤ v / 4096 % 64 + 0x80 ∧ v / 4096 % 64 + 0x80 ≤ high := by
    split at hl <;> split at hh <;> omega
  have hpow : Nat.pow 2 (6 - 3) = 8 := rfl
  have hvalue : (((v / 262144 + 0xf0) % Nat.pow 2 (6 - 3) * 64 +
      (v / 4096 % 64 + 0x80 - 0x80)) * 64 + (v / 64 % 64 + 0x80 - 0x80)) * 64 +
      (v % 64 + 0x80 - 0x80) = v := by
    rw [hpow]
    omega
  rw [glyphsFrom_lead (by omega) hcont,
    glyphsFrom_more (by omega) (by rw [hsecond]; exact hbounds.1) (by rw [hsecond]; exact hbounds.2),
    glyphsFrom_more (by omega) (by omega) (by omega),
    glyphsFrom_last (by omega) (by omega), hlead, hsecond, hthird, hfourth, hvalue]

/-- The bytes of a character are read as that character, whatever follows them. -/
theorem glyphsFrom_encodeChar (c : Char) (rest : Bytes) :
    glyphsFrom .between (String.utf8EncodeChar c ++ rest) = some c :: glyphsFrom .between rest := by
  have hvalid := toNat_valid c
  have hchar : some c = some (Char.ofNat c.toNat) := by rw [Char.ofNat_toNat]
  have hnumber : c.val.toNat = c.toNat := rfl
  unfold String.utf8EncodeChar
  rw [hnumber, hchar]
  generalize c.toNat = v at hvalid ⊢
  by_cases hone : v ≤ 0x7f
  · have hbyte : (UInt8.ofNat v).toNat = v := toNat_byte (by omega)
    rw [if_pos hone, List.singleton_append, glyphsFrom_ascii (by omega), hbyte]
  · by_cases htwo : v ≤ 0x7ff
    · rw [if_neg hone, if_pos htwo]
      exact glyphsFrom_two (by omega) htwo rest
    · by_cases hthree : v ≤ 0xffff
      · rw [if_neg hone, if_neg htwo, if_pos hthree]
        exact glyphsFrom_three (by omega) hthree (by omega) rest
      · rw [if_neg hone, if_neg htwo, if_neg hthree]
        exact glyphsFrom_four (by omega) (by omega) rest

/-! ## Texts -/

theorem glyphs_encodeChars (cs : List Char) : glyphs (encodeChars cs) = cs.map some := by
  induction cs with
  | nil => rfl
  | cons c cs ih =>
    have hcons : encodeChars (c :: cs) = String.utf8EncodeChar c ++ encodeChars cs := rfl
    rw [hcons, glyphs, glyphsFrom_encodeChar]
    exact congrArg (some c :: ·) ih

theorem mapM_some {α β : Type} {f : α → Option β} {g : α → β} {xs : List α}
    (h : ∀ x ∈ xs, f x = some (g x)) : xs.mapM f = some (xs.map g) := by
  induction xs with
  | nil => rfl
  | cons x xs ih =>
    have hrest := ih fun y hy => h y (List.mem_cons_of_mem x hy)
    rw [List.mapM_cons, h x List.mem_cons_self, hrest]
    rfl

theorem exists_of_mapM {α β : Type} {f : α → Option β} {xs : List α} {ys : List β}
    (h : xs.mapM f = some ys) {x : α} (hx : x ∈ xs) : ∃ y ∈ ys, f x = some y := by
  induction xs generalizing ys with
  | nil => cases hx
  | cons x' xs ih =>
    rw [List.mapM_cons] at h
    obtain ⟨y, hy, h⟩ := Option.bind_eq_some_iff.mp h
    obtain ⟨ys', hys, h⟩ := Option.bind_eq_some_iff.mp h
    cases h
    rcases List.mem_cons.mp hx with rfl | hx
    · exact ⟨y, List.mem_cons_self, hy⟩
    · obtain ⟨z, hz, hfx⟩ := ih hys hx
      exact ⟨z, List.mem_cons_of_mem y hz, hfx⟩

/-- A list that has been written member by member is read back member by member. -/
theorem mapM_map_some {α β : Type} {f : β → Option α} {g : α → β} {xs : List α}
    (h : ∀ x ∈ xs, f (g x) = some x) : (xs.map g).mapM f = some xs := by
  have hid : ∀ x ∈ xs, (f ∘ g) x = some (id x) := h
  rw [List.mapM_map, mapM_some hid, List.map_id]

theorem mapM_id_some {α : Type} (xs : List α) : (xs.map some).mapM id = some xs :=
  mapM_map_some fun _ _ => rfl

/-- A text is read back from its bytes. -/
theorem decode?_encode (s : String) : decode? (encode s) = some s := by
  unfold decode? encode
  rw [glyphs_encodeChars, mapM_id_some, Option.map_some, String.ofList_toList]

theorem encode_inj {s t : String} (h : encode s = encode t) : s = t := by
  have hs := decode?_encode s
  rw [h, decode?_encode t, Option.some.injEq] at hs
  exact hs.symm

/-- The bytes of ASCII characters are their numbers. -/
theorem encodeChars_ascii {cs : List Char} (h : ∀ c ∈ cs, c.toNat < 0x80) :
    encodeChars cs = cs.map fun c => UInt8.ofNat c.toNat := by
  induction cs with
  | nil => rfl
  | cons c cs ih =>
    have hc : c.toNat ≤ 0x7f := Nat.le_of_lt_succ (h c List.mem_cons_self)
    have hone : String.utf8EncodeChar c = [UInt8.ofNat c.toNat] := if_pos hc
    have hcons : encodeChars (c :: cs) = String.utf8EncodeChar c ++ encodeChars cs := rfl
    rw [hcons, hone, ih fun d hd => h d (List.mem_cons_of_mem c hd)]
    rfl

/-! ## ASCII among other bytes -/

/-- Where a decoder can stand: the next byte of a character is no ASCII. -/
def Position.Sound : Position → Prop
  | .between => True
  | .within _ _ low _ => 0x80 ≤ low

theorem continuation?_sound {b missing low high : Nat}
    (h : continuation? b = some (missing, low, high)) : 0x80 ≤ low := by
  unfold continuation? at h
  split at h
  · cases h
    decide
  repeat' split at h
  all_goals
    cases h
    try decide

theorem enter_sound (b : UInt8) : (enter b).2.Sound := by
  unfold enter
  split
  · trivial
  · split
    · trivial
    · rename_i hfirst
      exact continuation?_sound hfirst

theorem step_sound {position : Position} (h : position.Sound) (b : UInt8) :
    (step position b).2.Sound := by
  cases position with
  | between => exact enter_sound b
  | within value missing low high =>
    rw [step]
    split
    · split
      · trivial
      · exact Nat.le_refl 0x80
    · exact enter_sound b

/-- An ASCII byte is a character wherever it stands. -/
theorem mem_step {position : Position} (h : position.Sound) {b : UInt8} (hb : b.toNat < 0x80) :
    some (Char.ofNat b.toNat) ∈ (step position b).1 := by
  have henter : some (Char.ofNat b.toNat) ∈ (enter b).1 := by
    rw [enter, if_pos hb]
    exact List.mem_singleton_self _
  cases position with
  | between => exact henter
  | within value missing low high =>
    have hlow : 0x80 ≤ low := h
    have hout : ¬(decide (low ≤ b.toNat) && decide (b.toNat ≤ high)) = true := by
      simp only [Bool.and_eq_true, decide_eq_true_eq, not_and]
      omega
    rw [step, if_neg hout]
    exact List.mem_cons_of_mem _ henter

theorem mem_glyphsFrom {bytes : Bytes} {b : UInt8} (hb : b.toNat < 0x80) (hmem : b ∈ bytes)
    {position : Position} (h : position.Sound) :
    some (Char.ofNat b.toNat) ∈ glyphsFrom position bytes := by
  induction bytes generalizing position with
  | nil => cases hmem
  | cons d bytes ih =>
    have hcons : glyphsFrom position (d :: bytes) =
        (step position d).1 ++ glyphsFrom (step position d).2 bytes := by
      cases position <;> rfl
    rw [hcons]
    rcases List.mem_cons.mp hmem with rfl | hmem
    · exact List.mem_append_left _ (mem_step h hb)
    · exact List.mem_append_right _ (ih hmem (step_sound h d))

theorem mem_decodeLossy {bytes : Bytes} {b : UInt8} (hb : b.toNat < 0x80) (hmem : b ∈ bytes) :
    Char.ofNat b.toNat ∈ (decodeLossy bytes).toList := by
  have hbetween : Position.between.Sound := trivial
  have hglyph : some (Char.ofNat b.toNat) ∈ glyphs bytes := mem_glyphsFrom hb hmem hbetween
  rw [decodeLossy, String.toList_ofList]
  exact List.mem_map_of_mem (f := (·.getD (Char.ofNat 0xFFFD))) hglyph

theorem mem_encodeChars {cs : List Char} {c : Char} (hc : c.toNat < 0x80) (hmem : c ∈ cs) :
    UInt8.ofNat c.toNat ∈ encodeChars cs := by
  have hone : String.utf8EncodeChar c = [UInt8.ofNat c.toNat] := if_pos (Nat.le_of_lt_succ hc)
  rw [encodeChars, List.mem_flatMap]
  exact ⟨c, hmem, by rw [hone]; exact List.mem_singleton_self _⟩

end GatewayProvisioning.Utf8
