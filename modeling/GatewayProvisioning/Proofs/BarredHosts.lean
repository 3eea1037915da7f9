import GatewayProvisioning.Proofs.PlainHosts

/-!
# Characters that no host holds

Some ASCII characters mean something in an address and are no part of a name. They stay what they are
while a host is decoded, mapped, composed and split into labels, so a host that holds one of them is
refused, unless it stands in brackets.
-/

namespace GatewayProvisioning

/-! ## Punycode -/

namespace Url.Punycode

/-- A step is made up of digits. -/
theorem readStep_digits {cs rest : List Char} {i weight k bias next : Nat}
    (h : readStep cs i weight k bias = some (next, rest)) :
    ∀ c ∈ cs, (digitValue? c).isSome = true ∨ c ∈ rest := by
  induction cs generalizing i weight k with
  | nil => cases h
  | cons d cs ih =>
    unfold readStep at h
    obtain ⟨value, hvalue, h⟩ := Option.bind_eq_some_iff.mp h
    intro c hc
    rcases List.mem_cons.mp hc with rfl | hc
    · rw [hvalue]
      exact .inl rfl
    · simp only at h
      split at h
      · cases h
      · split at h
        · cases h
          exact .inr hc
        · exact ih h c hc

theorem decodeFrom_keeps {fuel : Nat} {cs : List Char} {row out : List Nat} {n i bias : Nat}
    (h : decodeFrom fuel cs row n i bias = some out) :
    (∀ m ∈ row, m ∈ out) ∧ ∀ c ∈ cs, (digitValue? c).isSome = true := by
  induction fuel generalizing cs row n i bias with
  | zero => cases h
  | succ fuel ih =>
    cases cs with
    | nil =>
      cases h
      exact ⟨fun _ hm => hm, fun _ hc => by cases hc⟩
    | cons d cs =>
      rw [decodeFrom] at h
      · obtain ⟨⟨next, rest⟩, hstep, h⟩ := Option.bind_eq_some_iff.mp h
        simp only at h
        split at h
        · cases h
        · obtain ⟨hrow, hrest⟩ := ih h
          refine ⟨fun m hm => hrow m ?_, fun c hc => ?_⟩
          · -- a code point is put between those before it
            rw [List.mem_append, List.mem_cons]
            rw [← List.take_append_drop (next % (row.length + 1)) row, List.mem_append] at hm
            exact hm.imp_right .inr
          · exact (readStep_digits hstep c hc).elim id (hrest c)
      · intro hnil
        cases hnil

/-- What is no digit stays in the row. -/
theorem mem_decode? {cs : List Char} {out : List Nat} (h : decode? cs = some out) {c : Char}
    (hc : c ∈ cs) (hdigit : digitValue? c = none) (hmark : c ≠ '-') : c.toNat ∈ out := by
  unfold decode? at h
  rcases hsplit : Text.splitLast? (· == '-') cs with _ | ⟨basic, steps⟩
  · simp only [hsplit] at h
    split at h
    · cases h
    · have hsome := (decodeFrom_keeps h).2 c hc
      rw [hdigit] at hsome
      cases hsome
  · simp only [hsplit] at h
    split at h
    · cases h
    · obtain ⟨hrow, hsteps⟩ := decodeFrom_keeps h
      obtain ⟨mark, hm, rfl⟩ := Text.splitLast?_eq_some hsplit
      rw [List.mem_append, List.mem_cons] at hc
      rcases hc with hc | rfl | hc
      · exact hrow c.toNat (List.mem_map_of_mem hc)
      · exact absurd (eq_of_beq hm) hmark
      · have hsome := hsteps c hc
        rw [hdigit] at hsome
        cases hsome

end Url.Punycode

/-! ## Barred characters -/

namespace Url

/-- Characters that mean something in an address, and that no name holds. -/
def barred : List Char :=
  "#/:?@[\\]^|".toList

/-- Whether no composed character of a table begins with one of the given code points. -/
def beginsWithNone (points : List Nat) (rows : List (Nat × List Nat)) : Bool :=
  rows.all fun row => !points.contains (row.2.headD 0)

theorem beginsWithNone_rowsOfText (points : List Nat) {cs : List Char}
    (h : beginsWithNone points ((Text.splitWhere Text.isBlank cs).filterMap fun item =>
      if item.isEmpty then none else Text.row? item) = true) :
    beginsWithNone points (Text.rowsOfText (String.ofList cs)) = true := by
  unfold Text.rowsOfText
  rw [String.toList_ofList]
  exact h

set_option maxRecDepth 100000 in
theorem compositions_begin : beginsWithNone (barred.map Char.toNat) Text.compositions = true := by
  unfold Text.compositions
  apply beginsWithNone_rowsOfText
  decide +kernel

/-- What every reading of a name does with a barred character. -/
structure IsBarred (c : Char) : Prop where
  ascii : c.toNat < 0x80
  no_escape : UInt8.ofNat c.toNat ≠ 0x25 ∧ Text.hexValue? c = none
  mapped : Idna.mapped? c.toNat = some [c.toNat]
  no_digit : Punycode.digitValue? c = none ∧ c ≠ '-'
  no_mark : c.toNat ∉ Idna.mark ∧ c.toNat ≠ '.'.toNat
  forbidden : Idna.isForbidden c.toNat = true

theorem isBarred_of_mem {c : Char} (h : c ∈ barred) : IsBarred c := by
  have hall : barred.all (fun d => d.toNat < 0x80 ∧
      (UInt8.ofNat d.toNat ≠ 0x25 ∧ Text.hexValue? d = none) ∧
      Idna.mapped? d.toNat = some [d.toNat] ∧ (Punycode.digitValue? d = none ∧ d ≠ '-') ∧
      (d.toNat ∉ Idna.mark ∧ d.toNat ≠ '.'.toNat) ∧ Idna.isForbidden d.toNat = true) = true := by
    decide +kernel
  obtain ⟨hascii, hescape, hmapped, hdigit, hmark, hforbidden⟩ :=
    of_decide_eq_true (List.all_eq_true.mp hall c h)
  exact ⟨hascii, hescape, hmapped, hdigit, hmark, hforbidden⟩

variable {c : Char}

theorem composed?_barred (h : c ∈ barred) (m : Nat) : Text.composed? c.toNat m = none := by
  have hascii := (isBarred_of_mem h).ascii
  have hsyllable : Text.syllable? c.toNat m = none := by
    unfold Text.syllable?
    rw [if_neg (by omega), if_neg (by unfold Text.syllableBase; omega)]
  have hrow : Text.compositions.find? (fun row => row.2 == [c.toNat, m]) = none := by
    rw [List.find?_eq_none]
    intro row hmem hparts
    have hbegin := List.all_eq_true.mp compositions_begin row hmem
    rw [beq_iff_eq.mp hparts] at hbegin
    simp only [List.headD_cons, Bool.not_eq_true', List.contains_eq_mem, decide_eq_false_iff_not]
      at hbegin
    exact hbegin (List.mem_map_of_mem h)
  unfold Text.composed?
  rw [hsyllable]
  simp only [hrow, Option.map_none]

theorem mem_meaning? (h : c ∈ barred) {label out : Idna.Label} (hmeaning : Idna.meaning? label = some out)
    (hmem : c.toNat ∈ label) : c.toNat ∈ out := by
  have hbarred := isBarred_of_mem h
  unfold Idna.meaning? at hmeaning
  split at hmeaning
  · rename_i hprefix
    split at hmeaning
    · obtain ⟨decoded, hdecoded, hmeaning⟩ := Option.bind_eq_some_iff.mp hmeaning
      split at hmeaning
      · cases hmeaning
        obtain ⟨rest, rfl⟩ := List.isPrefixOf_iff_prefix.mp hprefix
        have hrest : c.toNat ∈ rest :=
          (List.mem_append.mp hmem).resolve_left hbarred.no_mark.1
        rw [List.drop_left] at hdecoded
        have hchar : c ∈ rest.map Char.ofNat := by
          have hmap := List.mem_map_of_mem (f := Char.ofNat) hrest
          rwa [Char.ofNat_toNat] at hmap
        exact Punycode.mem_decode? hdecoded hchar hbarred.no_digit.1 hbarred.no_digit.2
      · cases hmeaning
    · cases hmeaning
  · cases hmeaning
    exact hmem

/-- A name with a barred character is none. -/
theorem toAscii?_barred (h : c ∈ barred) {name : String} (hmem : c ∈ name.toList) :
    Idna.toAscii? name = none := by
  have hbarred := isBarred_of_mem h
  rw [Option.eq_none_iff_forall_ne_some]
  intro ascii hascii
  unfold Idna.toAscii? at hascii
  obtain ⟨rows, hrows, hascii⟩ := Option.bind_eq_some_iff.mp hascii
  obtain ⟨labels, hlabels, hascii⟩ := Option.bind_eq_some_iff.mp hascii
  obtain ⟨row, hrow, hmapped⟩ := Utf8.exists_of_mapM hrows hmem
  rw [hbarred.mapped, Option.some.injEq] at hmapped
  have hpoint : c.toNat ∈ rows.flatten := by
    rw [List.mem_flatten]
    exact ⟨row, hrow, by rw [← hmapped]; exact List.mem_singleton_self _⟩
  have hcomposed := Text.mem_composedForm hbarred.ascii (composed?_barred h) hpoint
  obtain ⟨part, hpart, hinside⟩ := Text.exists_part (p := (· == '.'.toNat)) hcomposed
    (beq_eq_false_iff_ne.mpr hbarred.no_mark.2)
  obtain ⟨label, hlabel, hmeaning⟩ := Utf8.exists_of_mapM hlabels hpart
  have hstands : (labels.any fun label => label.any Idna.isForbidden || !Idna.labelAllowed label) =
      true := by
    rw [List.any_eq_true]
    refine ⟨label, hlabel, ?_⟩
    rw [Bool.or_eq_true, List.any_eq_true]
    exact .inl ⟨c.toNat, mem_meaning? h hmeaning hinside, hbarred.forbidden⟩
  rw [if_pos hstands] at hascii
  cases hascii

/-- A host of a well-known scheme that holds a barred character stands in brackets. -/
theorem ofSpecial_barred (h : c ∈ barred) {cs : List Char} (hmem : c ∈ cs) {host : Host}
    (hhost : Host.ofSpecial cs = .ok host) : ∃ inner, cs = '[' :: inner ++ [']'] := by
  have hbarred := isBarred_of_mem h
  have hbyte : (UInt8.ofNat c.toNat).toNat = c.toNat :=
    Utf8.toNat_byte (Nat.lt_trans hbarred.ascii (by decide))
  unfold Host.ofSpecial at hhost
  rcases hbracket : Host.bracketed? cs with _ | result
  · -- the character is still there when the name is put into ASCII
    have hdecoded : c ∈ (Utf8.decodeLossy (percentDecode (Utf8.encodeChars cs))).toList := by
      have hkept := mem_percentDecode hbarred.no_escape.1
        (by rw [hbyte, Char.ofNat_toNat]; exact hbarred.no_escape.2)
        (Utf8.mem_encodeChars hbarred.ascii hmem)
      have hchar := Utf8.mem_decodeLossy (by rw [hbyte]; exact hbarred.ascii) hkept
      rwa [hbyte, Char.ofNat_toNat] at hchar
    rw [hbracket] at hhost
    simp only [toAscii?_barred h hdecoded] at hhost
    cases hhost
  · rw [hbracket] at hhost
    simp only at hhost
    rw [hhost] at hbracket
    unfold Host.bracketed? at hbracket
    split at hbracket
    · rw [Option.some.injEq] at hbracket
      split at hbracket
      · rename_i hlast _
        obtain ⟨inner, rfl⟩ := List.getLast?_eq_some_iff.mp hlast
        exact ⟨inner, rfl⟩
      · cases hbracket
    · cases hbracket

end Url

end GatewayProvisioning
