import GatewayProvisioning.Proofs.AsciiForms
import GatewayProvisioning.Proofs.Cutting
import GatewayProvisioning.Proofs.Digits
import GatewayProvisioning.Proofs.Percent
import GatewayProvisioning.Url.Reader

/-!
# Hosts that stand as they are

A host of labels in lower case letters, digits and hyphens is its own name in ASCII: nothing in it is
mapped or composed, and what the tables of labels hold lies beyond ASCII. Four numbers with dots are
an address under a well-known scheme and a name under any other, and both are written alike.
-/

namespace GatewayProvisioning.Url.Idna

open Text

/-! ## Tables of labels -/

set_option maxRecDepth 100000 in
theorem marks_startAt : Ranges.startAt 0x80 marks = true := by
  unfold marks
  apply Ranges.startAt_ofText
  decide +kernel

set_option maxRecDepth 100000 in
theorem rightToLeft_startAt : Ranges.startAt 0x80 rightToLeft = true := by
  unfold rightToLeft
  apply Ranges.startAt_ofText
  decide +kernel

set_option maxRecDepth 100000 in
theorem arabicLetter_startAt : Ranges.startAt 0x80 arabicLetter = true := by
  unfold arabicLetter
  apply Ranges.startAt_ofText
  decide +kernel

set_option maxRecDepth 100000 in
theorem arabicNumber_startAt : Ranges.startAt 0x80 arabicNumber = true := by
  unfold arabicNumber
  apply Ranges.startAt_ofText
  decide +kernel

/-! ## Plain labels -/

/-- The characters of a label that stands as it is: lower case letters, digits and the hyphen. -/
def isPlainChar (c : Char) : Bool :=
  ('a' ≤ c && c ≤ 'z') || isDigit c || c == '-'

/-- A label that stands as it is in every host. -/
structure PlainLabel (label : List Char) : Prop where
  nonempty : label ≠ []
  chars : ∀ c ∈ label, isPlainChar c = true
  /-- Nothing is taken for punycode. -/
  unmarked : ¬"xn--".toList <+: label

/-- Labels with dots between them. -/
def plainName (labels : List (List Char)) : List Char :=
  ['.'].intercalate labels

theorem isPlainChar_lt {c : Char} (h : isPlainChar c = true) : c.toNat < 0x80 := by
  unfold isPlainChar isDigit at h
  simp only [Bool.or_eq_true, Bool.and_eq_true, decide_eq_true_eq, beq_iff_eq] at h
  rcases h with (⟨-, hz⟩ | ⟨-, h9⟩) | rfl
  · exact Nat.lt_of_le_of_lt hz (by decide)
  · exact Nat.lt_of_le_of_lt h9 (by decide)
  · decide

theorem isPlainChar_letter {c : Char} (h : 'a' ≤ c ∧ c ≤ 'z') : isPlainChar c = true := by
  simp [isPlainChar, h]

theorem isPlainChar_digit {c : Char} (h : isDigit c = true) : isPlainChar c = true := by
  unfold isPlainChar
  rw [h, Bool.or_true, Bool.true_or]

/-- What is decided for all ASCII characters holds of those of a label. -/
theorem isPlainChar_of_all {P : Char → Prop}
    (hall : ∀ n < 0x80, isPlainChar (Char.ofNat n) = true → P (Char.ofNat n)) {c : Char}
    (h : isPlainChar c = true) : P c := by
  have hc := hall c.toNat (isPlainChar_lt h)
  rw [Char.ofNat_toNat] at hc
  exact hc h

theorem isPlainChar_ne_dot {c : Char} (h : isPlainChar c = true) : (c == '.') = false :=
  isPlainChar_of_all (P := fun c => (c == '.') = false) (by decide) h

theorem mapped?_plain {c : Char} (h : isPlainChar c = true ∨ c = '.') :
    mapped? c.toNat = some [c.toNat] := by
  rcases h with h | rfl
  · exact isPlainChar_of_all (P := fun c => mapped? c.toNat = some [c.toNat]) (by decide +kernel) h
  · rfl

theorem isForbidden_plain {c : Char} (h : isPlainChar c = true) : isForbidden c.toNat = false :=
  isPlainChar_of_all (P := fun c => isForbidden c.toNat = false) (by decide +kernel) h

theorem plainName_chars {labels : List (List Char)} (h : ∀ label ∈ labels, PlainLabel label) :
    ∀ c ∈ plainName labels, isPlainChar c = true ∨ c = '.' :=
  forall_mem_intercalate (P := fun c => isPlainChar c = true ∨ c = '.') (.inr rfl)
    fun label hlabel c hc => .inl ((h label hlabel).chars c hc)

theorem plainName_lt {labels : List (List Char)} (h : ∀ label ∈ labels, PlainLabel label) :
    ∀ c ∈ plainName labels, c.toNat < 0x80 := by
  intro c hc
  rcases plainName_chars h c hc with hplain | rfl
  · exact isPlainChar_lt hplain
  · decide

theorem dotted_eq (labels : List (List Char)) : dotted labels = plainName labels := by
  unfold plainName
  induction labels with
  | nil => rfl
  | cons label rest ih =>
    cases rest with
    | nil => exact List.intercalate_singleton.symm
    | cons next rest =>
      rw [dotted, ih, List.intercalate_cons_cons, List.append_assoc]
      · rfl
      · intro hnil
        cases hnil

theorem splitWhere_plainName {labels : List (List Char)} (hne : labels ≠ [])
    (h : ∀ label ∈ labels, PlainLabel label) :
    splitWhere (· == '.') (plainName labels) = labels :=
  splitWhere_intercalate rfl hne fun label hlabel c hc =>
    isPlainChar_ne_dot ((h label hlabel).chars c hc)

/-! ## Code points of a plain label -/

theorem map_ofNat_toNat (cs : List Char) : (cs.map Char.toNat).map Char.ofNat = cs := by
  simp [Function.comp_def]

variable {label : List Char}

theorem PlainLabel.points (h : PlainLabel label) : ∀ n ∈ label.map Char.toNat, n < 0x80 := by
  intro n hn
  obtain ⟨c, hc, rfl⟩ := List.mem_map.mp hn
  exact isPlainChar_lt (h.chars c hc)

theorem PlainLabel.meaning? (h : PlainLabel label) :
    meaning? (label.map Char.toNat) = some (label.map Char.toNat) := by
  have hmark : ¬mark.isPrefixOf (label.map Char.toNat) = true := by
    intro hprefix
    have hback := (List.isPrefixOf_iff_prefix.mp hprefix).map Char.ofNat
    have hsame : mark.map Char.ofNat = "xn--".toList := by decide
    rw [hsame, map_ofNat_toNat] at hback
    exact h.unmarked hback
  unfold Idna.meaning?
  exact if_neg hmark

theorem PlainLabel.written (h : PlainLabel label) : Idna.written (label.map Char.toNat) = label := by
  have hascii : isAscii (label.map Char.toNat) = true := by
    unfold isAscii
    rw [List.all_eq_true]
    exact fun n hn => decide_eq_true (h.points n hn)
  unfold Idna.written
  rw [if_pos hascii, map_ofNat_toNat]

theorem joinersAllowed_ascii {ns : Label} (h : ∀ n ∈ ns, n < 0x80) (before : Label) :
    joinersAllowed before ns = true := by
  induction ns generalizing before with
  | nil => rfl
  | cons n ns ih =>
    have hn := h n List.mem_cons_self
    have hrest := ih fun m hm => h m (List.mem_cons_of_mem n hm)
    have hjoiner : n ≠ 0x200C ∧ n ≠ 0x200D := by omega
    unfold joinersAllowed
    simp [hjoiner.1, hjoiner.2, hrest]

theorem PlainLabel.allowed (h : PlainLabel label) : labelAllowed (label.map Char.toNat) = true := by
  have hmarks : ((label.map Char.toNat).head?.any fun n => marks.has n) = false := by
    rcases hhead : (label.map Char.toNat).head? with _ | n
    · rfl
    · have hlow := h.points n (List.mem_of_mem_head? hhead)
      rw [Option.any_some]
      exact Ranges.has_of_startAt marks_startAt hlow
  unfold labelAllowed
  rw [hmarks, joinersAllowed_ascii h.points]
  rfl

theorem PlainLabel.runsLeftToRight (h : PlainLabel label) :
    runsRightToLeft (label.map Char.toNat) = false := by
  unfold runsRightToLeft
  rw [List.any_eq_false]
  intro n hn
  have hlow := h.points n hn
  have hright := Ranges.has_of_startAt rightToLeft_startAt hlow
  have hletter := Ranges.has_of_startAt arabicLetter_startAt hlow
  have hnumber := Ranges.has_of_startAt arabicNumber_startAt hlow
  unfold Direction.of
  rw [hright, hletter, hnumber]
  -- whatever else the code point may be, it is neither of the two
  generalize europeanNumber.has n = european
  generalize nonspacingMark.has n = above
  generalize (_ || boundaryNeutral.has n) = neutral
  cases european <;> cases above <;> cases neutral <;> decide

/-! ## Plain names -/

section

variable {labels : List (List Char)} (h : ∀ label ∈ labels, PlainLabel label)
include h

theorem rows_plain :
    (plainName labels).mapM (fun c => mapped? c.toNat) =
      some ((plainName labels).map fun c => [c.toNat]) :=
  Utf8.mapM_some fun c hc => mapped?_plain (plainName_chars h c hc)

theorem composed_plain :
    composedForm ((plainName labels).map fun c => [c.toNat]).flatten =
      (plainName labels).map Char.toNat := by
  rw [← List.flatMap_def, ← List.map_eq_flatMap]
  apply composedForm_ascii
  intro n hn
  obtain ⟨c, hc, rfl⟩ := List.mem_map.mp hn
  exact plainName_lt h c hc

theorem points_plain (hne : labels ≠ []) :
    splitWhere (· == '.'.toNat) ((plainName labels).map Char.toNat) =
      labels.map (List.map Char.toNat) := by
  have hdot : (fun c : Char => c.toNat == '.'.toNat) = (· == '.') := by
    funext c
    rw [Bool.eq_iff_iff, beq_iff_eq, beq_iff_eq]
    exact Char.toNat_inj
  rw [splitWhere_map, hdot, splitWhere_plainName hne h]

theorem meanings_plain :
    (labels.map (List.map Char.toNat)).mapM meaning? = some (labels.map (List.map Char.toNat)) := by
  have hall : ∀ label ∈ labels, (meaning? ∘ List.map Char.toNat) label = some (label.map Char.toNat) :=
    fun label hlabel => (h label hlabel).meaning?
  rw [List.mapM_map, Utf8.mapM_some hall]

theorem stands_plain :
    ((labels.map (List.map Char.toNat)).any fun label =>
      label.any isForbidden || !labelAllowed label) = false := by
  rw [List.any_map, List.any_eq_false]
  intro label hlabel
  have hplain := h label hlabel
  have hforbidden : (label.map Char.toNat).any isForbidden = false := by
    rw [List.any_map, List.any_eq_false]
    intro c hc
    simpa using isForbidden_plain (hplain.chars c hc)
  simp [hforbidden, hplain.allowed]

theorem direction_plain : (labels.map (List.map Char.toNat)).any runsRightToLeft = false := by
  rw [List.any_map, List.any_eq_false]
  intro label hlabel
  simpa using (h label hlabel).runsLeftToRight

theorem written_plain : dotted ((labels.map (List.map Char.toNat)).map written) = plainName labels := by
  have hall : ∀ label ∈ labels, (written ∘ List.map Char.toNat) label = id label :=
    fun label hlabel => (h label hlabel).written
  rw [List.map_map, List.map_congr_left hall, List.map_id, dotted_eq]

/-- A plain name is its own name in ASCII. -/
theorem toAscii?_plain (hne : labels ≠ []) :
    toAscii? (String.ofList (plainName labels)) = some (String.ofList (plainName labels)) := by
  unfold toAscii?
  rw [String.toList_ofList, rows_plain h]
  simp only [Option.bind_eq_bind, Option.bind_some]
  rw [composed_plain h, points_plain h hne, meanings_plain h]
  simp only [Option.bind_some]
  rw [stands_plain h, direction_plain h, written_plain h]
  rfl

end

end GatewayProvisioning.Url.Idna

namespace GatewayProvisioning.Url

open Idna

/-! ## Numbers with dots -/

theorem numberIn?_concat (base : Nat) (cs : List Char) (c : Char) :
    numberIn? base (cs ++ [c]) =
      (numberIn? base cs).bind fun n => (digitIn? base c).map (base * n + ·) := by
  unfold numberIn?
  rw [List.foldlM_append]
  simp

theorem digitIn?_hexDigit {n : Nat} (h : n < 10) : digitIn? 10 (Text.hexDigit n) = some n := by
  have hall : ∀ m < 10, digitIn? 10 (Text.hexDigit m) = some m := by decide
  exact hall n h

theorem numberIn?_digits (n : Nat) : numberIn? 10 (Decimal.digits n) = some n := by
  induction n using Decimal.digits.induct with
  | case1 n hsmall =>
    rw [Decimal.digits, if_pos hsmall]
    simp [numberIn?, digitIn?_hexDigit hsmall]
  | case2 n hlarge ih =>
    have hdigit := digitIn?_hexDigit (Nat.mod_lt n (by decide : 10 > 0))
    rw [Decimal.digits, if_neg hlarge, numberIn?_concat, ih, Option.bind_some, hdigit,
      Option.map_some, Nat.div_add_mod]

/-- Without a zero in front a number is read in decimal. -/
theorem ipv4Number?_decimal {c : Char} (hc : c ≠ '0') (cs : List Char) :
    ipv4Number? (c :: cs) = numberIn? 10 (c :: cs) := by
  unfold ipv4Number?
  split <;> simp_all

theorem ipv4Number?_digits (n : Nat) : ipv4Number? (Decimal.digits n) = some n := by
  by_cases hzero : n = 0
  · rw [hzero, Decimal.digits]
    decide
  · obtain ⟨c, cs, hcs⟩ := List.exists_cons_of_ne_nil (Decimal.digits_ne_nil n)
    have hhead := Decimal.head_digits (Nat.pos_of_ne_zero hzero)
    rw [hcs, List.head?_cons] at hhead
    have hc : c ≠ '0' := fun h => hhead (congrArg some h)
    rw [hcs, ipv4Number?_decimal hc, ← hcs, numberIn?_digits]

theorem plainLabel_digits (n : Nat) : PlainLabel (Decimal.digits n) where
  nonempty := Decimal.digits_ne_nil n
  chars := fun c hc =>
    isPlainChar_digit (List.all_eq_true.mp (Decimal.decimalValue_digits n).1 c hc)
  unmarked := by
    rintro ⟨rest, hrest⟩
    have hdigits := (Decimal.decimalValue_digits n).1
    rw [← hrest] at hdigits
    exact absurd hdigits (by simp [Text.isDigit])

/-- Four numbers below 256, the highest first. -/
def octets (a b c d : UInt8) : List (List Char) :=
  [a, b, c, d].map fun n => Decimal.digits n.toNat

theorem octets_plain (a b c d : UInt8) : ∀ label ∈ octets a b c d, PlainLabel label := by
  intro label hlabel
  obtain ⟨n, -, rfl⟩ := List.mem_map.mp hlabel
  exact plainLabel_digits n.toNat

theorem dotParts_plain {labels : List (List Char)} (hne : labels ≠ [])
    (h : ∀ label ∈ labels, PlainLabel label) : dotParts (plainName labels) = labels := by
  have hlast : (labels.getLast? == some []) = false := by
    rw [beq_eq_false_iff_ne]
    intro hnil
    exact (h [] (List.mem_of_getLast? hnil)).nonempty rfl
  unfold dotParts
  simp only [splitWhere_plainName hne h, hlast, Bool.and_false]
  rfl

theorem endsInNumber_octets (a b c d : UInt8) :
    endsInNumber (plainName (octets a b c d)) = true := by
  have hdigits := (Decimal.decimalValue_digits d.toNat).1
  have hlast : (octets a b c d).getLast? = some (Decimal.digits d.toNat) := rfl
  have hne : (Decimal.digits d.toNat).isEmpty = false := by
    simpa using Decimal.digits_ne_nil d.toNat
  unfold endsInNumber
  rw [dotParts_plain (by simp [octets]) (octets_plain a b c d), hlast]
  simp [hdigits, hne]

/-- The number of four bytes. -/
def addressOf (a b c d : UInt8) : Nat :=
  ((a.toNat * 256 + b.toNat) * 256 + c.toNat) * 256 + d.toNat

theorem joinIpv4?_bytes (a b c d : UInt8) :
    joinIpv4? [a.toNat, b.toNat, c.toNat, d.toNat] = some (addressOf a b c d) := by
  have ha := a.toNat_lt
  have hb := b.toNat_lt
  have hc := c.toNat_lt
  have hd := d.toNat_lt
  have hsmall : ([a.toNat, b.toNat, c.toNat].any (255 < ·)) = false := by
    simp only [List.any_cons, List.any_nil, Bool.or_false, Bool.or_eq_false_iff,
      decide_eq_false_iff_not]
    omega
  have hroom : d.toNat >>> 8 = 0 := by
    rw [Nat.shiftRight_eq_div_pow]
    omega
  have hjoined : [a.toNat, b.toNat, c.toNat].foldl (256 * · + ·) 0 <<< 8 + d.toNat =
      addressOf a b c d := by
    rw [Nat.shiftLeft_eq]
    simp only [List.foldl_cons, List.foldl_nil, addressOf]
    omega
  change (if (decide (3 < 3) || [a.toNat, b.toNat, c.toNat].any (255 < ·) ||
      decide (0 < d.toNat >>> 8)) = true then none else some _) = _
  rw [hsmall, hroom]
  exact congrArg some hjoined

theorem ipv4?_octets (a b c d : UInt8) :
    ipv4? (plainName (octets a b c d)) = some (addressOf a b c d) := by
  have hnumbers : (octets a b c d).mapM ipv4Number? = some ([a, b, c, d].map UInt8.toNat) := by
    unfold octets
    rw [List.mapM_map]
    exact Utf8.mapM_some fun n _ => ipv4Number?_digits n.toNat
  unfold ipv4?
  rw [dotParts_plain (by simp [octets]) (octets_plain a b c d), hnumbers]
  exact joinIpv4?_bytes a b c d

theorem writeIpv4_addressOf (a b c d : UInt8) :
    writeIpv4 (addressOf a b c d) = plainName (octets a b c d) := by
  have ha := a.toNat_lt
  have hb := b.toNat_lt
  have hc := c.toNat_lt
  have hd := d.toNat_lt
  -- the part at place `i` is a digit of the address to the base 256
  have hpart : ∀ i n, addressOf a b c d / 2 ^ (8 * i) % 256 = n →
      Decimal.digits (addressOf a b c d >>> (8 * i) % 256) = Decimal.digits n := by
    intro i n hn
    rw [Nat.shiftRight_eq_div_pow, hn]
  unfold writeIpv4
  simp only
  rw [hpart 3 a.toNat (by unfold addressOf; omega), hpart 2 b.toNat (by unfold addressOf; omega),
    hpart 1 c.toNat (by unfold addressOf; omega), hpart 0 d.toNat (by unfold addressOf; omega)]
  simp [plainName, octets, List.intercalate_cons_cons]

/-! ## Plain hosts -/

/-- The hosts that stand as they are in every address: four numbers with dots, and labels of which
the last begins with a letter. -/
inductive PlainHost : List Char → Prop where
  | address (a b c d : UInt8) : PlainHost (plainName (octets a b c d))
  | name (labels : List (List Char)) (first : Char) (rest : List Char)
      (hlabels : ∀ label ∈ labels ++ [first :: rest], PlainLabel label)
      (hfirst : 'a' ≤ first ∧ first ≤ 'z') : PlainHost (plainName (labels ++ [first :: rest]))

theorem PlainHost.labels {cs : List Char} (h : PlainHost cs) :
    ∃ labels, labels ≠ [] ∧ (∀ label ∈ labels, PlainLabel label) ∧ cs = plainName labels := by
  cases h with
  | address a b c d => exact ⟨octets a b c d, by simp [octets], octets_plain a b c d, rfl⟩
  | name labels first rest hlabels => exact ⟨labels ++ [first :: rest], by simp, hlabels, rfl⟩

theorem PlainHost.chars {cs : List Char} (h : PlainHost cs) :
    ∀ c ∈ cs, isPlainChar c = true ∨ c = '.' := by
  obtain ⟨labels, -, hlabels, rfl⟩ := h.labels
  exact plainName_chars hlabels

theorem PlainHost.nonempty {cs : List Char} (h : PlainHost cs) : cs ≠ [] := by
  obtain ⟨labels, hne, hlabels, rfl⟩ := h.labels
  intro hnil
  -- an empty text would be split into one empty label
  have hparts := splitWhere_plainName hne hlabels
  rw [hnil] at hparts
  have hempty : [] ∈ labels := by
    rw [← hparts]
    exact List.mem_singleton_self _
  exact (hlabels [] hempty).nonempty rfl

/-- What is decided for all ASCII characters holds of those of a host. -/
theorem PlainHost.all {P : Char → Prop} {cs : List Char} (h : PlainHost cs) (hdot : P '.')
    (hall : ∀ n < 0x80, isPlainChar (Char.ofNat n) = true → P (Char.ofNat n)) : ∀ c ∈ cs, P c := by
  intro c hc
  rcases h.chars c hc with hplain | rfl
  · exact isPlainChar_of_all hall hplain
  · exact hdot

theorem PlainHost.ascii {cs : List Char} (h : PlainHost cs) : ∀ c ∈ cs, c.toNat < 0x80 :=
  h.all (by decide) (by decide)

theorem percentDecode_plain {bytes : Bytes} (h : ∀ b ∈ bytes, b ≠ 0x25) :
    percentDecode bytes = bytes := by
  induction bytes with
  | nil => rfl
  | cons b bytes ih =>
    rw [percentDecode_kept (h b List.mem_cons_self), ih fun d hd => h d (List.mem_cons_of_mem b hd)]

theorem decoded_plain {cs : List Char} (h : PlainHost cs) :
    Utf8.decodeLossy (percentDecode (Utf8.encodeChars cs)) = String.ofList cs := by
  have hbytes : ∀ b ∈ Utf8.encodeChars cs, b ≠ 0x25 := by
    rw [Utf8.encodeChars_ascii h.ascii]
    intro b hb
    obtain ⟨c, hc, rfl⟩ := List.mem_map.mp hb
    exact h.all (P := fun c => UInt8.ofNat c.toNat ≠ 0x25) (by decide) (by decide +kernel) c hc
  rw [percentDecode_plain hbytes, Utf8.decodeLossy, Utf8.glyphs_encodeChars, List.map_map]
  simp [Function.comp_def]

theorem bracketed?_plain {cs : List Char} (h : PlainHost cs) : Host.bracketed? cs = none := by
  have hbracket : ∀ c ∈ cs, c ≠ '[' := h.all (P := (· ≠ '[')) (by decide) (by decide +kernel)
  unfold Host.bracketed?
  split
  · exact absurd rfl (hbracket '[' List.mem_cons_self)
  · rfl

/-- A part that begins with a letter is no number. -/
theorem not_number {first : Char} (hfirst : 'a' ≤ first ∧ first ≤ 'z') (rest : List Char) :
    ((first :: rest).all Text.isDigit || (ipv4Number? (first :: rest)).isSome) = false := by
  have hplain := isPlainChar_letter hfirst
  have hletter : Text.isDigit first = false ∧ first ≠ '0' ∧ digitIn? 10 first = none := by
    refine isPlainChar_of_all
      (P := fun c => 'a' ≤ c ∧ c ≤ 'z' → Text.isDigit c = false ∧ c ≠ '0' ∧ digitIn? 10 c = none)
      (by decide +kernel) hplain hfirst
  have hnumber : numberIn? 10 (first :: rest) = none := by
    unfold numberIn?
    rw [List.foldlM_cons, hletter.2.2]
    rfl
  rw [ipv4Number?_decimal hletter.2.1, hnumber, List.all_cons, hletter.1]
  rfl

theorem endsInNumber_name {labels : List (List Char)} {first : Char} {rest : List Char}
    (hlabels : ∀ label ∈ labels ++ [first :: rest], PlainLabel label)
    (hfirst : 'a' ≤ first ∧ first ≤ 'z') :
    endsInNumber (plainName (labels ++ [first :: rest])) = false := by
  unfold endsInNumber
  rw [dotParts_plain (by simp) hlabels, List.getLast?_concat]
  simp only [not_number hfirst rest, Bool.and_false]

/-- A well-known scheme reads a plain host and writes it as it was. -/
theorem ofSpecial_plain {cs : List Char} (h : PlainHost cs) :
    ∃ host, Host.ofSpecial cs = .ok host ∧ host.write = String.ofList cs := by
  have hempty : (String.ofList cs).isEmpty = false := by
    simpa using h.nonempty
  obtain ⟨labels, hne, hlabels, hcs⟩ := h.labels
  have hascii : toAscii? (String.ofList cs) = some (String.ofList cs) := by
    rw [hcs]
    exact toAscii?_plain hlabels hne
  unfold Host.ofSpecial
  rw [bracketed?_plain h, decoded_plain h]
  simp only [hascii, hempty, String.toList_ofList]
  rw [if_neg (by decide)]
  -- the last part tells an address from a name
  cases h with
  | address a b c d =>
    refine ⟨.ipv4 (addressOf a b c d), ?_, ?_⟩
    · rw [if_pos (endsInNumber_octets a b c d), ipv4?_octets]
    · rw [Host.write, writeIpv4_addressOf]
  | name labels first rest hlabels hfirst =>
    refine ⟨.name (String.ofList (plainName (labels ++ [first :: rest]))), ?_, rfl⟩
    rw [if_neg (by rw [endsInNumber_name hlabels hfirst]; decide)]

/-- Another scheme takes a plain host as it stands. -/
theorem ofOther_plain {cs : List Char} (h : PlainHost cs) :
    Host.ofOther cs = .ok (.name (String.ofList cs)) := by
  have hallowed : cs.any Host.forbidden.contains = false := by
    rw [List.any_eq_false]
    intro c hc
    simpa using h.all (P := fun c => Host.forbidden.contains c = false) (by decide)
      (by decide +kernel) c hc
  have hkept : percentEncode Host.isPrintable (Utf8.encodeChars cs) = cs := by
    have hone : ∀ c ∈ cs, (if Host.isPrintable (UInt8.ofNat c.toNat) then
        [Char.ofNat (UInt8.ofNat c.toNat).toNat] else percentByte (UInt8.ofNat c.toNat)) = [c] :=
      h.all (by decide) (by decide +kernel)
    unfold percentEncode
    rw [Utf8.encodeChars_ascii h.ascii, List.flatMap_map, List.flatMap_def,
      List.map_congr_left hone, ← List.flatMap_def, List.flatMap_singleton']
  unfold Host.ofOther
  simp only [bracketed?_plain h, hallowed, hkept]
  rfl

/-- Under every scheme a plain host is read, and it is written as it was. -/
theorem readHost_plain (special : Bool) {cs : List Char} (h : PlainHost cs) :
    ∃ host, readHost special cs = .ok (some host) ∧ host.write = String.ofList cs := by
  have hempty : cs.isEmpty = false := by
    simpa using h.nonempty
  unfold readHost
  rw [hempty]
  cases special with
  | true =>
    obtain ⟨host, hread, hwrite⟩ := ofSpecial_plain h
    refine ⟨host, ?_, hwrite⟩
    rw [hread]
    rfl
  | false =>
    refine ⟨.name (String.ofList cs), ?_, rfl⟩
    rw [ofOther_plain h]
    rfl

end GatewayProvisioning.Url
