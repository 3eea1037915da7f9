import GatewayProvisioning.Proofs.Below

/-!
# Names as segments

Which segments an address keeps: those of words, unless they are dots. A name becomes such a segment
unless it is empty or made of one or two dots.
-/

namespace GatewayProvisioning.Url

/-! ## Dots -/

theorem asciiLower_eq {c d : Char} (h : Text.asciiLower c = d) (hd : d.toNat < 0x61) : c = d := by
  unfold Text.asciiLower at h
  split at h
  · rename_i hupper
    simp only [Bool.and_eq_true, decide_eq_true_eq] at hupper
    have hlow : 0x41 ≤ c.toNat := hupper.1
    have hhigh : c.toNat ≤ 0x5A := hupper.2
    rw [← h, toNat_ofNat_ascii (by omega)] at hd
    omega
  · exact h

theorem asciiLower_eq_e {c : Char} (h : Text.asciiLower c = 'e') : c = 'e' ∨ c = 'E' := by
  unfold Text.asciiLower at h
  split at h
  · rename_i hupper
    simp only [Bool.and_eq_true, decide_eq_true_eq] at hupper
    have hlow : 0x41 ≤ c.toNat := hupper.1
    have hhigh : c.toNat ≤ 0x5A := hupper.2
    have hnumber := congrArg Char.toNat h
    rw [toNat_ofNat_ascii (by omega)] at hnumber
    have he : c.toNat = 0x45 := by
      have : 'e'.toNat = 0x65 := rfl
      omega
    right
    rw [← Char.ofNat_toNat c, he]
  · exact .inl h

theorem lowercase_eq_iff {cs : List Char} {s : String} :
    (Text.asciiLowercase (String.ofList cs) == s) = true ↔ cs.map Text.asciiLower = s.toList := by
  unfold Text.asciiLowercase
  rw [String.toList_ofList, beq_iff_eq]
  constructor
  · intro h
    rw [← h, String.toList_ofList]
  · intro h
    rw [h, String.ofList_toList]

/-- An escaped dot, of either case. -/
theorem lower_escaped_dot {cs rest : List Char}
    (h : cs.map Text.asciiLower = '%' :: '2' :: 'e' :: rest) :
    ∃ e tail, cs = '%' :: '2' :: e :: tail ∧ (e = 'e' ∨ e = 'E') ∧
      tail.map Text.asciiLower = rest := by
  rcases cs with _ | ⟨a, _ | ⟨b, _ | ⟨e, tail⟩⟩⟩
  · cases h
  · simp at h
  · simp at h
  · simp only [List.map_cons, List.cons.injEq] at h
    obtain ⟨ha, hb, he, htail⟩ := h
    rw [asciiLower_eq ha (by decide), asciiLower_eq hb (by decide)]
    exact ⟨e, tail, rfl, asciiLower_eq_e he, htail⟩

theorem lower_dot {cs rest : List Char} (h : cs.map Text.asciiLower = '.' :: rest) :
    ∃ tail, cs = '.' :: tail ∧ tail.map Text.asciiLower = rest := by
  rcases cs with _ | ⟨a, tail⟩
  · cases h
  · simp only [List.map_cons, List.cons.injEq] at h
    rw [asciiLower_eq h.1 (by decide)]
    exact ⟨tail, rfl, h.2⟩

/-- A dot segment is a dot when it is decoded. -/
theorem isDot_decoded {cs : List Char} (h : isDot cs = true) :
    percentDecode (Utf8.encodeChars cs) = [0x2E] := by
  unfold isDot at h
  rw [Bool.or_eq_true, lowercase_eq_iff, lowercase_eq_iff] at h
  rcases h with h | h
  · obtain ⟨tail, rfl, htail⟩ := lower_dot h
    rw [List.map_eq_nil_iff.mp htail]
    decide
  · obtain ⟨e, tail, rfl, he, htail⟩ := lower_escaped_dot h
    rw [List.map_eq_nil_iff.mp htail]
    rcases he with rfl | rfl <;> decide

/-- A double dot segment is two dots when it is decoded. -/
theorem isDoubleDot_decoded {cs : List Char} (h : isDoubleDot cs = true) :
    percentDecode (Utf8.encodeChars cs) = [0x2E, 0x2E] := by
  unfold isDoubleDot at h
  simp only [Bool.or_eq_true, lowercase_eq_iff] at h
  rcases h with ((h | h) | h) | h
  · obtain ⟨tail, rfl, htail⟩ := lower_dot h
    obtain ⟨tail, rfl, hnil⟩ := lower_dot htail
    rw [List.map_eq_nil_iff.mp hnil]
    decide
  · obtain ⟨tail, rfl, htail⟩ := lower_dot h
    obtain ⟨e, tail, rfl, he, hnil⟩ := lower_escaped_dot htail
    rw [List.map_eq_nil_iff.mp hnil]
    rcases he with rfl | rfl <;> decide
  · obtain ⟨e, tail, rfl, he, htail⟩ := lower_escaped_dot h
    obtain ⟨tail, rfl, hnil⟩ := lower_dot htail
    rw [List.map_eq_nil_iff.mp hnil]
    rcases he with rfl | rfl <;> decide
  · obtain ⟨e, tail, rfl, he, htail⟩ := lower_escaped_dot h
    obtain ⟨e', tail, rfl, he', hnil⟩ := lower_escaped_dot htail
    rw [List.map_eq_nil_iff.mp hnil]
    rcases he with rfl | rfl <;> rcases he' with rfl | rfl <;> decide

/-! ## Words -/

/-- A segment that an address keeps as it stands. -/
structure IsWord (word : String) : Prop where
  chars : ∀ c ∈ word.toList, isWordChar c = true
  notDot : isDot word.toList = false
  notDoubleDot : isDoubleDot word.toList = false

theorem isWord_empty : IsWord "" where
  chars := by simp
  notDot := rfl
  notDoubleDot := rfl

/-- A name becomes a segment that an address keeps, unless it is made of one or two dots. -/
theorem isWord_encodeSegment {name : String} (hdot : name ≠ ".") (hdots : name ≠ "..") :
    IsWord (encodeSegment name) where
  chars := isWordChar_encodeSegment name
  notDot := by
    rw [← Bool.not_eq_true]
    intro h
    have hbytes := isDot_decoded h
    rw [← Utf8.encode, percentDecode_encodeSegment] at hbytes
    exact hdot (Utf8.encode_inj hbytes)
  notDoubleDot := by
    rw [← Bool.not_eq_true]
    intro h
    have hbytes := isDoubleDot_decoded h
    rw [← Utf8.encode, percentDecode_encodeSegment] at hbytes
    exact hdots (Utf8.encode_inj hbytes)

theorem isWord_of_fixed {word : String} (h : encodeSegment word = word) (hdot : word ≠ ".")
    (hdots : word ≠ "..") : IsWord word := by
  rw [← h]
  exact isWord_encodeSegment hdot hdots

theorem keeps_wordChar {c : Char} (h : isWordChar c = true) :
    keeps pathEscapes (UInt8.ofNat c.toNat) = true ∧
      Char.ofNat (UInt8.ofNat c.toNat).toNat = c := by
  have hlt := isWordChar_ascii h
  have hall : ∀ n < 0x80, isWordChar (Char.ofNat n) = true →
      keeps pathEscapes (UInt8.ofNat (Char.ofNat n).toNat) = true := by decide +kernel
  have hc := hall c.toNat hlt
  rw [Char.ofNat_toNat] at hc
  exact ⟨hc h, by rw [Utf8.toNat_byte (by omega), Char.ofNat_toNat]⟩

theorem escape_word {cs : List Char} (h : ∀ c ∈ cs, isWordChar c = true) :
    escape pathEscapes cs = String.ofList cs := by
  unfold escape
  rw [Utf8.encodeChars_ascii fun c hc => isWordChar_ascii (h c hc)]
  apply congrArg String.ofList
  induction cs with
  | nil => rfl
  | cons c cs ih =>
    obtain ⟨hkeep, hchar⟩ := keeps_wordChar (h c List.mem_cons_self)
    rw [List.map_cons, percentEncode, List.flatMap_cons, if_pos hkeep, hchar, ← percentEncode,
      ih fun d hd => h d (List.mem_cons_of_mem c hd), List.singleton_append]

theorem settle_word {word : String} (h : IsWord word) (before : List String) :
    settle before word.toList = word :: before := by
  unfold settle
  rw [h.notDot, h.notDoubleDot, escape_word h.chars, String.ofList_toList]
  rfl

theorem resolve_words (before : List String) {words : List String} (hne : words ≠ [])
    (h : ∀ word ∈ words, IsWord word) :
    resolve before (words.map String.toList) = before.reverse ++ words := by
  induction words generalizing before with
  | nil => exact absurd rfl hne
  | cons word words ih =>
    have hword := h word List.mem_cons_self
    rcases words with _ | ⟨next, words⟩
    · rw [List.map_singleton, resolve, hword.notDot, hword.notDoubleDot, escape_word hword.chars,
        String.ofList_toList]
      exact List.reverse_cons
    · rw [List.map_cons, ← List.singleton_append, resolve_append before [word.toList] (by simp),
        List.foldl_cons, List.foldl_nil, settle_word hword,
        ih (word :: before) (List.cons_ne_nil _ _) fun w hw => h w (List.mem_cons_of_mem word hw)]
      simp

/-- A dot stands for nothing, but at the end for an empty segment. -/
theorem resolve_dot (before : List String) {words : List String} (h : ∀ word ∈ words, IsWord word) :
    resolve before (['.'] :: words.map String.toList) =
      before.reverse ++ if words = [] then [""] else words := by
  by_cases hnil : words = []
  · rw [hnil, if_pos rfl]
    exact List.reverse_cons
  · have hmap : words.map String.toList ≠ [] := by simpa using hnil
    rw [if_neg hnil, ← List.singleton_append, resolve_append before [['.']] hmap]
    exact resolve_words before hnil h

/-- A double dot takes the segment before it away, and stands at the end for an empty segment. -/
theorem resolve_doubleDot (before : List String) {words : List String}
    (h : ∀ word ∈ words, IsWord word) :
    resolve before (['.', '.'] :: words.map String.toList) =
      (before.drop 1).reverse ++ if words = [] then [""] else words := by
  by_cases hnil : words = []
  · rw [hnil, if_pos rfl]
    exact List.reverse_cons
  · have hmap : words.map String.toList ≠ [] := by simpa using hnil
    rw [if_neg hnil, ← List.singleton_append, resolve_append before [['.', '.']] hmap]
    exact resolve_words (before.drop 1) hnil h

/-! ## Segments with slashes between them -/

/-- Segments with slashes between them. -/
def slashed : List String → List Char
  | [] => []
  | [segment] => segment.toList
  | segment :: next :: rest => segment.toList ++ '/' :: slashed (next :: rest)

theorem slashed_cons (segment : String) {rest : List String} (h : rest ≠ []) :
    slashed (segment :: rest) = segment.toList ++ '/' :: slashed rest := by
  rcases rest with _ | ⟨next, rest⟩
  · exact absurd rfl h
  · rfl

theorem slashed_append (segments : List String) {rest : List String} (hs : segments ≠ [])
    (h : rest ≠ []) : slashed (segments ++ rest) = slashed segments ++ '/' :: slashed rest := by
  induction segments with
  | nil => exact absurd rfl hs
  | cons segment segments ih =>
    rcases segments with _ | ⟨next, segments⟩
    · exact slashed_cons segment h
    · rw [List.cons_append, slashed_cons segment (by simp), ih (by simp),
        slashed_cons segment (by simp)]
      simp

theorem isWordChar_ne {c : Char} (h : isWordChar c = true) : c ≠ '/' ∧ c ≠ '\\' := by
  constructor
  · rintro rfl
    revert h
    decide
  · rintro rfl
    revert h
    decide

theorem splitPath_word (special : Bool) {word : String}
    (h : ∀ c ∈ word.toList, isWordChar c = true) :
    splitPath special word.toList = [word.toList] := by
  apply Text.splitWhere_of_none
  intro c hc
  have hne := isWordChar_ne (h c hc)
  simp [hne]

theorem splitPath_slashed (special : Bool) {segments : List String} (hne : segments ≠ [])
    (h : ∀ segment ∈ segments, ∀ c ∈ segment.toList, isWordChar c = true) :
    splitPath special (slashed segments) = segments.map String.toList := by
  induction segments with
  | nil => exact absurd rfl hne
  | cons segment segments ih =>
    have hword := h segment List.mem_cons_self
    rcases segments with _ | ⟨next, segments⟩
    · exact splitPath_word special hword
    · rw [slashed_cons segment (by simp), splitPath_append, splitPath_word special hword,
        ih (by simp) fun s hs => h s (List.mem_cons_of_mem segment hs)]
      rfl

theorem isPathChar_slashed {segments : List String}
    (h : ∀ segment ∈ segments, ∀ c ∈ segment.toList, isWordChar c = true) :
    ∀ c ∈ slashed segments, isPathChar c = true := by
  induction segments with
  | nil =>
    intro c hc
    cases hc
  | cons segment segments ih =>
    have hword : ∀ c ∈ segment.toList, isPathChar c = true := fun c hc => by
      unfold isPathChar
      rw [h segment List.mem_cons_self c hc, Bool.true_or]
    rcases segments with _ | ⟨next, segments⟩
    · exact hword
    · intro c hc
      rw [slashed_cons segment (by simp)] at hc
      rcases List.mem_append.mp hc with hc | hc
      · exact hword c hc
      · rcases List.mem_cons.mp hc with rfl | hc
        · rfl
        · exact ih (fun s hs => h s (List.mem_cons_of_mem segment hs)) c hc

theorem slashed_start {first : String} {rest : List String} (hne : first ≠ "")
    (h : ∀ c ∈ first.toList, isWordChar c = true) :
    (slashed (first :: rest)).head? ≠ some '/' := by
  have hhead : first.toList.head? ≠ some '/' := fun hhead =>
    (isWordChar_ne (h '/' (List.mem_of_head? hhead))).1 rfl
  obtain ⟨c, cs, hcs⟩ := List.exists_cons_of_ne_nil (mt String.toList_eq_nil_iff.mp hne)
  rcases rest with _ | ⟨next, rest⟩
  · exact hhead
  · rw [slashed_cons first (by simp), hcs]
    rw [hcs] at hhead
    exact hhead

theorem slashed_end {segments : List String} (hs : segments ≠ [])
    (hlast : segments.getLast? ≠ some "")
    (h : ∀ segment ∈ segments, ∀ c ∈ segment.toList, isWordChar c = true) :
    slashed segments ≠ [] ∧ (slashed segments).getLast? ≠ some '/' := by
  induction segments with
  | nil => exact absurd rfl hs
  | cons segment segments ih =>
    rcases segments with _ | ⟨next, segments⟩
    · have hne : segment ≠ "" := fun hempty => hlast (congrArg some hempty)
      refine ⟨mt String.toList_eq_nil_iff.mp hne, fun hend => ?_⟩
      exact (isWordChar_ne (h segment List.mem_cons_self '/' (List.mem_of_getLast? hend))).1 rfl
    · rw [List.getLast?_cons_cons] at hlast
      obtain ⟨hrest, hend⟩ := ih (by simp) hlast fun s hs => h s (List.mem_cons_of_mem segment hs)
      rw [slashed_cons segment (by simp)]
      refine ⟨by simp, ?_⟩
      have hsome := List.getLast?_eq_some_getLast hrest
      rw [List.getLast?_append, List.getLast?_cons_of_ne_nil hrest, hsome, Option.some_or, ← hsome]
      exact hend

/-- Words of which neither the first nor the last is empty neither begin nor end with a slash when
they are put together. -/
theorem slashed_ends {segments : List String} (hfirst : segments.head? ≠ some "")
    (hlast : segments.getLast? ≠ some "") (hs : segments ≠ [])
    (h : ∀ segment ∈ segments, ∀ c ∈ segment.toList, isWordChar c = true) :
    slashed segments ≠ [] ∧ (slashed segments).head? ≠ some '/' ∧
      (slashed segments).getLast? ≠ some '/' := by
  obtain ⟨hnil, hend⟩ := slashed_end hs hlast h
  obtain ⟨first, rest, rfl⟩ := List.exists_cons_of_ne_nil hs
  have hne : first ≠ "" := fun hempty => hfirst (congrArg some hempty)
  exact ⟨hnil, slashed_start hne (h first List.mem_cons_self), hend⟩

/-! ## Joining -/

theorem join_toList (base : String) (segment : String) :
    (join base [segment]).toList = appendSegment (trimBase base) segment := by
  unfold join
  rw [String.toList_ofList]
  rfl

/-- The address of something directly below a collection is that of the collection, a slash and what
follows it, however many slashes the collection has around it. -/
theorem join_below (base collection : String) {t : List Char} (hne : t ≠ [])
    (hfirst : t.head? ≠ some '/') (hlast : t.getLast? ≠ some '/') :
    join base [String.ofList (trimBase collection ++ '/' :: t)] =
      String.ofList ((join base [collection]).toList ++ '/' :: t) := by
  have htail : (t.getLast hne == '/') = false := by
    rw [List.getLast?_eq_some_getLast hne, ne_eq, Option.some.injEq] at hlast
    simpa using hlast
  obtain ⟨d, rest, ht⟩ := List.exists_cons_of_ne_nil hne
  have hhead : t.dropWhile (· == '/') = t := by
    rw [ht, List.head?_cons, ne_eq, Option.some.injEq] at hfirst
    rw [ht]
    exact List.dropWhile_cons_of_neg (by simpa using hfirst)
  have hend : ∀ front : List Char,
      Text.dropEndWhile (· == '/') (front ++ '/' :: t) = front ++ '/' :: t := by
    intro front
    apply Text.dropEndWhile_of_getLast (by simp)
    rw [List.getLast_append_of_ne_nil _ (List.cons_ne_nil _ _), List.getLast_cons hne]
    exact htail
  -- what is cut in front of the path is what is cut in front of the collection
  have hcollection : (trimBase collection).dropWhile (· == '/') =
      Text.dropBothWhile (· == '/') collection.toList := Text.dropWhile_dropEndWhile _
  apply String.toList_inj.mp
  rw [join_toList, join_toList, String.toList_ofList]
  unfold appendSegment
  rw [String.toList_ofList, Text.dropBothWhile, List.dropWhile_append, hcollection]
  -- without a collection the slash after it is cut as well
  rcases hmid : Text.dropBothWhile (· == '/') collection.toList with _ | ⟨c, mid⟩
  · have hslash : ('/' :: t).dropWhile (· == '/') = t := by
      rw [List.dropWhile_cons_of_pos rfl, hhead]
    have hself : Text.dropEndWhile (· == '/') t = t := Text.dropEndWhile_of_getLast hne htail
    rw [List.isEmpty_nil, if_pos rfl, hslash, hself, ht]
  · rw [List.isEmpty_cons, if_neg Bool.false_ne_true, hend (c :: mid)]
    simp

theorem join_nil (base : String) : join base [] = String.ofList (trimBase base) := rfl

theorem join_empty (base : String) : join base [""] = String.ofList (trimBase base) := rfl

theorem join_row (base : String) {t : List Char} (hne : t ≠ []) (hfirst : t.head? ≠ some '/')
    (hlast : t.getLast? ≠ some '/') :
    join base [String.ofList t] = String.ofList (trimBase base ++ '/' :: t) := by
  have hslash := join_below base "" hne hfirst hlast
  have htrim : trimBase "" = [] := rfl
  rw [join_empty, String.toList_ofList, htrim, List.nil_append] at hslash
  rw [← hslash]
  apply String.toList_inj.mp
  rw [join_toList, join_toList]
  unfold appendSegment
  rw [String.toList_ofList, String.toList_ofList]
  unfold Text.dropBothWhile
  rw [List.dropWhile_cons_of_pos rfl]

end GatewayProvisioning.Url
