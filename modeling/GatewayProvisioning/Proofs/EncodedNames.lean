import GatewayProvisioning.Proofs.Targets

/-!
# Encoded names

An encoded name is made of unreserved characters and escapes, and it is read back as the name whatever
characters that has. So the paths of two consumers, or of different things of one consumer, are never
the same.
-/

namespace GatewayProvisioning

namespace Url

/-! ## Characters -/

/-- The unreserved characters: ASCII letters and digits, and four signs. -/
def isUnreservedChar (c : Char) : Bool :=
  ('A' ≤ c && c ≤ 'Z') || ('a' ≤ c && c ≤ 'z') || ('0' ≤ c && c ≤ '9') ||
    c == '-' || c == '.' || c == '_' || c == '~'

/-- The hexadecimal digits of upper case. -/
def isUpperHexDigit (c : Char) : Bool :=
  ('0' ≤ c && c ≤ '9') || ('A' ≤ c && c ≤ 'F')

/-- Rows of unreserved characters and of percent signs with two digits of upper case after them. -/
inductive Encoded : List Char → Prop
  | nil : Encoded []
  | plain {c : Char} {cs : List Char} (unreserved : isUnreservedChar c = true)
      (rest : Encoded cs) : Encoded (c :: cs)
  | escape {high low : Char} {cs : List Char} (first : isUpperHexDigit high = true)
      (second : isUpperHexDigit low = true) (rest : Encoded cs) : Encoded ('%' :: high :: low :: cs)

theorem isUnreservedChar_byte {b : UInt8} (h : isUnreserved b = true) :
    isUnreservedChar (Char.ofNat b.toNat) = true := by
  have hall : ∀ n < 256, isUnreserved (UInt8.ofNat n) = true →
      isUnreservedChar (Char.ofNat (UInt8.ofNat n).toNat) = true := by decide +kernel
  have hb := hall b.toNat b.toNat_lt
  rw [UInt8.ofNat_toNat] at hb
  exact hb h

theorem isUnreservedChar_lt {c : Char} (h : isUnreservedChar c = true) : c.toNat < 0x80 := by
  have hle : ∀ d : Char, d.toNat < 0x80 → c ≤ d → c.toNat < 0x80 :=
    fun d hd hcd => Nat.lt_of_le_of_lt hcd hd
  simp only [isUnreservedChar, Bool.or_eq_true, Bool.and_eq_true, decide_eq_true_eq,
    beq_iff_eq] at h
  rcases h with (((((⟨-, h⟩ | ⟨-, h⟩) | ⟨-, h⟩) | rfl) | rfl) | rfl) | rfl
  · exact hle 'Z' (by decide) h
  · exact hle 'z' (by decide) h
  · exact hle '9' (by decide) h
  all_goals decide

theorem isUnreserved_char {c : Char} (h : isUnreservedChar c = true) :
    isUnreserved (UInt8.ofNat c.toNat) = true := by
  have hall : ∀ n < 0x80, isUnreservedChar (Char.ofNat n) = true →
      isUnreserved (UInt8.ofNat n) = true := by decide +kernel
  have hc := hall c.toNat (isUnreservedChar_lt h)
  rw [Char.ofNat_toNat] at hc
  exact hc h

theorem isUpperHexDigit_hexDigitUpper {n : Nat} (h : n < 16) :
    isUpperHexDigit (Text.hexDigitUpper n) = true := by
  have hall : ∀ m < 16, isUpperHexDigit (Text.hexDigitUpper m) = true := by decide
  exact hall n h

theorem encoded_percentEncode (bytes : Bytes) : Encoded (percentEncode isUnreserved bytes) := by
  unfold percentEncode
  induction bytes with
  | nil => exact .nil
  | cons b bytes ih =>
    rw [List.flatMap_cons]
    by_cases hb : isUnreserved b = true
    · rw [if_pos hb]
      exact .plain (isUnreservedChar_byte hb) ih
    · rw [if_neg hb]
      have hlt := b.toNat_lt
      exact .escape (isUpperHexDigit_hexDigitUpper (by omega))
        (isUpperHexDigit_hexDigitUpper (by omega)) ih

theorem encoded_encodeSegment (s : String) : Encoded (encodeSegment s).toList := by
  unfold encodeSegment
  rw [String.toList_ofList]
  exact encoded_percentEncode _

/-! ## Character by character -/

/-- How a character is written in a segment. -/
def segmentChars (c : Char) : List Char :=
  percentEncode isUnreserved (String.utf8EncodeChar c)

theorem toList_encodeSegment (s : String) :
    (encodeSegment s).toList = s.toList.flatMap segmentChars := by
  unfold encodeSegment Utf8.encode Utf8.encodeChars segmentChars percentEncode
  rw [String.toList_ofList, List.flatMap_assoc]

theorem encodeSegment_append (s t : String) :
    encodeSegment (s ++ t) = encodeSegment s ++ encodeSegment t := by
  apply String.toList_inj.mp
  rw [String.toList_append, toList_encodeSegment, toList_encodeSegment, toList_encodeSegment,
    String.toList_append, List.flatMap_append]

theorem segmentChars_unreserved {c : Char} (h : isUnreservedChar c = true) : segmentChars c = [c] := by
  have hlt := isUnreservedChar_lt h
  have hone : String.utf8EncodeChar c = [UInt8.ofNat c.toNat] := if_pos (Nat.le_of_lt_succ hlt)
  unfold segmentChars
  rw [hone, percentEncode, List.flatMap_singleton, if_pos (isUnreserved_char h),
    Utf8.toNat_byte (by omega), Char.ofNat_toNat]

/-- Each byte is written with one character at least. -/
theorem length_percentEncode (bytes : Bytes) :
    bytes.length ≤ (percentEncode isUnreserved bytes).length := by
  unfold percentEncode
  induction bytes with
  | nil => exact Nat.le_refl 0
  | cons b bytes ih =>
    rw [List.flatMap_cons, List.length_append, List.length_cons]
    split
    · rw [List.length_singleton]
      omega
    · rw [percentByte, List.length_cons]
      omega

theorem length_segmentChars_pos (c : Char) : 1 ≤ (segmentChars c).length := by
  have hbytes := length_percentEncode (String.utf8EncodeChar c)
  rw [String.length_utf8EncodeChar] at hbytes
  exact Nat.le_trans c.utf8Size_pos hbytes

/-- A character that is not unreserved is written with several. -/
theorem length_segmentChars {c : Char} (h : isUnreservedChar c = false) :
    2 ≤ (segmentChars c).length := by
  by_cases hascii : c.toNat < 0x80
  · have hone : String.utf8EncodeChar c = [UInt8.ofNat c.toNat] := if_pos (Nat.le_of_lt_succ hascii)
    have hbyte : ¬isUnreserved (UInt8.ofNat c.toNat) = true := by
      intro hb
      have hchar := isUnreservedChar_byte hb
      rw [Utf8.toNat_byte (by omega), Char.ofNat_toNat, h] at hchar
      cases hchar
    unfold segmentChars
    rw [hone, percentEncode, List.flatMap_singleton, if_neg hbyte, percentByte]
    exact Nat.le_succ 2
  · have hbytes := length_percentEncode (String.utf8EncodeChar c)
    rw [String.length_utf8EncodeChar] at hbytes
    have hne : c.utf8Size ≠ 1 := by
      rw [ne_eq, Char.utf8Size_eq_one_iff]
      exact fun hle => hascii (Nat.lt_succ_of_le hle)
    have hpos := c.utf8Size_pos
    exact Nat.le_trans (by omega) hbytes

theorem length_flatMap_segmentChars (cs : List Char) :
    cs.length ≤ (cs.flatMap segmentChars).length := by
  induction cs with
  | nil => exact Nat.le_refl 0
  | cons c cs ih =>
    have hpos := length_segmentChars_pos c
    rw [List.flatMap_cons, List.length_append, List.length_cons]
    omega

/-- Only a text of unreserved characters is not made longer. -/
theorem unreserved_of_flatMap_eq {cs : List Char} (h : cs.flatMap segmentChars = cs) :
    ∀ c ∈ cs, isUnreservedChar c = true := by
  induction cs with
  | nil => simp
  | cons c cs ih =>
    have hlength := congrArg List.length h
    have hrest := length_flatMap_segmentChars cs
    rw [List.flatMap_cons, List.length_append, List.length_cons] at hlength
    by_cases hc : isUnreservedChar c = true
    · rw [List.flatMap_cons, segmentChars_unreserved hc, List.singleton_append] at h
      exact List.forall_mem_cons.mpr ⟨hc, ih (List.cons.inj h).2⟩
    · have hlong := length_segmentChars (Bool.eq_false_iff.mpr hc)
      omega

theorem encodeSegment_eq_self_iff (s : String) :
    encodeSegment s = s ↔ ∀ c ∈ s.toList, isUnreservedChar c = true := by
  rw [← String.toList_inj, toList_encodeSegment]
  refine ⟨unreserved_of_flatMap_eq, fun h => ?_⟩
  have hsame : s.toList.flatMap segmentChars = s.toList.flatMap List.singleton :=
    List.flatMap_congr fun c hc => segmentChars_unreserved (h c hc)
  rw [hsame]
  exact List.flatMap_singleton' _

/-! ## Read back -/

theorem decode?_encodeSegment (s : String) :
    Utf8.decode? (percentDecode (Utf8.encode (encodeSegment s))) = some s := by
  rw [percentDecode_encodeSegment, Utf8.decode?_encode]

theorem encodeSegment_inj {s t : String} (h : encodeSegment s = encodeSegment t) : s = t := by
  have hs := decode?_encodeSegment s
  rw [h, decode?_encodeSegment, Option.some.injEq] at hs
  exact hs.symm

theorem notMem_encodeSegment (s : String) : '/' ∉ (encodeSegment s).toList :=
  fun hmem => (isWordChar_ne (isWordChar_encodeSegment s '/' hmem)).1 rfl

/-- Rows of words with slashes between them are the same only if the words are. -/
theorem slashed_inj {words others : List String} (hne : words ≠ []) (hne' : others ≠ [])
    (hwords : ∀ word ∈ words, ∀ c ∈ word.toList, isWordChar c = true)
    (hothers : ∀ word ∈ others, ∀ c ∈ word.toList, isWordChar c = true)
    (h : slashed words = slashed others) : words = others := by
  have hparts := splitPath_slashed true hne hwords
  rw [h, splitPath_slashed true hne' hothers] at hparts
  exact (List.map_injective_iff.mpr fun _ _ => String.toList_inj.mp) hparts.symm

end Url

/-! ## Paths of consumers -/

namespace Consumers

open Url

/-- The path of a consumer, or of something that belongs to it. -/
def resourcePath (name : String) : Option String → String
  | none => path name
  | some resource => path name ++ "/" ++ resource

/-- What follows the name in such a path. -/
def afterName : Option String → List Char
  | none => []
  | some resource => '/' :: resource.toList

theorem afterName_inj {resource resource' : Option String}
    (h : afterName resource = afterName resource') : resource = resource' := by
  cases resource <;> cases resource' <;> simp_all [afterName, String.toList_inj]

theorem toList_resourcePath (name : String) (resource : Option String) :
    (resourcePath name resource).toList =
      "consumers/".toList ++ ((encodeSegment name).toList ++ afterName resource) := by
  cases resource with
  | none =>
    rw [resourcePath, path, String.toList_append, afterName, List.append_nil]
  | some resource =>
    rw [resourcePath, path, afterName]
    simp only [String.toList_append, List.append_assoc]
    rfl

/-- The name ends at the first slash behind the folder of all consumers. -/
theorem takeWhile_name (name : String) (resource : Option String) :
    ((encodeSegment name).toList ++ afterName resource).takeWhile (· != '/') =
      (encodeSegment name).toList := by
  have hname : ∀ c ∈ (encodeSegment name).toList, (c != '/') = true :=
    fun c hc => bne_iff_ne.mpr (ne_of_mem_of_not_mem hc (notMem_encodeSegment name))
  rw [List.takeWhile_append_of_pos hname]
  cases resource <;> simp [afterName]

theorem resourcePath_inj {name other : String} {resource resource' : Option String}
    (h : resourcePath name resource = resourcePath other resource') :
    name = other ∧ resource = resource' := by
  have hchars := congrArg String.toList h
  rw [toList_resourcePath, toList_resourcePath, List.append_cancel_left_eq] at hchars
  have hname := congrArg (List.takeWhile (· != '/')) hchars
  rw [takeWhile_name, takeWhile_name] at hname
  rw [hname, List.append_cancel_left_eq] at hchars
  exact ⟨encodeSegment_inj (String.toList_inj.mp hname), afterName_inj hchars⟩

end Consumers

namespace Operation

open Url

/-- The segments below the admin interface that an operation on a consumer goes to. Behind the folder
of all consumers nothing is left of an empty name. -/
def addressed (name : String) (words : List String) : List String :=
  if name = "" ∧ words = [] then ["consumers"] else "consumers" :: encodeSegment name :: words

theorem addressed_ne_nil (name : String) (words : List String) : addressed name words ≠ [] := by
  unfold addressed
  split <;> exact List.cons_ne_nil _ _

theorem addressed_inj {name other : String} {words others : List String}
    (h : addressed name words = addressed other others) : name = other ∧ words = others := by
  unfold addressed at h
  split at h <;> split at h
  · rename_i hempty hempty'
    exact ⟨hempty.1.trans hempty'.1.symm, hempty.2.trans hempty'.2.symm⟩
  · simp at h
  · simp at h
  · simp only [List.cons.injEq, true_and] at h
    exact ⟨encodeSegment_inj h.1, h.2⟩

theorem isWord_consumers : IsWord "consumers" :=
  isWord_of_fixed (by decide) (by decide) (by decide)

theorem addressed_chars (name : String) {words : List String}
    (hwords : ∀ word ∈ words, IsWord word) :
    ∀ word ∈ addressed name words, ∀ c ∈ word.toList, isWordChar c = true := by
  have hconsumers := isWord_consumers.chars
  unfold addressed
  split
  · exact List.forall_mem_singleton.mpr hconsumers
  · exact List.forall_mem_cons.mpr ⟨hconsumers, List.forall_mem_cons.mpr
      ⟨isWordChar_encodeSegment name, fun word hword => (hwords word hword).chars⟩⟩

theorem addressed_last (name : String) {words : List String} (hwords : ∀ word ∈ words, word ≠ "") :
    (addressed name words).getLast? ≠ some "" := by
  unfold addressed
  split
  · decide
  · rename_i hfull
    rw [List.getLast?_cons_cons]
    intro hlast
    rcases List.eq_nil_or_concat words with rfl | ⟨front, last, rfl⟩
    · rw [List.getLast?_singleton, Option.some.injEq] at hlast
      exact hfull ⟨encodeSegment_eq_empty hlast, rfl⟩
    · rw [List.concat_eq_append, ← List.cons_append, List.getLast?_concat, Option.some.injEq] at hlast
      exact hwords last (by simp) hlast

/-- An empty name at the end of a path is dropped with the slash before it. -/
theorem join_addressed (base name : String) {words : List String}
    (hwords : ∀ word ∈ words, IsWord word ∧ word ≠ "") :
    join base [String.ofList (trimBase "consumers" ++ '/' :: slashed (encodeSegment name :: words))] =
      String.ofList (trimBase base ++ '/' :: slashed (addressed name words)) := by
  have hchars := addressed_chars name fun word hword => (hwords word hword).1
  have hlast := addressed_last name fun word hword => (hwords word hword).2
  have hfirst : (addressed name words).head? ≠ some "" := by
    unfold addressed
    split <;> simp
  obtain ⟨hnil, hhead, hend⟩ := slashed_ends hfirst hlast (addressed_ne_nil name words) hchars
  rw [← join_row base hnil hhead hend]
  unfold addressed
  split
  · rename_i hempty
    rw [hempty.1, hempty.2]
    apply String.toList_inj.mp
    rw [join_toList, join_toList]
    rfl
  · rfl

/-- Operations on consumers that go to the same address are about the same name and the same thing
of it. -/
theorem sent_inj (c : Consumers) {op op' : Operation} (hop : op.collection = "consumers")
    (hop' : op'.collection = "consumers") {name other : String} {replies replies' : List Reply}
    (h : (op.sent c name replies).map (·.url) = (op'.sent c other replies').map (·.url)) :
    name = other ∧ op.after c.auth = op'.after c.auth := by
  have hafter : ∀ op : Operation, ∀ word ∈ op.after c.auth, IsWord word ∧ word ≠ "" :=
    fun op word hword => ⟨op.isWord_after c.auth word hword, op.after_ne_empty c.auth word hword⟩
  obtain ⟨request, hsent, hurl⟩ := op.sent_eq c name
  obtain ⟨request', hsent', hurl'⟩ := op'.sent_eq c other
  rw [hsent, hsent', List.map_singleton, List.map_singleton, List.singleton_inj, hurl, hurl', hop,
    hop', join_addressed _ _ (hafter op), join_addressed _ _ (hafter op'), String.ofList_inj,
    List.append_cancel_left_eq, List.cons.injEq] at h
  exact addressed_inj (slashed_inj (addressed_ne_nil _ _) (addressed_ne_nil _ _)
    (addressed_chars _ fun word hword => (hafter op word hword).1)
    (addressed_chars _ fun word hword => (hafter op' word hword).1) h.2)

end Operation

namespace Url

/-- An encoded name is made of unreserved characters and escapes of upper case and is read back as the
name, so no two names have the same form. A name is encoded piece by piece, and left alone only if all
its characters are unreserved. Different things of different consumers have different paths, whatever
the things are called, and where an operation on a consumer goes tells the name and the thing. -/
theorem names_encoded_losslessly :
    (∀ s, Encoded (encodeSegment s).toList) ∧
    (∀ s, Utf8.decode? (percentDecode (Utf8.encode (encodeSegment s))) = some s) ∧
    (∀ s t, encodeSegment s = encodeSegment t → s = t) ∧
    (∀ s t, encodeSegment (s ++ t) = encodeSegment s ++ encodeSegment t) ∧
    (∀ s, encodeSegment s = s ↔ ∀ c ∈ s.toList, isUnreservedChar c = true) ∧
    (∀ name other resource resource',
      Consumers.resourcePath name resource = Consumers.resourcePath other resource' →
      name = other ∧ resource = resource') ∧
    ∀ (c : Consumers) (op op' : Operation), op.collection = "consumers" →
      op'.collection = "consumers" → ∀ name other replies replies',
      (op.sent c name replies).map (·.url) = (op'.sent c other replies').map (·.url) →
      name = other ∧ op.after c.auth = op'.after c.auth :=
  ⟨encoded_encodeSegment, decode?_encodeSegment, fun _ _ => encodeSegment_inj, encodeSegment_append,
    encodeSegment_eq_self_iff, fun _ _ _ _ => Consumers.resourcePath_inj,
    fun c _ _ hop hop' _ _ _ _ => Operation.sent_inj c hop hop'⟩

/-- A name that looks like another consumer's group is no such group. -/
theorem names_encoded_losslessly_slash :
    (Operation.createConsumer.sent Operation.localConsumers "a/acls" []).map (·.url) ≠
      ((Operation.joinGroup "g").sent Operation.localConsumers "a" []).map (·.url) := by
  intro h
  have hsame := names_encoded_losslessly.2.2.2.2.2.2 Operation.localConsumers .createConsumer
    (.joinGroup "g") rfl rfl "a/acls" "a" [] [] h
  exact absurd hsame.1 (by decide)

end Url

end GatewayProvisioning
