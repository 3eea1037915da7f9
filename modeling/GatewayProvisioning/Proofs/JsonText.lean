import Mathlib.Data.List.Forall2
import GatewayProvisioning.Document.Codec
import GatewayProvisioning.Proofs.JsonReading
import GatewayProvisioning.Proofs.Utf8

/-!
# Reading back what is written

A value that is written on one line is a text of one node, if its numbers are whole. The written form
of a list or of a record is that of its members in a row without blanks.
-/

namespace GatewayProvisioning.Json

open Document

/-! ## Quoted texts -/

/-- What the written form of a character is read as. Only control characters without an escape of
their own are written by their number. -/
def writtenPiece (c : Char) : Piece :=
  if c.toNat < 0x20 ∧ ¬(c = '\n' ∨ c = '\r' ∨ c = '\t' ∨ c = Char.ofNat 0x08 ∨ c = Char.ofNat 0x0C)
  then .unit c.toNat
  else .char c

/-- The quotation that the written form of a text is read as. -/
def writtenQuotation (s : String) : Quotation where
  pieces := s.toList.map writtenPiece

theorem unit?_control {n : Nat} (h : n < 0x20) :
    unit? (some '0') (some '0') (some (Text.hexDigit (n / 16))) (some (Text.hexDigit (n % 16))) =
      some n := by
  have hall : ∀ m < 0x20, unit? (some '0') (some '0') (some (Text.hexDigit (m / 16)))
      (some (Text.hexDigit (m % 16))) = some m := by decide
  exact hall n h

/-- A character that is written as it stands. -/
theorem readQuotation_plain {c : Char} (hquote : c ≠ '"') (hslash : c ≠ '\\')
    (hcontrol : ¬c.toNat < 0x20) (rest : Glyphs) :
    readQuotation (some c :: rest) = prepend (.char c) (readQuotation rest) := by
  rw [readQuotation, if_neg hcontrol]
  · exact fun h => hquote h
  all_goals
    intros
    exact hslash ‹_›

theorem readQuotation_escaped (c : Char) (rest : Glyphs) :
    readQuotation ((escaped c).map some ++ rest) = prepend (writtenPiece c) (readQuotation rest) := by
  unfold escaped writtenPiece
  -- first the characters that have an escape of their own
  by_cases hquote : c = '"'
  · subst hquote
    rfl
  by_cases hslash : c = '\\'
  · subst hslash
    rfl
  by_cases hn : c = '\n'
  · subst hn
    rfl
  by_cases hr : c = '\r'
  · subst hr
    rfl
  by_cases ht : c = '\t'
  · subst ht
    rfl
  by_cases hb : c = Char.ofNat 0x08
  · subst hb
    rfl
  by_cases hf : c = Char.ofNat 0x0C
  · subst hf
    rfl
  simp only [beq_iff_eq, hquote, hslash, hn, hr, ht, hb, hf, if_false, or_false, not_false_eq_true,
    and_true]
  by_cases hcontrol : c.toNat < 0x20
  · rw [if_pos hcontrol, if_pos hcontrol]
    have hunit := unit?_control hcontrol
    simp only [List.map_cons, List.map_nil, List.cons_append, List.nil_append]
    rw [readQuotation, hunit]
  · rw [if_neg hcontrol, if_neg hcontrol, List.map_singleton, List.singleton_append,
      readQuotation_plain hquote hslash hcontrol]

theorem readQuotation_chars (cs : List Char) (rest : Glyphs) :
    readQuotation ((cs.flatMap escaped).map some ++ some '"' :: rest) =
      (⟨cs.map writtenPiece, none⟩, rest) := by
  induction cs with
  | nil => rfl
  | cons c cs ih =>
    rw [List.flatMap_cons, List.map_append, List.append_assoc, readQuotation_escaped, ih]
    rfl

/-- A number that is no half of a pair is a character by itself. -/
theorem joinPieces_unit {n : Nat} (h : n < 0xD800 ∨ 0xDFFF < n) (fault : Option QuoteFault)
    (rest : List Piece) :
    joinPieces fault (.unit n :: rest) =
      (do return some (Char.ofNat n) :: (← joinPieces fault rest)) := by
  have htrailing : isTrailing n = false := by simp [isTrailing]; omega
  have hleading : isLeading n = false := by simp [isLeading]; omega
  rcases rest with _ | ⟨_ | m | _, rest⟩ <;>
    simp only [joinPieces, htrailing, hleading, Bool.false_eq_true, if_false]

theorem joinPieces_written (cs : List Char) :
    joinPieces none (cs.map writtenPiece) = .ok (cs.map some) := by
  induction cs with
  | nil => rfl
  | cons c cs ih =>
    rw [List.map_cons, List.map_cons, writtenPiece]
    split
    · rename_i hcontrol
      -- a control character is no half of a pair
      rw [joinPieces_unit (.inl (by omega)), ih, Char.ofNat_toNat]
      rfl
    · rw [joinPieces, ih]
      rfl

/-- The text of the quotation is the text that has been written. -/
theorem read_writtenQuotation (s : String) : (writtenQuotation s).read = .ok s := by
  simp only [Quotation.read, writtenQuotation, joinPieces_written, bind, Except.bind,
    Utf8.mapM_id_some]
  exact congrArg Except.ok String.ofList_toList

/-- A text without control characters is read as it stands. -/
theorem writtenQuotation_plain {s : String} (h : s.toList.all (fun c => 0x20 ≤ c.toNat) = true) :
    writtenQuotation s = .ofText s := by
  have hpieces : s.toList.map writtenPiece = s.toList.map .char := by
    apply List.map_congr_left
    intro c hc
    have hvisible := of_decide_eq_true (List.all_eq_true.mp h c hc)
    exact if_neg fun hcontrol => absurd hcontrol.1 (Nat.not_lt.mpr hvisible)
  rw [writtenQuotation, hpieces]
  rfl

/-! ## Values as nodes -/

/-- The written form of a value is read as a node, whatever follows it, unless that would go on with
a numeral. Twice its length is fuel enough. -/
structure ReadsAs (v : Json) (node : Node) : Prop where
  whole : isBroken node = false
  /-- The first character is neither a blank nor the end of a list. -/
  head : ∃ c cs, written v = c :: cs ∧ isSpace (some c) = false ∧ c ≠ ']'
  read : ∀ fuel, 2 * (written v).length ≤ fuel → ∀ rest, endsNumeral rest = true →
    readValue fuel ((written v).map some ++ rest) = (node, rest)

/-- A member of a record is read as a pair of nodes. -/
structure ReadsAsField (field : String × Json) (pair : Node × Node) : Prop where
  key : pair.1 = .text (writtenQuotation field.1)
  value : ReadsAs field.2 pair.2

/-- The node of a value is the only one. -/
theorem ReadsAs.unique {v : Json} {node other : Node} (h : ReadsAs v node)
    (hother : ReadsAs v other) : node = other := by
  have hread := h.read _ (Nat.le_refl _) [] rfl
  rw [hother.read _ (Nat.le_refl _) [] rfl] at hread
  exact (Prod.mk.inj hread).1.symm

theorem exists_field_of_mem {fields : List (String × Json)} {pairs : List (Node × Node)}
    (h : List.Forall₂ ReadsAsField fields pairs) {pair : Node × Node} (hpair : pair ∈ pairs) :
    ∃ field ∈ fields, ReadsAsField field pair := by
  induction h with
  | nil => cases hpair
  | @cons field first fields pairs hfirst _ ih =>
    rcases List.mem_cons.mp hpair with rfl | hrest
    · exact ⟨field, List.mem_cons_self, hfirst⟩
    · obtain ⟨field, hmem, hfield⟩ := ih hrest
      exact ⟨field, List.mem_cons_of_mem _ hmem, hfield⟩

theorem ReadsAs.textOf {v : Json} {node : Node} (h : ReadsAs v node) : TextOf (written v) node :=
  ⟨h.whole, h.head, h.read⟩

theorem TextOf.readsAs {v : Json} {node : Node} (h : TextOf (written v) node) : ReadsAs v node :=
  ⟨h.whole, h.head, h.read⟩

theorem quotedOf_quote (s : String) : QuotedOf (quote s) (writtenQuotation s) := by
  refine ⟨rfl, s.toList.flatMap escaped ++ ['"'], rfl, fun rest => ?_⟩
  rw [List.map_append, List.append_assoc]
  exact readQuotation_chars s.toList rest

theorem readsAs_null : ReadsAs .null .null :=
  TextOf.readsAs textOf_null

theorem readsAs_flag (b : Bool) : ReadsAs (.flag b) (.flag b) :=
  TextOf.readsAs (textOf_flag b)

theorem readsAs_text (s : String) : ReadsAs (.text s) (.text (writtenQuotation s)) :=
  TextOf.readsAs (quotedOf_quote s).textOf

theorem readsAs_natural (n : Nat) :
    ReadsAs (.number (.natural n)) (.number { negative := false, whole := Decimal.digits n }) := by
  have hwritten : written (.number (.natural n)) = Decimal.digits n := String.toList_ofList
  apply TextOf.readsAs
  rw [hwritten]
  exact textOf_digits n

theorem readsAs_negative (n : Nat) :
    ReadsAs (.number (.negative n)) (.number { negative := true, whole := Decimal.digits (n + 1) }) := by
  have hwritten : written (.number (.negative n)) = '-' :: Decimal.digits (n + 1) :=
    String.toList_ofList
  apply TextOf.readsAs
  rw [hwritten]
  exact textOf_minus (n + 1)

/-! ## Rows -/

/-- The members of a list are written without blanks between them. -/
theorem membersOf_joined {v : Json} {node : Node} (hfirst : ReadsAs v node) {vs : List Json}
    {nodes : List Node} (h : List.Forall₂ ReadsAs vs nodes) :
    MembersOf (joined (writtenMembers (v :: vs))) (node :: nodes) := by
  induction h generalizing v node with
  | nil =>
    have hlast := MembersOf.last hfirst.textOf blank_nil
    rwa [List.append_nil] at hlast
  | cons hnext _ ih => exact .more hfirst.textOf blank_nil blank_nil (ih hnext)

theorem readsAs_list {vs : List Json} {nodes : List Node} (h : List.Forall₂ ReadsAs vs nodes) :
    ReadsAs (.list vs) (.list nodes .closed) := by
  apply TextOf.readsAs
  cases h with
  | nil => exact textOf_emptyList blank_nil
  | cons hfirst hrest => exact (membersOf_joined hfirst hrest).textOf blank_nil

theorem ReadsAsField.fieldOf {field : String × Json} {pair : Node × Node}
    (h : ReadsAsField field pair) : FieldOf (quote field.1 ++ ':' :: written field.2) pair := by
  obtain ⟨key, node⟩ := pair
  obtain ⟨rfl, hvalue⟩ := h
  exact .mk (quotedOf_quote field.1) blank_nil blank_nil hvalue.textOf

theorem fieldsOf_joined {field : String × Json} {pair : Node × Node}
    (hfirst : ReadsAsField field pair) {fields : List (String × Json)} {pairs : List (Node × Node)}
    (h : List.Forall₂ ReadsAsField fields pairs) :
    FieldsOf (joined (writtenFields (field :: fields))) (pair :: pairs) := by
  induction h generalizing field pair with
  | nil =>
    have hlast := FieldsOf.last hfirst.fieldOf blank_nil
    rwa [List.append_nil] at hlast
  | cons hnext _ ih => exact .more hfirst.fieldOf blank_nil blank_nil (ih hnext)

theorem readsAs_record {fields : List (String × Json)} {pairs : List (Node × Node)}
    (h : List.Forall₂ ReadsAsField fields pairs) :
    ReadsAs (.record fields) (.record pairs .closed none) := by
  apply TextOf.readsAs
  cases h with
  | nil => exact textOf_emptyRecord blank_nil
  | cons hfirst hrest => exact (fieldsOf_joined hfirst hrest).textOf blank_nil

/-! ## Whole texts -/

variable {v : Json} {node : Node}

/-- What is written is read as it was, and nothing follows it. -/
theorem ReadsAs.document (h : ReadsAs v node) : document (compact v) = ⟨node, false⟩ := by
  unfold Json.document compact
  rw [String.toList_ofList]
  exact h.textOf.documentOfGlyphs

theorem ReadsAs.documentOfBytes (h : ReadsAs v node) :
    documentOfBytes (Utf8.encode (compact v)) = ⟨node, false⟩ := by
  unfold Json.documentOfBytes compact Utf8.encode
  rw [String.toList_ofList, Utf8.glyphs_encodeChars]
  exact h.textOf.documentOfGlyphs

/-! ## Values without numbers -/

mutual

/-- Whether a value holds no number. -/
def numberFree : Json → Bool
  | .number _ => false
  | .list members => numberFreeMembers members
  | .record members => numberFreeFields members
  | .null | .flag _ | .text _ => true

/-- Whether no member of a list holds a number. -/
def numberFreeMembers : List Json → Bool
  | [] => true
  | v :: vs => numberFree v && numberFreeMembers vs

/-- Whether no member of a record holds a number. -/
def numberFreeFields : List (String × Json) → Bool
  | [] => true
  | (_, v) :: rest => numberFree v && numberFreeFields rest

end

mutual

/-- The node that the written form of a value is read as. -/
def writtenNode : Json → Node
  | .null => .null
  | .flag b => .flag b
  | .number _ => .gap .noValue
  | .text s => .text (writtenQuotation s)
  | .list members => .list (writtenNodes members) .closed
  | .record members => .record (writtenPairs members) .closed none

/-- The nodes of the members of a list. -/
def writtenNodes : List Json → List Node
  | [] => []
  | v :: vs => writtenNode v :: writtenNodes vs

/-- The nodes of the members of a record. -/
def writtenPairs : List (String × Json) → List (Node × Node)
  | [] => []
  | (k, v) :: rest => (.text (writtenQuotation k), writtenNode v) :: writtenPairs rest

end

mutual

theorem readsAs_written : ∀ (v : Json), numberFree v = true → ReadsAs v (writtenNode v)
  | .null, _ => readsAs_null
  | .flag b, _ => readsAs_flag b
  | .text s, _ => readsAs_text s
  | .list members, h => readsAs_list (readsAs_members members h)
  | .record members, h => readsAs_record (readsAs_fields members h)
  | .number _, h => by cases h

theorem readsAs_members : ∀ (vs : List Json), numberFreeMembers vs = true →
    List.Forall₂ ReadsAs vs (writtenNodes vs)
  | [], _ => .nil
  | v :: vs, h => by
    obtain ⟨hfirst, hrest⟩ := Bool.and_eq_true_iff.mp h
    exact .cons (readsAs_written v hfirst) (readsAs_members vs hrest)

theorem readsAs_fields : ∀ (fields : List (String × Json)), numberFreeFields fields = true →
    List.Forall₂ ReadsAsField fields (writtenPairs fields)
  | [], _ => .nil
  | (k, v) :: fields, h => by
    obtain ⟨hfirst, hrest⟩ := Bool.and_eq_true_iff.mp h
    exact .cons ⟨rfl, readsAs_written v hfirst⟩ (readsAs_fields fields hrest)

end

/-- What is written without numbers is read as it was, and nothing follows it. -/
theorem document_compact {v : Json} (h : numberFree v = true) :
    document (compact v) = ⟨writtenNode v, false⟩ :=
  (readsAs_written v h).document

end GatewayProvisioning.Json
