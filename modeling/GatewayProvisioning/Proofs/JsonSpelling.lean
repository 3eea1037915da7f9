import Mathlib.Data.List.Forall2
import GatewayProvisioning.Document.Codec
import GatewayProvisioning.Proofs.JsonText

/-!
# Every spelling of a value

A value can be written in many ways: blanks may stand between its parts, and a character of a text may
be given by an escape. Every spelling of a value whose numbers are whole is read as a node that means
the value.
-/

namespace GatewayProvisioning.Json

open Document

/-! ## Spellings -/

/-- The escapes of two characters, by the second of them. -/
def shortEscapes : List (Char × Char) :=
  [('"', '"'), ('\\', '\\'), ('/', '/'), ('b', Char.ofNat 0x08), ('f', Char.ofNat 0x0C), ('n', '\n'),
    ('r', '\r'), ('t', '\t')]

/-- The numbers of sixteen bits that a character is made of: its own, or the two of a pair. -/
def units (c : Char) : List Nat :=
  if c.toNat < 0x10000 then [c.toNat]
  else [0xD800 + (c.toNat - 0x10000) / 0x400, 0xDC00 + (c.toNat - 0x10000) % 0x400]

/-- An escape by number, with four hexadecimal digits of either case. -/
inductive UnitSpelling : Nat → List Char → Prop
  | mk {n : Nat} {a b c d : Char} (value : Text.hexNumber? [a, b, c, d] = some n) :
      UnitSpelling n ['\\', 'u', a, b, c, d]

/-- How a character can stand in a quoted text. -/
inductive CharSpelling : Char → List Char → Prop
  | plain {c : Char} (visible : 0x20 ≤ c.toNat) (noQuote : c ≠ '"') (noSlash : c ≠ '\\') :
      CharSpelling c [c]
  | short {c e : Char} (escape : (e, c) ∈ shortEscapes) : CharSpelling c ['\\', e]
  | units {c : Char} {rows : List (List Char)} (escapes : List.Forall₂ UnitSpelling (units c) rows) :
      CharSpelling c rows.flatten

/-- A text between quotes, each of its characters in one of its spellings. -/
inductive TextSpelling : String → List Char → Prop
  | mk {s : String} {rows : List (List Char)} (chars : List.Forall₂ CharSpelling s.toList rows) :
      TextSpelling s ('"' :: (rows.flatten ++ ['"']))

mutual

/-- The texts that spell a value whose numbers are whole. -/
inductive Spelling : Json → List Char → Prop
  | null : Spelling .null "null".toList
  | flag (b : Bool) : Spelling (.flag b) (if b then "true" else "false").toList
  | natural (n : Nat) : Spelling (.number (.natural n)) (Decimal.digits n)
  | negative (n : Nat) : Spelling (.number (.negative n)) ('-' :: Decimal.digits (n + 1))
  | text {s : String} {cs : List Char} (spelled : TextSpelling s cs) : Spelling (.text s) cs
  | emptyList {w : List Char} (inside : Blank w) : Spelling (.list []) ('[' :: (w ++ [']']))
  | list {vs : List Json} {w row : List Char} (before : Blank w)
      (members : MembersSpelling vs row) : Spelling (.list vs) ('[' :: (w ++ (row ++ [']'])))
  | emptyRecord {w : List Char} (inside : Blank w) :
      Spelling (.record []) ('\x7b' :: (w ++ ['\x7d']))
  | record {fields : List (String × Json)} {w row : List Char} (before : Blank w)
      (members : FieldsSpelling fields row) :
      Spelling (.record fields) ('\x7b' :: (w ++ (row ++ ['\x7d'])))

/-- The texts that spell the members of a list between its brackets. -/
inductive MembersSpelling : List Json → List Char → Prop
  | last {v : Json} {cs w : List Char} (value : Spelling v cs) (after : Blank w) :
      MembersSpelling [v] (cs ++ w)
  | more {v : Json} {vs : List Json} {cs w w' row : List Char} (value : Spelling v cs)
      (after : Blank w) (before : Blank w') (rest : MembersSpelling vs row) :
      MembersSpelling (v :: vs) (cs ++ (w ++ ',' :: (w' ++ row)))

/-- The texts that spell a member of a record. -/
inductive FieldSpelling : String × Json → List Char → Prop
  | mk {k : String} {v : Json} {key w w' cs : List Char} (name : TextSpelling k key)
      (before : Blank w) (after : Blank w') (value : Spelling v cs) :
      FieldSpelling (k, v) (key ++ (w ++ ':' :: (w' ++ cs)))

/-- The texts that spell the members of a record between its braces. -/
inductive FieldsSpelling : List (String × Json) → List Char → Prop
  | last {field : String × Json} {cs w : List Char} (member : FieldSpelling field cs)
      (after : Blank w) : FieldsSpelling [field] (cs ++ w)
  | more {field : String × Json} {fields : List (String × Json)} {cs w w' row : List Char}
      (member : FieldSpelling field cs) (after : Blank w) (before : Blank w')
      (rest : FieldsSpelling fields row) :
      FieldsSpelling (field :: fields) (cs ++ (w ++ ',' :: (w' ++ row)))

end

/-- A character that stands for itself: no quote, backslash or control character. -/
def isPlain (c : Char) : Bool :=
  0x20 ≤ c.toNat && c != '"' && c != '\\'

theorem charSpelling_plain {c : Char} (h : isPlain c = true) : CharSpelling c [c] := by
  simp only [isPlain, Bool.and_eq_true, decide_eq_true_eq, bne_iff_ne] at h
  exact .plain h.1.1 h.1.2 h.2

theorem textSpelling_plain {s : String} (h : s.toList.all isPlain) :
    TextSpelling s ('"' :: (s.toList ++ ['"'])) := by
  have hrows : List.Forall₂ CharSpelling s.toList (s.toList.map fun c => [c]) :=
    List.forall₂_map_right_iff.mpr
      (List.forall₂_same.mpr fun c hc => charSpelling_plain (List.all_eq_true.mp h c hc))
  have hflat : (s.toList.map fun c => [c]).flatten = s.toList := by
    rw [← List.flatMap_def, List.flatMap_singleton']
  have hspelled := TextSpelling.mk hrows
  rwa [hflat] at hspelled

/-! ## Meanings -/

mutual

/-- The nodes that mean a value. A text counts by what it says, however it is written. -/
inductive Means : Json → Node → Prop
  | null : Means .null .null
  | flag (b : Bool) : Means (.flag b) (.flag b)
  | natural (n : Nat) :
      Means (.number (.natural n)) (.number { negative := false, whole := Decimal.digits n })
  | negative (n : Nat) :
      Means (.number (.negative n)) (.number { negative := true, whole := Decimal.digits (n + 1) })
  | text {s : String} {q : Quotation} (whole : q.fault = none) (told : q.read = .ok s) :
      Means (.text s) (.text q)
  | list {vs : List Json} {nodes : List Node} (members : MeansEach vs nodes) :
      Means (.list vs) (.list nodes .closed)
  | record {fields : List (String × Json)} {pairs : List (Node × Node)}
      (members : MeansFields fields pairs) : Means (.record fields) (.record pairs .closed none)

/-- The nodes that mean the members of a list. -/
inductive MeansEach : List Json → List Node → Prop
  | nil : MeansEach [] []
  | cons {v : Json} {node : Node} {vs : List Json} {nodes : List Node} (first : Means v node)
      (rest : MeansEach vs nodes) : MeansEach (v :: vs) (node :: nodes)

/-- The nodes that mean the members of a record. -/
inductive MeansFields : List (String × Json) → List (Node × Node) → Prop
  | nil : MeansFields [] []
  | cons {k : String} {v : Json} {key node : Node} {fields : List (String × Json)}
      {pairs : List (Node × Node)} (name : Means (.text k) key) (first : Means v node)
      (rest : MeansFields fields pairs) : MeansFields ((k, v) :: fields) ((key, node) :: pairs)

end

mutual

/-- A node that means a value can be passed over. -/
theorem Means.skip {v : Json} {node : Node} : Means v node → node.skip = .ok ()
  | .null => rfl
  | .flag _ => rfl
  | .natural _ => rfl
  | .negative _ => rfl
  | .text whole _ => by rw [Node.skip, whole]
  | .list members => by
    rw [Node.skip, members.skip]
    rfl
  | .record members => by
    rw [Node.skip, members.skip]
    rfl

theorem MeansEach.skip {vs : List Json} {nodes : List Node} :
    MeansEach vs nodes → skipMembers nodes = .ok ()
  | .nil => rfl
  | .cons first rest => by
    rw [skipMembers, first.skip, rest.skip]
    rfl

theorem MeansFields.skip {fields : List (String × Json)} {pairs : List (Node × Node)} :
    MeansFields fields pairs → skipFields pairs = .ok ()
  | .nil => rfl
  | .cons name first rest => by
    rw [skipFields, name.skip, first.skip, rest.skip]
    rfl

end

/-! ## Reading a quoted text -/

/-- Puts pieces before a quotation that has been read. -/
def prependAll (ps : List Piece) (r : Quotation × Glyphs) : Quotation × Glyphs :=
  ps.foldr prepend r

/-- Pieces that a part of a quoted text is read as, and the characters that they are joined to. -/
structure PiecesOf (cs : List Char) (found : List Char) (ps : List Piece) : Prop where
  read : ∀ rest, readQuotation (cs.map some ++ rest) = prependAll ps (readQuotation rest)
  join : ∀ more, joinPieces none (ps ++ more) = (found.map some ++ ·) <$> joinPieces none more

theorem piecesOf_nil : PiecesOf [] [] [] where
  read _ := rfl
  join more := by
    rw [List.nil_append]
    cases joinPieces none more <;> rfl

theorem PiecesOf.append {cs cs' found found' : List Char} {ps ps' : List Piece}
    (h : PiecesOf cs found ps) (h' : PiecesOf cs' found' ps') :
    PiecesOf (cs ++ cs') (found ++ found') (ps ++ ps') where
  read rest := by
    rw [List.map_append, List.append_assoc, h.read, h'.read]
    exact (List.foldr_append ..).symm
  join more := by
    rw [List.append_assoc, h.join, h'.join]
    cases joinPieces none more with
    | error e => rfl
    | ok found => simp [Functor.map, Except.map]

/-- A piece that stands for one character by itself. -/
theorem piecesOf_char {cs : List Char} {c : Char}
    (h : ∀ rest, readQuotation (cs.map some ++ rest) = prepend (.char c) (readQuotation rest)) :
    PiecesOf cs [c] [.char c] where
  read := h
  join more := by
    rw [List.singleton_append, joinPieces]
    cases joinPieces none more <;> rfl

theorem shortEscape?_of_mem {e c : Char} (h : (e, c) ∈ shortEscapes) :
    shortEscape? e = some c ∧ e ≠ 'u' := by
  have hall : ∀ p ∈ shortEscapes, shortEscape? p.1 = some p.2 ∧ p.1 ≠ 'u' := by decide
  exact hall (e, c) h

theorem readQuotation_short {e c : Char} (h : (e, c) ∈ shortEscapes) (rest : Glyphs) :
    readQuotation (some '\\' :: some e :: rest) = prepend (.char c) (readQuotation rest) := by
  obtain ⟨hescape, hne⟩ := shortEscape?_of_mem h
  rw [readQuotation, hescape]
  all_goals
    intros
    exact hne ‹_›

theorem UnitSpelling.read {n : Nat} {cs : List Char} (h : UnitSpelling n cs) (rest : Glyphs) :
    readQuotation (cs.map some ++ rest) = prepend (.unit n) (readQuotation rest) := by
  obtain ⟨value⟩ := h
  rename_i a b c d
  have hunit : unit? (some a) (some b) (some c) (some d) = some n := by
    rw [← value]
    unfold unit? hexGlyph? Text.hexNumber?
    simp only [List.foldlM_cons, List.foldlM_nil, bind, Option.bind, pure, Option.map]
    cases Text.hexValue? a <;> cases Text.hexValue? b <;> cases Text.hexValue? c <;>
      cases Text.hexValue? d <;> simp
    omega
  simp only [List.map_cons, List.map_nil, List.cons_append, List.nil_append]
  rw [readQuotation, hunit]

theorem joinPieces_pair {m n : Nat} (hm : isLeading m = true) (hn : isTrailing n = true)
    (fault : Option QuoteFault) (rest : List Piece) :
    joinPieces fault (.unit m :: .unit n :: rest) =
      (do return some (pairChar m n) :: (← joinPieces fault rest)) := by
  have hfirst : isTrailing m = false := by
    simp only [isLeading, Bool.and_eq_true, decide_eq_true_eq] at hm
    simp [isTrailing]
    omega
  simp only [joinPieces, hfirst, hm, hn, Bool.false_eq_true, if_false, if_true]

theorem UnitSpelling.piecesOf {c : Char} {cs : List Char} (h : UnitSpelling c.toNat cs) :
    PiecesOf cs [c] [.unit c.toNat] where
  read := h.read
  join more := by
    have hvalid := Utf8.toNat_valid c
    rw [List.singleton_append, joinPieces_unit (by omega), Char.ofNat_toNat]
    cases joinPieces none more <;> rfl

/-- Both halves of a pair together stand for one character. -/
theorem piecesOf_pair {c : Char} (hc : 0x10000 ≤ c.toNat) {high low : List Char}
    (hhigh : UnitSpelling (0xD800 + (c.toNat - 0x10000) / 0x400) high)
    (hlow : UnitSpelling (0xDC00 + (c.toNat - 0x10000) % 0x400) low) :
    PiecesOf (high ++ low) [c] [.unit (0xD800 + (c.toNat - 0x10000) / 0x400),
      .unit (0xDC00 + (c.toNat - 0x10000) % 0x400)] where
  read rest := by
    rw [List.map_append, List.append_assoc, hhigh.read, hlow.read]
    rfl
  join more := by
    have hvalid := Utf8.toNat_valid c
    have hleading : isLeading (0xD800 + (c.toNat - 0x10000) / 0x400) = true := by
      simp only [isLeading, Bool.and_eq_true, decide_eq_true_eq]
      omega
    have htrailing : isTrailing (0xDC00 + (c.toNat - 0x10000) % 0x400) = true := by
      simp only [isTrailing, Bool.and_eq_true, decide_eq_true_eq]
      omega
    have hnumber : (0xD800 + (c.toNat - 0x10000) / 0x400 - 0xD800) * 0x400 +
        (0xDC00 + (c.toNat - 0x10000) % 0x400 - 0xDC00) + 0x10000 = c.toNat := by omega
    have hpair : pairChar (0xD800 + (c.toNat - 0x10000) / 0x400)
        (0xDC00 + (c.toNat - 0x10000) % 0x400) = c := by
      rw [pairChar, hnumber, Char.ofNat_toNat]
    rw [List.cons_append, List.singleton_append, joinPieces_pair hleading htrailing, hpair]
    cases joinPieces none more <;> rfl

theorem CharSpelling.piecesOf {c : Char} {cs : List Char} (h : CharSpelling c cs) :
    ∃ ps, PiecesOf cs [c] ps := by
  cases h with
  | plain visible noQuote noSlash =>
    exact ⟨_, piecesOf_char (readQuotation_plain noQuote noSlash (by omega))⟩
  | short escape => exact ⟨_, piecesOf_char (readQuotation_short escape)⟩
  | units escapes =>
    unfold Json.units at escapes
    split at escapes
    · obtain ⟨_, _, hone, ⟨⟩, rfl⟩ := List.forall₂_cons_left_iff.mp escapes
      rw [List.flatten_singleton]
      exact ⟨_, hone.piecesOf⟩
    · rename_i hlarge
      obtain ⟨_, _, hhigh, hrest, rfl⟩ := List.forall₂_cons_left_iff.mp escapes
      obtain ⟨_, _, hlow, ⟨⟩, rfl⟩ := List.forall₂_cons_left_iff.mp hrest
      rw [List.flatten_cons, List.flatten_singleton]
      exact ⟨_, piecesOf_pair (by omega) hhigh hlow⟩

theorem exists_piecesOf {chars : List Char} {rows : List (List Char)}
    (h : List.Forall₂ CharSpelling chars rows) : ∃ ps, PiecesOf rows.flatten chars ps := by
  induction h with
  | nil => exact ⟨[], piecesOf_nil⟩
  | cons hfirst _ ih =>
    obtain ⟨first, hfirst⟩ := hfirst.piecesOf
    obtain ⟨rest, hrest⟩ := ih
    exact ⟨first ++ rest, hfirst.append hrest⟩

theorem prependAll_closed (ps : List Piece) (rest : Glyphs) :
    prependAll ps (⟨[], none⟩, rest) = (⟨ps, none⟩, rest) := by
  induction ps with
  | nil => rfl
  | cons p ps ih =>
    have hcons : prependAll (p :: ps) (⟨[], none⟩, rest) =
        prepend p (prependAll ps (⟨[], none⟩, rest)) := rfl
    rw [hcons, ih]
    rfl

/-- Every spelling of a text is a quotation that says the text. -/
theorem TextSpelling.quotedOf {s : String} {cs : List Char} (h : TextSpelling s cs) :
    ∃ q, QuotedOf cs q ∧ q.read = .ok s := by
  obtain ⟨chars⟩ := h
  obtain ⟨ps, hps⟩ := exists_piecesOf chars
  refine ⟨⟨ps, none⟩, ⟨rfl, _, rfl, fun rest => ?_⟩, ?_⟩
  · rw [List.map_append, List.append_assoc, hps.read]
    exact prependAll_closed ps rest
  · have hjoin := hps.join []
    rw [List.append_nil] at hjoin
    simp only [Quotation.read, hjoin, joinPieces, Functor.map, Except.map, List.append_nil, bind,
      Except.bind, Utf8.mapM_id_some]
    exact congrArg Except.ok String.ofList_toList

/-! ## Reading a value -/

mutual

/-- Every spelling of a value is a text of a node that means the value. -/
theorem Spelling.textOf {v : Json} {cs : List Char} :
    Spelling v cs → ∃ node, TextOf cs node ∧ Means v node
  | .null => ⟨_, textOf_null, .null⟩
  | .flag b => ⟨_, textOf_flag b, .flag b⟩
  | .natural n => ⟨_, textOf_digits n, .natural n⟩
  | .negative n => ⟨_, textOf_minus (n + 1), .negative n⟩
  | .text spelled => by
    obtain ⟨q, hquoted, hread⟩ := spelled.quotedOf
    exact ⟨_, hquoted.textOf, .text hquoted.whole hread⟩
  | .emptyList inside => ⟨_, textOf_emptyList inside, .list .nil⟩
  | .list before members => by
    obtain ⟨nodes, hrow, hmeans⟩ := members.membersOf
    exact ⟨_, hrow.textOf before, .list hmeans⟩
  | .emptyRecord inside => ⟨_, textOf_emptyRecord inside, .record .nil⟩
  | .record before members => by
    obtain ⟨pairs, hrow, hmeans⟩ := members.fieldsOf
    exact ⟨_, hrow.textOf before, .record hmeans⟩

theorem MembersSpelling.membersOf {vs : List Json} {row : List Char} :
    MembersSpelling vs row → ∃ nodes, MembersOf row nodes ∧ MeansEach vs nodes
  | .last value after => by
    obtain ⟨node, htext, hmeans⟩ := value.textOf
    exact ⟨[node], .last htext after, .cons hmeans .nil⟩
  | .more value after before rest => by
    obtain ⟨node, htext, hmeans⟩ := value.textOf
    obtain ⟨nodes, hrow, heach⟩ := rest.membersOf
    exact ⟨node :: nodes, .more htext after before hrow, .cons hmeans heach⟩

theorem FieldSpelling.fieldOf {field : String × Json} {cs : List Char} :
    FieldSpelling field cs →
      ∃ key node, FieldOf cs (key, node) ∧ Means (.text field.1) key ∧ Means field.2 node
  | .mk name before after value => by
    obtain ⟨q, hquoted, hread⟩ := name.quotedOf
    obtain ⟨node, htext, hmeans⟩ := value.textOf
    exact ⟨_, node, .mk hquoted before after htext, .text hquoted.whole hread, hmeans⟩

theorem FieldsSpelling.fieldsOf {fields : List (String × Json)} {row : List Char} :
    FieldsSpelling fields row → ∃ pairs, FieldsOf row pairs ∧ MeansFields fields pairs
  | .last member after => by
    obtain ⟨key, node, hfield, hkey, hnode⟩ := member.fieldOf
    exact ⟨[(key, node)], .last hfield after, .cons hkey hnode .nil⟩
  | .more member after before rest => by
    obtain ⟨key, node, hfield, hkey, hnode⟩ := member.fieldOf
    obtain ⟨pairs, hrow, hfields⟩ := rest.fieldsOf
    exact ⟨(key, node) :: pairs, .more hfield after before hrow, .cons hkey hnode hfields⟩

end

/-- Every spelling of a value is a document of a node that means the value. -/
theorem Spelling.document {v : Json} {s : String} (h : Spelling v s.toList) :
    ∃ node, document s = ⟨node, false⟩ ∧ Means v node := by
  obtain ⟨node, htext, hmeans⟩ := h.textOf
  exact ⟨node, htext.documentOfGlyphs, hmeans⟩

/-- A text that spells a value, with blanks around it. -/
def IsTextOf (v : Json) (s : String) : Prop :=
  ∃ before cs after, Blank before ∧ Blank after ∧ Spelling v cs ∧
    s.toList = before ++ (cs ++ after)

theorem IsTextOf.document {v : Json} {s : String} (h : IsTextOf v s) :
    ∃ node, document s = ⟨node, false⟩ ∧ Means v node := by
  obtain ⟨before, cs, after, hbefore, hafter, hspelled, htext⟩ := h
  obtain ⟨node, hread, hmeans⟩ := hspelled.textOf
  refine ⟨node, ?_, hmeans⟩
  unfold Json.document
  rw [htext, List.map_append, List.map_append]
  exact hread.documentOfGlyphs_between hbefore hafter

end GatewayProvisioning.Json
