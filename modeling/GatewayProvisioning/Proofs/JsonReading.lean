import GatewayProvisioning.Json.Reader
import GatewayProvisioning.Proofs.Digits

/-!
# Texts and the nodes that they are read as

A text is read as a node if a reader that begins there finds the node and stops right behind it,
whatever follows. Lists and records of such texts are read as the rows of their nodes, with blanks
between their parts. Fuel never runs out, since every call takes up a part of the text.
-/

namespace GatewayProvisioning.Json

open Document

/-! ## Numerals -/

/-- Whether a numeral ends where a text goes on. -/
def endsNumeral : Glyphs → Bool
  | some c :: _ => !(Text.isDigit c || c == '.' || c == 'e' || c == 'E')
  | _ => true

theorem takeDigits_digits {ds : List Char} (h : ∀ c ∈ ds, Text.isDigit c = true) {rest : Glyphs}
    (hrest : endsNumeral rest = true) : takeDigits (ds.map some ++ rest) = (ds, rest) := by
  induction ds with
  | nil =>
    rcases rest with _ | ⟨_ | c, rest⟩
    · rfl
    · rfl
    · have hc : Text.isDigit c = false := by
        simp only [endsNumeral, Bool.not_eq_true', Bool.or_eq_false_iff] at hrest
        exact hrest.1.1.1
      simp [takeDigits, hc]
  | cons c ds ih =>
    have hc := h c List.mem_cons_self
    have hds := ih fun d hd => h d (List.mem_cons_of_mem c hd)
    simp [takeDigits, hc, hds]

/-- No zero stands in front of other digits. -/
theorem digits_ne_zero_cons (n : Nat) (d : Char) (ds : List Char) :
    Decimal.digits n ≠ '0' :: d :: ds := by
  intro h
  by_cases hzero : n = 0
  · rw [hzero, Decimal.digits] at h
    simp at h
  · exact Decimal.head_digits (Nat.pos_of_ne_zero hzero) (by rw [h]; rfl)

theorem readFraction_whole (n : Decimal.Numeral) {rest : Glyphs} (h : endsNumeral rest = true) :
    readFraction n rest = (n, rest) := by
  rcases rest with _ | ⟨_ | c, rest⟩
  · rfl
  · rfl
  · simp only [endsNumeral, Bool.not_eq_true', Bool.or_eq_false_iff, beq_eq_false_iff_ne] at h
    obtain ⟨⟨⟨-, hpoint⟩, he⟩, hE⟩ := h
    unfold readFraction
    split
    · rename_i heq
      simp only [List.cons.injEq, Option.some.injEq] at heq
      exact absurd heq.1 hpoint
    · simp [readExponent, he, hE]

theorem readNumeral_digits (negative : Bool) (n : Nat) {rest : Glyphs}
    (h : endsNumeral rest = true) :
    readNumeral negative ((Decimal.digits n).map some ++ rest) =
      ({ negative, whole := Decimal.digits n }, rest) := by
  have hdigits := List.all_eq_true.mp (Decimal.decimalValue_digits n).1
  unfold readNumeral
  rw [takeDigits_digits hdigits h]
  split
  · rename_i hnil
    exact absurd (Prod.mk.inj hnil).1 (Decimal.digits_ne_nil n)
  · rename_i hzero
    exact absurd (Prod.mk.inj hzero).1 (digits_ne_zero_cons n _ _)
  · rename_i ds after _ _ heq
    obtain ⟨rfl, rfl⟩ := Prod.mk.inj heq
    exact readFraction_whole _ h

/-! ## Blanks -/

/-- Blanks between the parts of a text. -/
def Blank (w : List Char) : Prop :=
  ∀ c ∈ w, isSpace (some c) = true

theorem blank_nil : Blank [] :=
  fun _ h => by cases h

theorem skipSpace_append {w : List Char} (h : Blank w) (rest : Glyphs) :
    skipSpace (w.map some ++ rest) = skipSpace rest := by
  have hskipped : ∀ g ∈ w.map some, isSpace g = true := by
    intro g hg
    obtain ⟨d, hd, rfl⟩ := List.mem_map.mp hg
    exact h d hd
  exact List.dropWhile_append_of_pos hskipped

theorem skipSpace_blank {w : List Char} (h : Blank w) {c : Char} (hc : isSpace (some c) = false)
    (rest : Glyphs) : skipSpace (w.map some ++ some c :: rest) = some c :: rest := by
  rw [skipSpace_append h]
  exact List.dropWhile_cons_of_neg (by rw [hc]; decide)

/-- Nothing is left of a text of blanks. -/
theorem skipSpace_all {w : List Char} (h : Blank w) : skipSpace (w.map some) = [] := by
  have hskipped := skipSpace_append h []
  rwa [List.append_nil] at hskipped

theorem skipSpace_of_head {c : Char} (h : isSpace (some c) = false) (rest : Glyphs) :
    skipSpace (some c :: rest) = some c :: rest :=
  skipSpace_blank blank_nil h rest

theorem endsNumeral_space {c : Char} (h : isSpace (some c) = true) (rest : Glyphs) :
    endsNumeral (some c :: rest) = true := by
  simp only [isSpace, Bool.or_eq_true, beq_iff_eq] at h
  rcases h with ((rfl | rfl) | rfl) | rfl <;> rfl

/-- A blank ends a numeral. -/
theorem endsNumeral_blank {w : List Char} (h : Blank w) {c : Char}
    (hc : endsNumeral [some c] = true) (rest : Glyphs) :
    endsNumeral (w.map some ++ some c :: rest) = true := by
  rcases w with _ | ⟨d, w⟩
  · exact hc
  · exact endsNumeral_space (h d List.mem_cons_self) _

theorem endsNumeral_all {w : List Char} (h : Blank w) : endsNumeral (w.map some) = true := by
  rcases w with _ | ⟨d, w⟩
  · rfl
  · exact endsNumeral_space (h d List.mem_cons_self) _

/-- Blanks before a value do not count. -/
theorem readValue_blank {w : List Char} (h : Blank w) {c : Char} (hc : isSpace (some c) = false)
    (fuel : Nat) (rest : Glyphs) :
    readValue (fuel + 1) (w.map some ++ some c :: rest) = readValue (fuel + 1) (some c :: rest) := by
  rw [readValue, readValue, skipSpace_blank h hc, skipSpace_of_head hc]

/-! ## One value -/

/-- A text that is read as a node, whatever follows it, unless that would go on with a numeral. Twice
its length is fuel enough. -/
structure TextOf (cs : List Char) (node : Node) : Prop where
  whole : isBroken node = false
  /-- The first character is neither a blank nor the end of a list. -/
  head : ∃ c tail, cs = c :: tail ∧ isSpace (some c) = false ∧ c ≠ ']'
  read : ∀ fuel, 2 * cs.length ≤ fuel → ∀ rest, endsNumeral rest = true →
    readValue fuel (cs.map some ++ rest) = (node, rest)

/-- A quoted text, from one quote to the other. -/
structure QuotedOf (cs : List Char) (q : Quotation) : Prop where
  whole : q.fault = none
  read : ∃ body, cs = '"' :: body ∧ ∀ rest, readQuotation (body.map some ++ rest) = (q, rest)

theorem exists_fuel {n steps fuel : Nat} (h : n + steps ≤ fuel) :
    ∃ left, fuel = left + steps ∧ n ≤ left :=
  ⟨fuel - steps, by omega, by omega⟩

theorem TextOf.read_blank {cs w : List Char} {node : Node} (h : TextOf cs node) (hw : Blank w)
    {fuel : Nat} (hfuel : 2 * cs.length ≤ fuel) {rest : Glyphs} (hrest : endsNumeral rest = true) :
    readValue fuel (w.map some ++ (cs.map some ++ rest)) = (node, rest) := by
  have hread := h.read fuel hfuel rest hrest
  obtain ⟨c, tail, rfl, hspace, -⟩ := h.head
  rw [List.length_cons] at hfuel
  obtain ⟨fuel, rfl, -⟩ := exists_fuel (show 0 + 1 ≤ fuel by omega)
  rw [List.map_cons, List.cons_append] at hread ⊢
  rw [readValue_blank hw hspace, hread]

theorem textOf_null : TextOf "null".toList .null where
  whole := rfl
  head := ⟨'n', _, rfl, by decide, by decide⟩
  read fuel hfuel rest _ := by
    obtain ⟨fuel, rfl, -⟩ := exists_fuel hfuel
    rfl

theorem textOf_flag (b : Bool) : TextOf (if b then "true" else "false").toList (.flag b) where
  whole := rfl
  head := by
    cases b
    · exact ⟨'f', _, rfl, by decide, by decide⟩
    · exact ⟨'t', _, rfl, by decide, by decide⟩
  read fuel hfuel rest _ := by
    cases b
    all_goals
      obtain ⟨fuel, rfl, -⟩ := exists_fuel hfuel
      rfl

theorem QuotedOf.textOf {cs : List Char} {q : Quotation} (h : QuotedOf cs q) :
    TextOf cs (.text q) := by
  obtain ⟨hwhole, body, rfl, hread⟩ := h
  refine ⟨by rw [isBroken, hwhole]; rfl, ⟨'"', body, rfl, by decide, by decide⟩, ?_⟩
  intro fuel hfuel rest _
  rw [List.length_cons] at hfuel
  obtain ⟨fuel, rfl, -⟩ := exists_fuel (show 0 + 1 ≤ fuel by omega)
  rw [List.map_cons, List.cons_append, readValue, skipSpace_of_head (by decide)]
  simp only [hread]

theorem isSpace_digit {c : Char} (h : Text.isDigit c = true) :
    isSpace (some c) = false ∧ c ≠ ']' := by
  refine ⟨?_, ?_⟩
  · rw [Bool.eq_false_iff]
    intro hspace
    simp only [isSpace, Bool.or_eq_true, beq_iff_eq] at hspace
    rcases hspace with ((rfl | rfl) | rfl) | rfl <;> revert h <;> decide
  · rintro rfl
    revert h
    decide

theorem readValue_digit {c : Char} (h : Text.isDigit c = true) (fuel : Nat) (rest : Glyphs) :
    readValue (fuel + 1) (some c :: rest) =
      (.number (readNumeral false (some c :: rest)).1, (readNumeral false (some c :: rest)).2) := by
  rw [readValue, skipSpace_of_head (isSpace_digit h).1]
  -- a digit begins none of the other values
  split
  all_goals
    rename_i heq
    simp only [List.cons.injEq, Option.some.injEq, reduceCtorEq, false_and] at heq
  all_goals
    obtain ⟨rfl, rfl⟩ := heq
  all_goals first
    | exact absurd h (by decide)
    | rw [if_pos h]

theorem textOf_digits (n : Nat) :
    TextOf (Decimal.digits n) (.number { negative := false, whole := Decimal.digits n }) := by
  have hdigits := List.all_eq_true.mp (Decimal.decimalValue_digits n).1
  obtain ⟨c, cs, hcs⟩ := List.exists_cons_of_ne_nil (Decimal.digits_ne_nil n)
  have hc : Text.isDigit c = true := hdigits c (by rw [hcs]; exact List.mem_cons_self)
  refine ⟨rfl, ⟨c, cs, hcs, isSpace_digit hc⟩, ?_⟩
  intro fuel hfuel rest hrest
  have hread := readNumeral_digits false n hrest
  rw [hcs, List.length_cons] at hfuel
  obtain ⟨fuel, rfl, -⟩ := exists_fuel (show 0 + 1 ≤ fuel by omega)
  rw [hcs, List.map_cons, List.cons_append] at hread ⊢
  rw [readValue_digit hc, hread]

theorem textOf_minus (n : Nat) :
    TextOf ('-' :: Decimal.digits n) (.number { negative := true, whole := Decimal.digits n }) := by
  refine ⟨rfl, ⟨'-', _, rfl, by decide, by decide⟩, ?_⟩
  intro fuel hfuel rest hrest
  rw [List.length_cons] at hfuel
  obtain ⟨fuel, rfl, -⟩ := exists_fuel (show 0 + 1 ≤ fuel by omega)
  rw [List.map_cons, List.cons_append, readValue, skipSpace_of_head (by decide)]
  simp only [readNumeral_digits true n hrest]

/-! ## Lists -/

/-- The members of a list as they stand between its brackets, without the blanks before the first. -/
inductive MembersOf : List Char → List Node → Prop
  | last {cs w : List Char} {node : Node} (first : TextOf cs node) (after : Blank w) :
      MembersOf (cs ++ w) [node]
  | more {cs w w' row : List Char} {node : Node} {nodes : List Node} (first : TextOf cs node)
      (after : Blank w) (before : Blank w') (rest : MembersOf row nodes) :
      MembersOf (cs ++ (w ++ ',' :: (w' ++ row))) (node :: nodes)

theorem MembersOf.head {row : List Char} {nodes : List Node} (h : MembersOf row nodes) :
    ∃ c tail, row = c :: tail ∧ isSpace (some c) = false ∧ c ≠ ']' := by
  cases h with
  | last first _ =>
    obtain ⟨c, tail, rfl, hc⟩ := first.head
    exact ⟨c, _, rfl, hc⟩
  | more first _ _ _ =>
    obtain ⟨c, tail, rfl, hc⟩ := first.head
    exact ⟨c, _, rfl, hc⟩

theorem readFirstMember_row {gs more rest : Glyphs} {c : Char} {fuel : Nat} {nodes : List Node}
    (hskip : skipSpace gs = some c :: more) (hend : c ≠ ']')
    (hread : readMembers fuel (some c :: more) = (nodes, .closed, rest)) :
    readFirstMember (fuel + 1) gs = (.list nodes .closed, rest) := by
  rw [readFirstMember, hskip]
  split
  · rename_i h
    cases h
  · rename_i h
    cases h
    exact absurd rfl hend
  · rw [hread]

theorem readMembers_last {gs after rest : Glyphs} {fuel : Nat} {node : Node}
    (hread : readValue fuel gs = (node, after)) (hwhole : isBroken node = false)
    (hend : skipSpace after = some ']' :: rest) :
    readMembers (fuel + 1) gs = ([node], .closed, rest) := by
  rw [readMembers, hread]
  simp only [hwhole, hend]
  rfl

theorem readMembers_more {gs after next more rest : Glyphs} {c : Char} {fuel : Nat} {node : Node}
    {nodes : List Node} (hread : readValue fuel gs = (node, after)) (hwhole : isBroken node = false)
    (hcomma : skipSpace after = some ',' :: next) (hnext : skipSpace next = some c :: more)
    (hend : c ≠ ']') (hmore : readMembers fuel (some c :: more) = (nodes, .closed, rest)) :
    readMembers (fuel + 1) gs = (node :: nodes, .closed, rest) := by
  rw [readMembers, hread]
  simp only [hwhole, hcomma, hnext]
  -- a bracket right after the comma would be a fault
  split
  · rename_i h
    cases h
  · split
    · rename_i h
      cases h
    · rename_i h
      cases h
      exact absurd rfl hend
    · rw [hmore]

/-- The members of a list are read up to its closing bracket. -/
theorem MembersOf.read {row : List Char} {nodes : List Node} (h : MembersOf row nodes) (fuel : Nat)
    (hfuel : 2 * row.length ≤ fuel) (rest : Glyphs) :
    readMembers (fuel + 1) (row.map some ++ some ']' :: rest) = (nodes, .closed, rest) := by
  induction h generalizing fuel with
  | @last cs w node first after =>
    rw [List.length_append] at hfuel
    rw [List.map_append, List.append_assoc]
    exact readMembers_last (first.read fuel (by omega) _ (endsNumeral_blank after rfl rest))
      first.whole (skipSpace_blank after (by decide) rest)
  | @more cs w w' row node nodes first after before more ih =>
    simp only [List.length_append, List.length_cons] at hfuel
    obtain ⟨fuel, rfl, hle⟩ := exists_fuel (show 2 * row.length + 1 ≤ fuel by omega)
    have hmore := ih fuel hle
    obtain ⟨c, tail, rfl, hspace, hend⟩ := more.head
    rw [List.map_cons, List.cons_append] at hmore
    simp only [List.map_append, List.map_cons, List.append_assoc, List.cons_append]
    exact readMembers_more (first.read _ (by omega) _ (endsNumeral_blank after rfl _)) first.whole
      (skipSpace_blank after (by decide) _) (skipSpace_blank before hspace _) hend hmore

theorem textOf_emptyList {w : List Char} (h : Blank w) :
    TextOf ('[' :: (w ++ [']'])) (.list [] .closed) := by
  refine ⟨rfl, ⟨'[', _, rfl, by decide, by decide⟩, ?_⟩
  intro fuel hfuel rest _
  simp only [List.length_cons, List.length_append] at hfuel
  obtain ⟨fuel, rfl, -⟩ := exists_fuel (show 0 + 2 ≤ fuel by omega)
  simp only [List.map_cons, List.map_append, List.cons_append, List.append_assoc, List.map_nil,
    List.nil_append]
  rw [readValue, skipSpace_of_head (by decide)]
  simp only [readFirstMember, skipSpace_blank h (show isSpace (some ']') = false by decide)]

theorem MembersOf.textOf {row w : List Char} {nodes : List Node} (h : MembersOf row nodes)
    (hw : Blank w) : TextOf ('[' :: (w ++ (row ++ [']']))) (.list nodes .closed) := by
  refine ⟨rfl, ⟨'[', _, rfl, by decide, by decide⟩, ?_⟩
  intro fuel hfuel rest _
  simp only [List.length_cons, List.length_append, List.length_nil] at hfuel
  obtain ⟨fuel, rfl, hle⟩ := exists_fuel (show 2 * row.length + 3 ≤ fuel by omega)
  have hread := h.read fuel hle rest
  obtain ⟨c, tail, rfl, hspace, hend⟩ := h.head
  simp only [List.map_cons, List.map_append, List.cons_append, List.append_assoc, List.map_nil,
    List.nil_append] at hread ⊢
  rw [readValue, skipSpace_of_head (by decide)]
  exact readFirstMember_row (skipSpace_blank hw hspace _) hend hread

/-! ## Records -/

/-- A member of a record: a quoted name, a colon and a value. -/
inductive FieldOf : List Char → Node × Node → Prop
  | mk {key w w' cs : List Char} {q : Quotation} {node : Node} (name : QuotedOf key q)
      (before : Blank w) (after : Blank w') (value : TextOf cs node) :
      FieldOf (key ++ (w ++ ':' :: (w' ++ cs))) (.text q, node)

/-- The members of a record as they stand between its braces, without the blanks before the first. -/
inductive FieldsOf : List Char → List (Node × Node) → Prop
  | last {cs w : List Char} {pair : Node × Node} (first : FieldOf cs pair) (after : Blank w) :
      FieldsOf (cs ++ w) [pair]
  | more {cs w w' row : List Char} {pair : Node × Node} {pairs : List (Node × Node)}
      (first : FieldOf cs pair) (after : Blank w) (before : Blank w') (rest : FieldsOf row pairs) :
      FieldsOf (cs ++ (w ++ ',' :: (w' ++ row))) (pair :: pairs)

theorem FieldOf.head {cs : List Char} {pair : Node × Node} (h : FieldOf cs pair) :
    ∃ tail, cs = '"' :: tail := by
  obtain ⟨⟨-, body, rfl, -⟩, -, -, -⟩ := h
  exact ⟨_, rfl⟩

theorem FieldsOf.head {row : List Char} {pairs : List (Node × Node)} (h : FieldsOf row pairs) :
    ∃ tail, row = '"' :: tail := by
  cases h with
  | last first _ =>
    obtain ⟨tail, rfl⟩ := first.head
    exact ⟨_, rfl⟩
  | more first _ _ _ =>
    obtain ⟨tail, rfl⟩ := first.head
    exact ⟨_, rfl⟩

theorem readFirstField_row {gs more rest : Glyphs} {fuel : Nat} {pairs : List (Node × Node)}
    (hskip : skipSpace gs = some '"' :: more)
    (hread : readFields fuel (some '"' :: more) = (pairs, .closed, none, rest)) :
    readFirstField (fuel + 1) gs = (.record pairs .closed none, rest) := by
  rw [readFirstField, hskip]
  split
  · rename_i h
    cases h
  · rename_i h
    cases h
  · rw [hread]

theorem readFields_last {gs afterKey value after rest : Glyphs} {fuel : Nat} {q : Quotation}
    {node : Node} (hkey : readQuotation gs = (q, afterKey)) (hquote : q.fault = none)
    (hcolon : skipSpace afterKey = some ':' :: value) (hread : readValue fuel value = (node, after))
    (hwhole : isBroken node = false) (hend : skipSpace after = some '\x7d' :: rest) :
    readFields (fuel + 1) (some '"' :: gs) = ([(.text q, node)], .closed, none, rest) := by
  rw [readFields, hkey]
  simp only [hquote, hcolon, hread, hwhole, hend]
  rfl

theorem readFields_more {gs afterKey value after next more rest : Glyphs} {fuel : Nat}
    {q : Quotation} {node : Node} {pairs : List (Node × Node)}
    (hkey : readQuotation gs = (q, afterKey)) (hquote : q.fault = none)
    (hcolon : skipSpace afterKey = some ':' :: value) (hread : readValue fuel value = (node, after))
    (hwhole : isBroken node = false) (hcomma : skipSpace after = some ',' :: next)
    (hnext : skipSpace next = some '"' :: more)
    (hmore : readFields fuel (some '"' :: more) = (pairs, .closed, none, rest)) :
    readFields (fuel + 1) (some '"' :: gs) = ((.text q, node) :: pairs, .closed, none, rest) := by
  rw [readFields, hkey]
  simp only [hquote, hcolon, hread, hwhole, hcomma, hnext, Option.isSome_none, Bool.false_eq_true,
    if_false]
  split
  · rename_i h
    cases h
  · rename_i h
    cases h
  · rw [hmore]

/-- The members of a record are read up to its closing brace. -/
theorem FieldsOf.read {row : List Char} {pairs : List (Node × Node)} (h : FieldsOf row pairs)
    (fuel : Nat) (hfuel : 2 * row.length ≤ fuel) (rest : Glyphs) :
    readFields (fuel + 1) (row.map some ++ some '\x7d' :: rest) =
      (pairs, .closed, none, rest) := by
  induction h generalizing fuel with
  | last first after =>
    obtain ⟨⟨hquote, body, rfl, hkey⟩, hbefore, hbetween, hvalue⟩ := first
    simp only [List.length_append, List.length_cons] at hfuel
    simp only [List.map_append, List.map_cons, List.append_assoc, List.cons_append]
    exact readFields_last (hkey _) hquote (skipSpace_blank hbefore (by decide) _)
      (hvalue.read_blank hbetween (by omega) (endsNumeral_blank after rfl _)) hvalue.whole
      (skipSpace_blank after (by decide) _)
  | @more cs w w' row pair pairs first after before more ih =>
    obtain ⟨⟨hquote, body, rfl, hkey⟩, hbefore, hbetween, hvalue⟩ := first
    simp only [List.length_append, List.length_cons] at hfuel
    obtain ⟨fuel, rfl, hle⟩ := exists_fuel (show 2 * row.length + 1 ≤ fuel by omega)
    have hmore := ih fuel hle
    obtain ⟨tail, rfl⟩ := more.head
    rw [List.map_cons, List.cons_append] at hmore
    simp only [List.map_append, List.map_cons, List.append_assoc, List.cons_append]
    exact readFields_more (hkey _) hquote (skipSpace_blank hbefore (by decide) _)
      (hvalue.read_blank hbetween (by omega) (endsNumeral_blank after rfl _)) hvalue.whole
      (skipSpace_blank after (by decide) _) (skipSpace_blank before (by decide) _) hmore

theorem textOf_emptyRecord {w : List Char} (h : Blank w) :
    TextOf ('\x7b' :: (w ++ ['\x7d'])) (.record [] .closed none) := by
  refine ⟨rfl, ⟨'\x7b', _, rfl, by decide, by decide⟩, ?_⟩
  intro fuel hfuel rest _
  simp only [List.length_cons, List.length_append] at hfuel
  obtain ⟨fuel, rfl, -⟩ := exists_fuel (show 0 + 2 ≤ fuel by omega)
  simp only [List.map_cons, List.map_append, List.cons_append, List.append_assoc, List.map_nil,
    List.nil_append]
  rw [readValue, skipSpace_of_head (by decide)]
  simp only [readFirstField, skipSpace_blank h (show isSpace (some '\x7d') = false by decide)]

theorem FieldsOf.textOf {row w : List Char} {pairs : List (Node × Node)} (h : FieldsOf row pairs)
    (hw : Blank w) : TextOf ('\x7b' :: (w ++ (row ++ ['\x7d']))) (.record pairs .closed none) := by
  refine ⟨rfl, ⟨'\x7b', _, rfl, by decide, by decide⟩, ?_⟩
  intro fuel hfuel rest _
  simp only [List.length_cons, List.length_append, List.length_nil] at hfuel
  obtain ⟨fuel, rfl, hle⟩ := exists_fuel (show 2 * row.length + 3 ≤ fuel by omega)
  have hread := h.read fuel hle rest
  obtain ⟨tail, rfl⟩ := h.head
  simp only [List.map_cons, List.map_append, List.cons_append, List.append_assoc, List.map_nil,
    List.nil_append] at hread ⊢
  rw [readValue, skipSpace_of_head (by decide)]
  exact readFirstField_row (skipSpace_blank hw (by decide) _) hread

/-! ## Whole texts -/

/-- A text of a node with blanks around it has the node as its document, and nothing follows it. -/
theorem TextOf.documentOfGlyphs_between {cs before after : List Char} {node : Node}
    (h : TextOf cs node) (hbefore : Blank before) (hafter : Blank after) :
    documentOfGlyphs (before.map some ++ (cs.map some ++ after.map some)) = ⟨node, false⟩ := by
  unfold Json.documentOfGlyphs
  rw [h.read_blank hbefore (by simp only [List.length_append, List.length_map]; omega)
    (endsNumeral_all hafter)]
  simp only [skipSpace_all hafter]
  rfl

theorem TextOf.documentOfGlyphs {cs : List Char} {node : Node} (h : TextOf cs node) :
    documentOfGlyphs (cs.map some) = ⟨node, false⟩ := by
  have hbetween := h.documentOfGlyphs_between blank_nil blank_nil
  rwa [List.map_nil, List.nil_append, List.append_nil] at hbetween

end GatewayProvisioning.Json
