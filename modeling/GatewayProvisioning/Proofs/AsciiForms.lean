import GatewayProvisioning.Text.Composition

/-!
# ASCII is composed already

No code point below 128 is composed of others or put in another order, since the second part of each
composed character lies beyond ASCII. The tables are judged by their texts, once for each of them.
An ASCII code point that no composed character begins with is kept in every text.
-/

namespace GatewayProvisioning.Text

/-! ## Tables beyond ASCII -/

/-- Whether all ranges of a set begin at a number or after it. -/
def Ranges.startAt (low : Nat) (ranges : Ranges) : Bool :=
  ranges.all fun range => low ≤ range.1

theorem Ranges.has_of_startAt {low n : Nat} {ranges : Ranges} (h : ranges.startAt low = true)
    (hn : n < low) : ranges.has n = false := by
  unfold Ranges.has
  rw [List.any_eq_false]
  intro range hrange
  have hlow := of_decide_eq_true (List.all_eq_true.mp h range hrange)
  simp only [Bool.and_eq_true, decide_eq_true_eq, not_and]
  omega

/-- The ranges of a text are judged by its characters. -/
theorem Ranges.startAt_ofText (low : Nat) {cs : List Char}
    (h : Ranges.startAt low ((splitWhere isBlank cs).filterMap fun item =>
      if item.isEmpty then none else range? item) = true) :
    (Ranges.ofText (String.ofList cs)).startAt low = true := by
  unfold Ranges.ofText
  rw [String.toList_ofList]
  exact h

/-- Whether the second part of a composed character lies beyond ASCII. -/
def marksBeyond (rows : List (Nat × List Nat)) : Bool :=
  rows.all fun row => 0x80 ≤ row.2.getLastD 0x80

theorem marksBeyond_rowsOfText {cs : List Char}
    (h : marksBeyond ((splitWhere isBlank cs).filterMap fun item =>
      if item.isEmpty then none else row? item) = true) :
    marksBeyond (rowsOfText (String.ofList cs)) = true := by
  unfold rowsOfText
  rw [String.toList_ofList]
  exact h

set_option maxRecDepth 100000 in
theorem compositions_beyond : marksBeyond compositions = true := by
  unfold compositions
  apply marksBeyond_rowsOfText
  decide +kernel

/-! ## Composing -/

theorem composed?_ascii {a b : Nat} (hb : b < 0x80) : composed? a b = none := by
  have hsyllable : syllable? a b = none := by
    unfold syllable?
    rw [if_neg (by omega), if_neg (by omega)]
  have hrow : compositions.find? (fun row => row.2 == [a, b]) = none := by
    rw [List.find?_eq_none]
    intro row hmem hparts
    have hbeyond := of_decide_eq_true (List.all_eq_true.mp compositions_beyond row hmem)
    rw [beq_iff_eq.mp hparts] at hbeyond
    exact absurd hbeyond (Nat.not_le.mpr hb)
  unfold composed?
  rw [hsyllable]
  simp only [hrow, Option.map_none]

theorem combiningClass_ascii {n : Nat} (h : n < 0x80) : combiningClass n = 0 := by
  unfold combiningClass
  exact if_pos (by omega)

theorem putMark_ascii {n : Nat} (h : n < 0x80) (before : List Nat) :
    putMark n before = n :: before := by
  cases before with
  | nil => rfl
  | cons m before =>
    unfold putMark
    rw [combiningClass_ascii h]
    simp

theorem orderedMarks_ascii {ns : List Nat} (h : ∀ n ∈ ns, n < 0x80) : orderedMarks ns = ns := by
  have hfold : ∀ before,
      ns.foldl (fun before n => putMark n before) before = ns.reverse ++ before := by
    -- those before are given backwards, and no class is above zero, so each goes in front of them
    induction ns with
    | nil =>
      intro before
      rfl
    | cons n ns ih =>
      intro before
      have hrest := ih fun m hm => h m (List.mem_cons_of_mem n hm)
      rw [List.foldl_cons, putMark_ascii (h n List.mem_cons_self), hrest]
      simp
  unfold orderedMarks
  rw [hfold, List.append_nil, List.reverse_reverse]

theorem composeFrom_ascii (starter : Nat) {ns : List Nat} (h : ∀ n ∈ ns, n < 0x80) :
    composeFrom starter [] ns = starter :: ns := by
  -- each code point is a starter itself, so nothing is ever skipped
  induction ns generalizing starter with
  | nil => rfl
  | cons n ns ih =>
    have hn := h n List.mem_cons_self
    have hrest := ih n fun m hm => h m (List.mem_cons_of_mem n hm)
    unfold composeFrom
    simp [composed?_ascii hn, combiningClass_ascii hn, hrest]

theorem decomposed_ascii (table : List (Nat × List Nat)) (fuel : Nat) {n : Nat} (h : n < 0x80) :
    decomposed table fuel n = [n] := by
  cases fuel with
  | zero => rfl
  | succ fuel => rw [decomposed, if_pos (by omega)]

/-- ASCII is composed already. -/
theorem composedForm_ascii {ns : List Nat} (h : ∀ n ∈ ns, n < 0x80) : composedForm ns = ns := by
  have hone : ∀ n ∈ ns, decomposed compositions 8 n = [n] :=
    fun n hn => decomposed_ascii compositions 8 (h n hn)
  have hparts : ns.flatMap (decomposed compositions 8) = ns := by
    rw [List.flatMap_def, List.map_congr_left hone, ← List.flatMap_def, List.flatMap_singleton']
  unfold composedForm
  rw [hparts, orderedMarks_ascii h]
  cases ns with
  | nil => rfl
  | cons n ns =>
    unfold composeAll
    rw [if_pos (combiningClass_ascii (h n List.mem_cons_self)),
      composeFrom_ascii n fun m hm => h m (List.mem_cons_of_mem n hm)]

/-! ## ASCII among other code points -/

theorem mem_putMark {m n : Nat} {before : List Nat} (h : m = n ∨ m ∈ before) :
    m ∈ putMark n before := by
  induction before with
  | nil =>
    obtain rfl : m = n := h.resolve_right List.not_mem_nil
    exact List.mem_singleton_self m
  | cons k before ih =>
    unfold putMark
    split
    · rw [List.mem_cons] at h ⊢
      rcases h with h | h | h
      · exact .inr (ih (.inl h))
      · exact .inl h
      · exact .inr (ih (.inr h))
    · rw [List.mem_cons, List.mem_cons]
      rw [List.mem_cons] at h
      exact h

theorem mem_orderedMarks {n : Nat} {ns : List Nat} (h : n ∈ ns) : n ∈ orderedMarks ns := by
  have hfold : ∀ before, n ∈ before ∨ n ∈ ns →
      n ∈ ns.foldl (fun before m => putMark m before) before := by
    clear h
    induction ns with
    | nil => exact fun before h => h.resolve_right List.not_mem_nil
    | cons m ns ih =>
      intro before h
      rw [List.foldl_cons]
      apply ih
      rw [List.mem_cons] at h
      rcases h with h | rfl | h
      · exact .inl (mem_putMark (.inr h))
      · exact .inl (mem_putMark (.inl rfl))
      · exact .inr h
  exact List.mem_reverse.mpr (hfold [] (.inr h))

/-- A code point joins the starter, becomes the next one, or is skipped. -/
theorem composeFrom_cons (starter : Nat) (skipped : List Nat) (m : Nat) (rest : List Nat) :
    (∃ joined, composed? starter m = some joined ∧
      composeFrom starter skipped (m :: rest) = composeFrom joined skipped rest) ∨
    composeFrom starter skipped (m :: rest) =
      starter :: skipped.reverse ++ composeFrom m [] rest ∨
    composeFrom starter skipped (m :: rest) = composeFrom starter (m :: skipped) rest := by
  have hstep := composeFrom.eq_def starter skipped (m :: rest)
  simp only at hstep
  split at hstep
  · rename_i joined hjoined
    exact .inl ⟨joined, (Option.ite_none_left_eq_some.mp hjoined).2, hstep⟩
  · split at hstep
    · exact .inr (.inl hstep)
    · exact .inr (.inr hstep)

/-- A code point of ASCII that begins no composed character is left alone by composing. -/
theorem mem_composeFrom {n : Nat} (hascii : n < 0x80) (hfirst : ∀ m, composed? n m = none)
    {starter : Nat} {skipped ns : List Nat} (h : n = starter ∨ n ∈ skipped ∨ n ∈ ns) :
    n ∈ composeFrom starter skipped ns := by
  induction ns generalizing starter skipped with
  | nil =>
    rw [composeFrom, List.mem_cons, List.mem_reverse]
    exact h.imp_right fun h => h.resolve_right List.not_mem_nil
  | cons m ns ih =>
    rw [List.mem_cons] at h
    rcases composeFrom_cons starter skipped m ns with ⟨joined, hjoined, heq⟩ | heq | heq
    · rw [heq]
      apply ih
      rcases h with rfl | h | rfl | h
      · rw [hfirst] at hjoined
        cases hjoined
      · exact .inr (.inl h)
      · rw [composed?_ascii hascii] at hjoined
        cases hjoined
      · exact .inr (.inr h)
    · rw [heq, List.mem_append, List.mem_cons, List.mem_reverse]
      rcases h with h | h | h
      · exact .inl (.inl h)
      · exact .inl (.inr h)
      · exact .inr (ih (h.imp_right .inr))
    · rw [heq]
      apply ih
      rw [List.mem_cons]
      rcases h with h | h | h | h
      · exact .inl h
      · exact .inr (.inl (.inr h))
      · exact .inr (.inl (.inl h))
      · exact .inr (.inr h)

theorem mem_composedForm {n : Nat} (hascii : n < 0x80) (hfirst : ∀ m, composed? n m = none)
    {ns : List Nat} (h : n ∈ ns) : n ∈ composedForm ns := by
  have hall : ∀ ms, n ∈ ms → n ∈ composeAll ms := by
    intro ms hms
    induction ms with
    | nil => cases hms
    | cons m ms ih =>
      rw [List.mem_cons] at hms
      unfold composeAll
      split
      · exact mem_composeFrom hascii hfirst (hms.imp_right .inr)
      · exact List.mem_cons.mpr (hms.imp_right ih)
  have hparts : n ∈ ns.flatMap (decomposed compositions 8) := by
    rw [List.mem_flatMap]
    exact ⟨n, h, by rw [decomposed_ascii compositions 8 hascii]; exact List.mem_singleton_self n⟩
  exact hall _ (mem_orderedMarks hparts)

end GatewayProvisioning.Text
