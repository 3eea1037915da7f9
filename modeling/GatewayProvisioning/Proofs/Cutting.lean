import GatewayProvisioning.Url.Percent

/-!
# Cutting rows of characters

What is left after members have been dropped at the ends, where a row is split, and how both go on
when a row is continued.
-/

namespace GatewayProvisioning.Text

variable {α : Type} {p : α → Bool}

/-! ## Dropping at the ends -/

theorem dropEndWhile_concat {x : α} (h : p x = false) (xs : List α) :
    dropEndWhile p (xs ++ [x]) = xs ++ [x] := by
  unfold dropEndWhile
  rw [List.reverse_append, List.reverse_singleton, List.singleton_append,
    List.dropWhile_cons_of_neg (by rw [h]; decide), List.reverse_cons, List.reverse_reverse]

theorem dropEndWhile_of_getLast {xs : List α} (hne : xs ≠ []) (h : p (xs.getLast hne) = false) :
    dropEndWhile p xs = xs := by
  have hconcat := dropEndWhile_concat h xs.dropLast
  rw [List.dropLast_concat_getLast] at hconcat
  exact hconcat

theorem dropEndWhile_cons (x : α) (xs : List α) :
    dropEndWhile p (x :: xs) =
      if dropEndWhile p xs = [] ∧ p x = true then [] else x :: dropEndWhile p xs := by
  unfold dropEndWhile
  rw [List.reverse_cons, List.dropWhile_append]
  by_cases hall : xs.reverse.dropWhile p = []
  · rw [hall]
    by_cases hx : p x = true <;> simp [hx]
  · simp [hall]

/-- What has been dropped at the end does not count when members are dropped at the front. -/
theorem dropWhile_dropEndWhile (xs : List α) :
    (dropEndWhile p xs).dropWhile p = dropEndWhile p (xs.dropWhile p) := by
  induction xs with
  | nil => rfl
  | cons x xs ih =>
    by_cases hx : p x = true
    · rw [List.dropWhile_cons_of_pos hx, ← ih, dropEndWhile_cons]
      by_cases hnil : dropEndWhile p xs = []
      · rw [if_pos ⟨hnil, hx⟩, hnil]
      · rw [if_neg fun h => hnil h.1, List.dropWhile_cons_of_pos hx]
    · rw [List.dropWhile_cons_of_neg hx, dropEndWhile_cons, if_neg fun h => hx h.2,
        List.dropWhile_cons_of_neg hx]

/-- What is dropped around a row does not count when members are dropped at its ends. -/
theorem dropBothWhile_around {before after : List α} (hbefore : ∀ x ∈ before, p x = true)
    (hafter : ∀ x ∈ after, p x = true) (xs : List α) :
    dropBothWhile p (before ++ xs ++ after) = dropBothWhile p xs := by
  have hend : dropEndWhile p (xs ++ after) = dropEndWhile p xs := by
    unfold dropEndWhile
    rw [List.reverse_append, List.dropWhile_append_of_pos (by simpa using hafter)]
  unfold dropBothWhile
  rw [List.append_assoc, List.dropWhile_append_of_pos hbefore, ← dropWhile_dropEndWhile, hend,
    dropWhile_dropEndWhile]

theorem dropBothWhile_of_ends {xs : List α} (hfirst : ∀ x, xs.head? = some x → p x = false)
    (hlast : ∀ x, xs.getLast? = some x → p x = false) : dropBothWhile p xs = xs := by
  have hfront : xs.dropWhile p = xs := by
    rcases xs with _ | ⟨x, xs⟩
    · rfl
    · have hx : p x = false := hfirst x rfl
      exact List.dropWhile_cons_of_neg (by rw [hx]; decide)
  unfold dropBothWhile
  rw [hfront]
  by_cases hnil : xs = []
  · rw [hnil]
    rfl
  · exact dropEndWhile_of_getLast hnil (hlast _ (List.getLast?_eq_some_getLast hnil))

theorem dropBothWhile_subset (xs : List α) : dropBothWhile p xs ⊆ xs := by
  intro x hx
  unfold dropBothWhile dropEndWhile at hx
  rw [List.mem_reverse] at hx
  have hback := (List.dropWhile_suffix p).subset hx
  rw [List.mem_reverse] at hback
  exact (List.dropWhile_suffix p).subset hback

theorem not_of_head?_dropWhile {xs : List α} {x : α} (h : (xs.dropWhile p).head? = some x) :
    p x = false := by
  have hstop := List.head?_dropWhile_not p xs
  rw [h] at hstop
  simpa using hstop

/-- Neither end of a row from which nothing is dropped would be dropped. -/
theorem ends_of_dropBothWhile {xs : List α} (h : dropBothWhile p xs = xs) :
    (∀ x, xs.head? = some x → p x = false) ∧ ∀ x, xs.getLast? = some x → p x = false := by
  have hshort : (dropBothWhile p xs).length ≤ (xs.dropWhile p).length := by
    have hend := (List.dropWhile_suffix p (l := (xs.dropWhile p).reverse)).length_le
    rw [List.length_reverse] at hend
    unfold dropBothWhile dropEndWhile
    rwa [List.length_reverse]
  rw [h] at hshort
  have hfront : xs.dropWhile p = xs := (List.dropWhile_suffix p).eq_of_length_le hshort
  have hback : xs.reverse.dropWhile p = xs.reverse := by
    unfold dropBothWhile dropEndWhile at h
    rw [hfront] at h
    rw [← List.reverse_reverse (xs.reverse.dropWhile p), h]
  constructor
  · intro x hx
    rw [← hfront] at hx
    exact not_of_head?_dropWhile hx
  · intro x hx
    rw [← List.head?_reverse, ← hback] at hx
    exact not_of_head?_dropWhile hx

theorem dropBothWhile_dropBothWhile (xs : List α) :
    dropBothWhile p (dropBothWhile p xs) = dropBothWhile p xs := by
  apply dropBothWhile_of_ends
  · intro x hx
    unfold dropBothWhile at hx
    rw [← dropWhile_dropEndWhile] at hx
    exact not_of_head?_dropWhile hx
  · intro x hx
    unfold dropBothWhile dropEndWhile at hx
    rw [List.getLast?_reverse] at hx
    exact not_of_head?_dropWhile hx

/-! ## Continued rows -/

theorem exists_of_cons {x : α} {xs : List α} (hx : p x = true) (h : ∃ y ∈ x :: xs, p y = false) :
    ∃ y ∈ xs, p y = false := by
  obtain ⟨y, hy, hpy⟩ := h
  rcases List.mem_cons.mp hy with rfl | hy
  · rw [hx] at hpy
    contradiction
  · exact ⟨y, hy, hpy⟩

theorem takeWhile_append_of_mem {xs : List α} (h : ∃ x ∈ xs, p x = false) (ys : List α) :
    (xs ++ ys).takeWhile p = xs.takeWhile p := by
  induction xs with
  | nil => simp at h
  | cons x xs ih =>
    by_cases hx : p x = true
    · have hrest := exists_of_cons hx h
      rw [List.cons_append, List.takeWhile_cons_of_pos hx, List.takeWhile_cons_of_pos hx, ih hrest]
    · rw [List.cons_append, List.takeWhile_cons_of_neg hx, List.takeWhile_cons_of_neg hx]

theorem dropWhile_append_of_mem {xs : List α} (h : ∃ x ∈ xs, p x = false) (ys : List α) :
    (xs ++ ys).dropWhile p = xs.dropWhile p ++ ys := by
  induction xs with
  | nil => simp at h
  | cons x xs ih =>
    by_cases hx : p x = true
    · have hrest := exists_of_cons hx h
      rw [List.cons_append, List.dropWhile_cons_of_pos hx, List.dropWhile_cons_of_pos hx, ih hrest]
    · rw [List.cons_append, List.dropWhile_cons_of_neg hx, List.dropWhile_cons_of_neg hx]
      rfl

/-- What is left after dropping begins with a member that is not dropped, if any member is not. -/
theorem mem_dropWhile {xs : List α} {x : α} (hx : x ∈ xs) (hp : p x = false) :
    x ∈ xs.dropWhile p := by
  have hsplit := List.takeWhile_append_dropWhile (p := p) (l := xs)
  rw [← hsplit] at hx
  rcases List.mem_append.mp hx with hx | hx
  · have htaken := List.all_eq_true.mp List.all_takeWhile x hx
    rw [hp] at htaken
    contradiction
  · exact hx

/-! ## Splitting -/

theorem splitFirst?_append {xs before after : List α} (h : splitFirst? p xs = some (before, after))
    (ys : List α) : splitFirst? p (xs ++ ys) = some (before, after ++ ys) := by
  induction xs generalizing before after with
  | nil => simp [splitFirst?] at h
  | cons x xs ih =>
    rw [List.cons_append]
    unfold splitFirst? at h ⊢
    by_cases hx : p x = true
    · rw [if_pos hx, Option.some.injEq, Prod.mk.injEq] at h
      rw [if_pos hx, ← h.1, ← h.2]
    · rw [if_neg hx, Option.map_eq_some_iff] at h
      obtain ⟨⟨found, rest⟩, hfound, heq⟩ := h
      rw [Prod.mk.injEq] at heq
      rw [if_neg hx, ih hfound, Option.map_some, ← heq.1, ← heq.2]

theorem splitFirst?_of_first {before : List α} {x : α} (h : ∀ y ∈ before, p y = false)
    (hx : p x = true) (after : List α) :
    splitFirst? p (before ++ x :: after) = some (before, after) := by
  induction before with
  | nil => simp [splitFirst?, hx]
  | cons y before ih =>
    have hy : p y = false := h y List.mem_cons_self
    have hrest := ih fun z hz => h z (List.mem_cons_of_mem y hz)
    simp [splitFirst?, hy, hrest]

/-- A row is split at the first member that is equal to a mark. -/
theorem splitFirst?_of_notMem [DecidableEq α] {before : List α} {x : α} (h : x ∉ before)
    (after : List α) : splitFirst? (· == x) (before ++ x :: after) = some (before, after) :=
  splitFirst?_of_first (fun _ hy => beq_eq_false_iff_ne.mpr (ne_of_mem_of_not_mem hy h))
    (beq_self_eq_true x) after

theorem splitFirst?_eq_none {xs : List α} :
    splitFirst? p xs = none ↔ ∀ x ∈ xs, p x = false := by
  induction xs with
  | nil => simp [splitFirst?]
  | cons x xs ih =>
    unfold splitFirst?
    by_cases hx : p x = true
    · simp [hx]
    · simp [hx, ih]

theorem splitFirst?_eq_some {xs before after : List α}
    (h : splitFirst? p xs = some (before, after)) : ∃ x, p x = true ∧ xs = before ++ x :: after := by
  induction xs generalizing before after with
  | nil => simp [splitFirst?] at h
  | cons x xs ih =>
    unfold splitFirst? at h
    by_cases hx : p x = true
    · rw [if_pos hx, Option.some.injEq, Prod.mk.injEq] at h
      exact ⟨x, hx, by rw [← h.1, ← h.2]; rfl⟩
    · rw [if_neg hx, Option.map_eq_some_iff] at h
      obtain ⟨⟨found, rest⟩, hfound, heq⟩ := h
      rw [Prod.mk.injEq] at heq
      obtain ⟨y, hy, rfl⟩ := ih hfound
      exact ⟨y, hy, by rw [← heq.1, ← heq.2]; rfl⟩

theorem splitLast?_eq_some {xs before after : List α}
    (h : splitLast? p xs = some (before, after)) : ∃ x, p x = true ∧ xs = before ++ x :: after := by
  unfold splitLast? at h
  rw [Option.map_eq_some_iff] at h
  obtain ⟨⟨back, front⟩, hsplit, heq⟩ := h
  rw [Prod.mk.injEq] at heq
  obtain ⟨x, hx, hxs⟩ := splitFirst?_eq_some hsplit
  refine ⟨x, hx, ?_⟩
  rw [← heq.1, ← heq.2, ← List.reverse_reverse xs, hxs]
  simp

theorem splitLast?_eq_none {xs : List α} (h : ∀ x ∈ xs, p x = false) : splitLast? p xs = none := by
  have hback : splitFirst? p xs.reverse = none :=
    splitFirst?_eq_none.mpr fun x hx => h x (List.mem_reverse.mp hx)
  unfold splitLast?
  rw [hback]
  rfl

theorem splitLast?_of_last {after : List α} {x : α} (h : ∀ y ∈ after, p y = false)
    (hx : p x = true) (before : List α) :
    splitLast? p (before ++ x :: after) = some (before, after) := by
  have hreverse : ∀ y ∈ after.reverse, p y = false := fun y hy => h y (List.mem_reverse.mp hy)
  have hback := splitFirst?_of_first hreverse hx before.reverse
  have hrow : (before ++ x :: after).reverse = after.reverse ++ x :: before.reverse := by simp
  unfold splitLast?
  rw [hrow, hback, Option.map_some]
  simp

theorem splitFirst?_append_of_none {xs : List α} (h : ∀ x ∈ xs, p x = false) (ys : List α) :
    splitFirst? p (xs ++ ys) =
      (splitFirst? p ys).map fun (before, after) => (xs ++ before, after) := by
  induction xs with
  | nil => simp
  | cons x xs ih =>
    have hx := h x List.mem_cons_self
    have hrest := ih fun y hy => h y (List.mem_cons_of_mem x hy)
    rw [List.cons_append, splitFirst?, if_neg (by rw [hx]; decide), hrest, Option.map_map]
    rfl

/-- What holds no mark does not count at the end. -/
theorem splitLast?_append_of_none {ys : List α} (h : ∀ y ∈ ys, p y = false) (xs : List α) :
    splitLast? p (xs ++ ys) =
      (splitLast? p xs).map fun (before, after) => (before, after ++ ys) := by
  have hback : ∀ y ∈ ys.reverse, p y = false := fun y hy => h y (List.mem_reverse.mp hy)
  unfold splitLast?
  rw [List.reverse_append, splitFirst?_append_of_none hback, Option.map_map, Option.map_map]
  apply congrFun
  apply congrArg
  funext ⟨after, before⟩
  simp

/-- A text is split at a mark whose first character does not come before it. -/
theorem splitAtMark?_of_first [DecidableEq α] {m : α} (mark : List α) {before : List α}
    (h : ∀ y ∈ before, y ≠ m) (after : List α) :
    splitAtMark? (m :: mark) (before ++ (m :: mark ++ after)) = some (before, after) := by
  induction before with
  | nil =>
    have hprefix : (m :: mark).isPrefixOf (m :: (mark ++ after)) = true :=
      List.isPrefixOf_iff_prefix.mpr (List.prefix_append (m :: mark) after)
    have hdrop : (m :: mark ++ after).drop (m :: mark).length = after := List.drop_left
    rw [List.nil_append, List.cons_append, splitAtMark?, if_pos hprefix, ← List.cons_append, hdrop]
  | cons y before ih =>
    have hy : y ≠ m := h y List.mem_cons_self
    have hprefix : ¬(m :: mark).isPrefixOf (y :: (before ++ (m :: mark ++ after))) = true := by
      rw [List.isPrefixOf_iff_prefix, List.cons_prefix_cons]
      exact fun hboth => hy hboth.1.symm
    have hrest := ih fun z hz => h z (List.mem_cons_of_mem y hz)
    rw [List.cons_append, splitAtMark?, if_neg hprefix, hrest]
    rfl

/-- A text is split at a mark exactly if the mark occurs in it. -/
theorem splitAtMark?_isSome [DecidableEq α] (mark xs : List α) :
    (splitAtMark? mark xs).isSome = true ↔ mark <:+: xs := by
  induction xs with
  | nil =>
    unfold splitAtMark?
    by_cases hmark : mark = []
    · simp [hmark]
    · simp [hmark]
  | cons x xs ih =>
    unfold splitAtMark?
    by_cases hfront : mark.isPrefixOf (x :: xs) = true
    · have hprefix : mark <+: x :: xs := List.isPrefixOf_iff_prefix.mp hfront
      simp [hfront, hprefix.isInfix]
    · have hprefix : ¬mark <+: x :: xs := fun h => hfront (List.isPrefixOf_iff_prefix.mpr h)
      rw [if_neg hfront, Option.isSome_map, ih, List.infix_cons_iff]
      exact ⟨.inr, fun h => h.resolve_left hprefix⟩

/-! ## Parts between marks -/

theorem splitWhere_ne_nil (xs : List α) : splitWhere p xs ≠ [] := by
  cases xs with
  | nil => simp [splitWhere]
  | cons x xs =>
    unfold splitWhere
    split
    · simp
    · split <;> simp

theorem splitWhere_of_none {xs : List α} (h : ∀ x ∈ xs, p x = false) : splitWhere p xs = [xs] := by
  induction xs with
  | nil => rfl
  | cons x xs ih =>
    have hx := h x List.mem_cons_self
    rw [splitWhere, if_neg (by rw [hx]; decide), ih fun y hy => h y (List.mem_cons_of_mem x hy)]

/-- A mark is the end of the part before it and the beginning of the part after it. -/
theorem splitWhere_append {x : α} (hx : p x = true) (xs ys : List α) :
    splitWhere p (xs ++ x :: ys) = splitWhere p xs ++ splitWhere p ys := by
  induction xs with
  | nil =>
    have hmark : splitWhere p (x :: ys) = [] :: splitWhere p ys := by rw [splitWhere, if_pos hx]
    exact hmark
  | cons y xs ih =>
    rw [List.cons_append, splitWhere, splitWhere]
    by_cases hy : p y = true
    · rw [if_pos hy, if_pos hy, ih]
      rfl
    · rw [if_neg hy, if_neg hy, ih]
      rcases hparts : splitWhere p xs with _ | ⟨part, parts⟩
      · exact absurd hparts (splitWhere_ne_nil xs)
      · rfl

theorem exists_part {xs : List α} {x : α} (hx : x ∈ xs)
    (hp : p x = false) : ∃ part ∈ splitWhere p xs, x ∈ part := by
  induction xs with
  | nil => cases hx
  | cons y xs ih =>
    rw [splitWhere]
    by_cases hy : p y = true
    · rw [if_pos hy]
      have hne : x ≠ y := by
        rintro rfl
        rw [hp] at hy
        cases hy
      obtain ⟨part, hpart, hmem⟩ := ih (List.mem_of_ne_of_mem hne hx)
      exact ⟨part, List.mem_cons_of_mem _ hpart, hmem⟩
    · rw [if_neg hy]
      rcases hparts : splitWhere p xs with _ | ⟨first, parts⟩
      · exact absurd hparts (splitWhere_ne_nil xs)
      · rw [hparts] at ih
        rcases List.mem_cons.mp hx with rfl | hx
        · exact ⟨x :: first, List.mem_cons_self, List.mem_cons_self⟩
        · obtain ⟨part, hpart, hmem⟩ := ih hx
          rcases List.mem_cons.mp hpart with rfl | hpart
          · exact ⟨y :: part, List.mem_cons_self, List.mem_cons_of_mem y hmem⟩
          · exact ⟨part, List.mem_cons_of_mem _ hpart, hmem⟩

theorem splitWhere_map {β : Type} (p : β → Bool) (f : α → β) (xs : List α) :
    splitWhere p (xs.map f) = (splitWhere (fun x => p (f x)) xs).map (List.map f) := by
  induction xs with
  | nil => rfl
  | cons x xs ih =>
    rw [List.map_cons, splitWhere, splitWhere, ih]
    by_cases hx : p (f x) = true
    · rw [if_pos hx, if_pos hx]
      rfl
    · rw [if_neg hx, if_neg hx]
      rcases splitWhere (fun x => p (f x)) xs with _ | ⟨part, parts⟩ <;> rfl

/-- Parts without marks are what their row with marks between them is split into. -/
theorem splitWhere_intercalate {x : α} (hx : p x = true) {parts : List (List α)} (hne : parts ≠ [])
    (h : ∀ part ∈ parts, ∀ y ∈ part, p y = false) :
    splitWhere p ([x].intercalate parts) = parts := by
  induction parts with
  | nil => exact absurd rfl hne
  | cons part rest ih =>
    have hpart := splitWhere_of_none (h part List.mem_cons_self)
    by_cases hnil : rest = []
    · rw [hnil, List.intercalate_singleton]
      exact hpart
    · have hrest := ih hnil fun other hother => h other (List.mem_cons_of_mem part hother)
      rw [List.intercalate_cons_of_ne_nil hnil, List.append_assoc, List.singleton_append,
        splitWhere_append hx, hpart, hrest]
      rfl

/-- What holds of a mark and of the members of all parts holds of every member of their row. -/
theorem forall_mem_intercalate {P : α → Prop} {x : α} (hx : P x) {parts : List (List α)}
    (h : ∀ part ∈ parts, ∀ y ∈ part, P y) : ∀ y ∈ [x].intercalate parts, P y := by
  induction parts with
  | nil => simp
  | cons part rest ih =>
    have hpart := h part List.mem_cons_self
    have hrest := ih fun other hother => h other (List.mem_cons_of_mem part hother)
    by_cases hnil : rest = []
    · rw [hnil, List.intercalate_singleton]
      exact hpart
    · intro y hy
      rw [List.intercalate_cons_of_ne_nil hnil, List.append_assoc, List.singleton_append,
        List.mem_append, List.mem_cons] at hy
      rcases hy with hy | rfl | hy
      · exact hpart y hy
      · exact hx
      · exact hrest y hy

end GatewayProvisioning.Text

namespace GatewayProvisioning.Url

/-- A base that does not end in a slash is left alone. -/
theorem trimBase_concat {c : Char} (hc : c ≠ '/') (cs : List Char) :
    trimBase (String.ofList (cs ++ [c])) = cs ++ [c] := by
  unfold trimBase
  rw [String.toList_ofList]
  exact Text.dropEndWhile_concat (by simpa using hc) cs

end GatewayProvisioning.Url
