import GatewayProvisioning.NameMap

/-!
# Maps by name

What is found under a name in a map that has been extended, and in the union of two maps. A map is
its entries, and those that come in order are put one behind the other.
-/

namespace GatewayProvisioning.NameMap

variable {α : Type}

theorem eq_of_entries {m other : NameMap α} (h : m.entries = other.entries) : m = other := by
  obtain ⟨entries, ascending⟩ := m
  obtain ⟨entries', ascending'⟩ := other
  subst h
  rfl

/-- A name beyond all others is put last. -/
theorem put_last {k : String} {es : List (String × α)} (h : ∀ e ∈ es, e.1 < k) (v : α) :
    put k v es = es ++ [(k, v)] := by
  induction es with
  | nil => rfl
  | cons e es ih =>
    obtain ⟨l, w⟩ := e
    have hl : l < k := h (l, w) List.mem_cons_self
    have hne : k ≠ l := by
      rintro rfl
      exact String.lt_irrefl k hl
    have hrest := ih fun x hx => h x (List.mem_cons_of_mem _ hx)
    unfold put
    rw [if_neg (String.lt_asymm hl), if_neg hne, hrest, List.cons_append]

theorem lookup_put (k x : String) (v : α) (es : List (String × α)) :
    (put k v es).lookup x = if x = k then some v else es.lookup x := by
  induction es with
  | nil =>
    by_cases hx : x = k
    · simp [put, hx]
    · simp [put, hx, List.lookup_cons, beq_eq_false_iff_ne.mpr hx]
  | cons e rest ih =>
    obtain ⟨l, w⟩ := e
    unfold put
    by_cases hlt : k < l
    · rw [if_pos hlt, List.lookup_cons]
      by_cases hx : x = k
      · simp [hx]
      · rw [beq_eq_false_iff_ne.mpr hx, if_neg hx]
    · rw [if_neg hlt]
      by_cases heq : k = l
      · subst heq
        rw [if_pos rfl, List.lookup_cons, List.lookup_cons]
        by_cases hx : x = k
        · simp [hx]
        · rw [beq_eq_false_iff_ne.mpr hx, if_neg hx]
      · rw [if_neg heq, List.lookup_cons, List.lookup_cons, ih]
        by_cases hx : x = l
        · have hne : x ≠ k := fun h => heq (h.symm.trans hx)
          rw [if_neg hne, if_neg hne]
        · rw [beq_eq_false_iff_ne.mpr hx]

/-- A new entry counts only where nothing was. -/
theorem get?_insertNew (m : NameMap α) (k x : String) (v : α) :
    (m.insertNew k v).get? x = (m.get? x).or (if x = k then some v else none) := by
  unfold insertNew
  by_cases htaken : (m.get? k).isSome = true
  · rw [if_pos htaken]
    by_cases hx : x = k
    · obtain ⟨w, hw⟩ := Option.isSome_iff_exists.mp htaken
      rw [hx, hw, Option.some_or]
    · rw [if_neg hx, Option.or_none]
  · have hfree : m.get? k = none := by simpa using htaken
    have hput : (m.insert k v).get? x = if x = k then some v else m.get? x :=
      lookup_put k x v m.entries
    rw [if_neg htaken, hput]
    by_cases hx : x = k
    · rw [if_pos hx, if_pos hx, hx, hfree, Option.none_or]
    · rw [if_neg hx, if_neg hx, Option.or_none]

/-- Of several new entries with one name the first counts. -/
theorem get?_insertAllNew (m : NameMap α) (es : List (String × α)) (x : String) :
    (m.insertAllNew es).get? x = (m.get? x).or (es.lookup x) := by
  induction es generalizing m with
  | nil => exact Option.or_none.symm
  | cons e es ih =>
    have hcons : m.insertAllNew (e :: es) = (m.insertNew e.1 e.2).insertAllNew es := rfl
    rw [hcons, ih, get?_insertNew, Option.or_assoc, List.lookup_cons]
    by_cases hx : x = e.1
    · rw [if_pos hx, hx, beq_self_eq_true, Option.some_or]
    · rw [if_neg hx, beq_eq_false_iff_ne.mpr hx, Option.none_or]

/-- In the union of two maps the first one comes first under each name. That nothing is copied when
one of them is empty makes no difference. -/
theorem get?_union (m other : NameMap α) (x : String) :
    (m.union other).get? x = (m.get? x).or (other.get? x) := by
  unfold union
  by_cases hother : other.entries.isEmpty = true
  · have hnone : other.get? x = none := by
      unfold get?
      rw [List.isEmpty_iff.mp hother, List.lookup_nil]
    rw [if_pos hother, hnone, Option.or_none]
  · rw [if_neg hother]
    by_cases hm : m.entries.isEmpty = true
    · have hnone : m.get? x = none := by
        unfold get?
        rw [List.isEmpty_iff.mp hm, List.lookup_nil]
      rw [if_pos hm, hnone, Option.none_or]
    · rw [if_neg hm, get?_insertAllNew]
      rfl

/-- Each name stands only once in a map. -/
theorem mem_entries_iff (m : NameMap α) {k : String} {v : α} :
    (k, v) ∈ m.entries ↔ m.get? k = some v := by
  obtain ⟨es, hascending⟩ := m
  unfold get?
  induction es with
  | nil => simp
  | cons e rest ih =>
    obtain ⟨l, w⟩ := e
    rw [List.map_cons, List.pairwise_cons] at hascending
    have hrest := ih hascending.2
    rw [List.lookup_cons, List.mem_cons]
    by_cases hk : k = l
    · subst hk
      -- keys ascend, so the rest has only greater ones
      have hnot : (k, v) ∉ rest := fun hmem =>
        String.lt_irrefl k (hascending.1 k (List.mem_map_of_mem hmem))
      simp [hnot, eq_comm]
    · rw [beq_eq_false_iff_ne.mpr hk, ← hrest]
      simp [hk]

/-- No name comes before the empty one. -/
theorem entries_of_get?_empty {m : NameMap α} {v : α} (h : m.get? "" = some v) :
    ∃ rest, m.entries = ("", v) :: rest := by
  have hmem := (mem_entries_iff m).mpr h
  obtain ⟨entries, hascending⟩ := m
  change ("", v) ∈ entries at hmem
  rcases entries with _ | ⟨first, rest⟩
  · cases hmem
  · rcases List.mem_cons.mp hmem with heq | hrest
    · exact ⟨rest, by rw [heq]⟩
    · rw [List.map_cons, List.pairwise_cons] at hascending
      have hlt : first.1 < "" := hascending.1 "" (List.mem_map_of_mem hrest)
      exact absurd hlt (List.not_lt_nil first.1.toList)

/-- A map whose values are changed has under each name the changed value. -/
theorem get?_mapValues_eq_some {β : Type} (m : NameMap α) (f : String → α → β) {k : String} {w : β} :
    (m.mapValues f).get? k = some w ↔ ∃ v, m.get? k = some v ∧ f k v = w := by
  rw [← mem_entries_iff]
  unfold mapValues
  simp only [List.mem_map, Prod.mk.injEq]
  constructor
  · rintro ⟨⟨l, v⟩, hmem, rfl, rfl⟩
    exact ⟨v, (mem_entries_iff m).mp hmem, rfl⟩
  · rintro ⟨v, hget, rfl⟩
    exact ⟨(k, v), (mem_entries_iff m).mpr hget, rfl, rfl⟩

/-! ## Maps with the same entries -/

/-- Maps in which the same is found under every name are equal, since names ascend in both. -/
theorem eq_of_get? {m other : NameMap α} (h : ∀ x, m.get? x = other.get? x) : m = other := by
  have hmem : ∀ e, e ∈ m.entries ↔ e ∈ other.entries := by
    rintro ⟨k, v⟩
    rw [mem_entries_iff, mem_entries_iff, h]
  have hascending : ∀ n : NameMap α, n.entries.Pairwise fun a b => a.1 < b.1 := fun n =>
    List.pairwise_map.mp n.ascending
  have hnodup : ∀ n : NameMap α, n.entries.Nodup := by
    intro n
    apply (hascending n).imp
    rintro a b hlt rfl
    exact String.lt_irrefl a.1 hlt
  have hperm : m.entries.Perm other.entries :=
    (List.perm_ext_iff_of_nodup (hnodup m) (hnodup other)).mpr hmem
  apply eq_of_entries
  exact hperm.eq_of_pairwise (fun a b _ _ hab hba => absurd hab (String.lt_asymm hba))
    (hascending m) (hascending other)

/-- The entries of a union are those that are added one after the other, also where nothing has to be
copied. -/
theorem union_eq_insertAllNew (m other : NameMap α) : m.union other = m.insertAllNew other.entries := by
  apply eq_of_get?
  intro x
  rw [get?_union, get?_insertAllNew]
  rfl

@[simp] theorem union_empty (m : NameMap α) : m.union .empty = m := rfl

@[simp] theorem empty_union (m : NameMap α) : NameMap.empty.union m = m := by
  apply eq_of_get?
  intro x
  rw [get?_union]
  exact Option.none_or

theorem union_assoc (m other third : NameMap α) :
    (m.union other).union third = m.union (other.union third) := by
  apply eq_of_get?
  intro x
  rw [get?_union, get?_union, get?_union, get?_union, Option.or_assoc]

end GatewayProvisioning.NameMap
