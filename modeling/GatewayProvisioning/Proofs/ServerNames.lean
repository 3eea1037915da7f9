import Mathlib.Data.List.Perm.Basic
import GatewayProvisioning.Gateway.Certificate
import GatewayProvisioning.Proofs.EntryByEntry

/-!
# The names of a certificate

A certificate is for the builtin names and those of a list, each of them once and where it stands
first. Names that are listed again add nothing, and a longer list adds its new names at the end.
-/

namespace GatewayProvisioning

namespace Text

variable {α : Type} [DecidableEq α]

/-! ## Where members stand first -/

/-- The members of one list, in the order in which they stand first in another. -/
structure InFirstOrder (xs ys : List α) : Prop where
  mem_iff : ∀ x, x ∈ ys ↔ x ∈ xs
  ascending : ys.Pairwise fun x y => xs.idxOf x < xs.idxOf y

theorem InFirstOrder.nodup {xs ys : List α} (h : InFirstOrder xs ys) : ys.Nodup :=
  h.ascending.imp fun hlt heq => absurd (heq ▸ hlt) (Nat.lt_irrefl _)

/-- There is one such list only. -/
theorem InFirstOrder.unique {xs ys zs : List α} (hy : InFirstOrder xs ys) (hz : InFirstOrder xs zs) :
    ys = zs := by
  have hperm : ys.Perm zs :=
    (List.perm_ext_iff_of_nodup hy.nodup hz.nodup).mpr fun x => (hy.mem_iff x).trans (hz.mem_iff x).symm
  exact hperm.eq_of_pairwise (fun x y _ _ hxy hyx => absurd hxy (Nat.lt_asymm hyx)) hy.ascending
    hz.ascending

theorem mem_firstOccurrences {seen xs : List α} {x : α} :
    x ∈ firstOccurrences seen xs ↔ x ∈ xs ∧ x ∉ seen := by
  induction xs generalizing seen with
  | nil => simp [firstOccurrences]
  | cons y xs ih =>
    unfold firstOccurrences
    split
    · rename_i hseen
      rw [ih, List.mem_cons]
      constructor
      · exact fun ⟨hx, hnew⟩ => ⟨.inr hx, hnew⟩
      · rintro ⟨rfl | hx, hnew⟩
        · exact absurd hseen hnew
        · exact ⟨hx, hnew⟩
    · rename_i hnew
      rw [List.mem_cons, ih, List.mem_cons, List.mem_cons, not_or]
      constructor
      · rintro (rfl | ⟨hx, -, hx'⟩)
        · exact ⟨.inl rfl, hnew⟩
        · exact ⟨.inr hx, hx'⟩
      · rintro ⟨rfl | hx, hx'⟩
        · exact .inl rfl
        · exact (Decidable.em (x = y)).imp id fun hne => ⟨hx, hne, hx'⟩

/-- Only the members that have been seen decide what is left out. -/
theorem firstOccurrences_congr {seen seen' : List α} (h : ∀ x, x ∈ seen ↔ x ∈ seen') (xs : List α) :
    firstOccurrences seen xs = firstOccurrences seen' xs := by
  induction xs generalizing seen seen' with
  | nil => rfl
  | cons x xs ih =>
    have hcons : ∀ y, y ∈ x :: seen ↔ y ∈ x :: seen' := fun y => by
      rw [List.mem_cons, List.mem_cons, h]
    simp only [firstOccurrences, h x, ih h, ih hcons]

theorem firstOccurrences_append (seen xs ys : List α) :
    firstOccurrences seen (xs ++ ys) =
      firstOccurrences seen xs ++ firstOccurrences (xs ++ seen) ys := by
  induction xs generalizing seen with
  | nil => rfl
  | cons x xs ih =>
    rw [List.cons_append, firstOccurrences, firstOccurrences]
    split
    · rename_i hseen
      have hsame : ∀ y, y ∈ xs ++ seen ↔ y ∈ x :: xs ++ seen := by
        intro y
        rw [List.cons_append, List.mem_cons]
        refine ⟨.inr, ?_⟩
        rintro (rfl | hy)
        · exact List.mem_append_right _ hseen
        · exact hy
      rw [ih, firstOccurrences_congr hsame]
    · have hsame : ∀ y, y ∈ xs ++ x :: seen ↔ y ∈ x :: xs ++ seen := by
        intro y
        simp only [List.mem_append, List.mem_cons, List.cons_append, or_left_comm]
      rw [ih, firstOccurrences_congr hsame]
      rfl

/-- What has been seen might as well be taken out beforehand. -/
theorem firstOccurrences_filter (seen before xs : List α) :
    firstOccurrences (before ++ seen) xs = firstOccurrences before (xs.filter (· ∉ seen)) := by
  induction xs generalizing before with
  | nil => rfl
  | cons x xs ih =>
    by_cases hseen : x ∈ seen
    · rw [List.filter_cons_of_neg (by simpa using hseen), firstOccurrences,
        if_pos (List.mem_append_right _ hseen), ih]
    · have hcons := ih (x :: before)
      rw [List.cons_append] at hcons
      rw [List.filter_cons_of_pos (by simpa using hseen)]
      simp only [firstOccurrences, List.mem_append, or_iff_left hseen, ih, hcons]

/-- The induction goes on behind a first member, which moves every other place by one. -/
theorem inFirstOrder_firstOccurrences (xs : List α) : InFirstOrder xs (firstOccurrences [] xs) := by
  refine ⟨fun x => by simp [mem_firstOccurrences], ?_⟩
  generalize ([] : List α) = seen
  induction xs generalizing seen with
  | nil => exact .nil
  | cons x xs ih =>
    have hlater : ∀ seen' : List α, x ∈ seen' →
        (firstOccurrences seen' xs).Pairwise
          fun y z => (x :: xs).idxOf y < (x :: xs).idxOf z := by
      intro seen' hx
      refine (ih seen').imp_of_mem fun {y z} hy hz hlt => ?_
      have hne : ∀ w ∈ firstOccurrences seen' xs, x ≠ w := by
        rintro w hw rfl
        exact (mem_firstOccurrences.mp hw).2 hx
      rw [List.idxOf_cons_ne _ (hne y hy), List.idxOf_cons_ne _ (hne z hz)]
      exact Nat.succ_lt_succ hlt
    unfold firstOccurrences
    split
    · exact hlater seen ‹_›
    · refine .cons ?_ (hlater (x :: seen) List.mem_cons_self)
      intro y hy
      have hne : x ≠ y := by
        rintro rfl
        exact (mem_firstOccurrences.mp hy).2 List.mem_cons_self
      rw [List.idxOf_cons_self, List.idxOf_cons_ne _ hne]
      exact Nat.succ_pos _

/-- What comes after other members is left out where it repeats them. -/
theorem inFirstOrder_filter (seen xs : List α) :
    InFirstOrder (xs.filter (· ∉ seen)) (firstOccurrences seen xs) := by
  have hfilter := firstOccurrences_filter seen [] xs
  rw [List.nil_append] at hfilter
  rw [hfilter]
  exact inFirstOrder_firstOccurrences _

theorem firstOccurrences_of_subset {seen xs : List α} (h : xs ⊆ seen) :
    firstOccurrences seen xs = [] := by
  rw [List.eq_nil_iff_forall_not_mem]
  intro x hx
  obtain ⟨hmem, hnew⟩ := mem_firstOccurrences.mp hx
  exact hnew (h hmem)

theorem firstOccurrences_of_nodup {xs : List α} (h : xs.Nodup) {seen : List α}
    (hseen : ∀ x ∈ xs, x ∉ seen) : firstOccurrences seen xs = xs := by
  induction xs generalizing seen with
  | nil => rfl
  | cons x xs ih =>
    obtain ⟨hx, hxs⟩ := List.nodup_cons.mp h
    rw [firstOccurrences, if_neg (hseen x List.mem_cons_self), ih hxs]
    intro y hy
    rw [List.mem_cons, not_or]
    exact ⟨fun heq => hx (heq ▸ hy), hseen y (List.mem_cons_of_mem x hy)⟩

theorem inFirstOrder_mergeUnique (base extra : List String) :
    InFirstOrder (base ++ extra) (mergeUnique base extra) :=
  inFirstOrder_firstOccurrences _

theorem mergeUnique_append (base first second : List String) :
    mergeUnique base (first ++ second) =
      mergeUnique base first ++ firstOccurrences (mergeUnique base first) second := by
  have hsame : ∀ x, x ∈ base ++ first ++ [] ↔ x ∈ mergeUnique base first := fun x => by
    rw [List.append_nil, (inFirstOrder_mergeUnique base first).mem_iff]
  unfold mergeUnique at hsame ⊢
  rw [← List.append_assoc, firstOccurrences_append, firstOccurrences_congr hsame]

/-! ## The items of a list -/

theorem mem_commaItems {name list : String} :
    name ∈ commaItems list ↔
      name ≠ "" ∧ ∃ part ∈ splitWhere (· == ',') list.toList, trim (String.ofList part) = name := by
  unfold commaItems trim
  simp only [List.mem_filterMap, List.mem_map, String.toList_ofList]
  constructor
  · rintro ⟨item, ⟨part, hpart, rfl⟩, hitem⟩
    split at hitem
    · cases hitem
    · rename_i hne
      cases hitem
      refine ⟨fun hempty => hne ?_, part, hpart, rfl⟩
      rw [List.isEmpty_iff]
      simpa using hempty
  · rintro ⟨hne, part, hpart, rfl⟩
    refine ⟨_, ⟨part, hpart, rfl⟩, if_neg fun hempty => hne ?_⟩
    rw [List.isEmpty_iff.mp hempty]

/-- No part between two marks holds one. -/
theorem not_mark_of_mem_splitWhere {β : Type} {p : β → Bool} {xs part : List β}
    (hpart : part ∈ splitWhere p xs) : ∀ x ∈ part, p x = false := by
  induction xs generalizing part with
  | nil =>
    rw [splitWhere, List.mem_singleton] at hpart
    simp [hpart]
  | cons y xs ih =>
    rw [splitWhere] at hpart
    by_cases hy : p y = true
    · rw [if_pos hy] at hpart
      rcases List.mem_cons.mp hpart with rfl | hpart
      · simp
      · exact ih hpart
    · rw [if_neg hy] at hpart
      rcases hparts : splitWhere p xs with _ | ⟨first, parts⟩
      · exact absurd hparts (splitWhere_ne_nil xs)
      · rw [hparts] at hpart ih
        rcases List.mem_cons.mp hpart with rfl | hpart
        · rw [List.forall_mem_cons]
          exact ⟨Bool.eq_false_iff.mpr hy, ih List.mem_cons_self⟩
        · exact ih (List.mem_cons_of_mem first hpart)

/-- An item of a list stands by itself: it has neither commas nor blanks around it. -/
theorem commaItems_of_mem {name list : String} (h : name ∈ commaItems list) :
    commaItems name = [name] := by
  obtain ⟨hne, part, hpart, rfl⟩ := mem_commaItems.mp h
  unfold trim at hne ⊢
  rw [String.toList_ofList] at hne ⊢
  refine RouteList.commaItems_single (by simpa using hne) ?_ (dropBothWhile_dropBothWhile part)
  intro c hc
  exact not_mark_of_mem_splitWhere hpart c (dropBothWhile_subset _ hc)

end Text

open Text

theorem nodup_builtinServerNames : builtinServerNames.Nodup := by decide

/-- The builtin names come first, and what follows them is new. -/
theorem serverNames_eq (extra : String) :
    serverNames extra =
      builtinServerNames ++ firstOccurrences builtinServerNames (commaItems extra) := by
  unfold serverNames mergeUnique
  rw [firstOccurrences_append, firstOccurrences_of_nodup nodup_builtinServerNames (by simp),
    List.append_nil]

/-- Each name stands by itself in a list. -/
theorem commaItems_serverName {name extra : String} (h : name ∈ serverNames extra) :
    commaItems name = [name] := by
  rw [serverNames_eq, List.mem_append] at h
  rcases h with hbuiltin | hextra
  · have hall : ∀ name ∈ builtinServerNames, commaItems name = [name] := by decide
    exact hall name hbuiltin
  · exact commaItems_of_mem (mem_firstOccurrences.mp hextra).1

theorem commaItems_serverNames (extra : String) :
    commaItems (",".intercalate (serverNames extra)) = serverNames extra := by
  rw [commaItems_intercalate]
  have hsingle : ∀ name ∈ serverNames extra, commaItems name = [name] :=
    fun _ => commaItems_serverName
  generalize serverNames extra = names at hsingle
  induction names with
  | nil => rfl
  | cons name names ih =>
    obtain ⟨hname, hnames⟩ := List.forall_mem_cons.mp hsingle
    rw [List.flatMap_cons, hname, ih hnames]
    rfl

/-- The names of a certificate, listed once more, are the same names. -/
theorem serverNames_again (extra : String) :
    serverNames (",".intercalate (serverNames extra)) = serverNames extra := by
  have hnodup : (serverNames extra).Nodup := (inFirstOrder_mergeUnique _ _).nodup
  rw [serverNames_eq, commaItems_serverNames, serverNames_eq extra]
  rw [serverNames_eq, List.nodup_append] at hnodup
  obtain ⟨-, hrest, hdisjoint⟩ := hnodup
  rw [firstOccurrences_append, firstOccurrences_of_subset (List.Subset.refl _), List.nil_append,
    firstOccurrences_of_nodup hrest]
  intro name hname hseen
  rw [List.mem_append, or_self] at hseen
  exact hdisjoint name hseen name hname rfl

/-- A merged list is that of the members of both lists, each kept where it stands first, and no other
list is. So the names of a certificate are the builtin ones and then those of the list, trimmed and
not empty, each once and where it stands first. Listed once more they are the same, and what follows a
comma adds the names that are new, where they stand first. -/
theorem serverNames_in_first_order :
    (∀ base extra names, InFirstOrder (base ++ extra) names ↔ names = mergeUnique base extra) ∧
    (∀ extra,
      (∃ more, serverNames extra = "localhost" :: "kong" :: more) ∧
      (serverNames extra).Nodup ∧
      (∀ name, name ∈ serverNames extra ↔ name = "localhost" ∨ name = "kong" ∨
        name ≠ "" ∧
          ∃ part ∈ splitWhere (· == ',') extra.toList, trim (String.ofList part) = name) ∧
      InFirstOrder (["localhost", "kong"] ++ commaItems extra) (serverNames extra) ∧
      serverNames (",".intercalate (serverNames extra)) = serverNames extra) ∧
    ∀ a b, ∃ more, serverNames (a ++ "," ++ b) = serverNames a ++ more ∧
      InFirstOrder ((commaItems b).filter (· ∉ serverNames a)) more := by
  refine ⟨fun base extra names => ⟨fun h => h.unique (inFirstOrder_mergeUnique base extra), ?_⟩,
    fun extra => ⟨⟨_, serverNames_eq extra⟩, ?_, fun name => ?_, ?_, serverNames_again extra⟩,
    fun a b => ⟨_, ?_, inFirstOrder_filter _ _⟩⟩
  · rintro rfl
    exact inFirstOrder_mergeUnique base extra
  · exact (inFirstOrder_mergeUnique _ _).nodup
  · rw [← mem_commaItems, serverNames, (inFirstOrder_mergeUnique _ _).mem_iff, List.mem_append,
      builtinServerNames]
    simp [or_assoc]
  · exact inFirstOrder_mergeUnique _ _
  · unfold serverNames
    rw [commaItems_comma, mergeUnique_append]

/-- Repeated names, blanks and a builtin name among those that are listed. -/
example : serverNames " edge , kong,a,,edge,a " = ["localhost", "kong", "edge", "a"] := by
  decide +kernel

end GatewayProvisioning
