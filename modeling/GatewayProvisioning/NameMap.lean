/-!
Maps from names to values, kept in ascending order of names. The order is part of the type, so two
maps with the same entries are equal.
-/

namespace GatewayProvisioning

/-- A map from names to values. -/
structure NameMap (α : Type) where
  entries : List (String × α)
  ascending : (entries.map Prod.fst).Pairwise (· < ·)

namespace NameMap

variable {α β : Type}

/-- Puts an entry in its place; an entry of the same name gives way. -/
def put (k : String) (v : α) : List (String × α) → List (String × α)
  | [] => [(k, v)]
  | (l, w) :: rest =>
    if k < l then (k, v) :: (l, w) :: rest
    else if k = l then (k, v) :: rest
    else (l, w) :: put k v rest

theorem mem_keys_put {k x : String} {v : α} {es : List (String × α)} :
    x ∈ (put k v es).map Prod.fst ↔ x = k ∨ x ∈ es.map Prod.fst := by
  induction es with
  | nil => simp [put]
  | cons e rest ih =>
    obtain ⟨l, w⟩ := e
    simp only [put]
    split
    · simp
    · split
      · rename_i h
        simp [h]
      · simp only [List.map_cons, List.mem_cons, ih]
        grind

theorem ascending_put {k : String} {v : α} {es : List (String × α)}
    (h : (es.map Prod.fst).Pairwise (· < ·)) : ((put k v es).map Prod.fst).Pairwise (· < ·) := by
  induction es with
  | nil => simp [put]
  | cons e rest ih =>
    obtain ⟨l, w⟩ := e
    simp only [List.map_cons, List.pairwise_cons] at h
    simp only [put]
    split
    · rename_i hkl
      simp only [List.map_cons, List.pairwise_cons, List.mem_cons, forall_eq_or_imp]
      exact ⟨⟨hkl, fun x hx => String.lt_trans hkl (h.1 x hx)⟩, h.1, h.2⟩
    · split
      · rename_i hkl
        subst hkl
        simpa only [List.map_cons, List.pairwise_cons] using h
      · rename_i hkl hne
        simp only [List.map_cons, List.pairwise_cons]
        refine ⟨fun x hx => ?_, ih h.2⟩
        rcases mem_keys_put.1 hx with rfl | hx
        · rcases String.le_total l x with hle | hle
          · exact Std.lt_of_le_of_ne hle (Ne.symm hne)
          · exact absurd (Std.lt_of_le_of_ne hle hne) hkl
        · exact h.1 x hx

/-- The map without entries. -/
def empty : NameMap α where
  entries := []
  ascending := List.Pairwise.nil

/-- Adds an entry; an entry of the same name gives way. -/
def insert (m : NameMap α) (k : String) (v : α) : NameMap α where
  entries := put k v m.entries
  ascending := ascending_put m.ascending

/-- The value of a name. -/
def get? (m : NameMap α) (k : String) : Option α :=
  m.entries.lookup k

/-- Adds an entry unless its name is taken. -/
def insertNew (m : NameMap α) (k : String) (v : α) : NameMap α :=
  if (m.get? k).isSome then m else m.insert k v

/-- Adds entries, one after the other, whose names are not taken. -/
def insertAllNew (m : NameMap α) (es : List (String × α)) : NameMap α :=
  es.foldl (fun m e => m.insertNew e.1 e.2) m

/-- The entries of both maps; where they share a name, that of the first. Nothing is copied when one
of them is empty. -/
def union (m other : NameMap α) : NameMap α :=
  if other.entries.isEmpty then m
  else if m.entries.isEmpty then other
  else m.insertAllNew other.entries

/-- The map whose values are changed by a function of name and value. -/
def mapValues (m : NameMap α) (f : String → α → β) : NameMap β where
  entries := m.entries.map fun (k, v) => (k, f k v)
  ascending := by
    have : (m.entries.map fun (k, v) => (k, f k v)).map Prod.fst = m.entries.map Prod.fst := by
      simp [Function.comp_def]
    exact this ▸ m.ascending

end NameMap

end GatewayProvisioning
