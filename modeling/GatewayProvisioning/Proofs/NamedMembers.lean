import GatewayProvisioning.Proofs.JsonSpelling
import GatewayProvisioning.Proofs.Lossless
import GatewayProvisioning.Proofs.Results

/-!
# Members by their names

What is read from a record depends on the values that stand under each name and on nothing else. A
field takes the one value under its name, or falls back if there is none. A record that gives a field
several values, none that it must have, or one that it does not take is not read.
-/

namespace GatewayProvisioning

namespace Json

open Document

/-- The values that a record has under a name. -/
def valuesOf (name : String) (fields : List (String × Json)) : List Json :=
  (fields.filter (·.1 = name)).map (·.2)

/-- A record has one member of a name, wherever it stands. -/
def HasOnce (name : String) (v : Json) (fields : List (String × Json)) : Prop :=
  ∃ before after, fields = before ++ (name, v) :: after ∧
    ∀ field ∈ before ++ after, field.1 ≠ name

theorem HasOnce.valuesOf {name : String} {v : Json} {fields : List (String × Json)}
    (h : HasOnce name v fields) : valuesOf name fields = [v] := by
  obtain ⟨before, after, rfl, hothers⟩ := h
  obtain ⟨hbefore, hafter⟩ := List.forall_mem_append.mp hothers
  unfold Json.valuesOf
  rw [List.filter_append, List.filter_cons_of_pos (by simp),
    List.filter_eq_nil_iff.mpr fun field hfield => by simpa using hbefore field hfield,
    List.filter_eq_nil_iff.mpr fun field hfield => by simpa using hafter field hfield]
  rfl

theorem Means.readText {s : String} {node : Node} (h : Means (.text s) node) (expected : String) :
    node.readText expected = .ok s := by
  cases h with
  | text whole told => exact told

end Json

namespace Document

open Json (Means MeansEach MeansFields)

/-- The values that stand under a name in a record of a document. -/
def valuesOf (name : String) (pairs : List (Node × Node)) : List Node :=
  (pairs.filter fun pair => (pair.1.readText "field identifier").toOption = some name).map (·.2)

variable {k v : Node} {key name : String} {pairs : List (Node × Node)}

theorem valuesOf_cons_self (hkey : k.readText "field identifier" = .ok name) :
    valuesOf name ((k, v) :: pairs) = v :: valuesOf name pairs := by
  unfold valuesOf
  rw [List.filter_cons_of_pos (by simp [hkey, Except.toOption]), List.map_cons]

theorem valuesOf_cons_other (hkey : k.readText "field identifier" = .ok key) (hne : key ≠ name) :
    valuesOf name ((k, v) :: pairs) = valuesOf name pairs := by
  unfold valuesOf
  rw [List.filter_cons_of_neg (by simpa [hkey, Except.toOption] using hne)]

/-- The nodes under a name mean the values under it. -/
theorem meansEach_valuesOf {fields : List (String × Json)} (h : MeansFields fields pairs)
    (name : String) : MeansEach (Json.valuesOf name fields) (valuesOf name pairs) := by
  induction fields generalizing pairs with
  | nil =>
    cases h
    exact .nil
  | cons field fields ih =>
    cases h with
    | @cons key value _ _ _ _ hname hvalue hrest =>
      have hkey := hname.readText "field identifier"
      by_cases hsame : key = name
      · subst hsame
        rw [valuesOf_cons_self hkey, Json.valuesOf, List.filter_cons_of_pos (by simp), List.map_cons]
        exact .cons hvalue (ih hrest)
      · rw [valuesOf_cons_other hkey hsame, Json.valuesOf,
          List.filter_cons_of_neg (by simpa using hsame)]
        exact ih hrest

/-- The document of a record holds under each name what the record has under it. -/
theorem document_valuesOf {members : List (String × Json)} {text : String}
    (h : Json.IsTextOf (.record members) text) :
    ∃ pairs, Json.document text = ⟨.record pairs .closed none, false⟩ ∧
      ∀ name, MeansEach (Json.valuesOf name members) (valuesOf name pairs) := by
  obtain ⟨node, hdocument, hmeans⟩ := h.document
  cases hmeans with
  | record hmembers => exact ⟨_, hdocument, meansEach_valuesOf hmembers⟩

/-! ## What the fields take -/

section Fields

variable {α τ φ : Type}

/-- What a field makes of the values under its name: it takes the only one, or falls back if there is
none. -/
def Field.Takes (field : Field α) (values : List Node) (x : α) : Prop :=
  (∃ v, values = [v] ∧ field.codec.read v = .ok x) ∨ (values = [] ∧ field.fallback = some x)

/-- The same while a record is read: a field that has been found takes nothing more. -/
def Field.Awaits (field : Field α) : Option α → List Node → α → Prop
  | some y, values, x => values = [] ∧ y = x
  | none, values, x => field.Takes values x

/-- Whatever node means a value, a codec reads it as `x`. -/
def Codec.Understands (codec : Codec α) (value : Json) (x : α) : Prop :=
  ∀ node, Means value node → codec.read node = .ok x

/-- What members say about a field: the only value of its name, or nothing if it has a fallback. -/
def Field.Told (field : Field α) (members : List (String × Json)) (x : α) : Prop :=
  (∃ value, Json.valuesOf field.name members = [value] ∧ field.codec.Understands value x) ∨
    (Json.valuesOf field.name members = [] ∧ field.fallback = some x)

theorem Field.Told.takes {field : Field α} {members : List (String × Json)} {x : α}
    (h : field.Told members x) (hmeans : MeansFields members pairs) :
    field.Takes (valuesOf field.name pairs) x := by
  have heach := meansEach_valuesOf hmeans field.name
  generalize valuesOf field.name pairs = nodes at heach ⊢
  rcases h with ⟨value, hvalue, hread⟩ | ⟨hmissing, hfallback⟩
  · rw [hvalue] at heach
    obtain ⟨⟩ | ⟨hmember, ⟨⟩⟩ := heach
    exact .inl ⟨_, rfl, hread _ hmember⟩
  · rw [hmissing] at heach
    cases heach
    exact .inr ⟨rfl, hfallback⟩

namespace Fields

/-- What fields of which some have been found make of the members that are still to come. -/
def Awaits : {τ φ : Type} → Fields τ φ → φ → τ → List (Node × Node) → Prop
  | _, _, .none, _, _, _ => True
  | _, _, .field first rest, (slot, found), (x, xs), pairs =>
    first.Awaits slot (valuesOf first.name pairs) x ∧ rest.Awaits found xs pairs

/-- At the end of a record every field has been found or falls back. -/
theorem finish_eq_ok_iff (fields : Fields τ φ) (found : φ) (xs : τ) :
    fields.finish found = .ok xs ↔ fields.Awaits found xs [] := by
  induction fields with
  | none => exact ⟨fun _ => trivial, fun _ => rfl⟩
  | field first rest ih =>
    obtain ⟨slot, found⟩ := found
    obtain ⟨x, xs⟩ := xs
    have hsettled : ∀ y, (slot <|> first.fallback) = some y →
        ((field first rest).finish (slot, found) = .ok (x, xs) ↔
          y = x ∧ rest.finish found = .ok xs) := by
      intro y hy
      simp only [finish, hy]
      rcases rest.finish found with e | ys <;> simp [bind, Except.bind, pure, Except.pure]
    rw [Awaits, ← ih found xs]
    rcases slot with _ | y
    · rcases hfallback : first.fallback with _ | y
      · simp [finish, hfallback, Field.Awaits, Field.Takes, valuesOf]
      · rw [hsettled y (by simp [hfallback])]
        simp [hfallback, Field.Awaits, Field.Takes, valuesOf]
    · rw [hsettled y rfl]
      simp [Field.Awaits, valuesOf]

/-- A member of a name that no field has leaves all of them as they are. -/
theorem awaits_other (fields : Fields τ φ) (hkey : k.readText "field identifier" = .ok key)
    (hnew : key ∉ fields.names) (found : φ) (xs : τ) :
    fields.accept key v found = .ok Option.none ∧
      (fields.Awaits found xs ((k, v) :: pairs) ↔ fields.Awaits found xs pairs) := by
  induction fields with
  | none => exact ⟨rfl, Iff.rfl⟩
  | field first rest ih =>
    obtain ⟨slot, found⟩ := found
    obtain ⟨x, xs⟩ := xs
    rw [names, List.mem_cons, not_or] at hnew
    obtain ⟨haccept, hawaits⟩ := ih hnew.2 found xs
    refine ⟨?_, ?_⟩
    · simp only [accept, if_neg hnew.1, haccept]
      rfl
    · rw [Awaits, Awaits, valuesOf_cons_other hkey hnew.1, hawaits]

/-- One member: its field takes it up, unless it has been found already or does not take the value. -/
theorem awaits_cons (fields : Fields τ φ) (hdistinct : fields.names.Nodup)
    (hkey : k.readText "field identifier" = .ok key) (found : φ) (xs : τ) :
    fields.Awaits found xs ((k, v) :: pairs) ↔
      ∃ next, fields.accept key v found = .ok next ∧ fields.Awaits (next.getD found) xs pairs := by
  induction fields with
  | none => exact ⟨fun _ => ⟨_, rfl, trivial⟩, fun _ => trivial⟩
  | field first rest ih =>
    obtain ⟨slot, found⟩ := found
    obtain ⟨x, xs⟩ := xs
    obtain ⟨hnew, hdistinct⟩ := List.nodup_cons.mp hdistinct
    by_cases hsame : key = first.name
    · subst hsame
      rw [Awaits, valuesOf_cons_self hkey, (rest.awaits_other hkey hnew found xs).2]
      simp only [accept, if_true]
      -- a field that has been found takes no second value
      rcases slot with _ | y
      · rcases hread : first.codec.read v with e | y
        · simp [Field.Awaits, Field.Takes, hread, bind, Except.bind]
        · simp [Field.Awaits, Field.Takes, hread, bind, Except.bind, pure, Except.pure, Awaits]
      · simp [Field.Awaits]
    · rw [Awaits, valuesOf_cons_other hkey hsame, ih hdistinct found xs]
      simp only [accept, if_neg hsame]
      rcases rest.accept key v found with e | _ | found'
      · simp [bind, Except.bind]
      · simp [bind, Except.bind, pure, Except.pure, Awaits]
      · simp [bind, Except.bind, pure, Except.pure, Awaits]

/-- Whatever has been read from a record of any document, each field has taken its value. -/
theorem awaits_of_readRecord {fields : Fields τ φ} (hdistinct : fields.names.Nodup) {ending : Ending}
    {badKey : Option Node} {found : φ} {xs : τ}
    (h : fields.readRecord ending badKey found pairs = .ok xs) : fields.Awaits found xs pairs := by
  induction pairs generalizing found with
  | nil =>
    obtain ⟨_, -, hfinish⟩ := exists_of_bind_eq_ok h
    exact (fields.finish_eq_ok_iff found xs).mp hfinish
  | cons pair pairs ih =>
    obtain ⟨k, v⟩ := pair
    obtain ⟨key, hkey, h⟩ := exists_of_bind_eq_ok h
    obtain ⟨next, haccept, h⟩ := exists_of_bind_eq_ok h
    rw [fields.awaits_cons hdistinct hkey]
    refine ⟨next, haccept, ?_⟩
    rcases next with _ | found'
    · obtain ⟨_, -, hrest⟩ := exists_of_bind_eq_ok h
      exact ih hrest
    · exact ih h

/-- A record of a document that means one is read if each field takes its value. -/
theorem readRecord_of_awaits {fields : Fields τ φ} (hdistinct : fields.names.Nodup)
    {members : List (String × Json)} (hmeans : MeansFields members pairs) {found : φ} {xs : τ}
    (h : fields.Awaits found xs pairs) :
    fields.readRecord .closed Option.none found pairs = .ok xs := by
  induction members generalizing pairs found with
  | nil =>
    cases hmeans
    exact (fields.finish_eq_ok_iff found xs).mpr h
  | cons member members ih =>
    cases hmeans with
    | cons hname hvalue hrest =>
      have hkey := hname.readText "field identifier"
      obtain ⟨next, haccept, h⟩ := (fields.awaits_cons hdistinct hkey found xs).mp h
      simp only [readRecord, hkey, haccept, bind, Except.bind]
      -- a member that no field asks for is passed over, whatever it holds
      rcases next with _ | found'
      · simp only [hvalue.skip]
        exact ih hrest h
      · exact ih hrest h

/-- What members say about the fields of a record type: the only value of each name, or nothing where
there is a fallback. -/
def Told : {τ φ : Type} → Fields τ φ → List (String × Json) → τ → Prop
  | _, _, .none, _, _ => True
  | _, _, .field first rest, members, (x, xs) => first.Told members x ∧ rest.Told members xs

theorem Told.awaits {fields : Fields τ φ} {members : List (String × Json)} {xs : τ}
    (h : fields.Told members xs) (hmeans : MeansFields members pairs) :
    fields.Awaits fields.start xs pairs := by
  induction fields with
  | none => exact trivial
  | field first rest ih =>
    obtain ⟨x, xs⟩ := xs
    exact ⟨h.1.takes hmeans, ih h.2⟩

end Fields

end Fields

/-! ## Values that are read -/

section Told

variable {α : Type} {codec : Codec α} {members : List (String × Json)} {value : Json} {x fallback : α}

theorem Field.told_required (h : Json.valuesOf name members = [value])
    (hread : codec.Understands value x) : (Field.required name codec).Told members x :=
  .inl ⟨value, h, hread⟩

theorem Field.told_defaulted
    (h : Json.valuesOf name members = [value] ∨
      (Json.valuesOf name members = [] ∧ x = fallback))
    (hread : codec.Understands value x) : (Field.defaulted name codec fallback).Told members x := by
  rcases h with h | ⟨hmissing, rfl⟩
  · exact .inl ⟨value, h, hread⟩
  · exact .inr ⟨hmissing, rfl⟩

end Told

namespace Codec

variable {α τ φ : Type} {codec : Codec α}

theorem understands_text (s : String) : text.Understands (.text s) s :=
  fun _ h => h.readText "a string"

theorem understands_uint64 (n : UInt64) : uint64.Understands (.nat n.toNat) n := by
  intro node h
  obtain ⟨⟩ := h
  have hread := readBounded_natural "u64" (show n.toNat < UInt64.size from n.toNat_lt) (by decide)
  change UInt64.ofNat <$> readBounded UInt64.size "u64" (.number _) = _
  rw [hread]
  exact congrArg Except.ok UInt64.ofNat_toNat

theorem understands_optionalText (s : Option String) :
    text.optional.Understands (Json.textOrNull s) s := by
  intro node h
  cases s with
  | none =>
    cases h
    rfl
  | some s =>
    have hread := h.readText "a string"
    cases h
    change some <$> Node.readText "a string" _ = _
    rw [hread]
    rfl

theorem readMembers_understood {values : List Json} {xs : List α} {nodes : List Node}
    (h : List.Forall₂ codec.Understands values xs) (hmeans : MeansEach values nodes) :
    readMembers codec .closed nodes = .ok xs := by
  induction h generalizing nodes with
  | nil =>
    cases hmeans
    rfl
  | cons hfirst _ ih =>
    cases hmeans with
    | cons hmember hrest =>
      rw [readMembers, hfirst _ hmember, ih hrest]
      rfl

theorem understands_list {values : List Json} {xs : List α}
    (h : List.Forall₂ codec.Understands values xs) : codec.list.Understands (.list values) xs := by
  intro node hmeans
  cases hmeans with
  | list hmembers => exact readMembers_understood h hmembers

/-- A record type understands members that tell each of its fields, in any order and among others. -/
theorem understands_record {fields : Fields τ φ} {title : String} {build : τ → α} {parts : α → τ}
    (hdistinct : fields.names.Nodup) {members : List (String × Json)} (xs : τ)
    (h : fields.Told members xs) :
    ((record title fields).along build parts).Understands (.record members) (build xs) := by
  intro node hmeans
  cases hmeans with
  | record hmembers =>
    have hread := Fields.readRecord_of_awaits hdistinct hmembers (h.awaits hmembers)
    change build <$> fields.readRecord .closed none fields.start _ = _
    rw [hread]
    rfl

end Codec

end Document

end GatewayProvisioning
