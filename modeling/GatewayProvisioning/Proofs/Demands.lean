import GatewayProvisioning.Proofs.NamedMembers

/-!
# What record types ask of their members

A field demands of the member of its name that it be there once, unless it may be missing, and that it
be of the kind of the field. A record that breaks a demand is not read, whatever else it holds and
whether or not the text goes on as it should.
-/

namespace GatewayProvisioning.Document

variable {pairs : List (Node × Node)}

/-! ## Demands -/

/-- The kinds of JSON values; a number with a fraction or an exponent is a kind of its own. -/
inductive ValueKind where
  | null
  | flag
  | whole
  | float
  | text
  | list
  | record
  deriving DecidableEq

/-- The kind of a value in a JSON document. -/
def Node.kind? : Node → Option ValueKind
  | .null => some .null
  | .flag _ => some .flag
  | .number n => some (if n.fraction.isSome || n.exponent.isSome then .float else .whole)
  | .text _ => some .text
  | .list .. => some .list
  | .record .. => some .record
  | _ => none

/-- A value of another kind than the given ones. -/
def Node.OtherThan (kinds : List ValueKind) (v : Node) : Prop :=
  ∃ kind, v.kind? = some kind ∧ kind ∉ kinds

/-- What a record type asks of one of its members: whether it must be there, and what it refuses. -/
structure Demand where
  name : String
  required : Bool
  refuses : Node → Prop

/-- The demand of a text. -/
def Demand.text (name : String) (required : Bool) : Demand :=
  ⟨name, required, Node.OtherThan [.text]⟩

/-- A record breaks a demand if the member is missing and must not be, if it stands there twice, or if
a value of it is refused. -/
def Demand.Broken (demand : Demand) (pairs : List (Node × Node)) : Prop :=
  (demand.required = true ∧ valuesOf demand.name pairs = []) ∨
    2 ≤ (valuesOf demand.name pairs).length ∨
    ∃ v ∈ valuesOf demand.name pairs, demand.refuses v

/-- A record that breaks one of several demands. -/
def Node.Breaks (demands : List Demand) (v : Node) : Prop :=
  ∃ pairs ending badKey, v = .record pairs ending badKey ∧ ∃ demand ∈ demands, demand.Broken pairs

/-- A codec that makes nothing of a value. -/
def Codec.Refuses {α : Type} (codec : Codec α) (v : Node) : Prop :=
  ∃ e, codec.read v = .error e

/-- A field that makes a demand. -/
structure Field.Makes {α : Type} (field : Field α) (demand : Demand) : Prop where
  name : field.name = demand.name
  required : demand.required = true → field.fallback = none
  refuses : ∀ v, demand.refuses v → field.codec.Refuses v

/-- A field takes nothing from a record that breaks its demand. -/
theorem Field.Makes.not_broken {α : Type} {field : Field α} {demand : Demand} {x : α}
    (h : field.Makes demand) (htakes : field.Takes (valuesOf field.name pairs) x) :
    ¬demand.Broken pairs := by
  unfold Demand.Broken
  rw [← h.name]
  rintro (⟨hrequired, hmissing⟩ | htwice | ⟨v, hv, hrefused⟩)
  · rcases htakes with ⟨v, hvalue, -⟩ | ⟨-, hfallback⟩
    · rw [hvalue] at hmissing
      cases hmissing
    · rw [h.required hrequired] at hfallback
      cases hfallback
  · rcases htakes with ⟨v, hvalue, -⟩ | ⟨hmissing, -⟩
    · simp [hvalue] at htwice
    · simp [hmissing] at htwice
  · obtain ⟨e, hread⟩ := h.refuses v hrefused
    rcases htakes with ⟨w, hvalue, htaken⟩ | ⟨hmissing, -⟩
    · rw [hvalue, List.mem_singleton] at hv
      rw [← hv, hread] at htaken
      cases htaken
    · rw [hmissing] at hv
      cases hv

namespace Fields

variable {τ φ : Type}

/-- Fields that make demands, each its own. -/
def Make : {τ φ : Type} → Fields τ φ → List Demand → Prop
  | _, _, .none, demands => demands = []
  | _, _, .field _ _, [] => False
  | _, _, .field first rest, demand :: demands => first.Makes demand ∧ rest.Make demands

theorem Make.not_broken {fields : Fields τ φ} {demands : List Demand} (h : fields.Make demands)
    {xs : τ} (hawaits : fields.Awaits fields.start xs pairs) :
    ∀ demand ∈ demands, ¬demand.Broken pairs := by
  induction fields generalizing demands with
  | none =>
    cases h
    simp
  | field first rest ih =>
    obtain ⟨x, xs⟩ := xs
    cases demands with
    | nil => exact h.elim
    | cons demand demands =>
      exact List.forall_mem_cons.mpr ⟨h.1.not_broken hawaits.1, ih h.2 hawaits.2⟩

end Fields

namespace Codec

variable {α τ φ : Type} {codec : Codec α} {v : Node}

theorem refuses_text (h : v.OtherThan [.text]) : text.Refuses v := by
  obtain ⟨kind, hkind, hother⟩ := h
  cases v with
  | null | flag | number | list | record => exact ⟨_, rfl⟩
  | text =>
    cases hkind
    simp at hother
  | plain | tagged | gap => cases hkind

theorem readNumber_float {n : Decimal.Numeral}
    (h : (n.fraction.isSome || n.exponent.isSome) = true) {number : Decimal.Number}
    (hread : readNumber n = .ok number) : ∃ x, number = .float x := by
  have hwhole : (n.fraction.isNone && n.exponent.isNone) = false := by
    revert h
    cases n.fraction <;> cases n.exponent <;> simp
  unfold readNumber at hread
  -- neither kind of whole number has a fraction or an exponent
  simp only [Decimal.Numeral.number?, hwhole, Bool.false_and, Bool.false_eq_true, if_false] at hread
  split at hread
  · cases hread
  · cases hread
  · cases hfloat : n.float? with
    | none =>
      rw [hfloat] at hread
      cases hread
    | some x =>
      rw [hfloat] at hread
      cases hread
      exact ⟨x, rfl⟩

theorem refuses_uint64 (h : v.OtherThan [.whole]) : uint64.Refuses v := by
  obtain ⟨kind, hkind, hother⟩ := h
  cases v with
  | null | flag | text | list | record => exact ⟨_, rfl⟩
  | number n =>
    cases hkind
    by_cases hfloat : (n.fraction.isSome || n.exponent.isSome) = true
    · rcases hread : readNumber n with e | number
      · refine ⟨e, ?_⟩
        change UInt64.ofNat <$> readBounded UInt64.size "u64" (.number n) = _
        rw [readBounded, hread]
        rfl
      · obtain ⟨x, rfl⟩ := readNumber_float hfloat hread
        refine ⟨.wrongType (.number (.float x)) "u64", ?_⟩
        change UInt64.ofNat <$> readBounded UInt64.size "u64" (.number n) = _
        rw [readBounded, hread]
        rfl
    · simp [hfloat] at hother
  | plain | tagged | gap => cases hkind

theorem refuses_optionalText (h : v.OtherThan [.null, .text]) : text.optional.Refuses v := by
  obtain ⟨kind, hkind, hother⟩ := h
  cases v with
  | flag | number | list | record => exact ⟨_, rfl⟩
  | null | text =>
    cases hkind
    simp at hother
  | plain | tagged | gap => cases hkind

theorem refuses_list (h : v.OtherThan [.list]) : codec.list.Refuses v := by
  obtain ⟨kind, hkind, hother⟩ := h
  cases v with
  | null | flag | number | text | record => exact ⟨_, rfl⟩
  | list =>
    cases hkind
    simp at hother
  | plain | tagged | gap => cases hkind

theorem readMembers_refused {rows : List Node} (ending : Ending)
    (h : ∃ row ∈ rows, codec.Refuses row) : ∃ e, readMembers codec ending rows = .error e := by
  induction rows with
  | nil => simp at h
  | cons row rows ih =>
    rcases hread : codec.read row with e | x
    · refine ⟨e, ?_⟩
      rw [readMembers, hread]
      rfl
    · obtain ⟨other, hother, e, hrefused⟩ := h
      rcases List.mem_cons.mp hother with rfl | hother
      · rw [hread] at hrefused
        cases hrefused
      · obtain ⟨e, hrefused⟩ := ih ⟨other, hother, e, hrefused⟩
        refine ⟨e, ?_⟩
        rw [readMembers, hread, hrefused]
        rfl

/-- A record type makes nothing of a record that breaks a demand of one of its fields. -/
theorem refuses_record {fields : Fields τ φ} {title : String} {build : τ → α} {parts : α → τ}
    (hdistinct : fields.names.Nodup) {demands : List Demand} (h : v.Breaks demands)
    (hmake : fields.Make demands) : ((record title fields).along build parts).Refuses v := by
  obtain ⟨pairs, ending, badKey, rfl, demand, hdemand, hbroken⟩ := h
  rcases hread : fields.readRecord ending badKey fields.start pairs with e | xs
  · refine ⟨e, ?_⟩
    change build <$> fields.readRecord ending badKey fields.start pairs = _
    rw [hread]
    rfl
  · have hawaits := Fields.awaits_of_readRecord hdistinct hread
    exact absurd hbroken (hmake.not_broken hawaits demand hdemand)

theorem Refuses.decode {document : Whole} (h : codec.Refuses document.root) :
    ∃ e, codec.decode document = .error e := by
  obtain ⟨e, hread⟩ := h
  refine ⟨e, ?_⟩
  unfold Codec.decode
  rw [hread]
  rfl

end Codec

theorem Field.makes_requiredText (name : String) :
    (Field.required name .text).Makes (.text name true) :=
  ⟨rfl, fun _ => rfl, fun _ => Codec.refuses_text⟩

theorem Field.makes_defaultedText (name fallback : String) :
    (Field.defaulted name .text fallback).Makes (.text name false) :=
  ⟨rfl, (fun h => by cases h), fun _ => Codec.refuses_text⟩

end GatewayProvisioning.Document
