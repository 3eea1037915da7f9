import GatewayProvisioning.Proofs.JsonText
import GatewayProvisioning.Proofs.NameMaps

/-!
# Codecs that lose nothing

A codec loses nothing if it reads every value from what it has written about it. Scalars lose
nothing, and neither do lists, maps and records of what loses nothing.
-/

namespace GatewayProvisioning.Document

open Json (ReadsAs ReadsAsField)

theorem readText_written (expected s : String) :
    (Node.text (Json.writtenQuotation s)).readText expected = .ok s :=
  Json.read_writtenQuotation s

namespace Codec

variable {α : Type} {codec : Codec α}

/-- What is written about a value is read as the value. -/
def Returns (codec : Codec α) (x : α) : Prop :=
  ∃ node, ReadsAs (codec.write x) node ∧ codec.read node = .ok x

/-- A codec that returns every value. -/
def Lossless (codec : Codec α) : Prop :=
  ∀ x, codec.Returns x

theorem decode_root {node : Node} {x : α} (h : codec.read node = .ok x) :
    codec.decode ⟨node, false⟩ = .ok x := by
  unfold decode
  rw [h]
  rfl

theorem Returns.decode_text {x : α} (h : codec.Returns x) :
    codec.decode (Json.document (Json.compact (codec.write x))) = .ok x := by
  obtain ⟨node, hwritten, hread⟩ := h
  rw [hwritten.document]
  exact decode_root hread

/-! ## Scalars -/

theorem lossless_text : text.Lossless := fun s =>
  ⟨_, Json.readsAs_text s, readText_written "a string" s⟩

theorem lossless_flag : flag.Lossless := fun b =>
  ⟨_, Json.readsAs_flag b, rfl⟩

theorem readNumber_natural {n : Nat} (h : n < UInt64.size) :
    readNumber { negative := false, whole := Decimal.digits n } = .ok (.natural n) := by
  have hvalue := (Decimal.decimalValue_digits n).2
  simp [readNumber, Decimal.Numeral.number?, hvalue, h]

theorem readNumber_negative {n : Nat} (h : n < 0x8000000000000000) :
    readNumber { negative := true, whole := Decimal.digits (n + 1) } = .ok (.negative n) := by
  have hvalue := (Decimal.decimalValue_digits (n + 1)).2
  have hle : n + 1 ≤ 0x8000000000000000 := h
  simp [readNumber, Decimal.Numeral.number?, hvalue, hle]

theorem readBounded_natural {n bound : Nat} (expected : String) (h : n < bound)
    (hbound : bound ≤ UInt64.size) :
    readBounded bound expected (.number { negative := false, whole := Decimal.digits n }) =
      .ok n := by
  simp only [readBounded]
  rw [readNumber_natural (Nat.lt_of_lt_of_le h hbound)]
  simp only [bind, Except.bind, if_pos h]
  rfl

theorem lossless_uint16 : uint16.Lossless := fun n => by
  refine ⟨_, Json.readsAs_natural n.toNat, ?_⟩
  have hread := readBounded_natural "u16" (show n.toNat < UInt16.size from n.toNat_lt) (by decide)
  change UInt16.ofNat <$> readBounded UInt16.size "u16" (.number _) = _
  rw [hread]
  exact congrArg Except.ok UInt16.ofNat_toNat

theorem lossless_uint64 : uint64.Lossless := fun n => by
  refine ⟨_, Json.readsAs_natural n.toNat, ?_⟩
  have hread := readBounded_natural "u64" (show n.toNat < UInt64.size from n.toNat_lt) (by decide)
  change UInt64.ofNat <$> readBounded UInt64.size "u64" (.number _) = _
  rw [hread]
  exact congrArg Except.ok UInt64.ofNat_toNat

/-! ## Options, lists and maps -/

/-- An option loses nothing if no value is read as null. -/
theorem lossless_optional (h : ∀ x, ∃ node, ReadsAs (codec.write x) node ∧
    codec.read node = .ok x ∧ codec.optional.read node = some <$> codec.read node) :
    codec.optional.Lossless := by
  rintro (_ | x)
  · exact ⟨_, Json.readsAs_null, rfl⟩
  · obtain ⟨node, hwritten, hread, hsome⟩ := h x
    refine ⟨node, hwritten, ?_⟩
    rw [hsome, hread]
    rfl

theorem lossless_optionalText : text.optional.Lossless :=
  lossless_optional fun s => ⟨_, Json.readsAs_text s, readText_written "a string" s, rfl⟩

theorem Lossless.members (h : codec.Lossless) (xs : List α) :
    ∃ nodes, List.Forall₂ ReadsAs (xs.map codec.write) nodes ∧
      readMembers codec .closed nodes = .ok xs := by
  induction xs with
  | nil => exact ⟨[], .nil, rfl⟩
  | cons x xs ih =>
    obtain ⟨node, hwritten, hread⟩ := h x
    obtain ⟨nodes, hnodes, hrest⟩ := ih
    refine ⟨node :: nodes, .cons hwritten hnodes, ?_⟩
    rw [readMembers, hread, hrest]
    rfl

theorem Lossless.list (h : codec.Lossless) : codec.list.Lossless := by
  intro xs
  obtain ⟨nodes, hwritten, hread⟩ := h.members xs
  exact ⟨_, Json.readsAs_list hwritten, hread⟩

/-- Entries in ascending order are put one behind the other. -/
theorem Lossless.entries (h : codec.Lossless) (before m : NameMap α) (es : List (String × α))
    (hm : m.entries = before.entries ++ es) :
    ∃ pairs, List.Forall₂ ReadsAsField (es.map fun e => (e.1, codec.write e.2)) pairs ∧
      readEntries codec .closed none before pairs = .ok m := by
  induction es generalizing before with
  | nil =>
    refine ⟨[], .nil, ?_⟩
    rw [List.append_nil] at hm
    rw [NameMap.eq_of_entries hm]
    rfl
  | cons e es ih =>
    obtain ⟨node, hwritten, hread⟩ := h e.2
    have hlast : ∀ x ∈ before.entries, x.1 < e.1 := by
      have hascending := m.ascending
      rw [hm, List.map_append, List.pairwise_append] at hascending
      intro x hx
      exact hascending.2.2 x.1 (List.mem_map_of_mem hx) e.1 List.mem_cons_self
    have hput : m.entries = (before.insert e.1 e.2).entries ++ es := by
      have hlater : (before.insert e.1 e.2).entries = before.entries ++ [e] :=
        NameMap.put_last hlast e.2
      rw [hm, hlater, List.append_assoc]
      rfl
    obtain ⟨pairs, hpairs, hrest⟩ := ih (before.insert e.1 e.2) hput
    refine ⟨(_, node) :: pairs, .cons ⟨rfl, hwritten⟩ hpairs, ?_⟩
    rw [readEntries, readText_written, hread]
    exact hrest

theorem Lossless.map (h : codec.Lossless) : codec.map.Lossless := by
  intro m
  obtain ⟨pairs, hwritten, hread⟩ := h.entries .empty m m.entries rfl
  exact ⟨_, Json.readsAs_record hwritten, hread⟩

end Codec

/-! ## Records -/

/-- A field that loses nothing: a value is left out only if it is what a missing field stands for. -/
structure Field.Lossless {α : Type} (field : Field α) : Prop where
  codec : field.codec.Lossless
  omitted : ∀ x, field.omits x = true → field.fallback = some x

namespace Field.Lossless

variable {α : Type} {codec : Codec α} {name : String}

theorem required (h : codec.Lossless) : (Field.required name codec).Lossless :=
  ⟨h, fun _ homits => by cases homits⟩

theorem defaulted (h : codec.Lossless) {fallback : α} :
    (Field.defaulted name codec fallback).Lossless :=
  ⟨h, fun _ homits => by cases homits⟩

end Field.Lossless

namespace Fields

/-- The names of fields. -/
def names : {τ φ : Type} → Fields τ φ → List String
  | _, _, .none => []
  | _, _, .field first rest => first.name :: rest.names

/-- Whether each of several fields loses nothing. -/
def EachLossless : {τ φ : Type} → Fields τ φ → Prop
  | _, _, .none => True
  | _, _, .field first rest => first.Lossless ∧ rest.EachLossless

/-- Fields that lose nothing, no two of one name. -/
structure Lossless {τ φ : Type} (fields : Fields τ φ) : Prop where
  each : fields.EachLossless
  distinct : fields.names.Nodup

variable {α τ φ : Type}

theorem name_of_mem_write {fields : Fields τ φ} {xs : τ} {member : String × Json}
    (h : member ∈ fields.write xs) : member.1 ∈ fields.names := by
  induction fields with
  | none => cases h
  | field first rest ih =>
    obtain ⟨x, xs⟩ := xs
    unfold write at h
    by_cases homit : first.omits x = true
    · rw [if_pos homit] at h
      exact List.mem_cons_of_mem _ (ih h)
    · rw [if_neg homit] at h
      rcases List.mem_cons.mp h with rfl | h
      · exact List.mem_cons_self
      · exact List.mem_cons_of_mem _ (ih h)

theorem readRecord_accepted {fields : Fields τ φ} {ending : Ending} {badKey : Option Node}
    {found found' : φ} {k v : Node} {key : String} {pairs : List (Node × Node)}
    (hkey : k.readText "field identifier" = .ok key)
    (haccept : fields.accept key v found = .ok (some found')) :
    fields.readRecord ending badKey found ((k, v) :: pairs) =
      fields.readRecord ending badKey found' pairs := by
  rw [readRecord, hkey]
  simp only [bind, Except.bind, haccept]

/-- Once its field is settled, the members of other names leave it alone. -/
theorem readRecord_settled {first : Field α} {rest : Fields τ φ} (slot : Option α) {x : α}
    (hslot : (slot <|> first.fallback) = some x) (ending : Ending) (badKey : Option Node)
    (found : φ) {pairs : List (Node × Node)}
    (hkeys : ∀ pair ∈ pairs, ∃ key, pair.1.readText "field identifier" = .ok key ∧
      key ≠ first.name) :
    (field first rest).readRecord ending badKey (slot, found) pairs =
      (fun xs => (x, xs)) <$> rest.readRecord ending badKey found pairs := by
  induction pairs generalizing found with
  | nil =>
    simp only [readRecord, finish, hslot]
    rcases checkRecord badKey ending with e | u <;> rfl
  | cons pair pairs ih =>
    obtain ⟨k, v⟩ := pair
    obtain ⟨key, hkey, hne⟩ := hkeys (k, v) List.mem_cons_self
    have hrest := fun found => ih found fun pair hpair => hkeys pair (List.mem_cons_of_mem _ hpair)
    simp only [readRecord, hkey, accept, if_neg hne, bind, Except.bind]
    rcases rest.accept key v found with e | _ | found'
    · rfl
    · rcases v.skip with e | u
      · rfl
      · exact hrest found
    · exact hrest found'

theorem Lossless.readRecord {fields : Fields τ φ} (h : fields.Lossless) (xs : τ) :
    ∃ pairs, List.Forall₂ ReadsAsField (fields.write xs) pairs ∧
      fields.readRecord .closed Option.none fields.start pairs = .ok xs := by
  induction fields with
  | none => exact ⟨[], .nil, rfl⟩
  | field first rest ih =>
    obtain ⟨x, xs⟩ := xs
    obtain ⟨⟨hfirst, hrest⟩, hdistinct⟩ := h
    obtain ⟨hnew, hdistinct⟩ := List.nodup_cons.mp hdistinct
    obtain ⟨pairs, hpairs, hread⟩ := ih ⟨hrest, hdistinct⟩ xs
    have hkeys : ∀ pair ∈ pairs, ∃ key, pair.1.readText "field identifier" = .ok key ∧
        key ≠ first.name := by
      intro pair hpair
      obtain ⟨member, hmember, hkey, -⟩ := Json.exists_field_of_mem hpairs hpair
      refine ⟨member.1, ?_, ?_⟩
      · rw [hkey]
        exact readText_written _ member.1
      · intro hname
        exact hnew (hname ▸ name_of_mem_write hmember)
    unfold write
    by_cases homit : first.omits x = true
    · rw [if_pos homit]
      refine ⟨pairs, hpairs, ?_⟩
      change (field first rest).readRecord .closed Option.none (Option.none, rest.start) pairs = _
      rw [readRecord_settled Option.none (hfirst.omitted x homit) .closed Option.none rest.start
        hkeys, hread]
      rfl
    · obtain ⟨node, hwritten, hvalue⟩ := hfirst.codec x
      rw [if_neg homit]
      refine ⟨(_, node) :: pairs, .cons ⟨rfl, hwritten⟩ hpairs, ?_⟩
      have haccept : (field first rest).accept first.name node (Option.none, rest.start) =
          .ok (some (some x, rest.start)) := by
        simp only [accept, if_true, hvalue]
        rfl
      have hsettled : (field first rest).readRecord .closed Option.none (some x, rest.start) pairs =
          .ok (x, xs) := by
        rw [readRecord_settled (some x) rfl .closed Option.none rest.start hkeys, hread]
        rfl
      rw [start, readRecord_accepted (readText_written "field identifier" first.name) haccept]
      exact hsettled

end Fields

/-- A record of fields that lose nothing is read as what its parts make up again. -/
theorem Codec.read_record {α τ φ : Type} {fields : Fields τ φ} {title : String} {build : τ → α}
    {parts : α → τ} (h : fields.Lossless) {x : α} (hbuild : build (parts x) = x) :
    ∃ pairs, List.Forall₂ ReadsAsField (fields.write (parts x)) pairs ∧
      ((Codec.record title fields).along build parts).read (.record pairs .closed none) = .ok x := by
  obtain ⟨pairs, hwritten, hread⟩ := h.readRecord (parts x)
  refine ⟨pairs, hwritten, ?_⟩
  change build <$> fields.readRecord .closed none fields.start pairs = .ok x
  rw [hread, ← congrArg Except.ok hbuild]
  rfl

theorem Codec.returns_record {α τ φ : Type} {fields : Fields τ φ} {title : String} {build : τ → α}
    {parts : α → τ} (h : fields.Lossless) {x : α} (hbuild : build (parts x) = x) :
    ((Codec.record title fields).along build parts).Returns x := by
  obtain ⟨pairs, hwritten, hread⟩ := Codec.read_record h hbuild
  exact ⟨_, Json.readsAs_record hwritten, hread⟩

theorem Codec.lossless_record {α τ φ : Type} {fields : Fields τ φ} {title : String} {build : τ → α}
    {parts : α → τ} (distinct : fields.names.Nodup) (hbuild : ∀ x, build (parts x) = x)
    (each : fields.EachLossless) : ((Codec.record title fields).along build parts).Lossless :=
  fun x => returns_record ⟨each, distinct⟩ (hbuild x)

end GatewayProvisioning.Document
