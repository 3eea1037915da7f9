import GatewayProvisioning.Proofs.ModelText
import GatewayProvisioning.Proofs.Pages

/-!
# Gateways that keep collections

What is asked of a gateway that keeps the collections of a reset, and one that keeps them as a list of
objects. There an object may depend on another one, and goes with it.
-/

namespace GatewayProvisioning

open Document

/-- A gateway keeps five collections of objects that are known by their ids. It lists them in pages,
and deletes an object that it holds; what depends on the object may go with it. -/
structure KeepsCollections {σ : Type} (base : String) (gateway : σ → Request → Reply × σ)
    (paging : Paging) (held : σ → String → List String) : Prop where
  distinct : ∀ state, ∀ collection ∈ Provisioning.resetOrder, (held state collection).Nodup
  ids : ∀ state, ∀ collection ∈ Provisioning.resetOrder, "" ∉ held state collection
  pages : ∀ state request, ∀ collection ∈ Provisioning.resetOrder, ∀ i,
    ListingCall.ofRequest? base request = some (.page [collection] (paging.offset i)) →
      paging.HasPage (held state collection).length i →
        held (gateway state request).2 = held state ∧
          ∃ response, (gateway state request).1 = .ok response ∧
            paging.Serves IdEntry.codec [collection] ((held state collection).map IdEntry.mk) i
              response
  removals : ∀ state request, ∀ collection ∈ Provisioning.resetOrder, ∀ id ∈ held state collection,
    ListingCall.ofRequest? base request = some (.remove [collection] id) →
      (∃ response, (gateway state request).1 = .ok response ∧ response.status = 204) ∧
        (∀ x, x ∈ held (gateway state request).2 collection ↔ x ∈ held state collection ∧ x ≠ id) ∧
        ∀ other, held (gateway state request).2 other ⊆ held state other

/-! ## Numbered pages -/

namespace Paging

theorem ofNat_inj {i j : Nat} (h : Decimal.ofNat i = Decimal.ofNat j) : i = j := by
  have hdigits : Decimal.digits i = Decimal.digits j := by
    have hchars := congrArg String.toList h
    unfold Decimal.ofNat at hchars
    rwa [String.toList_ofList, String.toList_ofList] at hchars
  rw [← (Decimal.decimalValue_digits i).2, ← (Decimal.decimalValue_digits j).2, hdigits]

/-- Pages of a size, each asked for by its number. -/
def numbered (size : Nat) (h : 0 < size) : Paging where
  size := size
  size_pos := h
  mark := Decimal.ofNat
  mark_inj := ofNat_inj

/-- The number of the page with an offset. -/
def number : Option String → Nat
  | none => 0
  | some offset => Text.decimalValue offset.toList

theorem number_offset {size : Nat} (h : 0 < size) (i : Nat) :
    number ((numbered size h).offset i) = i := by
  cases i with
  | zero => rfl
  | succ i =>
    show Text.decimalValue (String.ofList (Decimal.digits (i + 1))).toList = i + 1
    rw [String.toList_ofList]
    exact (Decimal.decimalValue_digits (i + 1)).2

/-- The text of page `i` of a listing. -/
def text {α : Type} (g : Paging) (codec : Codec α) (names : List String) (xs : List α) (i : Nat) :
    String :=
  Json.compact ((Page.codec codec).write ⟨g.entries xs i, g.next names xs.length i⟩)

theorem serves_text {α : Type} (g : Paging) {codec : Codec α} (h : codec.Lossless)
    (names : List String) (xs : List α) (i : Nat) :
    g.Serves codec names xs i ⟨200, g.text codec names xs i⟩ :=
  ⟨rfl, (Page.lossless h _).decode_text⟩

end Paging

/-! ## An inventory -/

/-- An object of a collection, and the id of what it depends on. -/
structure Belonging where
  collection : String
  id : String
  owner : String := ""
  deriving DecidableEq, Repr

/-- Objects of collections. No two of a collection have the same id, and none is empty. -/
structure Inventory where
  objects : List Belonging
  distinct : objects.Pairwise fun a b => a.collection = b.collection → a.id ≠ b.id
  ids : ∀ object ∈ objects, object.id ≠ ""

namespace Inventory

/-- The ids of a collection. -/
def held (inventory : Inventory) (collection : String) : List String :=
  (inventory.objects.filter fun object => object.collection = collection).map Belonging.id

/-- An object goes if it is deleted, or if it belongs to another collection and depends on what is
deleted. -/
def goes (collection id : String) (object : Belonging) : Bool :=
  if object.collection = collection then object.id = id else object.owner = id

/-- Deletes an object, and what depends on it. -/
def remove (inventory : Inventory) (collection id : String) : Inventory where
  objects := inventory.objects.filter fun object => !goes collection id object
  distinct := inventory.distinct.filter _
  ids object h := inventory.ids object (List.mem_filter.mp h).1

/-- Lists pages and deletes what is there. -/
def gateway (base : String) (g : Paging) (inventory : Inventory) (request : Request) :
    Reply × Inventory :=
  match ListingCall.ofRequest? base request with
  | some (.page [collection] offset) =>
    (.ok ⟨200, g.text IdEntry.codec [collection] ((inventory.held collection).map IdEntry.mk)
      (Paging.number offset)⟩, inventory)
  | some (.remove [collection] id) =>
    if id ∈ inventory.held collection then (.ok ⟨204, ""⟩, inventory.remove collection id)
    else (.ok ⟨404, ""⟩, inventory)
  | _ => (.ok ⟨404, ""⟩, inventory)

theorem mem_held {inventory : Inventory} {collection id : String} :
    id ∈ inventory.held collection ↔
      ∃ object ∈ inventory.objects, object.collection = collection ∧ object.id = id := by
  simp [held, and_assoc]

theorem held_nodup (inventory : Inventory) (collection : String) :
    (inventory.held collection).Nodup := by
  have hdistinct := inventory.distinct.filter fun object => object.collection = collection
  unfold held List.Nodup
  rw [List.pairwise_map]
  refine hdistinct.imp_of_mem fun {a b} ha hb hne => ?_
  have hcollection : a.collection = b.collection := by
    rw [of_decide_eq_true (List.mem_filter.mp ha).2, of_decide_eq_true (List.mem_filter.mp hb).2]
  exact hne hcollection

theorem mem_held_remove {inventory : Inventory} {collection id x : String} :
    x ∈ (inventory.remove collection id).held collection ↔
      x ∈ inventory.held collection ∧ x ≠ id := by
  rw [mem_held, mem_held]
  constructor
  · rintro ⟨object, hobject, rfl, rfl⟩
    obtain ⟨hmem, hstays⟩ := List.mem_filter.mp hobject
    refine ⟨⟨object, hmem, rfl, rfl⟩, fun heq => ?_⟩
    simp [goes, heq] at hstays
  · rintro ⟨⟨object, hobject, rfl, rfl⟩, hne⟩
    exact ⟨object, List.mem_filter.mpr ⟨hobject, by simp [goes, hne]⟩, rfl, rfl⟩

theorem held_remove_subset (inventory : Inventory) (collection id other : String) :
    (inventory.remove collection id).held other ⊆ inventory.held other := by
  intro x hx
  obtain ⟨object, hobject, hother⟩ := mem_held.mp hx
  exact mem_held.mpr ⟨object, (List.mem_filter.mp hobject).1, hother⟩

theorem keepsCollections (base : String) {size : Nat} (h : 0 < size) :
    KeepsCollections base (gateway base (.numbered size h)) (.numbered size h) held where
  distinct inventory collection _ := inventory.held_nodup collection
  ids inventory collection _ hempty := by
    obtain ⟨object, hobject, -, hid⟩ := mem_held.mp hempty
    exact inventory.ids object hobject hid
  pages inventory request collection _ i hcall _ := by
    unfold gateway
    rw [hcall]
    refine ⟨rfl, _, rfl, ?_⟩
    rw [Paging.number_offset]
    exact Paging.serves_text _ IdEntry.lossless _ _ _
  removals inventory request collection _ id hid hcall := by
    unfold gateway
    rw [hcall]
    simp only [if_pos hid]
    exact ⟨⟨_, rfl, rfl⟩, fun x => mem_held_remove, held_remove_subset inventory collection id⟩

end Inventory

end GatewayProvisioning
