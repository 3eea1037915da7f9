import GatewayProvisioning.Proofs.AdminCalls
import GatewayProvisioning.Proofs.Walk

/-!
# Listings in pages

A gateway serves a listing page by page: page `i` begins with entry `i * size`, and each page but the
last links to the one after it. The first page is at the address of the collection, the others are at
that address with an offset.

Addresses are read as they stand in requests and links.
-/

namespace GatewayProvisioning

open Document

/-! ## Addresses with a query -/

namespace Url

/-- The address of names below a base. -/
def below (base : String) (names : List String) : String :=
  join base [String.ofList (slashed (names.map encodeSegment))]

/-- Names that can be read from an address again: there are some, and neither the first nor the last
is empty. -/
structure Addressable (names : List String) : Prop where
  some : names ≠ []
  first : names.head? ≠ Option.some ""
  last : names.getLast? ≠ Option.some ""

/-- An address up to the first question mark that comes after the base, and what follows the mark. -/
def cutQuery (base url : String) : String × Option String :=
  match Text.splitFirst? (· == '?') (url.toList.drop (trimBase base).length) with
  | some (path, query) =>
    (String.ofList (url.toList.take (trimBase base).length ++ path), some (String.ofList query))
  | none => (url, none)

theorem isWordChar_encoded {names : List String} :
    ∀ segment ∈ names.map encodeSegment, ∀ c ∈ segment.toList, isWordChar c = true := by
  intro segment hsegment
  obtain ⟨name, -, rfl⟩ := List.mem_map.mp hsegment
  exact isWordChar_encodeSegment name

theorem encoded_ends {names : List String} (h : Addressable names) :
    slashed (names.map encodeSegment) ≠ [] ∧
      (slashed (names.map encodeSegment)).head? ≠ some '/' ∧
      (slashed (names.map encodeSegment)).getLast? ≠ some '/' := by
  have hencoded : ∀ name? : Option String, name? ≠ some "" → name?.map encodeSegment ≠ some "" := by
    intro name? hne hempty
    obtain ⟨name, rfl, hname⟩ := Option.map_eq_some_iff.mp hempty
    exact hne (congrArg some (encodeSegment_eq_empty hname))
  have hfirst : (names.map encodeSegment).head? ≠ some "" := by
    rw [List.head?_map]
    exact hencoded _ h.first
  have hlast : (names.map encodeSegment).getLast? ≠ some "" := by
    rw [List.getLast?_map]
    exact hencoded _ h.last
  have hsome : names.map encodeSegment ≠ [] := by simpa using h.some
  exact slashed_ends hfirst hlast hsome isWordChar_encoded

theorem below_toList (base : String) {names : List String} (h : Addressable names) :
    (below base names).toList = trimBase base ++ '/' :: slashed (names.map encodeSegment) := by
  obtain ⟨hnil, hstart, hend⟩ := encoded_ends h
  show (join base _).toList = _
  rw [join_row base hnil hstart hend, String.toList_ofList]

theorem namesBelow?_below (base : String) {names : List String} (h : Addressable names) :
    namesBelow? base (below base names) = some names :=
  namesBelow?_join base h.some h.first h.last

/-- No question mark stands in a path of encoded names. -/
theorem noMark_slashed (names : List String) :
    ∀ c ∈ '/' :: slashed (names.map encodeSegment), (c == '?') = false := by
  have hmark : isPathChar '?' = false := by decide
  intro c hc
  apply beq_false_of_ne
  rintro rfl
  rcases List.mem_cons.mp hc with hslash | hc
  · cases hslash
  · have hpath := isPathChar_slashed isWordChar_encoded _ hc
    rw [hmark] at hpath
    cases hpath

theorem cutQuery_below (base : String) {names : List String} (h : Addressable names) :
    cutQuery base (below base names) = (below base names, none) := by
  unfold cutQuery
  rw [below_toList base h, List.drop_left, Text.splitFirst?_eq_none.mpr (noMark_slashed names)]

theorem cutQuery_query (base query : String) {names : List String} (h : Addressable names) :
    cutQuery base (below base names ++ "?" ++ query) = (below base names, some query) := by
  have hchars : (below base names ++ "?" ++ query).toList =
      trimBase base ++ ('/' :: slashed (names.map encodeSegment) ++ '?' :: query.toList) := by
    simp [below_toList base h]
  unfold cutQuery
  rw [hchars, List.drop_left, List.take_left,
    Text.splitFirst?_of_first (noMark_slashed names) (beq_self_eq_true '?')]
  simp [← below_toList base h]

end Url

/-! ## Calls about listings -/

/-- What a request asks for in a collection: a page of the listing, the first one or one with an
offset, or the deletion of an object. -/
inductive ListingCall where
  | page (collection : List String) (offset : Option String)
  | remove (collection : List String) (id : String)
  deriving DecidableEq, Repr

namespace ListingCall

/-- The offset that a query is about. -/
def offset? (query : String) : Option String :=
  if "offset=".toList.isPrefixOf query.toList then
    some (String.ofList (query.toList.drop "offset=".length))
  else none

/-- What names and a query stand for with a method. -/
def ofParts? (method : Method) (names : List String) (query : Option String) :
    Option ListingCall :=
  match method, query with
  | .get, none => some (.page names none)
  | .get, some query => (offset? query).map fun offset => .page names (some offset)
  | .delete, none => names.getLast?.map fun id => .remove names.dropLast id
  | _, _ => none

/-- What a request asks for under a base, if it is about a listing. -/
def ofRequest? (base : String) (request : Request) : Option ListingCall :=
  (Url.namesBelow? base (Url.cutQuery base request.url).1).bind fun names =>
    ofParts? request.method names (Url.cutQuery base request.url).2

theorem ofRequest?_post (base : String) {request : Request} (h : request.method = .post) :
    ofRequest? base request = none := by
  unfold ofRequest?
  rw [h]
  cases Url.namesBelow? base (Url.cutQuery base request.url).1 <;> rfl

theorem offset?_offset (offset : String) : offset? ("offset=" ++ offset) = some offset := by
  have hmark : "offset=".toList.isPrefixOf ("offset=" ++ offset).toList = true := by
    rw [String.toList_append]
    exact List.isPrefixOf_iff_prefix.mpr (List.prefix_append _ _)
  unfold offset?
  rw [if_pos hmark, String.toList_append]
  exact congrArg some (String.ofList_toList)

end ListingCall

/-! ## Pages -/

/-- How a gateway cuts listings into pages: their size, and a text for the offset of each page. -/
structure Paging where
  size : Nat
  size_pos : 0 < size
  mark : Nat → String
  mark_inj : ∀ {i j}, mark i = mark j → i = j

namespace Paging

variable {α : Type} (g : Paging)

/-- The offset at which page `i` is asked for. -/
def offset : Nat → Option String
  | 0 => none
  | i + 1 => some (g.mark (i + 1))

/-- Whether a listing of `n` entries has a page `i`: even an empty one has a first page. -/
def HasPage (n i : Nat) : Prop :=
  i = 0 ∨ i * g.size < n

/-- The entries of page `i`. -/
def entries (xs : List α) (i : Nat) : List α :=
  (xs.drop (i * g.size)).take g.size

/-- The link to page `i` of a collection. -/
def link (names : List String) (i : Nat) : String :=
  "/" ++ String.ofList (Url.slashed (names.map Url.encodeSegment)) ++ "?offset=" ++ g.mark i

/-- The link on page `i` of a listing with `n` entries: none if it is the last page. -/
def next (names : List String) (n i : Nat) : Option String :=
  if (i + 1) * g.size < n then some (g.link names (i + 1)) else none

/-- A response holds page `i` of the listing of a collection. -/
def Serves (codec : Codec α) (names : List String) (xs : List α) (i : Nat) (r : Response) : Prop :=
  r.status = 200 ∧ (Page.codec codec).decode (Json.document r.body) =
    .ok ⟨g.entries xs i, g.next names xs.length i⟩

/-- The address of page `i` of a collection. -/
def url (base : String) (names : List String) : Nat → String
  | 0 => Url.below base names
  | i + 1 => Url.below base names ++ "?" ++ ("offset=" ++ g.mark (i + 1))

theorem take_append_entries (xs : List α) (i : Nat) :
    xs.take (i * g.size) ++ g.entries xs i = xs.take ((i + 1) * g.size) := by
  unfold entries
  rw [← List.take_add, Nat.add_one_mul]

theorem url_inj (base : String) (names : List String) {i j : Nat}
    (h : g.url base names i = g.url base names j) : i = j := by
  have hchars := congrArg String.toList h
  cases i <;> cases j <;> simp [url] at hchars
  · rfl
  · exact g.mark_inj (String.toList_inj.mp hchars)

variable (c : AdminClient) {names : List String} (h : Url.Addressable names)

include h

theorem ofRequest?_page (i : Nat) :
    ListingCall.ofRequest? c.base (c.requestTo .get (g.url c.base names i)) =
      some (.page names (g.offset i)) := by
  cases i with
  | zero => simp [ListingCall.ofRequest?, ListingCall.ofParts?, AdminClient.requestTo, url, offset,
      Url.cutQuery_below c.base h, Url.namesBelow?_below c.base h]
  | succ i => simp [ListingCall.ofRequest?, ListingCall.ofParts?, AdminClient.requestTo, url, offset,
      Url.cutQuery_query c.base _ h, Url.namesBelow?_below c.base h, ListingCall.offset?_offset]

/-- A link leads to the page that it is for, whatever slashes the base ends in. -/
theorem resolve_link (i : Nat) :
    c.resolve (g.link names (i + 1)) = g.url c.base names (i + 1) := by
  obtain ⟨hnil, hstart, -⟩ := Url.encoded_ends h
  generalize hwords : Url.slashed (names.map Url.encodeSegment) = words at hnil hstart
  have hlink : (g.link names (i + 1)).toList =
      '/' :: (words ++ ("?offset=" ++ g.mark (i + 1)).toList) := by
    simp [link, hwords]
  have hrelative : ("http://".toList.isPrefixOf (g.link names (i + 1)).toList ||
      "https://".toList.isPrefixOf (g.link names (i + 1)).toList) = false := by
    rw [hlink]
    rfl
  -- only the slash in front of the path is cut
  have hcut : (g.link names (i + 1)).toList.dropWhile (· == '/') =
      words ++ ("?offset=" ++ g.mark (i + 1)).toList := by
    obtain ⟨d, rest, rfl⟩ := List.exists_cons_of_ne_nil hnil
    have hd : (d == '/') = false := by simpa using hstart
    rw [hlink]
    simp [hd]
  unfold AdminClient.resolve
  rw [if_neg (Bool.eq_false_iff.mp hrelative), hcut]
  apply String.toList_inj.mp
  simp [url, Url.below_toList c.base h, hwords]

/-- What is read on a page as the address of the next one. -/
theorem next_address (n i : Nat) :
    ((g.next names n i).filter fun link => !link.isEmpty).map c.resolve =
      if (i + 1) * g.size < n then some (g.url c.base names (i + 1)) else none := by
  unfold next
  by_cases hmore : (i + 1) * g.size < n
  · have hsome : (!(g.link names (i + 1)).isEmpty) = true := by
      simp [link]
    rw [if_pos hmore, if_pos hmore, Option.filter_some, if_pos hsome, Option.map_some,
      g.resolve_link c h]
  · rw [if_neg hmore, if_neg hmore]
    rfl

end Paging

namespace ListingCall

theorem ofRequest?_remove (c : AdminClient) {names : List String} {id : String} (hsome : names ≠ [])
    (hfirst : names.head? ≠ some "") (hid : id ≠ "") :
    ofRequest? c.base (c.requestTo .delete (Url.below c.base (names ++ [id]))) =
      some (.remove names id) := by
  have haddress : Url.Addressable (names ++ [id]) := by
    obtain ⟨first, rest, rfl⟩ := List.exists_cons_of_ne_nil hsome
    refine ⟨by simp, hfirst, ?_⟩
    rw [List.getLast?_append]
    simpa using hid
  simp [ofRequest?, ofParts?, AdminClient.requestTo, Url.cutQuery_below c.base haddress,
    Url.namesBelow?_below c.base haddress]

end ListingCall

end GatewayProvisioning
