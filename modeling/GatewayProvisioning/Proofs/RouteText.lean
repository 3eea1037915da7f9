import Mathlib.Data.List.Basic
import Mathlib.Data.List.TakeWhile
import GatewayProvisioning.Gateway.RouteList
import GatewayProvisioning.Proofs.Below
import GatewayProvisioning.Proofs.NameMaps
import GatewayProvisioning.Proofs.PlainHosts

/-!
# Lists of routes, read back

A list of routes is text: entries with commas between them, blanks around them and blank entries in
between. Each entry names a route and gives its address, and the reader of addresses leaves out a port
that the protocol implies. The routes are read back as they were, since such a port is found again in
the text of the address.
-/

namespace GatewayProvisioning

open Url.Idna (isPlainChar)

/-! ## Routes in a list -/

/-- The characters of the address of a route. -/
def Route.address (r : Route) : List Char :=
  r.protocol.toList ++ "://".toList ++ r.host.toList ++ ':' :: Decimal.digits r.port.toNat

/-- The entry of a route in a list. -/
def Route.listed (r : Route) : String :=
  String.ofList (r.name.toList ++ '.' :: r.address)

/-- The routes that an entry can name. -/
structure Route.Listable (r : Route) : Prop where
  name_nonempty : r.name ≠ ""
  /-- No blank stands around the name. -/
  name_first : ∀ c, r.name.toList.head? = some c → Text.isBlank c = false
  name_last : ∀ c, r.name.toList.getLast? = some c → Text.isBlank c = false
  /-- The name holds no mark of the list. -/
  name_chars : ∀ c ∈ r.name.toList, c ≠ ',' ∧ c ≠ '.'
  protocol_nonempty : r.protocol ≠ ""
  protocol_letters : ∀ c ∈ r.protocol.toList, 'a' ≤ c ∧ c ≤ 'z'
  /-- An address of a file has no port. -/
  protocol_ne_file : r.protocol ≠ "file"
  host : Url.PlainHost r.host.toList

/-- The routes whose address can be written down. -/
structure Route.Addressable (r : Route) : Prop where
  protocol_nonempty : r.protocol ≠ ""
  protocol_letters : ∀ c ∈ r.protocol.toList, 'a' ≤ c ∧ c ≤ 'z'
  protocol_ne_file : r.protocol ≠ "file"
  host : Url.PlainHost r.host.toList

theorem Route.Listable.addressable {r : Route} (h : r.Listable) : r.Addressable :=
  ⟨h.protocol_nonempty, h.protocol_letters, h.protocol_ne_file, h.host⟩

namespace RouteList

/-- A place in a list: a route or nothing, with blanks around it. -/
structure Slot where
  before : String
  route : Option Route
  after : String
  blank_before : Text.isAllBlank before = true
  blank_after : Text.isAllBlank after = true
  listable : ∀ r, route = some r → r.Listable

/-- The text of a place. -/
def Slot.text (slot : Slot) : String :=
  slot.before ++ (slot.route.map Route.listed).getD "" ++ slot.after

/-- The text of a list. -/
def textOf (slots : List Slot) : String :=
  ",".intercalate (slots.map Slot.text)

/-- The routes of a list. -/
def routesOf (slots : List Slot) : List Route :=
  slots.filterMap Slot.route

end RouteList

/-! ## Characters of an address -/

/-- A character of an address: of a label, or a mark between parts. -/
def isAddressChar (c : Char) : Bool :=
  isPlainChar c || c == '.' || c == ':' || c == '/'

theorem isAddressChar_of_all {P : Char → Prop}
    (hall : ∀ n < 0x80, isAddressChar (Char.ofNat n) = true → P (Char.ofNat n)) {c : Char}
    (h : isAddressChar c = true) : P c := by
  have hascii : c.toNat < 0x80 := by
    unfold isAddressChar at h
    simp only [Bool.or_eq_true, beq_iff_eq] at h
    rcases h with ((h | rfl) | rfl) | rfl
    · exact Url.Idna.isPlainChar_lt h
    all_goals decide
  have hc := hall c.toNat hascii
  rw [Char.ofNat_toNat] at hc
  exact hc h

/-! ## Reading an address -/

namespace Url

/-- Whether a text is a scheme, in letters of either case. -/
def isSchemeWord (cs : List Char) : Bool :=
  (cs.map Text.asciiLower).head?.any (fun c => 'a' ≤ c && c ≤ 'z') &&
    (cs.map Text.asciiLower).all isSchemeChar

theorem readScheme?_of_colon {word : List Char} (h : ':' ∉ word) (rest : List Char) :
    readScheme? (word ++ ':' :: rest) =
      if isSchemeWord word then some (Text.asciiLowercase (String.ofList word), rest) else none := by
  unfold readScheme? isSchemeWord Text.asciiLowercase
  rw [Text.splitFirst?_of_notMem h, String.toList_ofList]
  cases word with
  | nil => rfl
  | cons c word =>
    rw [List.map_cons, List.head?_cons, Option.any_some]
    rfl

theorem isSchemeWord_no_colon {cs : List Char} (h : isSchemeWord cs = true) : ':' ∉ cs := by
  intro hmem
  have hall := List.all_eq_true.mp (Bool.and_eq_true_iff.mp h).2
  exact absurd (hall ':' (List.mem_map_of_mem (f := Text.asciiLower) hmem)) (by decide)

/-- Small letters are a scheme as they stand. -/
theorem isSchemeWord_letters {scheme : String} (hne : scheme ≠ "")
    (h : ∀ c ∈ scheme.toList, 'a' ≤ c ∧ c ≤ 'z') :
    isSchemeWord scheme.toList = true ∧ Text.asciiLowercase scheme = scheme := by
  have hlower : scheme.toList.map Text.asciiLower = scheme.toList := by
    have hone : ∀ c ∈ scheme.toList, Text.asciiLower c = id c := fun c hc =>
      Idna.isPlainChar_of_all (P := fun c => Text.asciiLower c = id c) (by decide +kernel)
        (Idna.isPlainChar_letter (h c hc))
    rw [List.map_congr_left hone, List.map_id]
  obtain ⟨first, others, hcs⟩ :=
    List.exists_cons_of_ne_nil fun hnil => hne (String.toList_eq_nil_iff.mp hnil)
  have hfirst := h first (by rw [hcs]; exact List.mem_cons_self)
  have hall : scheme.toList.all isSchemeChar = true := by
    rw [List.all_eq_true]
    intro c hc
    simp [isSchemeChar, h c hc]
  unfold isSchemeWord Text.asciiLowercase
  rw [hlower, hall, String.ofList_toList, hcs, List.head?_cons]
  exact ⟨by simp [hfirst], rfl⟩

theorem takeHost_plain (special : Bool) {cs : List Char} (h : PlainHost cs) (rest : List Char) :
    takeHost special false (cs ++ ':' :: rest) = (cs, ':' :: rest) := by
  have hinside : ∀ c ∈ cs, (∀ special, endsAuthority special c = false) ∧ (c == ':') = false ∧
      (c == '[') = false :=
    h.all (P := fun c => (∀ special, endsAuthority special c = false) ∧ (c == ':') = false ∧
      (c == '[') = false) (by decide) (by decide +kernel)
  clear h
  induction cs with
  | nil => simp [takeHost]
  | cons c cs ih =>
    obtain ⟨hends, hcolon, hbracket⟩ := hinside c List.mem_cons_self
    have hrest := ih fun d hd => hinside d (List.mem_cons_of_mem c hd)
    rw [List.cons_append, takeHost]
    simp [hends special, hcolon, hbracket, hrest]

theorem readPort_digits (port : UInt16) :
    readPort (Decimal.digits port.toNat) = .ok (some port.toNat, []) := by
  obtain ⟨hdigits, hvalue⟩ := Decimal.decimalValue_digits port.toNat
  have hsmall := port.toNat_lt
  have htake : (Decimal.digits port.toNat).takeWhile Text.isDigit = Decimal.digits port.toNat :=
    List.takeWhile_eq_self_iff.mpr (List.all_eq_true.mp hdigits)
  have hdrop : (Decimal.digits port.toNat).dropWhile Text.isDigit = [] :=
    List.dropWhile_eq_nil_iff.mpr (List.all_eq_true.mp hdigits)
  have hne : (Decimal.digits port.toNat).isEmpty = false := by
    simpa using Decimal.digits_ne_nil port.toNat
  unfold readPort
  simp only [htake, hdrop, hvalue, hne]
  rw [if_neg (by omega)]
  rfl

/-- The slashes before a host are all that is dropped. -/
theorem dropSlashes_plain {cs : List Char} (h : PlainHost cs) (rest : List Char) :
    ('/' :: '/' :: (cs ++ rest)).dropWhile (fun c => c == '/' || c == '\\') = cs ++ rest := by
  obtain ⟨c, others, hcs⟩ := List.exists_cons_of_ne_nil h.nonempty
  have hmem : c ∈ cs := by
    rw [hcs]
    exact List.mem_cons_self
  have hslash : (c == '/' || c == '\\') = false :=
    h.all (P := fun c => (c == '/' || c == '\\') = false) (by decide) (by decide +kernel) c hmem
  rw [List.dropWhile_cons_of_pos (by decide), List.dropWhile_cons_of_pos (by decide), hcs,
    List.cons_append, List.dropWhile_cons_of_neg (by rw [hslash]; decide)]

/-- The characters of a host with a port. -/
theorem hostPort_chars {cs : List Char} (h : PlainHost cs) (port : UInt16) :
    ∀ c ∈ cs ++ ':' :: Decimal.digits port.toNat, isAddressChar c = true ∧ c ≠ '/' := by
  have hplain : ∀ c, isPlainChar c = true → isAddressChar c = true ∧ c ≠ '/' := fun c hc =>
    Idna.isPlainChar_of_all (P := fun c => isAddressChar c = true ∧ c ≠ '/') (by decide +kernel) hc
  have hdigits := List.all_eq_true.mp (Decimal.decimalValue_digits port.toNat).1
  intro c hc
  rw [List.mem_append, List.mem_cons] at hc
  rcases hc with hc | rfl | hc
  · rcases h.chars c hc with hc | rfl
    · exact hplain c hc
    · decide
  · decide
  · exact hplain c (Idna.isPlainChar_digit (hdigits c hc))

theorem readHostAndPort_plain (special : Bool) {cs : List Char} (h : PlainHost cs) (port : UInt16) :
    ∃ host : Host, host.write = String.ofList cs ∧
      readHostAndPort special [] (cs ++ ':' :: Decimal.digits port.toNat) =
        .ok (⟨"", "", some host, some port.toNat⟩, []) := by
  obtain ⟨host, hread, hwrite⟩ := readHost_plain special h
  have huser : readUser [] = ("", "") := by decide
  refine ⟨host, hwrite, ?_⟩
  unfold readHostAndPort
  rw [huser]
  simp only [takeHost_plain special h, hread]
  rw [List.head?_cons, if_pos rfl, List.tail_cons, readPort_digits]
  rfl

theorem readAuthority_plain (special : Bool) {cs : List Char} (h : PlainHost cs) (port : UInt16) :
    ∃ host : Host, host.write = String.ofList cs ∧
      readAuthority special (cs ++ ':' :: Decimal.digits port.toNat) =
        .ok (⟨"", "", some host, some port.toNat⟩, []) := by
  have hno : Text.splitLast? (· == '@') ((cs ++ ':' :: Decimal.digits port.toNat).takeWhile
      fun c => !endsAuthority special c) = none := by
    apply Text.splitLast?_eq_none
    intro c hc
    obtain ⟨hchar, hslash⟩ := hostPort_chars h port c ((List.takeWhile_prefix _).subset hc)
    exact isAddressChar_of_all (P := fun c => (c == '@') = false) (by decide +kernel) hchar
  rw [readAuthority_eq, hno]
  exact readHostAndPort_plain special h port

theorem address_eq (r : Route) :
    r.address = r.protocol.toList ++ ':' :: '/' :: '/' ::
      (r.host.toList ++ ':' :: Decimal.digits r.port.toNat) := by
  simp [Route.address]

theorem address_chars {r : Route} (h : r.Addressable) : ∀ c ∈ r.address, isAddressChar c = true := by
  intro c hc
  rw [address_eq] at hc
  simp only [List.mem_append, List.mem_cons] at hc
  rcases hc with hc | rfl | rfl | rfl | hc
  · have hplain := Idna.isPlainChar_letter (h.protocol_letters c hc)
    simp [isAddressChar, hplain]
  · decide
  · decide
  · decide
  · exact (hostPort_chars h.host r.port c (by simpa using hc)).1

/-- What the address of a route is read as; a port that the protocol implies is left out. -/
structure Addresses (u : Url) (r : Route) : Prop where
  scheme : u.scheme = r.protocol
  host : u.host.map Host.write = some r.host
  port : u.port = if some r.port.toNat = defaultPort? r.protocol then none else some r.port.toNat

theorem readAfterSlashes_plain (special : Bool) {r : Route} (h : PlainHost r.host.toList) :
    ∃ u, readAfterSlashes r.protocol special (r.host.toList ++ ':' :: Decimal.digits r.port.toNat) =
      .ok u ∧ u.Addresses r := by
  obtain ⟨host, hwrite, hauthority⟩ := readAuthority_plain special h r.port
  have hhost : some host.write = some r.host := by rw [hwrite, String.ofList_toList]
  unfold readAfterSlashes
  rw [hauthority]
  exact ⟨_, rfl, rfl, hhost, rfl⟩

/-- Whatever the case of its scheme, and whatever does not count in its text, an address is read. -/
theorem parse_of_significant {s : String} {word : List Char} {r : Route}
    (hword : isSchemeWord word = true)
    (hprotocol : Text.asciiLowercase (String.ofList word) = r.protocol)
    (hfile : r.protocol ≠ "file") (hhost : PlainHost r.host.toList)
    (hs : significant s = word ++ ':' :: '/' :: '/' ::
      (r.host.toList ++ ':' :: Decimal.digits r.port.toNat)) :
    ∃ u, parse s = .ok u ∧ u.Addresses r := by
  have hafter := readAfterSlashes_plain (isSpecial r.protocol) hhost
  unfold parse
  rw [hs, readScheme?_of_colon (isSchemeWord_no_colon hword), if_pos hword, hprotocol]
  simp only [if_neg hfile]
  -- a well-known scheme drops the slashes before the host, any other one reads exactly two
  by_cases hspecial : isSpecial r.protocol = true
  · rw [hspecial] at hafter ⊢
    rw [if_pos rfl, dropSlashes_plain hhost]
    exact hafter
  · rw [Bool.not_eq_true] at hspecial
    rw [hspecial] at hafter ⊢
    exact hafter

theorem address_visible {r : Route} (h : r.Addressable) : ∀ c ∈ r.address, 0x20 < c.toNat :=
  fun c hc => isAddressChar_of_all (P := fun c => 0x20 < c.toNat) (by decide +kernel)
    (address_chars h c hc)

theorem parse_address {r : Route} (h : r.Addressable) :
    ∃ u, parse (String.ofList r.address) = .ok u ∧ u.Addresses r := by
  obtain ⟨hword, hlower⟩ := isSchemeWord_letters h.protocol_nonempty h.protocol_letters
  refine parse_of_significant hword ?_ h.protocol_ne_file h.host ?_
  · rw [String.ofList_toList, hlower]
  · rw [significant_visible (address_visible h), address_eq]

end Url

namespace RouteList

/-! ## Looking for a port -/

theorem afterLast_of_none {p : Char → Bool} {cs : List Char} (h : ∀ c ∈ cs, p c = false) :
    afterLast p cs = cs := by
  unfold afterLast
  rw [Text.splitLast?_eq_none h]

theorem afterLast_suffix (p : Char → Bool) (cs : List Char) : afterLast p cs <:+ cs := by
  unfold afterLast
  rcases hsplit : Text.splitLast? p cs with _ | ⟨before, after⟩
  · exact List.suffix_rfl
  · obtain ⟨x, -, rfl⟩ := Text.splitLast?_eq_some hsplit
    exact ⟨before ++ [x], by simp⟩

theorem afterLast_append {p : Char → Bool} {ds : List Char} (h : ∀ d ∈ ds, p d = false)
    (cs : List Char) : afterLast p (cs ++ ds) = afterLast p cs ++ ds := by
  unfold afterLast
  rw [Text.splitLast?_append_of_none h]
  rcases Text.splitLast? p cs with _ | ⟨before, after⟩
  · rfl
  · rfl

/-- Whether a host with what follows it ends in a port of digits. -/
def endsInPort (hostAndPort : List Char) : Bool :=
  match Text.splitLast? (· == ':') (afterLast (· == ']') hostAndPort) with
  | some (_, port) => !port.isEmpty && port.all Text.isDigit
  | none => false

theorem spellsPort_eq (url : List Char) :
    spellsPort url =
      match Text.splitAtMark? "://".toList url with
      | none => false
      | some (_, rest) =>
        endsInPort (afterLast (· == '@')
          (rest.takeWhile fun c => !(c == '/' || c == '?' || c == '#'))) := by
  rfl

theorem endsInPort_of_none {cs : List Char} (h : ∀ c ∈ cs, (c == ':') = false) :
    endsInPort cs = false := by
  have hnone : Text.splitLast? (· == ':') (afterLast (· == ']') cs) = none :=
    Text.splitLast?_eq_none fun c hc => h c ((afterLast_suffix _ cs).subset hc)
  unfold endsInPort
  rw [hnone]

theorem endsInPort_brackets (inner : List Char) : endsInPort ('[' :: inner ++ [']']) = false := by
  have hlast : afterLast (· == ']') ('[' :: inner ++ [']']) = [] := by
    unfold afterLast
    rw [Text.splitLast?_of_last (by simp) rfl]
  unfold endsInPort
  rw [hlast]
  rfl

/-- Digits after a colon are a port. -/
theorem endsInPort_colon (host : List Char) {port : List Char} (h : port.all Text.isDigit = true) :
    endsInPort (host ++ ':' :: port) = !port.isEmpty := by
  have hdigit : ∀ c, Text.isDigit c = true → (c == ']') = false ∧ (c == ':') = false := by
    intro c hc
    refine Url.Idna.isPlainChar_of_all (P := fun c => (c == ']') = false ∧ (c == ':') = false)
      (by decide +kernel) (Url.Idna.isPlainChar_digit hc)
  have hport := List.all_eq_true.mp h
  have hclosing : ∀ c ∈ ':' :: port, (c == ']') = false := by
    intro c hc
    rcases List.mem_cons.mp hc with rfl | hc
    · rfl
    · exact (hdigit c (hport c hc)).1
  unfold endsInPort
  rw [afterLast_append hclosing,
    Text.splitLast?_of_last (fun c hc => (hdigit c (hport c hc)).2) rfl]
  simp only [h, Bool.and_true]

/-- The scheme of an address does not count when its port is looked for. -/
theorem spellsPort_after {scheme : List Char} (h : ':' ∉ scheme) (body : List Char) :
    spellsPort (scheme ++ "://".toList ++ body) =
      endsInPort (afterLast (· == '@')
        (body.takeWhile fun c => !(c == '/' || c == '?' || c == '#'))) := by
  have hmark : Text.splitAtMark? "://".toList (scheme ++ "://".toList ++ body) =
      some (scheme, body) := by
    rw [List.append_assoc]
    exact Text.splitAtMark?_of_first ['/', '/'] (fun c hc => ne_of_mem_of_not_mem hc h) body
  rw [spellsPort_eq, hmark]

/-- The address of a route spells out its port. -/
theorem spellsPort_address {r : Route} (h : r.Addressable) : spellsPort r.address = true := by
  have hcolon : ':' ∉ r.protocol.toList := by
    intro hmem
    exact absurd (h.protocol_letters ':' hmem) (by decide)
  -- neither the end of the authority nor a mark before the host occurs behind the slashes
  have hall : ∀ c ∈ r.host.toList ++ ':' :: Decimal.digits r.port.toNat,
      (!(c == '/' || c == '?' || c == '#')) = true ∧ (c == '@') = false := by
    intro c hc
    obtain ⟨hchar, hslash⟩ := Url.hostPort_chars h.host r.port c hc
    exact isAddressChar_of_all (P := fun c => c ≠ '/' →
      (!(c == '/' || c == '?' || c == '#')) = true ∧ (c == '@') = false)
      (by decide +kernel) hchar hslash
  have haddress : r.address = r.protocol.toList ++ "://".toList ++
      (r.host.toList ++ ':' :: Decimal.digits r.port.toNat) := by
    simp [Route.address]
  rw [haddress, spellsPort_after hcolon, List.takeWhile_eq_self_iff.mpr fun c hc => (hall c hc).1,
    afterLast_of_none fun c hc => (hall c hc).2,
    endsInPort_colon _ (Decimal.decimalValue_digits r.port.toNat).1]
  simpa using Decimal.digits_ne_nil r.port.toNat

/-- A port that the protocol implies counts, since the address spells it out. -/
theorem port?_address {r : Route} (h : r.Addressable) {u : Url} (hu : u.Addresses r) :
    port? u r.address = some r.port.toNat := by
  have hport := hu.port
  unfold port?
  by_cases hdefault : some r.port.toNat = Url.defaultPort? r.protocol
  · rw [if_pos hdefault] at hport
    simp only [hport, spellsPort_address h, Url.effectivePort?, hu.scheme, ← hdefault]
    rfl
  · rw [if_neg hdefault] at hport
    simp only [hport]

/-! ## Reading an entry -/

/-- An entry is cut at the dot behind a name without dots. -/
theorem splitFirst?_entry {name : List Char} (h : '.' ∉ name) (text : List Char) :
    Text.splitFirst? (· == '.') (String.ofList (name ++ '.' :: text)).toList = some (name, text) := by
  rw [String.toList_ofList]
  exact Text.splitFirst?_of_notMem h text

/-- An entry whose address is read is one of a route if a port counts. -/
theorem readEntry_of_parse {name text : List Char} {url : Url} {host : String}
    (hdot : '.' ∉ name) (hname : Text.trim (String.ofList name) ≠ "")
    (hparse : Url.parse (String.ofList text) = .ok url)
    (hhost : url.host.map Url.Host.write = some host) (hempty : host ≠ "") :
    readEntry (String.ofList (name ++ '.' :: text)) =
      match port? url text with
      | none => .error (.badRoute (String.ofList (name ++ '.' :: text)) .noPort)
      | some port =>
        .ok ⟨Text.trim (String.ofList name), url.scheme, host, UInt16.ofNat port⟩ := by
  have hkept : (some host).filter (!·.isEmpty) = some host :=
    Option.filter_some_pos (by simpa using hempty)
  unfold readEntry
  simp only [splitFirst?_entry hdot, hparse, hhost, hkept]
  exact if_neg (by simpa using hname)

theorem readEntry_listed {r : Route} (h : r.Listable) : readEntry r.listed = .ok r := by
  obtain ⟨u, hparse, hu⟩ := Url.parse_address h.addressable
  have hname : Text.trim (String.ofList r.name.toList) = r.name := by
    unfold Text.trim
    rw [String.toList_ofList, Text.dropBothWhile_of_ends h.name_first h.name_last,
      String.ofList_toList]
  -- a host has dots too, but the first dot is the one after the name
  have hdot : '.' ∉ r.name.toList := fun hmem => (h.name_chars '.' hmem).2 rfl
  have hempty : r.host ≠ "" := fun hnil =>
    h.host.nonempty (String.toList_eq_nil_iff.mpr hnil)
  unfold Route.listed
  rw [readEntry_of_parse hdot (by rw [hname]; exact h.name_nonempty) hparse hu.host hempty,
    port?_address h.addressable hu]
  simp only [hname, hu.scheme, UInt16.ofNat_toNat]

/-! ## Reading a list -/

/-- Routes with their names. -/
def byName (routes : List Route) : List (String × Route) :=
  routes.map fun r => (r.name, r)

theorem readEntries_listed (before : Routes) {routes : List Route} (h : ∀ r ∈ routes, r.Listable) :
    readEntries before (routes.map Route.listed) = .ok (before.insertAllNew (byName routes)) := by
  induction routes generalizing before with
  | nil => rfl
  | cons r rest ih =>
    have hrest := ih (before.insertNew r.name r) fun s hs => h s (List.mem_cons_of_mem r hs)
    rw [List.map_cons, readEntries, readEntry_listed (h r List.mem_cons_self)]
    exact hrest

theorem lookup_byName {routes : List Route} (hnames : (routes.map Route.name).Nodup) (key : String)
    (r : Route) : (byName routes).lookup key = some r ↔ r ∈ routes ∧ r.name = key := by
  unfold byName
  induction routes with
  | nil => simp
  | cons s rest ih =>
    rw [List.map_cons, List.nodup_cons] at hnames
    rw [List.map_cons, List.lookup_cons, List.mem_cons]
    by_cases hkey : key = s.name
    · -- no other route has the name
      have hother : r ∈ rest → r.name ≠ key := by
        rintro hr hname
        rw [← hkey, ← hname] at hnames
        exact hnames.1 (List.mem_map_of_mem hr)
      rw [hkey, beq_self_eq_true]
      constructor
      · intro hsame
        obtain rfl : s = r := Option.some.inj hsame
        exact ⟨.inl rfl, rfl⟩
      · rintro ⟨rfl | hr, hname⟩
        · rfl
        · exact absurd (hname.trans hkey.symm) (hother hr)
    · rw [beq_eq_false_iff_ne.mpr hkey]
      refine (ih hnames.2).trans (and_congr_left fun hname => ?_)
      have hne : r ≠ s := by
        rintro rfl
        exact hkey hname.symm
      simp [hne]

/-! ## Places in a list -/

theorem Slot.text_toList (slot : Slot) : slot.text.toList =
    slot.before.toList ++ ((slot.route.map Route.listed).getD "").toList ++ slot.after.toList := by
  unfold Slot.text
  rw [String.toList_append, String.toList_append]

theorem listed_toList (r : Route) : r.listed.toList = r.name.toList ++ '.' :: r.address :=
  String.toList_ofList

theorem listed_ends {r : Route} (hname : r.name ≠ "")
    (hfirst : ∀ c, r.name.toList.head? = some c → Text.isBlank c = false) (h : r.Addressable) :
    Text.dropBothWhile Text.isBlank r.listed.toList = r.listed.toList := by
  have hvisible : ∀ c ∈ '.' :: r.address, Text.isBlank c = false := by
    intro c hc
    rcases List.mem_cons.mp hc with rfl | hc
    · decide
    · exact isAddressChar_of_all (P := fun c => Text.isBlank c = false) (by decide +kernel)
        (Url.address_chars h c hc)
  obtain ⟨first, rest, hcs⟩ :=
    List.exists_cons_of_ne_nil fun hnil => hname (String.toList_eq_nil_iff.mp hnil)
  rw [listed_toList]
  apply Text.dropBothWhile_of_ends
  · intro c hc
    rw [hcs, List.cons_append, List.head?_cons] at hc
    apply hfirst
    rw [hcs, List.head?_cons, hc]
  · intro c hc
    rw [List.getLast?_append_of_ne_nil _ (List.cons_ne_nil _ _)] at hc
    exact hvisible c (List.mem_of_getLast? hc)

theorem listed_chars {r : Route} (hname : ',' ∉ r.name.toList) (h : r.Addressable) :
    ∀ c ∈ r.listed.toList, (c == ',') = false := by
  intro c hc
  rw [listed_toList, List.mem_append, List.mem_cons] at hc
  rcases hc with hc | rfl | hc
  · exact beq_eq_false_iff_ne.mpr (ne_of_mem_of_not_mem hc hname)
  · decide
  · exact isAddressChar_of_all (P := fun c => (c == ',') = false) (by decide +kernel)
      (Url.address_chars h c hc)

/-- A place is trimmed to its entry. -/
theorem Slot.trimmed (slot : Slot) : Text.dropBothWhile Text.isBlank slot.text.toList =
    ((slot.route.map Route.listed).getD "").toList := by
  rw [slot.text_toList, Text.dropBothWhile_around (List.all_eq_true.mp slot.blank_before)
    (List.all_eq_true.mp slot.blank_after)]
  rcases hroute : slot.route with _ | r
  · rfl
  · have hlistable := slot.listable r hroute
    exact listed_ends hlistable.name_nonempty hlistable.name_first hlistable.addressable

theorem Slot.chars (slot : Slot) : ∀ c ∈ slot.text.toList, (c == ',') = false := by
  have hblank : ∀ c, Text.isBlank c = true → (c == ',') = false := by
    intro c hc
    rw [beq_eq_false_iff_ne]
    rintro rfl
    exact absurd hc (by decide)
  intro c hc
  rw [slot.text_toList, List.mem_append, List.mem_append] at hc
  rcases hc with (hc | hc) | hc
  · exact hblank c (List.all_eq_true.mp slot.blank_before c hc)
  · rcases hroute : slot.route with _ | r
    · simp [hroute] at hc
    · rw [hroute] at hc
      have hlistable := slot.listable r hroute
      exact listed_chars (fun hmem => (hlistable.name_chars ',' hmem).1 rfl) hlistable.addressable c hc
  · exact hblank c (List.all_eq_true.mp slot.blank_after c hc)

theorem splitWhere_textOf {slots : List Slot} (hne : slots ≠ []) :
    Text.splitWhere (· == ',') (textOf slots).toList = slots.map fun slot => slot.text.toList := by
  have htext : (textOf slots).toList = [','].intercalate (slots.map fun slot => slot.text.toList) := by
    unfold textOf
    rw [String.toList_intercalate, List.map_map]
    rfl
  rw [htext]
  apply Text.splitWhere_intercalate rfl (by simpa using hne)
  intro part hpart
  obtain ⟨slot, -, rfl⟩ := List.mem_map.mp hpart
  exact slot.chars

theorem commaItems_textOf (slots : List Slot) :
    Text.commaItems (textOf slots) = (routesOf slots).map Route.listed := by
  by_cases hne : slots = []
  · rw [hne]
    decide
  · unfold Text.commaItems routesOf
    rw [splitWhere_textOf hne, List.map_map, List.filterMap_map, List.map_filterMap]
    apply List.filterMap_congr
    intro slot _
    rw [Function.comp_apply, Function.comp_apply, slot.trimmed]
    -- without a route nothing is left of the place, and it is no item
    rcases hroute : slot.route with _ | r
    · rfl
    · rw [Option.map_some, Option.getD_some, String.ofList_toList, listed_toList]
      simp

/-- A text without commas, and with no blank around it, is a list of one item. -/
theorem commaItems_single {cs : List Char} (hne : cs ≠ []) (hcomma : ∀ c ∈ cs, (c == ',') = false)
    (hends : Text.dropBothWhile Text.isBlank cs = cs) :
    Text.commaItems (String.ofList cs) = [String.ofList cs] := by
  have hitem : (if cs.isEmpty then none else some (String.ofList cs)) = some (String.ofList cs) :=
    if_neg (by simpa using hne)
  unfold Text.commaItems
  rw [String.toList_ofList, Text.splitWhere_of_none hcomma, List.map_singleton, hends]
  simp only [List.filterMap_cons, hitem, List.filterMap_nil]

/-- A list of routes is read back: under each name the map has the route with that name, and nothing
else. -/
theorem read_textOf (slots : List Slot) (hnames : ((routesOf slots).map Route.name).Nodup) :
    ∃ m, read (textOf slots) = .ok m ∧
      ∀ key r, m.get? key = some r ↔ r ∈ routesOf slots ∧ r.name = key := by
  have hlistable : ∀ r ∈ routesOf slots, r.Listable := by
    intro r hr
    obtain ⟨slot, -, hslot⟩ := List.mem_filterMap.mp hr
    exact slot.listable r hslot
  refine ⟨NameMap.empty.insertAllNew (byName (routesOf slots)), ?_, ?_⟩
  · unfold read
    rw [commaItems_textOf, readEntries_listed .empty hlistable]
  · intro key r
    have hempty : NameMap.empty.get? key = (none : Option Route) := rfl
    rw [NameMap.get?_insertAllNew, hempty, Option.none_or, lookup_byName hnames]

/-- A route with the port that its protocol implies. -/
def webRoute : Route :=
  { name := "my app", protocol := "http", host := "edgex-myapp", port := 80 }

/-- A route to an address, at the port zero. -/
def rawRoute : Route :=
  { name := "raw", protocol := "tcp", host := "10.0.0.4", port := 0 }

theorem webRoute_listable : webRoute.Listable where
  name_nonempty := by decide
  name_first := by simp [webRoute, Text.isBlank]
  name_last := by simp [webRoute, Text.isBlank]
  name_chars := by simp [webRoute]
  protocol_nonempty := by decide
  protocol_letters := by simp [webRoute]
  protocol_ne_file := by decide
  host := by
    have hlabel : Url.Idna.PlainLabel ('e' :: "dgex-myapp".toList) :=
      ⟨by decide, List.all_eq_true.mp (by decide), by decide⟩
    exact Url.PlainHost.name [] 'e' "dgex-myapp".toList (by simpa using hlabel) (by decide)

theorem rawRoute_listable : rawRoute.Listable where
  name_nonempty := by decide
  name_first := by simp [rawRoute, Text.isBlank]
  name_last := by simp [rawRoute, Text.isBlank]
  name_chars := by simp [rawRoute]
  protocol_nonempty := by decide
  protocol_letters := by simp [rawRoute]
  protocol_ne_file := by decide
  host := by
    have haddress : Url.Idna.plainName (Url.octets 10 0 0 4) = "10.0.0.4".toList := by
      have hten : Decimal.digits 10 = ['1', '0'] := by simp [Decimal.digits, Text.hexDigit]
      have hzero : Decimal.digits 0 = ['0'] := by simp [Decimal.digits, Text.hexDigit]
      have hfour : Decimal.digits 4 = ['4'] := by simp [Decimal.digits, Text.hexDigit]
      change Url.Idna.plainName
        [Decimal.digits 10, Decimal.digits 0, Decimal.digits 0, Decimal.digits 4] = _
      rw [hten, hzero, hfour]
      decide
    have hhost := Url.PlainHost.address 10 0 0 4
    rw [haddress] at hhost
    exact hhost

theorem webRoute_listed : webRoute.listed = "my app.http://edgex-myapp:80" := by
  have hport : Decimal.digits webRoute.port.toNat = ['8', '0'] := by
    change Decimal.digits 80 = _
    simp [Decimal.digits, Text.hexDigit]
  unfold Route.listed Route.address
  rw [hport]
  rfl

theorem rawRoute_listed : rawRoute.listed = "raw.tcp://10.0.0.4:0" := by
  have hport : Decimal.digits rawRoute.port.toNat = ['0'] := by
    change Decimal.digits 0 = _
    simp [Decimal.digits, Text.hexDigit]
  unfold Route.listed Route.address
  rw [hport]
  rfl

/-- Two routes with blanks around them and a blank entry in between. -/
def mixedSlots : List Slot :=
  [⟨" ", some webRoute, "\t", by decide, by decide, by simp [webRoute_listable]⟩,
    ⟨"", none, "  ", by decide, by decide, by simp⟩,
    ⟨"\n", some rawRoute, "", by decide, by decide, by simp [rawRoute_listable]⟩]

theorem read_mixed :
    textOf mixedSlots = " my app.http://edgex-myapp:80\t,  ,\nraw.tcp://10.0.0.4:0" ∧
      ((routesOf mixedSlots).map Route.name).Nodup ∧
      ∃ m, read (textOf mixedSlots) = .ok m ∧
        ∀ key r, m.get? key = some r ↔ r ∈ [webRoute, rawRoute] ∧ r.name = key := by
  have hnames : ((routesOf mixedSlots).map Route.name).Nodup := by decide
  refine ⟨?_, hnames, read_textOf mixedSlots hnames⟩
  simp [textOf, mixedSlots, Slot.text, webRoute_listed, rawRoute_listed]

end RouteList

end GatewayProvisioning
