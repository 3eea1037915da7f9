import GatewayProvisioning.Gateway.RouteList
import GatewayProvisioning.Proofs.BarredHosts
import GatewayProvisioning.Proofs.RouteText

/-!
# Ports that are written

Two readers look for the port of an address: one reads the address, the other one scans its text for
a port that the first has left out because the scheme implies it. Where the text stands as it is read
they agree, since no host holds a colon outside brackets.
-/

namespace GatewayProvisioning

namespace Url

open RouteList (afterLast endsInPort)

/-- What follows an authority: nothing, or a text that begins with the end of it. -/
def Follows (special : Bool) (after : List Char) : Prop :=
  ∀ c, after.head? = some c → endsAuthority special c = true

theorem follows_dropWhile (special : Bool) (cs : List Char) :
    Follows special (cs.dropWhile fun c => !endsAuthority special c) := by
  intro c hc
  simpa using Text.not_of_head?_dropWhile hc

/-- A host is followed by its port or by nothing. -/
theorem takeHost_split (special : Bool) {cs : List Char}
    (hcs : ∀ c ∈ cs, endsAuthority special c = false) {after : List Char}
    (hafter : Follows special after) (inside : Bool) :
    ∃ host tail, takeHost special inside (cs ++ after) = (host, tail ++ after) ∧ cs = host ++ tail ∧
      (tail = [] ∨ ∃ port, tail = ':' :: port) := by
  induction cs generalizing inside with
  | nil =>
    refine ⟨[], [], ?_, rfl, .inl rfl⟩
    cases after with
    | nil => rfl
    | cons c after =>
      have hc := hafter c rfl
      rw [List.nil_append, takeHost, hc]
      rfl
  | cons c cs ih =>
    have hc := hcs c List.mem_cons_self
    rw [List.cons_append, takeHost, hc]
    by_cases hstop : (c == ':' && !inside) = true
    · rw [hstop]
      obtain ⟨hcolon, -⟩ := Bool.and_eq_true_iff.mp hstop
      exact ⟨[], c :: cs, rfl, rfl, .inr ⟨cs, by rw [eq_of_beq hcolon]⟩⟩
    · rw [Bool.not_eq_true] at hstop
      rw [hstop]
      obtain ⟨host, tail, htake, hsplit, htail⟩ :=
        ih (fun d hd => hcs d (List.mem_cons_of_mem c hd))
          (if c == '[' then true else if c == ']' then false else inside)
      refine ⟨c :: host, tail, ?_, by rw [hsplit]; rfl, htail⟩
      simp only [Bool.or_false, Bool.false_eq_true, if_false, htake]

theorem isDigit_of_ends {special : Bool} {c : Char} (h : endsAuthority special c = true) :
    Text.isDigit c = false := by
  unfold endsAuthority at h
  simp only [Bool.or_eq_true, Bool.and_eq_true, beq_iff_eq] at h
  rcases h with ((rfl | rfl) | rfl) | ⟨-, rfl⟩
  all_goals rfl

/-- A port is made up of digits, for nothing else may follow a host. -/
theorem readPort_whole {port after : List Char} (hport : ∀ c ∈ port, endsAuthority true c = false)
    (hafter : Follows true after) {n : Option Nat} {rest : List Char}
    (h : readPort (port ++ after) = .ok (n, rest)) :
    port.all Text.isDigit = true ∧ n.isSome = !port.isEmpty := by
  by_cases hdigits : port.all Text.isDigit = true
  · have hall := List.all_eq_true.mp hdigits
    have hnone : after.takeWhile Text.isDigit = [] := by
      rcases after with _ | ⟨c, after⟩
      · rfl
      · exact List.takeWhile_cons_of_neg (by rw [isDigit_of_ends (hafter c rfl)]; decide)
    have htake : (port ++ after).takeWhile Text.isDigit = port := by
      rw [List.takeWhile_append_of_pos hall, hnone, List.append_nil]
    unfold readPort at h
    simp only [htake] at h
    split at h
    · cases h
    · split at h
      · cases h
      · obtain ⟨rfl, -⟩ := Prod.mk.inj (Except.ok.inj h)
        refine ⟨hdigits, ?_⟩
        cases port <;> rfl
  · -- the first character that is no digit would have to end the authority
    obtain ⟨c, left, hleft⟩ : ∃ c left, port.dropWhile Text.isDigit = c :: left := by
      apply List.exists_cons_of_ne_nil
      rw [Ne, List.dropWhile_eq_nil_iff]
      simpa using hdigits
    have hc : endsAuthority true c = false := by
      apply hport c
      apply (List.dropWhile_suffix Text.isDigit).subset
      rw [hleft]
      exact List.mem_cons_self
    unfold readPort at h
    simp only [Text.dropWhile_append_of_mem (by simpa using hdigits), hleft, List.cons_append,
      List.head?_cons, Option.any_some, hc] at h
    split at h
    · cases h
    · cases h

/-- The host of a well-known scheme is never left out. -/
theorem readHost_special {cs : List Char} {found : Option Host} (h : readHost true cs = .ok found) :
    ∃ host, found = some host ∧ Host.ofSpecial cs = .ok host := by
  unfold readHost at h
  rw [if_pos rfl] at h
  split at h
  · cases h
  · rcases hhost : Host.ofSpecial cs with fault | host
    · rw [hhost] at h
      cases h
    · rw [hhost] at h
      cases h
      exact ⟨host, rfl, rfl⟩

/-- A host alone spells out no port. -/
theorem endsInPort_host {cs : List Char} {host : Host} (h : Host.ofSpecial cs = .ok host) :
    endsInPort cs = false := by
  by_cases hcolon : ':' ∈ cs
  · obtain ⟨inner, rfl⟩ := ofSpecial_barred (by decide) hcolon h
    exact RouteList.endsInPort_brackets inner
  · apply RouteList.endsInPort_of_none
    rintro c hc
    rw [beq_eq_false_iff_ne]
    rintro rfl
    exact hcolon hc

/-- Host and port together spell out a port exactly if one is read. -/
theorem readHostAndPort_port {user hostAndPort after : List Char}
    (hcs : ∀ c ∈ hostAndPort, endsAuthority true c = false) (hafter : Follows true after)
    {authority : Authority} {rest : List Char}
    (h : readHostAndPort true user (hostAndPort ++ after) = .ok (authority, rest)) :
    endsInPort hostAndPort = authority.port.isSome := by
  obtain ⟨cs, tail, htake, rfl, htail⟩ := takeHost_split true hcs hafter false
  unfold readHostAndPort at h
  simp only [htake] at h
  rcases hread : readHost true cs with fault | found
  · rw [hread] at h
    cases h
  obtain ⟨host, rfl, hhost⟩ := readHost_special hread
  rw [hread] at h
  simp only [Option.isNone_some] at h
  rcases htail with rfl | ⟨port, rfl⟩
  · have hend : after.head? ≠ some ':' := fun hcolon => absurd (hafter ':' hcolon) (by decide)
    rw [List.nil_append, if_neg hend] at h
    cases h
    rw [List.append_nil]
    exact endsInPort_host hhost
  · rw [List.cons_append, List.head?_cons, if_pos rfl, List.tail_cons] at h
    rcases hport : readPort (port ++ after) with fault | ⟨n, left⟩
    · rw [hport] at h
      cases h
    obtain ⟨hdigits, hsome⟩ := readPort_whole
      (fun c hc => hcs c (List.mem_append_right cs (List.mem_cons_of_mem ':' hc))) hafter hport
    rw [hport] at h
    cases h
    rw [RouteList.endsInPort_colon cs hdigits, hsome]

/-- An authority spells out a port exactly if one is read. -/
theorem readAuthority_port {cs : List Char} {authority : Authority} {rest : List Char}
    (h : readAuthority true cs = .ok (authority, rest)) :
    endsInPort (afterLast (· == '@') (cs.takeWhile fun c => !endsAuthority true c)) =
      authority.port.isSome := by
  have hafter := follows_dropWhile true cs
  have hinside : ∀ c ∈ cs.takeWhile fun c => !endsAuthority true c, endsAuthority true c = false := by
    intro c hc
    simpa using List.all_eq_true.mp List.all_takeWhile c hc
  have hwhole := List.takeWhile_append_dropWhile (p := fun c => !endsAuthority true c) (l := cs)
  rw [readAuthority_eq] at h
  unfold afterLast
  rcases hsplit : Text.splitLast? (· == '@') (cs.takeWhile fun c => !endsAuthority true c) with
    _ | ⟨user, hostAndPort⟩
  · rw [hsplit] at h
    simp only at h
    rw [← hwhole] at h
    exact readHostAndPort_port hinside hafter h
  · rw [hsplit] at h
    obtain ⟨mark, -, hauthority⟩ := Text.splitLast?_eq_some hsplit
    refine readHostAndPort_port (fun c hc => hinside c ?_) hafter h
    rw [hauthority]
    exact List.mem_append_right user (List.mem_cons_of_mem mark hc)

/-! ## Sixteen bits -/

theorem readPort_lt {cs rest : List Char} {n : Nat} (h : readPort cs = .ok (some n, rest)) :
    n < UInt16.size := by
  unfold readPort at h
  simp only at h
  split at h
  · cases h
  · rename_i hsmall
    split at h
    · cases h
    · obtain ⟨hn, -⟩ := Prod.mk.inj (Except.ok.inj h)
      split at hn
      · cases hn
      · rw [← Option.some.inj hn]
        exact Nat.lt_of_le_of_lt (Nat.not_lt.mp hsmall) (by decide)

theorem readAuthority_port_lt {special : Bool} {cs rest : List Char} {authority : Authority}
    (h : readAuthority special cs = .ok (authority, rest)) {n : Nat}
    (hn : authority.port = some n) : n < UInt16.size := by
  have hhost : ∀ user cs, readHostAndPort special user cs = .ok (authority, rest) →
      n < UInt16.size := by
    intro user cs h
    unfold readHostAndPort at h
    simp only at h
    split at h
    · cases h
    · split at h
      · split at h
        · cases h
        · rcases hport : readPort (takeHost special false cs).2.tail with fault | ⟨port, left⟩
          · rw [hport] at h
            cases h
          · rw [hport] at h
            cases h
            have hsome : port = some n := hn
            rw [hsome] at hport
            exact readPort_lt hport
      · split at h
        · cases h
        · cases h
          cases hn
  rw [readAuthority_eq] at h
  split at h
  · exact hhost _ _ h
  · exact hhost _ _ h

theorem readAfterSlashes_port_lt {scheme : String} {special : Bool} {cs : List Char} {u : Url}
    (h : readAfterSlashes scheme special cs = .ok u) {n : Nat} (hn : u.port = some n) :
    n < UInt16.size := by
  unfold readAfterSlashes at h
  rcases hread : readAuthority special cs with fault | ⟨authority, rest⟩
  · rw [hread] at h
    cases h
  · rw [hread] at h
    rw [← Except.ok.inj h] at hn
    change (if authority.port = defaultPort? scheme then none else authority.port) = some n at hn
    split at hn
    · cases hn
    · exact readAuthority_port_lt hread hn

/-- The port of an address fits into sixteen bits. -/
theorem parse_port_lt {s : String} {u : Url} (h : parse s = .ok u) {n : Nat}
    (hn : u.port = some n) : n < UInt16.size := by
  unfold parse at h
  split at h
  · cases h
  · split at h
    · rw [(readFile_fields h).2] at hn
      cases hn
    · split at h
      · exact readAfterSlashes_port_lt h hn
      · unfold readOther at h
        split at h
        · exact readAfterSlashes_port_lt h hn
        · cases h
          cases hn
        · cases h
          cases hn

theorem defaultPort?_lt {scheme : String} {n : Nat} (h : defaultPort? scheme = some n) :
    n < UInt16.size := by
  unfold defaultPort? at h
  split at h
  · cases h
    decide
  · split at h
    · cases h
      decide
    · split at h
      · cases h
        decide
      · cases h

/-! ## Addresses of the web -/

/-- Whether a character counts as a slash after a scheme of the web. -/
def isSlash (c : Char) : Bool :=
  c == '/' || c == '\\'

/-- A character with a slash in place of a backslash. -/
def toSlash (c : Char) : Char :=
  if c = '\\' then '/' else c

/-- The port that the text of an address spells out, where its authority is taken as it is read. -/
def writtenPort? (s : String) : Option Nat :=
  match readScheme? (significant s) with
  | none => none
  | some (_, rest) =>
    match readAuthority true (rest.dropWhile isSlash) with
    | .error _ => none
    | .ok (authority, _) => authority.port

/-- The text of an address with nothing in it that does not count: no blank around it, two slashes
after the scheme, and no backslash for a slash. -/
def asRead (s : String) : List Char :=
  match readScheme? (significant s) with
  | none => s.toList
  | some (scheme, rest) =>
    scheme.toList ++ "://".toList ++ (rest.dropWhile isSlash).map toSlash

/-- A text of an address that stands as it is read: every character counts, and between the scheme and
its authority are two slashes. -/
structure PlainlyWritten (text : List Char) : Prop where
  counts : significant (String.ofList text) = text
  no_backslash : '\\' ∉ text
  slashes : ∃ scheme rest, text = scheme ++ "://".toList ++ rest ∧ ':' ∉ scheme ∧
    rest.head? ≠ some '/'

/-- What is known of the address of a scheme that implies a port. -/
theorem parse_web {s : String} {u : Url} (h : parse s = .ok u)
    (hscheme : defaultPort? u.scheme ≠ none) :
    ∃ rest authority left, readScheme? (significant s) = some (u.scheme, rest) ∧
      readAuthority true (rest.dropWhile isSlash) = .ok (authority, left) ∧
      u.port = if authority.port = defaultPort? u.scheme then none else authority.port := by
  unfold parse at h
  rcases hread : readScheme? (significant s) with _ | ⟨scheme, rest⟩
  · rw [hread] at h
    cases h
  rw [hread] at h
  simp only at h
  by_cases hfile : scheme = "file"
  · rw [if_pos hfile] at h
    rw [(readFile_fields h).1] at hscheme
    exact absurd rfl hscheme
  rw [if_neg hfile] at h
  by_cases hspecial : isSpecial scheme = true
  · rw [if_pos hspecial] at h
    obtain rfl := readAfterSlashes_scheme h
    unfold readAfterSlashes at h
    change (readAuthority true (rest.dropWhile isSlash) >>= _) = _ at h
    rcases hauthority : readAuthority true (rest.dropWhile isSlash) with fault | ⟨authority, left⟩
    · rw [hauthority] at h
      cases h
    · rw [hauthority] at h
      refine ⟨rest, authority, left, rfl, hauthority, ?_⟩
      rw [← Except.ok.inj h]
      rfl
  · rw [if_neg hspecial] at h
    obtain rfl := readOther_scheme h
    unfold isSpecial at hspecial
    simp [hscheme] at hspecial

end Url

namespace RouteList

open Url (endsAuthority isSlash toSlash writtenPort? asRead PlainlyWritten)

/-- With slashes for backslashes, an authority ends where the reader of addresses takes it to end. -/
theorem takeWhile_toSlash (body : List Char) :
    (body.map toSlash).takeWhile (fun c => !(c == '/' || c == '?' || c == '#')) =
      body.takeWhile fun c => !endsAuthority true c := by
  induction body with
  | nil => rfl
  | cons c body ih =>
    rw [List.map_cons, List.takeWhile_cons, List.takeWhile_cons, ih]
    by_cases hc : c = '\\'
    · rw [hc]
      rfl
    · have hkept : toSlash c = c := if_neg hc
      rw [hkept]
      simp [endsAuthority, hc]

/-- In the text of an address as it is read, a port is found exactly if it is written. -/
theorem spellsPort_asRead {s : String} {u : Url} (h : Url.parse s = .ok u)
    (hscheme : Url.defaultPort? u.scheme ≠ none) :
    spellsPort (asRead s) = (writtenPort? s).isSome := by
  obtain ⟨rest, authority, left, hread, hauthority, -⟩ := Url.parse_web h hscheme
  unfold asRead writtenPort?
  rw [hread]
  simp only [hauthority]
  rw [spellsPort_after (Url.readScheme?_colon hread).1, takeWhile_toSlash]
  exact Url.readAuthority_port hauthority

/-- A text that stands as it is read spells out a port exactly if its address does. -/
theorem spellsPort_plain {text : List Char} (hplain : PlainlyWritten text) {u : Url}
    (h : Url.parse (String.ofList text) = .ok u) (hscheme : Url.defaultPort? u.scheme ≠ none) :
    spellsPort text = (writtenPort? (String.ofList text)).isSome := by
  obtain ⟨hcounts, hbackslash, scheme, body, htext, hcolon, hhead⟩ := hplain
  have hasRead := spellsPort_asRead h hscheme
  obtain ⟨rest, authority, left, hread, hauthority, -⟩ := Url.parse_web h hscheme
  -- the body of the text is what is left after the slashes
  have hsplit : Text.splitFirst? (· == ':') text = some (scheme, '/' :: '/' :: body) := by
    rw [htext, List.append_assoc]
    exact Text.splitFirst?_of_notMem hcolon _
  have hrest : '/' :: '/' :: body = rest := by
    obtain ⟨-, before, hbefore⟩ := Url.readScheme?_colon hread
    rw [hcounts, hsplit, Option.some.injEq, Prod.mk.injEq] at hbefore
    exact hbefore.2
  have hbody : rest.dropWhile isSlash = body := by
    rw [← hrest, List.dropWhile_cons_of_pos rfl, List.dropWhile_cons_of_pos rfl]
    cases body with
    | nil => rfl
    | cons c body =>
      apply List.dropWhile_cons_of_neg
      have hslash : c ≠ '/' := fun hc => hhead (by rw [hc]; rfl)
      have hback : c ≠ '\\' := fun hc => hbackslash (by rw [htext, hc]; simp)
      simp [isSlash, hslash, hback]
  have hkept : body.map toSlash = body := by
    have hone : ∀ c ∈ body, toSlash c = id c := fun c hc =>
      if_neg fun hback => hbackslash (by rw [htext, ← hback]; exact List.mem_append_right _ hc)
    rw [List.map_congr_left hone, List.map_id]
  unfold asRead at hasRead
  rw [hread] at hasRead
  simp only [hbody, hkept] at hasRead
  rw [← hasRead, htext, spellsPort_after hcolon, spellsPort_after (Url.readScheme?_colon hread).1]

/-! ## Entries of an address -/

/-- A list of one entry is the map of the route that the entry is read as. -/
theorem read_single {list entry : String} (h : Text.commaItems list = [entry]) :
    read list = (readEntry entry).map fun r => NameMap.empty.insert r.name r := by
  unfold read
  rw [h, readEntries]
  rcases readEntry entry with failure | r
  · rfl
  · rfl

/-- A list of one entry whose address is read. -/
theorem read_of_parse {list : String} {name text : List Char} {url : Url} {host : String}
    (hlist : Text.commaItems list = [String.ofList (name ++ '.' :: text)])
    (hdot : '.' ∉ name) (hname : Text.trim (String.ofList name) ≠ "")
    (hparse : Url.parse (String.ofList text) = .ok url)
    (hhost : url.host.map Url.Host.write = some host) (hempty : host ≠ "") :
    read list =
      match port? url text with
      | none => .error (.badRoute (String.ofList (name ++ '.' :: text)) .noPort)
      | some port =>
        .ok (NameMap.empty.insert (Text.trim (String.ofList name))
          ⟨Text.trim (String.ofList name), url.scheme, host, UInt16.ofNat port⟩) := by
  rw [read_single hlist, readEntry_of_parse hdot hname hparse hhost hempty]
  rcases port? url text with _ | port
  · rfl
  · rfl

/-- A list of one entry keeps to the port that the address of the entry spells out: it is read as one
route with that port, and refused for want of a port if there is none. -/
def KeepsPort (list : String) (name text : List Char) (url : Url) : Prop :=
  match writtenPort? (String.ofList text) with
  | some n => ∃ (m : Routes) (route : Route), read list = .ok m ∧ m.entries = [(route.name, route)] ∧
      route.name = Text.trim (String.ofList name) ∧ route.protocol = url.scheme ∧
      url.host.map Url.Host.write = some route.host ∧ route.port.toNat = n
  | none => read list = .error (.badRoute (String.ofList (name ++ '.' :: text)) .noPort)

section

variable {url : Url} {text : List Char} {written : Option Nat} {implied : Nat}

theorem port?_of_some {n : Nat} (h : url.port = some n) : port? url text = some n := by
  unfold port?
  rw [h]

/-- Without a port in the address the scan of the text decides whether the implied one counts. -/
theorem port?_of_none (himplied : Url.defaultPort? url.scheme = some implied)
    (h : url.port = none) : port? url text = if spellsPort text then some implied else none := by
  have heffective : url.effectivePort? = some implied := by
    unfold Url.effectivePort?
    rw [h, himplied]
    rfl
  unfold port?
  rw [h, heffective]

/-- The port that counts is the one that is written, unless the scheme implies that port or none is
written, and the scan of the text finds something else. -/
theorem port?_eq_written_iff (himplied : Url.defaultPort? url.scheme = some implied)
    (hport : url.port = if written = some implied then none else written) :
    port? url text = written ↔
      spellsPort text = written.isSome ∨ ∃ n, written = some n ∧ some implied ≠ some n := by
  rcases written with _ | n
  · rw [if_neg (by simp)] at hport
    rw [port?_of_none himplied hport]
    simp
  · by_cases hsame : some n = some implied
    · rw [if_pos hsame] at hport
      rw [port?_of_none himplied hport, ← hsame]
      simp
    · rw [if_neg hsame] at hport
      have hne : some implied ≠ some n := Ne.symm hsame
      exact ⟨fun _ => .inr ⟨n, rfl, hne⟩, fun _ => port?_of_some hport⟩

/-- The port that counts fits into sixteen bits. -/
theorem port?_lt {s : String} (hparse : Url.parse s = .ok url) {n : Nat}
    (h : port? url text = some n) : n < UInt16.size := by
  unfold port? at h
  split at h
  · rename_i hport
    cases h
    exact Url.parse_port_lt hparse hport
  · rename_i hport
    split at h
    · unfold Url.effectivePort? at h
      rw [hport] at h
      exact Url.defaultPort?_lt h
    · cases h

/-- A list of one entry keeps to the written port exactly if that is the port that counts. -/
theorem keepsPort_iff_port? {list host : String} {name : List Char}
    (hlist : Text.commaItems list = [String.ofList (name ++ '.' :: text)])
    (hdot : '.' ∉ name) (hname : Text.trim (String.ofList name) ≠ "")
    (hparse : Url.parse (String.ofList text) = .ok url)
    (hhost : url.host.map Url.Host.write = some host) (hempty : host ≠ "") :
    KeepsPort list name text url ↔ port? url text = writtenPort? (String.ofList text) := by
  unfold KeepsPort
  rw [read_of_parse hlist hdot hname hparse hhost hempty]
  rcases hport : port? url text with _ | port
  · rcases writtenPort? (String.ofList text) with _ | n
    · exact ⟨fun _ => rfl, fun _ => rfl⟩
    · refine ⟨?_, fun h => by cases h⟩
      rintro ⟨m, route, hm, -⟩
      cases hm
  · have hvalue : (UInt16.ofNat port).toNat = port := UInt16.toNat_ofNat_of_lt' (port?_lt hparse hport)
    rcases writtenPort? (String.ofList text) with _ | n
    · refine ⟨fun h => ?_, fun h => by cases h⟩
      cases h
    · constructor
      · rintro ⟨m, route, hm, hentries, -, -, -, hn⟩
        cases hm
        have hroute := (Prod.mk.inj (List.singleton_inj.mp hentries)).2
        rw [← hroute, hvalue] at hn
        rw [hn]
      · intro h
        rw [← Option.some.inj h]
        exact ⟨_, ⟨Text.trim (String.ofList name), url.scheme, host, UInt16.ofNat port⟩, rfl, rfl, rfl,
          rfl, hhost, hvalue⟩

end

/-- An entry is read with the port that its address spells out unless that port is the one that the
scheme implies, or none is written, and the scan of the text finds something else. A scan of the text
as it is read would always find what is written, so nothing is lost where the text stands so. -/
theorem keepsPort_iff {list : String} {name text : List Char} {url : Url} {host : String}
    (hlist : Text.commaItems list = [String.ofList (name ++ '.' :: text)])
    (hdot : '.' ∉ name) (hname : Text.trim (String.ofList name) ≠ "")
    (hparse : Url.parse (String.ofList text) = .ok url)
    (hscheme : url.scheme ∈ ["http", "https", "ws", "wss", "ftp"])
    (hhost : url.host.map Url.Host.write = some host) (hempty : host ≠ "") :
    (KeepsPort list name text url ↔
        spellsPort text = (writtenPort? (String.ofList text)).isSome ∨
          ∃ n, writtenPort? (String.ofList text) = some n ∧ Url.defaultPort? url.scheme ≠ some n) ∧
      spellsPort (asRead (String.ofList text)) = (writtenPort? (String.ofList text)).isSome ∧
      (PlainlyWritten text → KeepsPort list name text url) := by
  obtain ⟨implied, himplied⟩ : ∃ n, Url.defaultPort? url.scheme = some n := by
    simp only [List.mem_cons, List.not_mem_nil, or_false] at hscheme
    rcases hscheme with h | h | h | h | h <;> rw [h] <;> exact ⟨_, rfl⟩
  have hsome : Url.defaultPort? url.scheme ≠ none := by simp [himplied]
  obtain ⟨rest, authority, left, hread, hauthority, hport⟩ := Url.parse_web hparse hsome
  have hwritten : writtenPort? (String.ofList text) = authority.port := by
    unfold writtenPort?
    rw [hread]
    simp only [hauthority]
  rw [himplied, ← hwritten] at hport
  have hkeeps : KeepsPort list name text url ↔ _ :=
    (keepsPort_iff_port? hlist hdot hname hparse hhost hempty).trans
      (port?_eq_written_iff himplied hport)
  rw [himplied]
  exact ⟨hkeeps, spellsPort_asRead hparse hsome,
    fun hplain => hkeeps.mpr (.inl (spellsPort_plain hplain hparse hsome))⟩

/-- An address of the web at the loopback, whose path has one segment. -/
def loopback (segment : String) : Url where
  scheme := "http"
  host := some (.ipv6 [0, 0, 0, 0, 0, 0, 0, 1])
  path := .segments [segment]

theorem loopback_host (segment : String) :
    (loopback segment).host.map Url.Host.write = some "[::1]" := by
  have hwrite : some (Url.Host.ipv6 [0, 0, 0, 0, 0, 0, 0, 1]).write = some "[::1]" := by
    decide +kernel
  exact hwrite

theorem keepsPort_plainly_written : KeepsPort "svc.http://[::1]:80" "svc".toList
    "http://[::1]:80".toList (loopback "") := by
  have hplain : PlainlyWritten "http://[::1]:80".toList :=
    ⟨by decide, by decide, "http".toList, "[::1]:80".toList, rfl, by decide, by decide⟩
  have hentry : Text.commaItems "svc.http://[::1]:80" =
      [String.ofList ("svc".toList ++ '.' :: "http://[::1]:80".toList)] := by decide
  have hparse : Url.parse (String.ofList "http://[::1]:80".toList) = .ok (loopback "") := by decide
  have hkeeps := keepsPort_iff hentry (by decide) (by decide) hparse (by decide)
    (loopback_host "") (by decide)
  exact hkeeps.2.2 hplain

/-- Behind backslashes the implied port is written and not found, and behind a backslash and an `@` it
is found and not written. -/
theorem implied_port_lost_and_found :
    (writtenPort? "http:\\\\[::1]:80" = some 80 ∧
        read "svc.http:\\\\[::1]:80" = .error (.badRoute "svc.http:\\\\[::1]:80" .noPort)) ∧
      writtenPort? "http://[::1]\\@x:80" = none ∧
        ∃ m, read "svc.http://[::1]\\@x:80" = .ok m ∧
          m.entries = [("svc", ⟨"svc", "http", "[::1]", 80⟩)] := by
  have hlost := read_of_parse
    (by decide : Text.commaItems "svc.http:\\\\[::1]:80" =
      [String.ofList ("svc".toList ++ '.' :: "http:\\\\[::1]:80".toList)])
    (by decide) (by decide)
    (by decide : Url.parse (String.ofList "http:\\\\[::1]:80".toList) = .ok (loopback ""))
    (loopback_host "") (by decide)
  have hfound := read_of_parse
    (by decide : Text.commaItems "svc.http://[::1]\\@x:80" =
      [String.ofList ("svc".toList ++ '.' :: "http://[::1]\\@x:80".toList)])
    (by decide) (by decide)
    (by decide : Url.parse (String.ofList "http://[::1]\\@x:80".toList) = .ok (loopback "@x:80"))
    (loopback_host "@x:80") (by decide)
  exact ⟨⟨by decide, hlost⟩, by decide, _, hfound, rfl⟩

end RouteList

end GatewayProvisioning
