import GatewayProvisioning.Proofs.WrittenPorts

/-!
# Names with dots

The entry of a route gives its name, a dot and its address. The name is taken to end at the first dot,
so what follows the first dot of a name goes to the address, where it can be taken for the beginning of
the scheme.
-/

namespace GatewayProvisioning

/-- The routes of the web whose host is a word of small letters, under the names that an entry of a
list can begin with. -/
structure Route.WebWord (r : Route) : Prop where
  name_nonempty : r.name ≠ ""
  name_trimmed : Text.trim r.name = r.name
  name_comma : ',' ∉ r.name.toList
  protocol : r.protocol = "http" ∨ r.protocol = "https"
  host_nonempty : r.host ≠ ""
  host_letters : ∀ c ∈ r.host.toList, 'a' ≤ c ∧ c ≤ 'z'

/-- A word of small letters is a host that stands as it is. -/
theorem Url.PlainHost.word {cs : List Char} (hne : cs ≠ []) (h : ∀ c ∈ cs, 'a' ≤ c ∧ c ≤ 'z') :
    Url.PlainHost cs := by
  obtain ⟨first, rest, rfl⟩ := List.exists_cons_of_ne_nil hne
  have hlabel : Url.Idna.PlainLabel (first :: rest) := by
    refine ⟨hne, fun c hc => Url.Idna.isPlainChar_letter (h c hc), fun hmark => ?_⟩
    exact absurd (h '-' (hmark.subset (by decide))) (by decide)
  have hname := Url.PlainHost.name [] first rest (by simpa using hlabel) (h first List.mem_cons_self)
  rw [List.nil_append, Url.Idna.plainName, List.intercalate_singleton] at hname
  exact hname

theorem Route.WebWord.addressable {r : Route} (h : r.WebWord) : r.Addressable := by
  have hhost : r.host.toList ≠ [] := fun hnil => h.host_nonempty (String.toList_eq_nil_iff.mp hnil)
  have hplain := Url.PlainHost.word hhost h.host_letters
  rcases h.protocol with hprotocol | hprotocol
  · exact ⟨by simp [hprotocol], by simp [hprotocol], by simp [hprotocol], hplain⟩
  · exact ⟨by simp [hprotocol], by simp [hprotocol], by simp [hprotocol], hplain⟩

theorem Route.WebWord.name_ends {r : Route} (h : r.WebWord) :
    (∀ c, r.name.toList.head? = some c → Text.isBlank c = false) ∧
      ∀ c, r.name.toList.getLast? = some c → Text.isBlank c = false := by
  have htrim := congrArg String.toList h.name_trimmed
  unfold Text.trim at htrim
  rw [String.toList_ofList] at htrim
  exact Text.ends_of_dropBothWhile htrim

/-- Without a dot in its name, such a route can be listed. -/
theorem Route.WebWord.listable {r : Route} (h : r.WebWord) (hdot : '.' ∉ r.name.toList) :
    r.Listable where
  name_nonempty := h.name_nonempty
  name_first := h.name_ends.1
  name_last := h.name_ends.2
  name_chars _ hc := ⟨ne_of_mem_of_not_mem hc h.name_comma, ne_of_mem_of_not_mem hc hdot⟩
  protocol_nonempty := h.addressable.protocol_nonempty
  protocol_letters := h.addressable.protocol_letters
  protocol_ne_file := h.addressable.protocol_ne_file
  host := h.addressable.host

namespace RouteList

/-- A list is read as one route. -/
def ReadsOnly (list : String) (r : Route) : Prop :=
  ∃ m, read list = .ok m ∧ m.entries = [(r.name, r)]

/-- A list is refused, and the failure names the entry. -/
def Refuses (list entry : String) : Prop :=
  ∃ fault, read list = .error (.badRoute entry fault)

variable {list entry : String} {r s : Route}

theorem readsOnly_of_entry (hlist : Text.commaItems list = [entry]) (h : readEntry entry = .ok r) :
    ReadsOnly list r := by
  refine ⟨NameMap.empty.insert r.name r, ?_, rfl⟩
  rw [read_single hlist, h]
  rfl

theorem refuses_of_entry (hlist : Text.commaItems list = [entry]) {fault : RouteFault}
    (h : readEntry entry = .error (.badRoute entry fault)) : Refuses list entry := by
  refine ⟨fault, ?_⟩
  rw [read_single hlist, h]
  rfl

theorem ReadsOnly.unique (h : ReadsOnly list r) (h' : ReadsOnly list s) : r = s := by
  obtain ⟨m, hm, hentries⟩ := h
  obtain ⟨m', hm', hentries'⟩ := h'
  rw [hm, Except.ok.injEq] at hm'
  rw [← hm', hentries] at hentries'
  exact (Prod.mk.inj (List.singleton_inj.mp hentries')).2

theorem ReadsOnly.not_refuses (h : ReadsOnly list r) : ¬Refuses list entry := by
  rintro ⟨fault, hfault⟩
  obtain ⟨m, hm, -⟩ := h
  rw [hm] at hfault
  cases hfault

theorem listed_single (h : r.WebWord) : Text.commaItems r.listed = [r.listed] := by
  have hends := listed_ends h.name_nonempty h.name_ends.1 h.addressable
  have hchars := listed_chars h.name_comma h.addressable
  have hne : r.listed.toList ≠ [] := by
    rw [listed_toList]
    simp
  have hsingle := commaItems_single hne hchars hends
  rwa [String.ofList_toList] at hsingle

/-! ## Entries that are cut -/

/-- An entry is refused, or it is one of a route with the name before the first dot and the parts of
the address that follows it. Neither the name nor the host is empty. -/
theorem readEntry_cases {name : List Char} (hdot : '.' ∉ name) (text : List Char) :
    (∃ fault, readEntry (String.ofList (name ++ '.' :: text)) =
        .error (.badRoute (String.ofList (name ++ '.' :: text)) fault)) ∨
      ∃ r url, readEntry (String.ofList (name ++ '.' :: text)) = .ok r ∧ r.host ≠ "" ∧
        r.name = Text.trim (String.ofList name) ∧ r.name ≠ "" ∧ Url.parse (String.ofList text) = .ok url ∧
        r.protocol = url.scheme ∧ url.host.map Url.Host.write = some r.host ∧
        port? url text = some r.port.toNat := by
  by_cases hname : Text.trim (String.ofList name) = ""
  · left
    refine ⟨.emptyName, ?_⟩
    unfold readEntry
    simp only [splitFirst?_entry hdot, hname]
    rfl
  rcases hparse : Url.parse (String.ofList text) with fault | url
  · left
    refine ⟨.badUrl fault, ?_⟩
    unfold readEntry
    simp only [splitFirst?_entry hdot, hparse]
    rw [if_neg (by simpa using hname)]
  rcases hhost : (url.host.map Url.Host.write).filter (!·.isEmpty) with _ | host
  · left
    refine ⟨.emptyHost, ?_⟩
    unfold readEntry
    simp only [splitFirst?_entry hdot, hparse, hhost]
    rw [if_neg (by simpa using hname)]
  obtain ⟨hwrite, hnonempty⟩ := Option.filter_eq_some_iff.mp hhost
  have hread := readEntry_of_parse hdot hname hparse hwrite (by simpa using hnonempty)
  rcases hport : port? url text with _ | port
  · rw [hport] at hread
    exact .inl ⟨.noPort, hread⟩
  · rw [hport] at hread
    have hvalue : (UInt16.ofNat port).toNat = port :=
      UInt16.toNat_ofNat_of_lt' (port?_lt hparse hport)
    have hhost : host ≠ "" := by simpa using hnonempty
    exact .inr ⟨_, url, hread, hhost, rfl, hname, rfl, rfl, hwrite, by rw [hport, hvalue]⟩

/-! ## Schemes with dots -/

theorem ne_of_dot {s t : String} (h : '.' ∈ s.toList) (ht : '.' ∉ t.toList) : s ≠ t := by
  rintro rfl
  exact ht h

/-- Only schemes without dots imply a port. -/
theorem defaultPort?_of_dot {scheme : String} (h : '.' ∈ scheme.toList) :
    Url.defaultPort? scheme = none := by
  have hne : ∀ t ∈ ["http", "ws", "https", "wss", "ftp"], scheme ≠ t := fun t ht =>
    ne_of_dot h ((by decide : ∀ t ∈ ["http", "ws", "https", "wss", "ftp"], '.' ∉ t.toList) t ht)
  unfold Url.defaultPort?
  simp [hne]

/-- A dot and small letters behind a text make it no more and no less a scheme. -/
theorem isSchemeWord_dot (cs : List Char) {word : List Char} (h : ∀ c ∈ word, 'a' ≤ c ∧ c ≤ 'z') :
    Url.isSchemeWord (cs ++ '.' :: word) = Url.isSchemeWord cs := by
  have htail : (('.' :: word).map Text.asciiLower).all Url.isSchemeChar = true := by
    rw [List.all_map, List.all_cons, Bool.and_eq_true, List.all_eq_true]
    refine ⟨by decide, fun c hc => ?_⟩
    exact Url.Idna.isPlainChar_of_all
      (P := fun c => (Url.isSchemeChar ∘ Text.asciiLower) c = true) (by decide +kernel)
      (Url.Idna.isPlainChar_letter (h c hc))
  unfold Url.isSchemeWord
  rw [List.map_append, List.all_append, htail, Bool.and_true]
  cases cs with
  | nil => rfl
  | cons c cs => rfl

/-! ## Names that are cut -/

section

variable {first rest : List Char}

/-- The text of an address that begins with the rest of a name. -/
theorem significant_dotted (h : r.WebWord) (rest : List Char) :
    Url.significant (String.ofList (rest ++ '.' :: r.address)) =
      (Url.counted rest ++ '.' :: r.protocol.toList) ++ ':' :: '/' :: '/' ::
        (r.host.toList ++ ':' :: Decimal.digits r.port.toNat) := by
  rw [Url.significant_append rest (List.cons_ne_nil _ _), Url.address_eq, List.append_assoc,
    List.cons_append]
  intro c hc
  rcases List.mem_cons.mp hc with rfl | hc
  · decide
  · exact Url.address_visible h.addressable c hc

/-- What follows the first dot of a name is read as the beginning of the scheme. -/
theorem readEntry_dotted (h : r.WebWord) (hdot : '.' ∉ first)
    (hfirst : Text.trim (String.ofList first) ≠ "")
    (hword : Url.isSchemeWord (Url.counted rest) = true) :
    readEntry (String.ofList (first ++ '.' :: (rest ++ '.' :: r.address))) =
      .ok ⟨Text.trim (String.ofList first),
        Text.asciiLowercase (String.ofList (Url.counted rest ++ '.' :: r.protocol.toList)),
        r.host, r.port⟩ := by
  let s : Route := ⟨Text.trim (String.ofList first),
    Text.asciiLowercase (String.ofList (Url.counted rest ++ '.' :: r.protocol.toList)),
    r.host, r.port⟩
  have hprotocol : '.' ∈ s.protocol.toList := by
    change '.' ∈ (String.ofList _).toList
    rw [String.toList_ofList, String.toList_ofList]
    exact List.mem_map.mpr ⟨'.', by simp, rfl⟩
  obtain ⟨u, hparse, hu⟩ := Url.parse_of_significant (r := s)
    (by rw [isSchemeWord_dot _ h.addressable.protocol_letters]; exact hword) rfl
    (ne_of_dot hprotocol (by decide)) h.addressable.host (significant_dotted h rest)
  have hport : u.port = some s.port.toNat := by
    rw [hu.port, defaultPort?_of_dot hprotocol, if_neg (by simp)]
  rw [readEntry_of_parse hdot hfirst hparse hu.host h.host_nonempty, port?_of_some hport]
  simp only [hu.scheme, UInt16.ofNat_toNat]
  rfl

/-- Without a colon, the rest of a name leaves an address only if it is a scheme. -/
theorem isSchemeWord_of_parse (h : r.WebWord) (hcolon : ':' ∉ rest) {u : Url}
    (hparse : Url.parse (String.ofList (rest ++ '.' :: r.address)) = .ok u) :
    Url.isSchemeWord (Url.counted rest) = true := by
  have hcounted : ':' ∉ Url.counted rest ++ '.' :: r.protocol.toList := by
    intro hmem
    rcases List.mem_append.mp hmem with hmem | hmem
    · unfold Url.counted at hmem
      exact hcolon ((List.dropWhile_suffix _).subset (List.mem_of_mem_filter hmem))
    · rcases List.mem_cons.mp hmem with heq | hmem
      · exact absurd heq (by decide)
      · exact absurd (h.addressable.protocol_letters ':' hmem) (by decide)
  unfold Url.parse at hparse
  rw [significant_dotted h, Url.readScheme?_of_colon hcounted,
    isSchemeWord_dot _ h.addressable.protocol_letters] at hparse
  by_cases hword : Url.isSchemeWord (Url.counted rest) = true
  · exact hword
  · rw [if_neg hword] at hparse
    cases hparse

theorem listed_cut (hname : r.name.toList = first ++ '.' :: rest) :
    r.listed = String.ofList (first ++ '.' :: (rest ++ '.' :: r.address)) := by
  unfold Route.listed
  rw [hname, List.append_assoc, List.cons_append]

/-- A name with a dot is refused, or cut at its first dot. -/
theorem listed_dotted (h : r.WebWord) (hname : r.name.toList = first ++ '.' :: rest)
    (hdot : '.' ∉ first) :
    Refuses r.listed r.listed ∨
      ∃ s url, ReadsOnly r.listed s ∧ s.name = Text.trim (String.ofList first) ∧ s.name ≠ "" ∧
        Url.parse (String.ofList (rest ++ '.' :: r.address)) = .ok url ∧
        s.protocol = url.scheme ∧ url.host.map Url.Host.write = some s.host ∧
        port? url (rest ++ '.' :: r.address) = some s.port.toNat := by
  have hcut := readEntry_cases hdot (rest ++ '.' :: r.address)
  rw [← listed_cut hname] at hcut
  rcases hcut with ⟨fault, hfault⟩ | ⟨s, url, hread, -, hs⟩
  · exact .inl (refuses_of_entry (listed_single h) hfault)
  · exact .inr ⟨s, url, readsOnly_of_entry (listed_single h) hread, hs⟩

end

/-- A route is read back from its entry exactly if its name has no dot. Any other name is refused, or
cut at its first dot, and what follows that dot is read with the address. If no colon follows it, it
is read as the beginning of the scheme wherever it can be one. -/
theorem readsOnly_iff_dotless (h : r.WebWord) :
    (ReadsOnly r.listed r ↔ '.' ∉ r.name.toList) ∧
      ∀ first rest, r.name.toList = first ++ '.' :: rest → '.' ∉ first →
        (Refuses r.listed r.listed ∨
          ∃ s url, ReadsOnly r.listed s ∧ s.name = Text.trim (String.ofList first) ∧ s.name ≠ "" ∧
            Url.parse (String.ofList (rest ++ '.' :: r.address)) = .ok url ∧
            s.protocol = url.scheme ∧ url.host.map Url.Host.write = some s.host ∧
            port? url (rest ++ '.' :: r.address) = some s.port.toNat) ∧
        (':' ∉ rest →
          if Text.trim (String.ofList first) ≠ "" ∧ Url.isSchemeWord (Url.counted rest) = true then
            ReadsOnly r.listed ⟨Text.trim (String.ofList first),
              Text.asciiLowercase (String.ofList (Url.counted rest ++ '.' :: r.protocol.toList)),
              r.host, r.port⟩
          else Refuses r.listed r.listed) := by
  refine ⟨⟨fun hread hmem => ?_, fun hdot => ?_⟩, fun first rest hname hdot =>
    ⟨listed_dotted h hname hdot, fun hcolon => ?_⟩⟩
  · obtain ⟨first, rest, hname, hdot⟩ := List.eq_append_cons_of_mem hmem
    rcases listed_dotted h hname hdot with hrefused | ⟨s, url, hs, hcut, -⟩
    · exact hread.not_refuses hrefused
    · -- the name that is read has no dot
      rw [hread.unique hs, hcut] at hmem
      unfold Text.trim at hmem
      rw [String.toList_ofList, String.toList_ofList] at hmem
      exact hdot (Text.dropBothWhile_subset _ hmem)
  · exact readsOnly_of_entry (listed_single h) (readEntry_listed (h.listable hdot))
  · split
    · rename_i hcut
      have hread := readEntry_dotted h hdot hcut.1 hcut.2
      rw [← listed_cut hname] at hread
      exact readsOnly_of_entry (listed_single h) hread
    · rename_i hcut
      rcases listed_dotted h hname hdot with hrefused | ⟨s, url, -, hs, hnonempty, hparse, -⟩
      · exact hrefused
      · rw [hs] at hnonempty
        exact absurd ⟨hnonempty, isSchemeWord_of_parse h hcolon hparse⟩ hcut

/-- A route at the port that its protocol implies. -/
def hostRoute (name : String) : Route :=
  { name, protocol := "http", host := "host", port := 80 }

theorem hostRoute_webWord {name : String} (hne : name ≠ "") (htrim : Text.trim name = name)
    (hcomma : ',' ∉ name.toList) : (hostRoute name).WebWord :=
  ⟨hne, htrim, hcomma, .inl rfl, by simp [hostRoute], by simp [hostRoute]⟩

theorem hostRoute_listed :
    (hostRoute "app.2").listed = "app.2.http://host:80" ∧
      (hostRoute "my.app").listed = "my.app.http://host:80" := by
  decide +kernel

/-- A digit begins no scheme, so nothing is read. -/
theorem version_refused : Refuses "app.2.http://host:80" "app.2.http://host:80" := by
  have h : (hostRoute "app.2").WebWord := hostRoute_webWord (by decide) (by decide) (by decide)
  have hcut := (readsOnly_iff_dotless h).2 "app".toList "2".toList (by decide) (by decide)
  have hrefused := hcut.2 (by decide)
  rw [if_neg (by decide), hostRoute_listed.1] at hrefused
  exact hrefused

/-- The rest of a name is taken for the beginning of the scheme. -/
theorem rest_of_name_in_scheme :
    ReadsOnly "my.app.http://host:80" ⟨"my", "app.http", "host", 80⟩ ∧
      ¬ReadsOnly "my.app.http://host:80" (hostRoute "my.app") ∧
      ¬Refuses "my.app.http://host:80" "my.app.http://host:80" := by
  have h : (hostRoute "my.app").WebWord := hostRoute_webWord (by decide) (by decide) (by decide)
  have hcut : (hostRoute "my.app").name.toList = "my".toList ++ '.' :: "app".toList := by decide
  have hentry := readEntry_dotted h (by decide : '.' ∉ "my".toList) (by decide)
    (by decide : Url.isSchemeWord (Url.counted "app".toList) = true)
  rw [← listed_cut hcut] at hentry
  have hread := readsOnly_of_entry (listed_single h) hentry
  rw [hostRoute_listed.2] at hread
  refine ⟨hread, fun hsame => ?_, hread.not_refuses⟩
  exact absurd (hread.unique hsame) (by decide)

end RouteList

end GatewayProvisioning
