import GatewayProvisioning.Proofs.DottedNames
import GatewayProvisioning.Proofs.Parts
import GatewayProvisioning.Proofs.Results

/-!
# Lists, entry by entry

A list of routes is read entry by entry, so what two lists say together is what each of them says. The
first malformed entry spoils the list, wherever it stands, and of several entries with one name the
first counts. Neither blanks nor, among entries with different names, the order makes a difference.
-/

namespace GatewayProvisioning

/-! ## The items of a list -/

namespace Text

/-- A comma ends the items before it. -/
theorem commaItems_comma (a b : String) : commaItems (a ++ "," ++ b) = commaItems a ++ commaItems b := by
  have hchars : (a ++ "," ++ b).toList = a.toList ++ ',' :: b.toList := by
    rw [String.toList_append, String.toList_append, List.append_assoc]
    rfl
  unfold commaItems
  rw [hchars, splitWhere_append (p := (· == ',')) rfl, List.map_append, List.filterMap_append]

/-- Texts without commas have the same items if the same is left of both when they are trimmed. -/
theorem commaItems_congr {s t : String} (hs : ',' ∉ s.toList) (ht : ',' ∉ t.toList)
    (h : dropBothWhile isBlank s.toList = dropBothWhile isBlank t.toList) :
    commaItems s = commaItems t := by
  have hwhole : ∀ r : String, ',' ∉ r.toList → splitWhere (· == ',') r.toList = [r.toList] :=
    fun r hr => splitWhere_of_none fun c hc => beq_eq_false_iff_ne.mpr (ne_of_mem_of_not_mem hc hr)
  unfold commaItems
  rw [hwhole s hs, hwhole t ht, List.map_singleton, List.map_singleton, h]

theorem isAllBlank_empty : isAllBlank "" = true :=
  rfl

theorem not_comma_of_blank {s : String} (h : isAllBlank s = true) : ',' ∉ s.toList := by
  intro hmem
  exact absurd (List.all_eq_true.mp h ',' hmem) (by decide)

/-- Blanks around a text without commas do not count. -/
theorem commaItems_around {before after : String} (hbefore : isAllBlank before = true)
    (hafter : isAllBlank after = true) {s : String} (hs : ',' ∉ s.toList) :
    commaItems (before ++ s ++ after) = commaItems s := by
  refine commaItems_congr ?_ hs ?_
  · simp only [String.toList_append, List.mem_append, not_or]
    exact ⟨⟨not_comma_of_blank hbefore, hs⟩, not_comma_of_blank hafter⟩
  · rw [String.toList_append, String.toList_append]
    exact dropBothWhile_around (List.all_eq_true.mp hbefore) (List.all_eq_true.mp hafter) s.toList

theorem commaItems_blank {s : String} (h : isAllBlank s = true) : commaItems s = [] := by
  have haround := commaItems_around h isAllBlank_empty (not_comma_of_blank isAllBlank_empty)
  rwa [String.append_empty, String.append_empty] at haround

/-- Blanks at the beginning of a list belong to its first item. -/
theorem commaItems_before {before : String} (h : isAllBlank before = true) (s : String) :
    commaItems (before ++ s) = commaItems s := by
  have hfirst : ∀ r : String, ',' ∉ r.toList → commaItems (before ++ r) = commaItems r := by
    intro r hr
    have haround := commaItems_around h isAllBlank_empty hr
    rwa [String.append_empty] at haround
  by_cases hcomma : ',' ∈ s.toList
  · obtain ⟨first, rest, hs, hnone⟩ := List.eq_append_cons_of_mem hcomma
    obtain rfl : s = String.ofList first ++ "," ++ String.ofList rest := by
      apply String.toList_inj.mp
      simp [hs]
    have hassoc : before ++ (String.ofList first ++ "," ++ String.ofList rest) =
        before ++ String.ofList first ++ "," ++ String.ofList rest := by
      simp only [String.append_assoc]
    rw [hassoc, commaItems_comma, commaItems_comma, hfirst _ (by simpa using hnone)]
  · exact hfirst s hcomma

/-- Blanks at the end of a list belong to its last item. -/
theorem commaItems_after {after : String} (h : isAllBlank after = true) (s : String) :
    commaItems (s ++ after) = commaItems s := by
  have hlast : ∀ r : String, ',' ∉ r.toList → commaItems (r ++ after) = commaItems r := by
    intro r hr
    have haround := commaItems_around isAllBlank_empty h hr
    rwa [String.empty_append] at haround
  by_cases hcomma : ',' ∈ s.toList
  · -- the last comma is the first one from behind
    obtain ⟨back, front, hs, hnone⟩ := List.eq_append_cons_of_mem (List.mem_reverse.mpr hcomma)
    obtain rfl : s = String.ofList front.reverse ++ "," ++ String.ofList back.reverse := by
      apply String.toList_inj.mp
      rw [← List.reverse_reverse s.toList, hs]
      simp
    have hassoc : String.ofList front.reverse ++ "," ++ String.ofList back.reverse ++ after =
        String.ofList front.reverse ++ "," ++ (String.ofList back.reverse ++ after) := by
      simp only [String.append_assoc]
    rw [hassoc, commaItems_comma, commaItems_comma, hlast _ (by simpa using hnone)]
  · exact hlast s hcomma

theorem intercalate_cons {texts : List String} (h : texts ≠ []) (s : String) :
    ",".intercalate (s :: texts) = s ++ "," ++ ",".intercalate texts := by
  apply String.toList_inj.mp
  rw [String.toList_append, String.toList_append, String.toList_intercalate,
    String.toList_intercalate, List.map_cons, List.intercalate_cons_of_ne_nil (by simpa using h)]

/-- The items of a list are those of the texts between which its commas stand. -/
theorem commaItems_intercalate (texts : List String) :
    commaItems (",".intercalate texts) = texts.flatMap commaItems := by
  induction texts with
  | nil => rfl
  | cons s texts ih =>
    by_cases hnil : texts = []
    · simp [hnil]
    · rw [intercalate_cons hnil, commaItems_comma, ih, List.flatMap_cons]

/-- A text with blanks around it. The text itself may be blank too. -/
structure Padded where
  before : String
  text : String
  after : String
  blank_before : isAllBlank before = true
  blank_after : isAllBlank after = true

/-- What stands there, blanks and all. -/
def Padded.whole (s : Padded) : String :=
  s.before ++ s.text ++ s.after

/-- Neither blanks around the texts of a list nor blank texts count. -/
theorem commaItems_padded (slots : List Padded) :
    commaItems (",".intercalate (slots.map Padded.whole)) =
      commaItems (",".intercalate ((slots.map Padded.text).filter (!isAllBlank ·))) := by
  rw [commaItems_intercalate, commaItems_intercalate]
  induction slots with
  | nil => rfl
  | cons s slots ih =>
    have hwhole : commaItems s.whole = commaItems s.text := by
      unfold Padded.whole
      rw [commaItems_after s.blank_after, commaItems_before s.blank_before]
    rw [List.map_cons, List.map_cons, List.flatMap_cons, ih, hwhole]
    by_cases hblank : isAllBlank s.text = true
    · rw [List.filter_cons_of_neg (by simp [hblank]), commaItems_blank hblank, List.nil_append]
    · rw [List.filter_cons_of_pos (by simp [hblank]), List.flatMap_cons]

end Text

namespace RouteList

/-! ## One entry -/

/-- The name of an entry: what stands before its first dot. -/
def entryName (entry : String) : String :=
  Text.trim (String.ofList (entry.toList.takeWhile (· != '.')))

/-- An entry is refused by a failure that names it, or it is one of a route that has a name, that of
the entry, and a host. -/
theorem readEntry_judged (entry : String) :
    (∃ fault, readEntry entry = .error (.badRoute entry fault)) ∨
      ∃ route, readEntry entry = .ok route ∧ route.name = entryName entry ∧ route.name ≠ "" ∧
        route.host ≠ "" := by
  by_cases hdot : '.' ∈ entry.toList
  · obtain ⟨name, text, hentry, hname⟩ := List.eq_append_cons_of_mem hdot
    have hbefore : entry.toList.takeWhile (· != '.') = name := by
      rw [hentry, List.takeWhile_append_of_pos, List.takeWhile_cons_of_neg (by decide),
        List.append_nil]
      exact fun c hc => bne_iff_ne.mpr (ne_of_mem_of_not_mem hc hname)
    have hcases := readEntry_cases hname text
    rw [← hentry, String.ofList_toList] at hcases
    rcases hcases with hfault | ⟨route, url, hread, hhost, hroute, hnonempty, -⟩
    · exact .inl hfault
    · refine .inr ⟨route, hread, ?_, hnonempty, hhost⟩
      unfold entryName
      rw [hbefore, hroute]
  · left
    have hnone : Text.splitFirst? (· == '.') entry.toList = none :=
      Text.splitFirst?_eq_none.mpr fun c hc =>
        beq_eq_false_iff_ne.mpr (ne_of_mem_of_not_mem hc hdot)
    refine ⟨.noSeparator, ?_⟩
    unfold readEntry
    simp only [hnone]

theorem readEntry_ok {entry : String} {route : Route} (h : readEntry entry = .ok route) :
    route.name = entryName entry ∧ route.name ≠ "" ∧ route.host ≠ "" := by
  rcases readEntry_judged entry with ⟨fault, hfault⟩ | ⟨other, hother, hroute⟩
  · rw [h] at hfault
    cases hfault
  · rw [h] at hother
    cases hother
    exact hroute

theorem readEntry_error {entry : String} {failure : Failure} (h : readEntry entry = .error failure) :
    ∃ fault, failure = .badRoute entry fault := by
  rcases readEntry_judged entry with ⟨fault, hfault⟩ | ⟨route, hroute, -⟩
  · rw [h] at hfault
    exact ⟨fault, Except.error.inj hfault⟩
  · rw [h] at hroute
    cases hroute

/-! ## All entries -/

/-- The routes of the entries of a list, repeated names and all. -/
def routes (list : String) : Except Failure (List Route) :=
  (Text.commaItems list).mapM readEntry

theorem readEntries_eq (before : Routes) (entries : List String) :
    readEntries before entries =
      (entries.mapM readEntry).map fun routes => before.insertAllNew (byName routes) := by
  induction entries generalizing before with
  | nil => rfl
  | cons entry entries ih =>
    rw [readEntries, List.mapM_cons]
    rcases readEntry entry with failure | route
    · rfl
    · change readEntries (before.insertNew route.name route) entries = _
      rw [ih]
      rcases hrest : entries.mapM readEntry with failure | rest
      · rfl
      · rfl

/-- What is read of a list is what its entries give, the first of each name. -/
theorem read_eq (list : String) :
    read list = (routes list).map fun routes => NameMap.empty.insertAllNew (byName routes) :=
  readEntries_eq .empty (Text.commaItems list)

theorem routes_comma (a b : String) :
    routes (a ++ "," ++ b) =
      (routes a).bind fun first => (routes b).map fun second => first ++ second := by
  unfold routes
  rw [Text.commaItems_comma, List.mapM_append]
  rcases (Text.commaItems a).mapM readEntry with failure | first
  · rfl
  · rcases hb : (Text.commaItems b).mapM readEntry with failure | second
    · rfl
    · rfl

/-- The first route of each name. -/
theorem lookup_byName_eq (routes : List Route) (key : String) :
    (byName routes).lookup key = routes.find? fun route => route.name == key := by
  unfold byName
  induction routes with
  | nil => rfl
  | cons route routes ih =>
    rw [List.map_cons, List.lookup_cons, List.find?_cons, ih, BEq.comm (a := key)]

theorem get?_byName (routes : List Route) (key : String) :
    (NameMap.empty.insertAllNew (byName routes)).get? key =
      routes.find? fun route => route.name == key := by
  rw [NameMap.get?_insertAllNew, lookup_byName_eq]
  exact Option.none_or

/-- Routes that come later add to those before them what their union adds. -/
theorem byName_append (first second : List Route) :
    NameMap.empty.insertAllNew (byName (first ++ second)) =
      (NameMap.empty.insertAllNew (byName first)).union
        (NameMap.empty.insertAllNew (byName second)) := by
  apply NameMap.eq_of_get?
  intro key
  rw [NameMap.get?_union, get?_byName, get?_byName, get?_byName, List.find?_append]

theorem read_comma (a b : String) :
    read (a ++ "," ++ b) = (read a).bind fun first => (read b).map first.union := by
  rw [read_eq, read_eq a, read_eq b, routes_comma]
  rcases routes a with failure | first
  · rfl
  · rcases routes b with failure | second
    · rfl
    · exact congrArg Except.ok (byName_append first second)

theorem read_eq_ok_iff {list : String} {m : Routes} :
    read list = .ok m ↔
      ∃ routes, List.Forall₂ (fun entry route => readEntry entry = .ok route)
          (Text.commaItems list) routes ∧
        ∀ key, m.get? key = routes.find? fun route => route.name == key := by
  rw [read_eq]
  constructor
  · intro h
    rcases hroutes : routes list with failure | found
    · rw [hroutes] at h
      cases h
    · rw [hroutes] at h
      cases h
      exact ⟨found, mapM_eq_ok_iff.mp hroutes, get?_byName found⟩
  · rintro ⟨found, hfound, hget⟩
    have hroutes : routes list = .ok found := mapM_eq_ok_iff.mpr hfound
    rw [hroutes]
    apply congrArg Except.ok
    apply NameMap.eq_of_get?
    intro key
    rw [get?_byName, hget]

theorem read_eq_error_iff {list : String} {failure : Failure} :
    read list = .error failure ↔
      ∃ before entry after, Text.commaItems list = before ++ entry :: after ∧
        (∀ e ∈ before, ∃ route, readEntry e = .ok route) ∧ readEntry entry = .error failure := by
  rw [← mapM_eq_error_iff, read_eq]
  unfold routes
  rcases (Text.commaItems list).mapM readEntry with e | found
  · change Except.error e = Except.error failure ↔ Except.error e = Except.error failure
    rw [Except.error.injEq, Except.error.injEq]
  · exact ⟨fun h => (by cases h), fun h => (by cases h)⟩

/-- Entries with different names are read alike in any order. -/
theorem read_perm {list list' : String} {m : Routes}
    (hperm : (Text.commaItems list').Perm (Text.commaItems list))
    (hnames : ((Text.commaItems list).map entryName).Nodup) (h : read list = .ok m) :
    read list' = .ok m := by
  obtain ⟨found, hfound, hget⟩ := read_eq_ok_iff.mp h
  obtain ⟨found', hfound', hsame⟩ := mapM_perm hperm (mapM_eq_ok_iff.mpr hfound)
  refine read_eq_ok_iff.mpr ⟨found', mapM_eq_ok_iff.mp hfound', fun key => ?_⟩
  -- the names of the routes are those of their entries
  have hnodup : (found.map Route.name).Nodup := by
    have heq : (Text.commaItems list).map entryName = found.map Route.name := by
      rw [← List.forall₂_eq_eq_eq, List.forall₂_map_left_iff, List.forall₂_map_right_iff]
      exact hfound.imp fun _ _ hread => (readEntry_ok hread).1.symm
    rw [← heq]
    exact hnames
  rw [hget, ← lookup_byName_eq, ← lookup_byName_eq]
  apply Option.ext
  intro route
  rw [lookup_byName hnodup, lookup_byName ((hsame.map Route.name).nodup_iff.mpr hnodup),
    hsame.mem_iff]

/-- Two lists with a comma between them fail as the first one does, or else as the second one does;
otherwise they give what the first one gives and, under other names, what the second one gives. A list
fails if and only if one of its entries does, with the failure of the first such entry, which names
it. Otherwise it gives, under each name, the first route of that name and nothing else. Entries with
different names may stand in any order, and blanks and blank entries do not count. -/
theorem read_entry_by_entry :
    (∀ a b : String,
      match read a, read b with
      | .error failure, _ => read (a ++ "," ++ b) = .error failure
      | .ok _, .error failure => read (a ++ "," ++ b) = .error failure
      | .ok first, .ok second => ∃ both, read (a ++ "," ++ b) = .ok both ∧
          ∀ key, both.get? key = (first.get? key).or (second.get? key)) ∧
    (∀ (list : String) (failure : Failure), read list = .error failure ↔
      ∃ before entry after fault, Text.commaItems list = before ++ entry :: after ∧
        (∀ e ∈ before, ∃ route, readEntry e = .ok route) ∧
        readEntry entry = .error (.badRoute entry fault) ∧ failure = .badRoute entry fault) ∧
    (∀ (list : String) (m : Routes), read list = .ok m ↔
      ∃ routes, List.Forall₂ (fun entry route => readEntry entry = .ok route)
          (Text.commaItems list) routes ∧
        ∀ key, m.get? key = routes.find? fun route => route.name == key) ∧
    (∀ (list list' : String) (m : Routes), (Text.commaItems list').Perm (Text.commaItems list) →
      ((Text.commaItems list).map entryName).Nodup → read list = .ok m → read list' = .ok m) ∧
    ∀ slots : List Text.Padded, read (",".intercalate (slots.map Text.Padded.whole)) =
      read (",".intercalate ((slots.map Text.Padded.text).filter (!Text.isAllBlank ·))) := by
  refine ⟨fun a b => ?_, fun list failure => ?_, fun list m => read_eq_ok_iff,
    fun list list' m => read_perm, fun slots => ?_⟩
  · have hcomma := read_comma a b
    rcases ha : read a with failure | first
    · rw [ha] at hcomma
      exact hcomma
    · rcases hb : read b with failure | second
      · rw [ha, hb] at hcomma
        exact hcomma
      · rw [ha, hb] at hcomma
        exact ⟨first.union second, hcomma, NameMap.get?_union first second⟩
  · rw [read_eq_error_iff]
    constructor
    · rintro ⟨before, entry, after, hitems, hbefore, hentry⟩
      obtain ⟨fault, rfl⟩ := readEntry_error hentry
      exact ⟨before, entry, after, fault, hitems, hbefore, hentry, rfl⟩
    · rintro ⟨before, entry, after, fault, hitems, hbefore, hentry, rfl⟩
      exact ⟨before, entry, after, hitems, hbefore, hentry⟩
  · unfold read
    rw [Text.commaItems_padded]

/-- Two entries, with blanks and a blank entry between them in the other order. -/
theorem read_reordered :
    (Text.commaItems "a.tcp://one:1 ,\t, b.tcp://two:2").Perm
      (Text.commaItems "b.tcp://two:2,a.tcp://one:1") ∧
    ((Text.commaItems "b.tcp://two:2,a.tcp://one:1").map entryName).Nodup ∧
    ∃ m, read "b.tcp://two:2,a.tcp://one:1" = .ok m ∧
      read "a.tcp://one:1 ,\t, b.tcp://two:2" = .ok m ∧
      m.entries = [("a", ⟨"a", "tcp", "one", 1⟩), ("b", ⟨"b", "tcp", "two", 2⟩)] := by
  have hperm : (Text.commaItems "a.tcp://one:1 ,\t, b.tcp://two:2").Perm
      (Text.commaItems "b.tcp://two:2,a.tcp://one:1") := by decide +kernel
  have hnames : ((Text.commaItems "b.tcp://two:2,a.tcp://one:1").map entryName).Nodup := by
    decide +kernel
  have hentries : (read "b.tcp://two:2,a.tcp://one:1").toOption.map (·.entries) =
      some [("a", ⟨"a", "tcp", "one", 1⟩), ("b", ⟨"b", "tcp", "two", 2⟩)] := by decide +kernel
  obtain ⟨m, hm, hsome⟩ := Option.map_eq_some_iff.mp hentries
  have hread := ok_of_toOption hm
  exact ⟨hperm, hnames, m, hread,
    read_entry_by_entry.2.2.2.1 _ _ m hperm hnames hread, hsome⟩

end RouteList

end GatewayProvisioning
