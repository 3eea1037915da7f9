import GatewayProvisioning.Proofs.Cutting
import GatewayProvisioning.Proofs.Percent
import GatewayProvisioning.Url.Reader

/-!
# Addresses below a folder

A folder is an address that ends in a slash. If characters that mean nothing outside a path follow
it, the address is read as the folder is, up to the segments at the end of its path.
-/

namespace GatewayProvisioning.Url

/-! ## Characters of a path -/

/-- The characters of a path of encoded segments. -/
def isPathChar (c : Char) : Bool :=
  isWordChar c || c == '/'

theorem isPathChar_ascii {c : Char} (h : isPathChar c = true) : c.toNat < 0x80 := by
  unfold isPathChar at h
  rw [Bool.or_eq_true, beq_iff_eq] at h
  rcases h with h | rfl
  · exact isWordChar_ascii h
  · decide

theorem isPathChar_quiet {c : Char} (h : isPathChar c = true) :
    0x20 < c.toNat ∧ c ≠ '?' ∧ c ≠ '#' ∧ c ≠ '\\' := by
  have hall : ∀ n < 0x80, isPathChar (Char.ofNat n) = true →
      0x20 < (Char.ofNat n).toNat ∧ Char.ofNat n ≠ '?' ∧ Char.ofNat n ≠ '#' ∧
        Char.ofNat n ≠ '\\' := by decide +kernel
  have hc := hall c.toNat (isPathChar_ascii h)
  rw [Char.ofNat_toNat] at hc
  exact hc h

/-! ## What counts -/

theorem filter_visible {cs : List Char} (h : ∀ c ∈ cs, 0x20 < c.toNat) :
    cs.filter (fun c => !(c == '\t' || c == '\n' || c == '\r')) = cs := by
  rw [List.filter_eq_self]
  intro c hc
  have hlow := h c hc
  have hne : c ≠ '\t' ∧ c ≠ '\n' ∧ c ≠ '\r' := by
    refine ⟨?_, ?_, ?_⟩ <;> rintro rfl <;> revert hlow <;> decide
  simp [hne]

/-- Of a text without blanks and controls every character counts. -/
theorem significant_visible {cs : List Char} (h : ∀ c ∈ cs, 0x20 < c.toNat) :
    significant (String.ofList cs) = cs := by
  have hends : Text.dropBothWhile (fun c : Char => c.toNat ≤ 0x20) cs = cs := by
    apply Text.dropBothWhile_of_ends
    · intro c hc
      simpa using h c (List.mem_of_mem_head? hc)
    · intro c hc
      simpa using h c (List.mem_of_getLast? hc)
  unfold significant
  rw [String.toList_ofList, hends, filter_visible h]

/-- The characters of a text that count if more of the text follows. -/
def counted (front : List Char) : List Char :=
  (front.dropWhile fun c => c.toNat ≤ 0x20).filter fun c => !(c == '\t' || c == '\n' || c == '\r')

/-- Nothing is dropped at the end of a text whose last characters are visible. -/
theorem significant_append (front : List Char) {t : List Char} (hne : t ≠ [])
    (ht : ∀ c ∈ t, 0x20 < c.toNat) : significant (String.ofList (front ++ t)) = counted front ++ t := by
  have hfront : (front ++ t).dropWhile (fun c => c.toNat ≤ 0x20) =
      front.dropWhile (fun c => c.toNat ≤ 0x20) ++ t := by
    rw [List.dropWhile_append]
    split
    · rename_i hnil
      obtain ⟨c, rest, rfl⟩ := List.exists_cons_of_ne_nil hne
      have hc := ht c List.mem_cons_self
      rw [List.isEmpty_iff.mp hnil, List.nil_append,
        List.dropWhile_cons_of_neg (by simpa using hc)]
    · rfl
  have hwhole : front.dropWhile (fun c => c.toNat ≤ 0x20) ++ t ≠ [] :=
    List.append_ne_nil_of_right_ne_nil _ hne
  have hlast : (front.dropWhile (fun c => c.toNat ≤ 0x20) ++ t).getLast hwhole ∈ t := by
    rw [List.getLast_append_of_ne_nil _ hne]
    exact List.getLast_mem _
  have hend := Text.dropEndWhile_of_getLast (p := fun c => c.toNat ≤ 0x20) hwhole
    (by simpa using ht _ hlast)
  unfold significant Text.dropBothWhile counted
  rw [String.toList_ofList, hfront, hend, List.filter_append, filter_visible ht]

theorem significant_below (folder : List Char) {t : List Char} (ht : ∀ c ∈ t, isPathChar c = true) :
    significant (String.ofList (folder ++ '/' :: t)) = counted folder ++ '/' :: t := by
  apply significant_append folder (List.cons_ne_nil _ _)
  intro c hc
  rcases List.mem_cons.mp hc with rfl | hc
  · decide
  · exact (isPathChar_quiet (ht c hc)).1

/-! ## Scheme and authority -/

/-- A scheme ends at the first colon, and it holds none. -/
theorem readScheme?_colon {cs rest : List Char} {scheme : String}
    (h : readScheme? cs = some (scheme, rest)) :
    ':' ∉ scheme.toList ∧ ∃ before, Text.splitFirst? (· == ':') cs = some (before, rest) := by
  unfold readScheme? at h
  obtain ⟨⟨before, after⟩, hsplit, h⟩ := Option.bind_eq_some_iff.mp h
  obtain ⟨first, -, h⟩ := Option.bind_eq_some_iff.mp h
  split at h
  · rename_i hchars
    cases h
    rw [Bool.and_eq_true, List.all_eq_true] at hchars
    rw [String.toList_ofList]
    exact ⟨fun hcolon => absurd (hchars.2 ':' hcolon) (by decide), before, hsplit⟩
  · cases h

theorem readScheme?_append {cs rest : List Char} {scheme : String}
    (h : readScheme? cs = some (scheme, rest)) (t : List Char) :
    readScheme? (cs ++ t) = some (scheme, rest ++ t) := by
  unfold readScheme? at h ⊢
  rcases hsplit : Text.splitFirst? (· == ':') cs with _ | ⟨before, after⟩
  · simp [hsplit] at h
  · rw [Text.splitFirst?_append hsplit]
    simp only [hsplit, Option.bind_eq_bind, Option.bind_some] at h ⊢
    rcases hfirst : (before.map Text.asciiLower).head? with _ | first
    · simp [hfirst] at h
    · simp only [hfirst, Option.bind_some] at h ⊢
      split at h
      · rename_i hscheme
        rw [if_pos hscheme]
        simp only [Option.some.injEq, Prod.mk.injEq] at h ⊢
        exact ⟨h.1, by rw [h.2]⟩
      · cases h

/-- A text that ends in a slash still does so when the scheme has been read. -/
theorem readScheme?_slash {cs rest : List Char} {scheme : String}
    (h : readScheme? (cs ++ ['/']) = some (scheme, rest)) : ∃ front, rest = front ++ ['/'] := by
  obtain ⟨-, before, hsplit⟩ := readScheme?_colon h
  obtain ⟨colon, hcolon, heq⟩ := Text.splitFirst?_eq_some hsplit
  rcases List.eq_nil_or_concat rest with rfl | ⟨front, last, rfl⟩
  · -- the colon cannot be the slash at the end
    have hlast := List.append_inj_right' heq rfl
    simp only [List.cons.injEq, and_true] at hlast
    rw [← hlast] at hcolon
    exact absurd hcolon (by decide)
  · have hlast : cs ++ ['/'] = (before ++ colon :: front) ++ [last] := by
      rw [heq]
      simp
    have hslash := List.append_inj_right' hlast rfl
    exact ⟨front, by rw [List.concat_eq_append, ← hslash]⟩

theorem takeHost_append (special inside : Bool) {cs : List Char} (h : '/' ∈ cs) (t : List Char) :
    takeHost special inside (cs ++ t) =
        ((takeHost special inside cs).1, (takeHost special inside cs).2 ++ t) ∧
      '/' ∈ (takeHost special inside cs).2 ∧ (takeHost special inside cs).2 <:+ cs := by
  induction cs generalizing inside with
  | nil => cases h
  | cons c cs ih =>
    rw [List.cons_append]
    unfold takeHost
    by_cases hstop : (endsAuthority special c || (c == ':' && !inside)) = true
    · rw [if_pos hstop, if_pos hstop]
      exact ⟨rfl, h, List.suffix_rfl⟩
    · rw [if_neg hstop, if_neg hstop]
      have hrest : '/' ∈ cs := by
        rcases List.mem_cons.mp h with rfl | h
        · exact absurd rfl hstop
        · exact h
      obtain ⟨htake, hmem, hsuffix⟩ :=
        ih (if c == '[' then true else if c == ']' then false else inside) hrest
      simp only [htake]
      exact ⟨trivial, hmem, hsuffix.trans (List.suffix_cons c cs)⟩

theorem readPort_append {cs rest : List Char} {port : Option Nat} (h : '/' ∈ cs)
    (hport : readPort cs = .ok (port, rest)) (t : List Char) :
    readPort (cs ++ t) = .ok (port, rest ++ t) ∧ '/' ∈ rest ∧ rest <:+ cs := by
  -- the digits of the port end at the slash or before it
  have hstop : ∃ c ∈ cs, Text.isDigit c = false := ⟨'/', h, rfl⟩
  have hleft : '/' ∈ cs.dropWhile Text.isDigit := Text.mem_dropWhile h rfl
  have hhead : (cs.dropWhile Text.isDigit ++ t).head? = (cs.dropWhile Text.isDigit).head? := by
    rcases hd : cs.dropWhile Text.isDigit with _ | ⟨c, ds⟩
    · rw [hd] at hleft
      cases hleft
    · rfl
  unfold readPort at hport ⊢
  rw [Text.takeWhile_append_of_mem hstop, Text.dropWhile_append_of_mem hstop]
  simp only [hhead] at hport ⊢
  split at hport
  · cases hport
  · rename_i hsmall
    rw [if_neg hsmall]
    split at hport
    · cases hport
    · rename_i hend
      rw [if_neg hend]
      simp only [Except.ok.injEq, Prod.mk.injEq] at hport
      obtain ⟨rfl, rfl⟩ := hport
      exact ⟨rfl, hleft, List.dropWhile_suffix _⟩

/-- Host and port, after user name and password. -/
def readHostAndPort (special : Bool) (user cs : List Char) : Except Fault (Authority × List Char) :=
  let (username, password) := readUser user
  let (hostText, rest) := takeHost special false cs
  match readHost special hostText with
  | .error fault => .error fault
  | .ok host =>
    if rest.head? = some ':' then
      if host.isNone then .error .emptyHost
      else (readPort rest.tail).map fun (port, rest) => (⟨username, password, host, port⟩, rest)
    else if host.isNone && !(username.isEmpty && password.isEmpty) then .error .emptyHost
    else .ok (⟨username, password, host, none⟩, rest)

theorem readHostAndPort_eq (special : Bool) (user cs : List Char) :
    (do
      let (username, password) := readUser user
      let (hostText, rest) := takeHost special false cs
      let host ← readHost special hostText
      match rest with
      | ':' :: rest => do
        if host.isNone then throw .emptyHost
        let (port, rest) ← readPort rest
        return (({ username, password, host, port } : Authority), rest)
      | rest => do
        if host.isNone && !(username.isEmpty && password.isEmpty) then throw .emptyHost
        return ({ username, password, host, port := none }, rest)) =
      readHostAndPort special user cs := by
  unfold readHostAndPort
  generalize takeHost special false cs = found
  obtain ⟨hostText, rest⟩ := found
  simp only
  rcases readHost special hostText with fault | host
  · rfl
  · change (match rest with
      | ':' :: rest => _
      | rest => _) = if rest.head? = some ':' then _ else _
    split
    · rename_i rest
      rw [List.head?_cons, if_pos rfl, List.tail_cons]
      by_cases hnone : host.isNone = true
      · rw [if_pos hnone, if_pos hnone]
        rfl
      · rw [if_neg hnone, if_neg hnone]
        rcases readPort rest with fault | ⟨port, left⟩ <;> rfl
    · rename_i hcolon
      have hhead : rest.head? ≠ some ':' := by
        intro h
        obtain ⟨tail, htail⟩ := List.head?_eq_some_iff.mp h
        exact hcolon tail htail
      rw [if_neg hhead]
      split <;> rfl

theorem readAuthority_eq (special : Bool) (cs : List Char) :
    readAuthority special cs =
      match Text.splitLast? (· == '@') (cs.takeWhile fun c => !endsAuthority special c) with
      | some (user, hostAndPort) =>
        readHostAndPort special user
          (hostAndPort ++ cs.dropWhile fun c => !endsAuthority special c)
      | none => readHostAndPort special [] cs := by
  unfold readAuthority
  rcases hsplit : Text.splitLast? (· == '@') (cs.takeWhile fun c => !endsAuthority special c) with
    _ | ⟨user, hostAndPort⟩
  · simp only [hsplit]
    exact readHostAndPort_eq special [] cs
  · simp only [hsplit]
    exact readHostAndPort_eq special user _

theorem readHostAndPort_append (special : Bool) (user : List Char) {cs rest : List Char}
    {authority : Authority} (h : '/' ∈ cs)
    (hread : readHostAndPort special user cs = .ok (authority, rest)) (t : List Char) :
    readHostAndPort special user (cs ++ t) = .ok (authority, rest ++ t) ∧ '/' ∈ rest ∧
      rest <:+ cs := by
  obtain ⟨htake, hmem, hsuffix⟩ := takeHost_append special false h t
  unfold readHostAndPort at hread ⊢
  simp only [htake] at hread ⊢
  generalize takeHost special false cs = found at hread hmem hsuffix ⊢
  obtain ⟨hostText, after⟩ := found
  rcases after with _ | ⟨c, after⟩
  · cases hmem
  rcases hhost : readHost special hostText with fault | host
  · simp only [hhost] at hread
    cases hread
  simp only [hhost, List.cons_append, List.head?_cons, List.tail_cons, Option.some.injEq] at hread ⊢
  -- with a colon the slash follows the port, without one it may be next
  by_cases hcolon : c = ':'
  · have hslash : '/' ∈ after := by
      rcases List.mem_cons.mp hmem with hc | hc
      · rw [← hc] at hcolon
        exact absurd hcolon (by decide)
      · exact hc
    rw [if_pos hcolon] at hread ⊢
    split at hread
    · cases hread
    · rename_i hsome
      rw [if_neg hsome]
      rcases hport : readPort after with fault | ⟨port, left⟩
      · rw [hport] at hread
        cases hread
      · obtain ⟨happend, hleft, hend⟩ := readPort_append hslash hport t
        rw [hport] at hread
        rw [happend]
        cases hread
        exact ⟨rfl, hleft, (hend.trans (List.suffix_cons c after)).trans hsuffix⟩
  · rw [if_neg hcolon] at hread ⊢
    split at hread
    · cases hread
    · rename_i hkept
      rw [if_neg hkept]
      cases hread
      exact ⟨rfl, hmem, hsuffix⟩

theorem readAuthority_append (special : Bool) {cs rest : List Char} {authority : Authority}
    (h : '/' ∈ cs) (hread : readAuthority special cs = .ok (authority, rest)) (t : List Char) :
    readAuthority special (cs ++ t) = .ok (authority, rest ++ t) ∧ '/' ∈ rest ∧ rest <:+ cs := by
  have hstop : ∃ c ∈ cs, (!endsAuthority special c) = false := ⟨'/', h, rfl⟩
  have hafter : '/' ∈ cs.dropWhile fun c => !endsAuthority special c := Text.mem_dropWhile h rfl
  have hwhole := List.takeWhile_append_dropWhile (p := fun c => !endsAuthority special c) (l := cs)
  rw [readAuthority_eq] at hread ⊢
  rw [Text.takeWhile_append_of_mem hstop, Text.dropWhile_append_of_mem hstop]
  rcases hsplit : Text.splitLast? (· == '@') (cs.takeWhile fun c => !endsAuthority special c) with
    _ | ⟨user, hostAndPort⟩
  · simp only [hsplit] at hread ⊢
    exact readHostAndPort_append special [] h hread t
  · simp only [hsplit] at hread ⊢
    have hmem : '/' ∈ hostAndPort ++ cs.dropWhile fun c => !endsAuthority special c :=
      List.mem_append_right _ hafter
    obtain ⟨mark, -, hauthority⟩ := Text.splitLast?_eq_some hsplit
    rw [hauthority, List.append_assoc] at hwhole
    have hsuffix : (hostAndPort ++ cs.dropWhile fun c => !endsAuthority special c) <:+ cs :=
      ⟨user ++ [mark], by simpa using hwhole⟩
    obtain ⟨happend, hslash, hend⟩ := readHostAndPort_append special user hmem hread t
    rw [← List.append_assoc]
    exact ⟨happend, hslash, hend.trans hsuffix⟩

/-! ## Query and fragment -/

/-- Whether a row of characters has neither a query nor a fragment. -/
def Unmarked (cs : List Char) : Prop :=
  ∀ c ∈ cs, c ≠ '#' ∧ c ≠ '?'

theorem unmarked_append_iff {cs t : List Char} (ht : ∀ c ∈ t, isPathChar c = true) :
    Unmarked (cs ++ t) ↔ Unmarked cs := by
  constructor
  · intro h c hc
    exact h c (List.mem_append_left t hc)
  · intro h c hc
    rcases List.mem_append.mp hc with hc | hc
    · exact h c hc
    · have hquiet := isPathChar_quiet (ht c hc)
      exact ⟨hquiet.2.2.1, hquiet.2.1⟩

theorem splitQuery_of_unmarked {cs : List Char} (h : Unmarked cs) :
    splitQuery cs = (cs, none, none) := by
  have hfragment : Text.splitFirst? (· == '#') cs = none :=
    Text.splitFirst?_eq_none.mpr fun c hc => by simpa using (h c hc).1
  have hquery : Text.splitFirst? (· == '?') cs = none :=
    Text.splitFirst?_eq_none.mpr fun c hc => by simpa using (h c hc).2
  unfold splitQuery
  simp only [hfragment, hquery]

theorem unmarked_of_splitQuery {cs : List Char} (h : (splitQuery cs).2 = (none, none)) :
    Unmarked cs := by
  unfold splitQuery at h
  rcases hfragment : Text.splitFirst? (· == '#') cs with _ | ⟨before, fragment⟩
  · simp only [hfragment] at h
    rcases hquery : Text.splitFirst? (· == '?') cs with _ | ⟨path, query⟩
    · intro c hc
      have hc1 := Text.splitFirst?_eq_none.mp hfragment c hc
      have hc2 := Text.splitFirst?_eq_none.mp hquery c hc
      exact ⟨by simpa using hc1, by simpa using hc2⟩
    · simp [hquery] at h
  · simp only [hfragment] at h
    rcases hquery : Text.splitFirst? (· == '?') before with _ | ⟨path, query⟩ <;>
      simp [hquery] at h

theorem finish_marks (special : Bool) (rest : List Char) (build : List Char → Url) :
    ((finish special rest build).query = none ∧ (finish special rest build).fragment = none) ↔
      Unmarked rest := by
  unfold finish
  constructor
  · rintro ⟨hquery, hfragment⟩
    apply unmarked_of_splitQuery
    simp only [Option.map_eq_none_iff] at hquery hfragment
    exact Prod.ext hquery hfragment
  · intro h
    rw [splitQuery_of_unmarked h]
    exact ⟨rfl, rfl⟩

theorem finish_of_unmarked (special : Bool) {rest : List Char} (h : Unmarked rest)
    (build : List Char → Url) :
    finish special rest build = { build rest with query := none, fragment := none } := by
  unfold finish
  rw [splitQuery_of_unmarked h]
  rfl

/-! ## Path -/

/-- What one segment does to the segments before it, which are given backwards. -/
def settle (before : List String) (segment : List Char) : List String :=
  if isDoubleDot segment then before.drop 1
  else if isDot segment then before
  else escape pathEscapes segment :: before

theorem resolve_append (before : List String) (firsts : List (List Char))
    {lasts : List (List Char)} (h : lasts ≠ []) :
    resolve before (firsts ++ lasts) = resolve (firsts.foldl settle before) lasts := by
  induction firsts generalizing before with
  | nil => rfl
  | cons segment firsts ih =>
    obtain ⟨next, rest, hrest⟩ := List.exists_cons_of_ne_nil (List.append_ne_nil_of_right_ne_nil firsts h)
    rw [List.foldl_cons, ← ih, List.cons_append, hrest, resolve]
    · unfold settle
      split
      · rfl
      · split <;> rfl
    · intro hnil
      cases hnil

theorem splitPath_ne_nil (cs : List Char) : splitPath true cs ≠ [] :=
  Text.splitWhere_ne_nil cs

/-- An empty segment at the end. -/
theorem resolve_slash (before : List String) :
    resolve before (splitPath true []) = before.reverse ++ [""] := by
  have hend : resolve before (splitPath true []) = ("" :: before).reverse := rfl
  rw [hend, List.reverse_cons]

theorem splitPath_append (special : Bool) (cs t : List Char) :
    splitPath special (cs ++ '/' :: t) = splitPath special cs ++ splitPath special t :=
  Text.splitWhere_append rfl cs t

/-- Whatever follows the last slash of a path, the segments before it are the same. -/
theorem readPath_slash (front : List Char) :
    ∃ firsts, ∀ t, readPath true (front ++ '/' :: t) =
      .segments (resolve [] (firsts ++ splitPath true t)) := by
  rcases front with _ | ⟨c, front⟩
  · exact ⟨[], fun t => rfl⟩
  · by_cases hc : (c == '/' || (true && c == '\\')) = true
    · refine ⟨splitPath true front, fun t => ?_⟩
      rw [List.cons_append, readPath, if_pos hc, splitPath_append]
    · refine ⟨splitPath true (c :: front), fun t => ?_⟩
      rw [List.cons_append, readPath, if_neg hc, ← List.cons_append, splitPath_append]

/-! ## Reading below a folder -/

/-- The address of a file has no port. -/
theorem readFile_fields {cs : List Char} {u : Url} (h : readFile cs = .ok u) :
    u.scheme = "file" ∧ u.port = none := by
  unfold readFile at h
  simp only at h
  split at h
  · split at h
    · split at h
      · cases h
        exact ⟨rfl, rfl⟩
      · rename_i rest _ _
        rcases hhost : Host.ofSpecial (rest.takeWhile fun c => !endsAuthority true c) with fault | host
        · rw [hhost] at h
          cases h
        · rw [hhost] at h
          cases h
          exact ⟨rfl, rfl⟩
    · cases h
      exact ⟨rfl, rfl⟩
  · cases h
    exact ⟨rfl, rfl⟩

theorem readAfterSlashes_scheme {scheme : String} {special : Bool} {cs : List Char} {u : Url}
    (h : readAfterSlashes scheme special cs = .ok u) : u.scheme = scheme := by
  unfold readAfterSlashes at h
  rcases hread : readAuthority special cs with fault | ⟨authority, rest⟩
  · rw [hread] at h
    cases h
  · rw [hread] at h
    cases h
    rfl

theorem readOther_scheme {scheme : String} {cs : List Char} {u : Url}
    (h : readOther scheme cs = .ok u) : u.scheme = scheme := by
  unfold readOther at h
  split at h
  · exact readAfterSlashes_scheme h
  · cases h
    rfl
  · cases h
    rfl

/-- Of an address of the web whose text has a part in front of its last slash, only path, query and
fragment depend on what follows that slash. -/
theorem readAfterSlashes_below {scheme : String} {front : List Char} {u : Url}
    (h : readAfterSlashes scheme true (front ++ ['/']) = .ok u) :
    ∃ (v : Url) (mid : List Char), ∀ t, readAfterSlashes scheme true (front ++ '/' :: t) =
      .ok (finish true (mid ++ '/' :: t) fun path => { v with path := readPath true path }) := by
  unfold readAfterSlashes at h
  rcases hread : readAuthority true (front ++ ['/']) with fault | ⟨authority, rest⟩
  · rw [hread] at h
    cases h
  · have hslash : '/' ∈ front ++ ['/'] := by simp
    have hrest := readAuthority_append true hslash hread
    obtain ⟨mid, hmid⟩ : ∃ mid, rest = mid ++ ['/'] := by
      obtain ⟨-, hmem, before, hbefore⟩ := hrest []
      rcases List.eq_nil_or_concat rest with rfl | ⟨mid, last, rfl⟩
      · cases hmem
      · rw [List.concat_eq_append, ← List.append_assoc] at hbefore
        have hlast := List.append_inj_right' hbefore rfl
        rw [List.cons.injEq] at hlast
        exact ⟨mid, by rw [List.concat_eq_append, hlast.1]⟩
    let v : Url :=
      { scheme, username := authority.username, password := authority.password
        host := authority.host
        port := if authority.port = defaultPort? scheme then none else authority.port
        path := .words "" }
    refine ⟨v, mid, fun t => ?_⟩
    have happend := (hrest t).1
    rw [List.append_assoc, List.singleton_append, hmid, List.append_assoc,
      List.singleton_append] at happend
    unfold readAfterSlashes
    rw [happend]
    rfl

theorem parse_web_below {folder : List Char} {u : Url}
    (h : parse (String.ofList (folder ++ ['/'])) = .ok u)
    (hscheme : u.scheme = "http" ∨ u.scheme = "https") :
    ∃ (v : Url) (mid : List Char), ∀ t, (∀ c ∈ t, isPathChar c = true) →
      parse (String.ofList (folder ++ '/' :: t)) =
        .ok (finish true (mid ++ '/' :: t) fun path => { v with path := readPath true path }) := by
  have hspecial : isSpecial u.scheme = true := by
    rcases hscheme with hscheme | hscheme <;> rw [hscheme] <;> decide
  unfold parse at h ⊢
  rw [significant_below folder (by simp)] at h
  rcases hread : readScheme? (_ ++ ['/']) with _ | ⟨scheme, rest⟩
  · rw [hread] at h
    cases h
  rw [hread] at h
  simp only at h
  by_cases hfile : scheme = "file"
  · rw [if_pos hfile] at h
    rw [(readFile_fields h).1] at hscheme
    simp at hscheme
  rw [if_neg hfile] at h
  by_cases hweb : isSpecial scheme = true
  · rw [if_pos hweb] at h
    obtain ⟨front, rfl⟩ := readScheme?_slash hread
    -- slashes alone leave no host
    by_cases hall : ∀ c ∈ front, (c == '/' || c == '\\') = true
    · have hnil : (front ++ ['/']).dropWhile (fun c => c == '/' || c == '\\') = [] := by
        rw [List.dropWhile_append_of_pos hall]
        rfl
      rw [hnil] at h
      cases h
    · have hsome : ∃ c ∈ front, (c == '/' || c == '\\') = false := by simpa using hall
      rw [Text.dropWhile_append_of_mem hsome] at h
      obtain ⟨v, mid, hbelow⟩ := readAfterSlashes_below h
      refine ⟨v, mid, fun t ht => ?_⟩
      have happend := readScheme?_append hread t
      rw [List.append_assoc, List.append_assoc, List.singleton_append] at happend
      rw [significant_below folder ht, happend]
      simp only [if_neg hfile, if_pos hweb]
      rw [Text.dropWhile_append_of_mem hsome]
      exact hbelow t
  · rw [if_neg hweb] at h
    rw [readOther_scheme h] at hspecial
    exact absurd hspecial hweb

/-- The segments of a folder: those of its path before the empty one at the end. -/
def folder (u : Url) : List String :=
  match u.path with
  | .segments names => names.dropLast
  | .words _ => []

/-- Below a folder without query and fragment, an address has the segments of the folder and those
that follow it. -/
theorem parse_below {base : List Char} {u : Url}
    (h : parse (String.ofList (base ++ ['/'])) = .ok u)
    (hscheme : u.scheme = "http" ∨ u.scheme = "https")
    (hmarks : u.query = none ∧ u.fragment = none) {t : List Char}
    (ht : ∀ c ∈ t, isPathChar c = true) :
    parse (String.ofList (base ++ '/' :: t)) =
      .ok { u with path := .segments (resolve u.folder.reverse (splitPath true t)) } := by
  obtain ⟨v, mid, hbelow⟩ := parse_web_below h hscheme
  -- the folder itself is the case of an empty path below it
  have hu := hbelow [] (by simp)
  rw [h, Except.ok.injEq] at hu
  rw [hu, finish_marks] at hmarks
  have hmid : Unmarked (mid ++ '/' :: t) := by
    have hlong := (unmarked_append_iff ht).mpr hmarks
    rw [List.append_assoc] at hlong
    exact hlong
  obtain ⟨firsts, hpath⟩ := readPath_slash mid
  have hfolder : u.folder = (firsts.foldl settle []).reverse := by
    rw [hu, finish_of_unmarked true hmarks, folder]
    simp only [hpath]
    rw [resolve_append [] firsts (splitPath_ne_nil []), resolve_slash, List.dropLast_concat]
  rw [hbelow t ht, finish_of_unmarked true hmid, hpath,
    resolve_append [] firsts (splitPath_ne_nil t), hfolder, List.reverse_reverse, hu,
    finish_of_unmarked true hmarks]

/-- Below a folder with a query or a fragment, an address has one too. -/
theorem parse_below_marked {base : List Char} {u : Url}
    (h : parse (String.ofList (base ++ ['/'])) = .ok u)
    (hscheme : u.scheme = "http" ∨ u.scheme = "https")
    (hmarks : ¬(u.query = none ∧ u.fragment = none)) {t : List Char}
    (ht : ∀ c ∈ t, isPathChar c = true) {w : Url}
    (hw : parse (String.ofList (base ++ '/' :: t)) = .ok w) :
    ¬(w.query = none ∧ w.fragment = none) := by
  obtain ⟨v, mid, hbelow⟩ := parse_web_below h hscheme
  have hu := hbelow [] (by simp)
  rw [h, Except.ok.injEq] at hu
  rw [hbelow t ht, Except.ok.injEq] at hw
  rw [← hw, finish_marks]
  rw [hu, finish_marks] at hmarks
  intro hlong
  apply hmarks
  rw [← List.singleton_append, ← List.append_assoc] at hlong
  exact (unmarked_append_iff ht).mp hlong

end GatewayProvisioning.Url
