import Mathlib.Data.List.DropRight
import GatewayProvisioning.Proofs.TokenFlow

/-!
# Addresses that are put together

Segments may be joined to a base one after the other or at once, and slashes around them do not count.
A link of a listing leads to the address of the same path, so a walk knows it again.
-/

namespace GatewayProvisioning

namespace Text

variable {α : Type} {p : α → Bool}

theorem dropEndWhile_dropEndWhile (xs : List α) :
    dropEndWhile p (dropEndWhile p xs) = dropEndWhile p xs := by
  unfold dropEndWhile
  rw [List.reverse_reverse, List.dropWhile_idempotent]

theorem dropEndWhile_append_of_all {ys : List α} (h : ∀ y ∈ ys, p y = true) (xs : List α) :
    dropEndWhile p (xs ++ ys) = dropEndWhile p xs := by
  unfold dropEndWhile
  rw [List.reverse_append, List.dropWhile_append_of_pos (by simpa using h)]

/-- What is appended without its ends keeps them. -/
theorem dropEndWhile_append_dropBothWhile (xs : List α) (x : α) {ys : List α}
    (h : dropBothWhile p ys ≠ []) :
    dropEndWhile p (xs ++ x :: dropBothWhile p ys) = xs ++ x :: dropBothWhile p ys := by
  have hlast := (ends_of_dropBothWhile (dropBothWhile_dropBothWhile ys)).2 _
    (List.getLast?_eq_some_getLast h)
  apply dropEndWhile_of_getLast (by simp)
  rw [List.getLast_append_of_ne_nil _ (List.cons_ne_nil _ _), List.getLast_cons h]
  exact hlast

end Text

namespace Url

/-! ## One segment more -/

/-- A row of slashes. -/
def slashes (n : Nat) : String :=
  String.ofList (List.replicate n '/')

theorem slashes_all (n : Nat) : ∀ c ∈ (slashes n).toList, (c == '/') = true := by
  intro c hc
  rw [slashes, String.toList_ofList] at hc
  exact beq_iff_eq.mpr (List.eq_of_mem_replicate hc)

theorem trimBase_slashes (base : String) (n : Nat) : trimBase (base ++ slashes n) = trimBase base := by
  unfold trimBase
  rw [String.toList_append, Text.dropEndWhile_append_of_all (slashes_all n)]

theorem dropBothWhile_slashes (m n : Nat) (segment : String) :
    Text.dropBothWhile (· == '/') (slashes m ++ segment ++ slashes n).toList =
      Text.dropBothWhile (· == '/') segment.toList := by
  rw [String.toList_append, String.toList_append]
  exact Text.dropBothWhile_around (slashes_all m) (slashes_all n) _

/-- An address that does not end in a slash does so with no segment more. -/
theorem trimmed_appendSegment {url : List Char} (h : Text.dropEndWhile (· == '/') url = url)
    (segment : String) :
    Text.dropEndWhile (· == '/') (appendSegment url segment) = appendSegment url segment := by
  unfold appendSegment
  split
  · exact h
  · rename_i hnil
    exact Text.dropEndWhile_append_dropBothWhile url '/' hnil

/-- The induction is on the segments; no intermediate address ends in a slash. -/
theorem trimmed_segments {url : List Char} (h : Text.dropEndWhile (· == '/') url = url)
    (segments : List String) :
    Text.dropEndWhile (· == '/') (segments.foldl appendSegment url) =
      segments.foldl appendSegment url := by
  induction segments generalizing url with
  | nil => exact h
  | cons segment segments ih => exact ih (trimmed_appendSegment h segment)

theorem trimBase_join (base : String) (segments : List String) :
    trimBase (join base segments) = (join base segments).toList := by
  unfold join
  rw [trimBase, String.toList_ofList]
  exact trimmed_segments (Text.dropEndWhile_dropEndWhile _) segments

/-! ## Joining -/

theorem join_join (base : String) (first second : List String) :
    join (join base first) second = join base (first ++ second) := by
  have hfirst := trimBase_join base first
  rw [join, hfirst, join, String.toList_ofList, ← List.foldl_append, ← join]

theorem foldl_appendSegment_slashes {segments others : List String}
    (h : List.Forall₂ (fun segment other => ∃ m n, other = slashes m ++ segment ++ slashes n) segments
      others) (url : List Char) :
    others.foldl appendSegment url = segments.foldl appendSegment url := by
  induction h generalizing url with
  | nil => rfl
  | cons hfirst _ ih =>
    obtain ⟨m, n, rfl⟩ := hfirst
    rw [List.foldl_cons, List.foldl_cons, ih, appendSegment, dropBothWhile_slashes, ← appendSegment]

theorem join_slashes (base : String) (k : Nat) {segments others : List String}
    (h : List.Forall₂ (fun segment other => ∃ m n, other = slashes m ++ segment ++ slashes n) segments
      others) : join (base ++ slashes k) others = join base segments := by
  rw [join, trimBase_slashes, foldl_appendSegment_slashes h, ← join]

/-! ## Links -/

/-- A link that is no address of its own, and that says something behind its last slash. -/
structure PathLink (link : String) : Prop where
  notHttp : ¬"http://".toList <+: link.toList
  notHttps : ¬"https://".toList <+: link.toList
  notEmpty : link ≠ ""
  ending : link.toList.getLast? ≠ some '/'

namespace PathLink

variable {link : String}

/-- A slash in front of a link makes it no address of its own. -/
theorem slashes (h : PathLink link) (n : Nat) : PathLink (Url.slashes n ++ link) := by
  have hchars : (Url.slashes n ++ link).toList = List.replicate n '/' ++ link.toList := by
    rw [String.toList_append, Url.slashes, String.toList_ofList]
  have hnil : link.toList ≠ [] := mt String.toList_eq_nil_iff.mp h.notEmpty
  refine ⟨?_, ?_, ?_, ?_⟩
  · rw [hchars]
    cases n with
    | zero => exact h.notHttp
    | succ n => simp [List.replicate_succ]
  · rw [hchars]
    cases n with
    | zero => exact h.notHttps
    | succ n => simp [List.replicate_succ]
  · rw [ne_eq, ← String.toList_eq_nil_iff, hchars]
    exact List.append_ne_nil_of_right_ne_nil _ hnil
  · rw [hchars, List.getLast?_append_of_ne_nil _ hnil]
    exact h.ending

/-- Behind the slashes in front of a link something is left, and nothing is dropped at its end. -/
theorem dropBothWhile_eq (h : PathLink link) :
    Text.dropBothWhile (· == '/') link.toList = link.toList.dropWhile (· == '/') ∧
      link.toList.dropWhile (· == '/') ≠ [] := by
  have hnil : link.toList ≠ [] := mt String.toList_eq_nil_iff.mp h.notEmpty
  have hlast : (link.toList.getLast hnil == '/') = false := by
    have hending := h.ending
    rw [List.getLast?_eq_some_getLast hnil, ne_eq, Option.some.injEq] at hending
    exact beq_eq_false_iff_ne.mpr hending
  have hleft : link.toList.dropWhile (· == '/') ≠ [] :=
    List.ne_nil_of_mem (Text.mem_dropWhile (List.getLast_mem hnil) hlast)
  refine ⟨?_, hleft⟩
  have hend := List.dropWhile_suffix (fun c => c == '/') (l := link.toList)
  rw [Text.dropBothWhile, Text.dropEndWhile_of_getLast hleft]
  rw [hend.getLast hleft]
  exact hlast

end PathLink

end Url

namespace AdminClient

open Document

variable (c : AdminClient) {link : String}

/-- A link and a path lead to the same address. -/
theorem resolve_eq_url (h : Url.PathLink link) : c.resolve link = c.url link := by
  obtain ⟨hboth, hnil⟩ := h.dropBothWhile_eq
  have hrelative : ¬("http://".toList.isPrefixOf link.toList ||
      "https://".toList.isPrefixOf link.toList) = true := by
    rw [Bool.or_eq_true, List.isPrefixOf_iff_prefix, List.isPrefixOf_iff_prefix, not_or]
    exact ⟨h.notHttp, h.notHttps⟩
  apply String.toList_inj.mp
  rw [resolve, if_neg hrelative, url, Url.join_toList, Url.appendSegment, hboth, String.toList_ofList]
  split
  · rename_i hempty
    exact absurd hempty hnil
  · rfl

theorem url_slashes (link : String) (n : Nat) : c.url (Url.slashes n ++ link) = c.url link := by
  have hslashes := Url.dropBothWhile_slashes n 0 link
  have hnone : Url.slashes 0 = "" := rfl
  rw [hnone, String.append_empty] at hslashes
  apply String.toList_inj.mp
  rw [url, url, Url.join_toList, Url.join_toList, Url.appendSegment, hslashes, ← Url.appendSegment]

/-- A page that links to the path of its own listing ends the walk. -/
theorem listIds_revisited {collection : String} {response : Response} {page : Page IdEntry}
    (hok : response.isOk = true)
    (hpage : (Page.codec IdEntry.codec).decode (Json.document response.body) = .ok page)
    (hnext : page.link? = some link) (hlink : Url.PathLink link)
    (hsame : c.url link = c.url collection) (replies : List Reply) :
    c.listIds collection (.ok response :: replies) =
      ⟨[c.request .get collection],
        some (.error (.undecodable (c.url collection) .linkVisited), replies)⟩ := by
  have hread : c.readPage (c.url collection) response =
      .ok (page.data.map (·.id), some (c.url collection)) := by
    unfold readPage decodeFrom
    simp only [hok, hpage, hnext, Bool.not_true, Bool.false_eq_true, if_false, bind, Except.bind,
      Except.mapError, pure, Except.pure, Option.map_some, c.resolve_eq_url hlink, hsame]
  have hagain : ∀ replies, c.walk ([] ++ [c.url collection]) ([] ++ page.data.map (·.id))
      (c.url collection) replies =
      Dialogue.fail (.undecodable (c.url collection) .linkVisited) replies := by
    intro replies
    cases replies <;> simp [walk]
  unfold listIds walk
  simp only [if_neg (List.not_mem_nil (a := c.url collection)), hread, hagain]
  rfl

end AdminClient

/-- Segments may be joined one after the other, and slashes at the end of a base and around segments do
not count; so the paths of the admin interface are joined to its root behind the path of the interface.
A link that is no address of its own leads below the base, whatever it is, and to where the same path
leads, with any slashes in front of it. So a walk knows the address of a listing again in a link. This
is said of addresses as texts, in which dots are characters like others. -/
theorem addresses_joined :
    (∀ base first second, Url.join (Url.join base first) second = Url.join base (first ++ second)) ∧
    (∀ base k segments others,
      List.Forall₂ (fun segment other => ∃ m n, other = Url.slashes m ++ segment ++ Url.slashes n)
        segments others → Url.join (base ++ Url.slashes k) others = Url.join base segments) ∧
    (∀ (s : GatewaySettings) token path, AdminClient.url ⟨s.adminBase, token⟩ path =
      Url.join (s.adminProtocol ++ "://" ++ s.server ++ ":" ++ Decimal.ofNat s.adminPort.toNat)
        [s.adminPath, path]) ∧
    ∀ (c : AdminClient) (link : String),
      (¬"http://".toList <+: link.toList → ¬"https://".toList <+: link.toList →
        Url.Below c.base (c.resolve link)) ∧
      (Url.PathLink link →
        (∀ n, c.resolve (Url.slashes n ++ link) = c.url link ∧
          c.url (Url.slashes n ++ link) = c.url link) ∧
        ∀ collection response page replies, response.isOk = true →
          (Page.codec IdEntry.codec).decode (Json.document response.body) = .ok page →
          page.link? = some link → c.url link = c.url collection →
          c.listIds collection (.ok response :: replies) =
            ⟨[c.request .get collection],
              some (.error (.undecodable (c.url collection) .linkVisited), replies)⟩) := by
  refine ⟨Url.join_join, fun base k _ _ h => Url.join_slashes base k h, fun s token path => ?_,
    fun c link => ⟨fun hhttp hhttps => ?_, fun hlink => ⟨fun n => ⟨?_, c.url_slashes link n⟩, ?_⟩⟩⟩
  · exact Url.join_join _ [s.adminPath] [path]
  · rcases c.resolve_below link with hbelow | ⟨-, hprefix | hprefix⟩
    · exact hbelow
    · exact absurd hprefix hhttp
    · exact absurd hprefix hhttps
  · rw [c.resolve_eq_url (hlink.slashes n), c.url_slashes]
  · intro collection response page replies hok hpage hnext hsame
    exact c.listIds_revisited hok hpage hnext hlink hsame replies

/-- An interface behind a prefix. -/
def prefixedAdmin : AdminClient := ⟨"http://kong:8001/admin/", "t"⟩

/-- Behind a prefix, a link with two slashes leads to its path, and a page that links to its own
collection without the slash in front of it ends the walk. -/
theorem addresses_joined_prefixed :
    prefixedAdmin.resolve "//routes" = prefixedAdmin.url "routes" ∧
      prefixedAdmin.listIds "/routes" [.ok ⟨200, "\x7b\"next\":\"routes\"\x7d"⟩] =
        ⟨[prefixedAdmin.request .get "/routes"],
          some (.error (.undecodable (prefixedAdmin.url "/routes") .linkVisited), [])⟩ := by
  have hlink : Url.PathLink "routes" := ⟨by decide, by decide, by decide, by decide⟩
  have hjoined := (addresses_joined.2.2.2 prefixedAdmin "routes").2 hlink
  have hpage : (Page.codec IdEntry.codec).decode (Json.document "\x7b\"next\":\"routes\"\x7d") =
      .ok ⟨[], some "routes"⟩ := ok_of_toOption (by decide +kernel)
  have hslashes : Url.slashes 2 ++ "routes" = "//routes" := by decide
  have hresolved := (hjoined.1 2).1
  rw [hslashes] at hresolved
  exact ⟨hresolved, hjoined.2 "/routes" ⟨200, _⟩ _ [] rfl hpage rfl (by decide +kernel)⟩

end GatewayProvisioning
