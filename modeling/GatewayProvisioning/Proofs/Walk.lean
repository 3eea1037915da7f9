import GatewayProvisioning.Proofs.Parts

/-!
# Walking through a listing

A walk asks for one page, and goes on from the response as another walk. So a listing, the emptying of
a collection and a whole reset are orderly like any conversation made of single requests.
-/

namespace GatewayProvisioning

open Dialogue

namespace Dialogue

variable {α : Type}

/-- A conversation is orderly on one row of replies. -/
structure OrderlyAt (d : Dialogue α) (replies : List Reply) : Prop where
  waits : ∀ {sent}, d replies = ⟨sent, none⟩ →
    sent.length = replies.length + 1 ∧ ∀ more, sent <+: (d (replies ++ more)).sent
  ends : ∀ {sent result rest}, d replies = ⟨sent, some (result, rest)⟩ →
    ∃ used, replies = used ++ rest ∧ used.length = sent.length ∧
      ∀ more, d (used ++ more) = ⟨sent, some (result, more)⟩

theorem Orderly.on {d : Dialogue α} (h : Orderly d) (replies : List Reply) : OrderlyAt d replies where
  waits := h.waits
  ends := h.ends

theorem orderly_of_on {d : Dialogue α} (h : ∀ replies, OrderlyAt d replies) : Orderly d where
  waits := fun hwait => (h _).waits hwait
  ends := fun hend => (h _).ends hend

/-- What follows a request has one reply less. -/
theorem orderlyAt_send {request : Request} {f : Response → Dialogue α} {replies : List Reply}
    (h : ∀ response rest, replies = .ok response :: rest → OrderlyAt (f response) rest) :
    OrderlyAt (send request >>= f) replies := by
  rcases replies with _ | ⟨reason | response, replies⟩
  · have hwait : (send request >>= f) [] = ⟨[request], none⟩ :=
      bind_of_waiting (d := send request) rfl
    refine ⟨fun hsent => ?_, fun hend => ?_⟩
    · rw [hwait] at hsent
      cases hsent
      exact ⟨rfl, fun more => ((((orderly_send request).on []).waits rfl).2 more).trans
        (sent_prefix_bind _ _ _)⟩
    · rw [hwait] at hend
      cases hend
  · have hfailed : ∀ more, (send request >>= f) (.error reason :: more) =
        ⟨[request], some (.error (.unreachable request.url reason), more)⟩ :=
      fun more => bind_of_failed (d := send request) rfl
    refine ⟨fun hsent => ?_, fun hend => ?_⟩
    · rw [hfailed] at hsent
      cases hsent
    · rw [hfailed] at hend
      cases hend
      exact ⟨[.error reason], rfl, rfl, hfailed⟩
  · have hnext : ∀ more, (send request >>= f) (.ok response :: more) =
        ⟨request :: (f response more).sent, (f response more).ended⟩ := by
      intro more
      rw [bind_of_ok (d := send request) rfl]
      rfl
    have hrest := h response replies rfl
    refine ⟨fun hsent => ?_, fun hend => ?_⟩
    · rw [hnext] at hsent
      obtain ⟨rfl, hwait⟩ := Progress.mk.inj hsent
      have hwaiting : f response replies = ⟨(f response replies).sent, none⟩ := by rw [← hwait]
      obtain ⟨hlength, hgrow⟩ := hrest.waits hwaiting
      refine ⟨congrArg (· + 1) hlength, fun more => ?_⟩
      rw [List.cons_append, hnext, List.prefix_cons_inj]
      exact hgrow more
    · rw [hnext] at hend
      obtain ⟨rfl, hended⟩ := Progress.mk.inj hend
      have hended' : f response replies = ⟨(f response replies).sent, (f response replies).ended⟩ :=
        rfl
      rw [hended] at hended'
      obtain ⟨used, rfl, hlength, hmore⟩ := hrest.ends hended'
      refine ⟨.ok response :: used, rfl, congrArg (· + 1) hlength, fun more => ?_⟩
      rw [List.cons_append, hnext, hmore]

end Dialogue

/-! ## A walk -/

namespace AdminClient

variable (c : AdminClient)

/-- How a walk goes on after the response with a page. -/
def walkOn (visited ids : List String) (url : String) (r : Response) : Dialogue (List String) :=
  match c.readPage url r with
  | .error failure => .fail failure
  | .ok (found, none) => pure (ids ++ found)
  | .ok (found, some next) => c.walk (visited ++ [url]) (ids ++ found) next

theorem walk_of_visited {visited : List String} {url : String} (h : url ∈ visited)
    (ids : List String) :
    c.walk visited ids url = Dialogue.fail (.undecodable url .linkVisited) := by
  funext replies
  cases replies <;> rw [walk, if_pos h]

theorem walk_of_new {visited : List String} {url : String} (h : url ∉ visited)
    (ids : List String) :
    c.walk visited ids url =
      Dialogue.send (c.requestTo .get url) >>= c.walkOn visited ids url := by
  funext replies
  rcases replies with _ | ⟨reason | response, replies⟩
  · rw [walk, if_neg h]
    rfl
  · rw [walk, if_neg h]
    rfl
  · rw [walk, if_neg h, bind_of_ok (d := Dialogue.send (c.requestTo .get url)) rfl]
    unfold walkOn
    rcases hpage : c.readPage url response with failure | ⟨found, _ | next⟩ <;>
      simp only [hpage] <;> rfl

/-- The induction is on the replies, since nothing else becomes less from page to page. -/
theorem orderly_walk (visited ids : List String) (url : String) :
    Orderly (c.walk visited ids url) := by
  refine orderly_of_on fun replies => ?_
  induction replies generalizing visited ids url with
  | nil =>
    by_cases hvisited : url ∈ visited
    · rw [walk_of_visited c hvisited]
      exact (orderly_ofResult _).on []
    · rw [walk_of_new c hvisited]
      exact orderlyAt_send fun response rest hcons => by cases hcons
  | cons reply replies ih =>
    by_cases hvisited : url ∈ visited
    · rw [walk_of_visited c hvisited]
      exact (orderly_ofResult _).on _
    · rw [walk_of_new c hvisited]
      refine orderlyAt_send fun response rest hcons => ?_
      cases hcons
      unfold walkOn
      split
      · exact (orderly_ofResult _).on _
      · exact (orderly_pure _).on _
      · exact ih _ _ _

theorem orderly_listIds (collection : String) : Orderly (c.listIds collection) :=
  c.orderly_walk [] [] (c.url collection)

end AdminClient

/-! ## A reset -/

namespace Provisioning

theorem orderly_emptyCollection (c : AdminClient) (collection : String) :
    Orderly (emptyCollection c collection) :=
  (c.orderly_listIds collection).bind fun ids => orderly_forEach (c.orderly_remove collection) ids

theorem orderly_reset (p : Provisioning) (files : FileSource) : Orderly (p.reset files) :=
  (orderly_ofResult _).bind fun c => orderly_forEach (orderly_emptyCollection c) resetOrder

end Provisioning

end GatewayProvisioning
