import GatewayProvisioning.Proofs.Asking
import GatewayProvisioning.Proofs.Transcript

/-!
# Two runs

Two conversations are twins if, on the same replies, they send requests that are alike one by one and
end in the same way. A gateway that answers like requests alike cannot tell twins from each other, so
what tells them apart has reached neither the gateway nor the result.

Likeness may depend on what has been said before, so that it can also say what a request is allowed to
be at its place.
-/

namespace GatewayProvisioning

open Dialogue

/-- How the requests of two runs are alike, by what has been said before them. -/
abbrev Likeness := List Exchange → Request → Request → Prop

namespace Dialogue

variable {α β ι σ : Type} {like : Likeness}

/-- Two transcripts are alike one exchange after the other, and have the same replies. -/
def Paired (like : Likeness) : List Exchange → List Exchange → List Exchange → Prop
  | _, [], [] => True
  | said, e :: es, e' :: es' =>
    like said e.request e'.request ∧ e.reply = e'.reply ∧ Paired like (said ++ [e]) es es'
  | _, _, _ => False

theorem Paired.append {said xs xs' ys ys' : List Exchange} (hx : Paired like said xs xs')
    (hy : Paired like (said ++ xs) ys ys') : Paired like said (xs ++ ys) (xs' ++ ys') := by
  induction xs generalizing said xs' with
  | nil =>
    cases xs' with
    | nil => rwa [List.append_nil] at hy
    | cons x' xs' => exact hx.elim
  | cons x xs ih =>
    cases xs' with
    | nil => exact hx.elim
    | cons x' xs' =>
      obtain ⟨hlike, hreply, hrest⟩ := hx
      refine ⟨hlike, hreply, ih hrest ?_⟩
      rwa [List.append_assoc, List.singleton_append]

/-- What likeness says of each pair of requests holds of the rows of them. -/
theorem Paired.map_eq {γ : Type} {f : Request → γ} {said xs xs' : List Exchange}
    (h : Paired like said xs xs')
    (hlike : ∀ said request request', like said request request' → f request = f request') :
    xs.map (fun e => f e.request) = xs'.map fun e => f e.request := by
  induction xs generalizing said xs' with
  | nil =>
    cases xs' with
    | nil => rfl
    | cons x' xs' => exact h.elim
  | cons x xs ih =>
    cases xs' with
    | nil => exact h.elim
    | cons x' xs' =>
      obtain ⟨hfirst, -, hrest⟩ := h
      rw [List.map_cons, List.map_cons, hlike _ _ _ hfirst, ih hrest]

/-- A request is alike to its twin by what has been said before it. -/
theorem Paired.at {said xs xs' : List Exchange} (h : Paired like said xs xs') (i : Nat)
    (hi : i < xs.length) : ∃ request', like (said ++ xs.take i) xs[i].request request' := by
  induction xs generalizing said xs' i with
  | nil => exact absurd hi (Nat.not_lt_zero i)
  | cons x xs ih =>
    cases xs' with
    | nil => exact h.elim
    | cons x' xs' =>
      obtain ⟨hlike, -, hrest⟩ := h
      cases i with
      | zero =>
        rw [List.take_zero, List.append_nil]
        exact ⟨x'.request, hlike⟩
      | succ i =>
        have hlater := ih hrest i (by simpa using hi)
        rwa [List.append_assoc, List.singleton_append, ← List.take_succ_cons] at hlater

/-! ## Twins -/

/-- On a row of replies, and after what has been said, two conversations say what is alike and have
come to the same. -/
structure TwinsAt (like : Likeness) (said : List Exchange) (d d' : Dialogue α)
    (replies : List Reply) : Prop where
  paired : Paired like said (d.transcript replies) (d'.transcript replies)
  ended : (d replies).ended = (d' replies).ended

/-- On whatever replies, two conversations say what is alike and come to the same. -/
def Twins (like : Likeness) (d d' : Dialogue α) : Prop :=
  ∀ said replies, TwinsAt like said d d' replies

theorem twins_ofResult (result : Except Failure α) :
    Twins like (ofResult result) (ofResult result) :=
  fun _ _ => ⟨trivial, rfl⟩

theorem twins_pure (x : α) : Twins like (pure x : Dialogue α) (pure x) :=
  twins_ofResult (.ok x)

/-- The end of a conversation that is followed by another one. -/
theorem bind_ended (d : Dialogue α) (f : α → Dialogue β) (replies : List Reply) :
    ((d >>= f) replies).ended =
      match (d replies).ended with
      | none => none
      | some (.error failure, rest) => some (.error failure, rest)
      | some (.ok x, rest) => (f x rest).ended := by
  rcases progress_cases d replies with ⟨sent, h⟩ | ⟨sent, failure, rest, h⟩ | ⟨sent, x, rest, h⟩
  · rw [bind_of_waiting h, h]
  · rw [bind_of_failed h, h]
  · rw [bind_of_ok h, h]

theorem TwinsAt.bind {said : List Exchange} {d d' : Dialogue α} {f f' : α → Dialogue β}
    {replies : List Reply} (hd : Orderly d) (hd' : Orderly d') (h : TwinsAt like said d d' replies)
    (hf : ∀ x rest, (d replies).ended = some (.ok x, rest) →
      TwinsAt like (said ++ d.transcript replies) (f x) (f' x) rest) :
    TwinsAt like said (d >>= f) (d' >>= f') replies := by
  rcases value_cases d replies with ⟨x, rest, hvalue⟩ | hnone
  · have hvalue' : (d' replies).ended = some (.ok x, rest) := by rw [← h.ended, hvalue]
    obtain ⟨hsaid, hended⟩ := bind_with_value hd f hvalue
    obtain ⟨hsaid', hended'⟩ := bind_with_value hd' f' hvalue'
    have hnext := hf x rest hvalue
    constructor
    · rw [hsaid, hsaid']
      exact h.paired.append hnext.paired
    · rw [hended, hended', hnext.ended]
  · have hnone' : ∀ x rest, (d' replies).ended ≠ some (.ok x, rest) := by
      rw [← h.ended]
      exact hnone
    constructor
    · rw [(bind_without_value f hnone).1, (bind_without_value f' hnone').1]
      exact h.paired
    · rw [bind_ended, bind_ended, ← h.ended]
      rcases hend : (d replies).ended with _ | ⟨failure | x, rest⟩
      · rfl
      · rfl
      · exact absurd hend (hnone x rest)

theorem Twins.bind {d d' : Dialogue α} {f f' : α → Dialogue β} (hd : Orderly d) (hd' : Orderly d')
    (h : Twins like d d') (hf : ∀ x, Twins like (f x) (f' x)) :
    Twins like (d >>= f) (d' >>= f') :=
  fun said replies => (h said replies).bind hd hd' fun x rest _ => hf x _ rest

/-- What both have from elsewhere needs no reply. -/
theorem twins_ofResult_bind {f f' : α → Dialogue β} (result : Except Failure α)
    (hf : ∀ x, result = .ok x → Twins like (f x) (f' x)) :
    Twins like (ofResult result >>= f) (ofResult result >>= f') := by
  rcases hresult : result with failure | x
  · rw [ofResult_error_bind, ofResult_error_bind]
    exact twins_ofResult _
  · rw [ofResult_ok_bind, ofResult_ok_bind]
    exact hf x hresult

theorem Twins.ignored {d d' : Dialogue α} (hd : Orderly d) (hd' : Orderly d')
    (h : Twins like d d') : Twins like d.ignored d'.ignored :=
  h.bind hd hd' fun _ => twins_pure ()

theorem twins_onlyIf {d d' : Dialogue Unit} (h : Twins like d d') (b : Bool) :
    Twins like (onlyIf b d) (onlyIf b d') := by
  cases b
  · exact twins_pure ()
  · exact h

theorem twins_forEach {f f' : ι → Dialogue Unit} (hd : ∀ x, Orderly (f x))
    (hd' : ∀ x, Orderly (f' x)) (xs : List ι) (h : ∀ x ∈ xs, Twins like (f x) (f' x)) :
    Twins like (forEach f xs) (forEach f' xs) := by
  induction xs with
  | nil => exact twins_pure ()
  | cons x xs ih =>
    obtain ⟨hx, hxs⟩ := List.forall_mem_cons.mp h
    exact hx.bind (hd x) (hd' x) fun _ => ih hxs

/-- A question and its twin have one address, since a broken connection is reported with it. -/
theorem twinsAt_ask {said : List Exchange} {request request' : Request}
    {judge judge' : Response → Except Failure α} (hlike : like said request request')
    (hurl : request.url = request'.url) (hjudge : judge = judge') (replies : List Reply) :
    TwinsAt like said (ask request judge) (ask request' judge') replies := by
  subst hjudge
  rcases replies with _ | ⟨reason | r, rest⟩
  · exact ⟨⟨hlike, rfl, trivial⟩, rfl⟩
  · have hbroken : (.error (.unreachable request.url reason) : Except Failure α) =
        .error (.unreachable request'.url reason) := by rw [hurl]
    exact ⟨⟨hlike, rfl, trivial⟩, congrArg (fun result => some (result, rest)) hbroken⟩
  · exact ⟨⟨hlike, rfl, trivial⟩, rfl⟩

theorem twins_ask {request request' : Request} {judge judge' : Response → Except Failure α}
    (hlike : ∀ said, like said request request') (hurl : request.url = request'.url)
    (hjudge : judge = judge') : Twins like (ask request judge) (ask request' judge') :=
  fun said replies => twinsAt_ask (hlike said) hurl hjudge replies

/-! ## What a gateway sees of twins -/

/-- A gateway answers in the same way, whatever a view leaves out. -/
def Blind {γ : Type} (view : Request → γ) (gateway : σ → Request → Reply × σ) : Prop :=
  ∀ state request request', view request = view request' →
    gateway state request = gateway state request'

/-- Served by any gateway that sees requests only through a view, two conversations send the same
requests as far as the view goes, leave the gateway in the same state and come to the same result. -/
def Indistinct {γ : Type} (view : Request → γ) (d d' : Dialogue α) : Prop :=
  ∀ (σ : Type) (gateway : σ → Request → Reply × σ), Blind view gateway → ∀ steps state,
    (d.serve gateway steps [] state).1.map view = (d'.serve gateway steps [] state).1.map view ∧
      (d.serve gateway steps [] state).2 = (d'.serve gateway steps [] state).2

/-- Each reply of the gateway is one reply more for both. -/
theorem serve_of_same {γ : Type} {view : Request → γ} {gateway : σ → Request → Reply × σ}
    {d d' : Dialogue α} (hblind : Blind view gateway)
    (hsame : ∀ replies, (d replies).sent.map view = (d' replies).sent.map view ∧
      (d replies).ended = (d' replies).ended) (steps : Nat) :
    ∀ replies state,
      (d.serve gateway steps replies state).1.map view =
        (d'.serve gateway steps replies state).1.map view ∧
      (d.serve gateway steps replies state).2 = (d'.serve gateway steps replies state).2 := by
  induction steps with
  | zero =>
    intro replies state
    obtain ⟨hsent, hended⟩ := hsame replies
    exact ⟨hsent, congrArg (fun ended => (state, ended.map Prod.fst)) hended⟩
  | succ steps ih =>
    intro replies state
    obtain ⟨hsent, hended⟩ := hsame replies
    have hlast : (d replies).sent.getLast?.map view = (d' replies).sent.getLast?.map view := by
      rw [← List.getLast?_map, hsent, List.getLast?_map]
    unfold serve
    rw [← hended]
    rcases hend : (d replies).ended with _ | ended
    · rcases hfirst : (d replies).sent.getLast? with _ | request
      · rw [hfirst, Option.map_none] at hlast
        rw [Option.map_eq_none_iff.mp hlast.symm]
        exact ⟨hsent, rfl⟩
      · rw [hfirst, Option.map_some] at hlast
        obtain ⟨request', hfirst', hview⟩ := Option.map_eq_some_iff.mp hlast.symm
        have hanswer := hblind state request request' hview.symm
        rw [hfirst']
        simp only [hanswer]
        exact ih _ _
    · exact ⟨hsent, rfl⟩

/-- As far as a view goes that likeness does not touch, twins send the same. -/
theorem Twins.sent_eq {γ : Type} {view : Request → γ} {d d' : Dialogue α} (h : Twins like d d')
    (hlike : ∀ said request request', like said request request' → view request = view request')
    (replies : List Reply) : (d replies).sent.map view = (d' replies).sent.map view := by
  rw [← transcript_requests, ← transcript_requests d', List.map_map, List.map_map]
  exact (h [] replies).paired.map_eq hlike

/-- Twins whose requests look the same are told apart by nobody who sees no more of them. -/
theorem Twins.indistinct {γ : Type} {view : Request → γ} {d d' : Dialogue α} (h : Twins like d d')
    (hlike : ∀ said request request', like said request request' → view request = view request') :
    Indistinct view d d' := by
  intro σ gateway hblind steps state
  apply serve_of_same hblind
  intro replies
  exact ⟨h.sent_eq hlike replies, (h [] replies).ended⟩

end Dialogue

end GatewayProvisioning
