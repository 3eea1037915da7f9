import GatewayProvisioning.Proofs.Dialogue

/-!
# Transcripts

What a conversation and a gateway have said to each other: each request with the reply to it, the last
one perhaps without. The transcript of a conversation and of what follows it are put together from
their own transcripts, so what is known of the parts is known of the whole.
-/

namespace GatewayProvisioning

/-- A request and the reply to it, if there is one by then. -/
structure Exchange where
  request : Request
  reply : Option Reply

/-- Requests with the replies that belong to them. -/
def exchanges : List Request → List Reply → List Exchange
  | [], _ => []
  | request :: requests, [] => ⟨request, none⟩ :: exchanges requests []
  | request :: requests, reply :: replies => ⟨request, some reply⟩ :: exchanges requests replies

theorem exchanges_requests (requests : List Request) (replies : List Reply) :
    (exchanges requests replies).map Exchange.request = requests := by
  induction requests generalizing replies with
  | nil => rfl
  | cons request requests ih => cases replies <;> simp only [exchanges, List.map_cons, ih]

theorem exchanges_append (xs ys : List Request) (replies : List Reply) :
    exchanges (xs ++ ys) replies = exchanges xs replies ++ exchanges ys (replies.drop xs.length) := by
  induction xs generalizing replies with
  | nil => rfl
  | cons x xs ih =>
    rcases replies with _ | ⟨reply, replies⟩
    · simpa [exchanges] using ih []
    · simp only [List.cons_append, exchanges, ih, List.length_cons, List.drop_succ_cons]

namespace Dialogue

variable {α β : Type}

/-- What has been said after a row of replies. -/
def transcript (d : Dialogue α) (replies : List Reply) : List Exchange :=
  exchanges (d replies).sent replies

/-- A transcript has all requests, in their order. -/
theorem transcript_requests (d : Dialogue α) (replies : List Reply) :
    (d.transcript replies).map Exchange.request = (d replies).sent :=
  exchanges_requests _ replies

/-- Without a value of the first conversation the second one is not begun. -/
theorem bind_without_value {d : Dialogue α} (f : α → Dialogue β) {replies : List Reply}
    (h : ∀ x rest, (d replies).ended ≠ some (.ok x, rest)) :
    (d >>= f).transcript replies = d.transcript replies ∧
      ∀ y rest, ((d >>= f) replies).ended ≠ some (.ok y, rest) := by
  unfold transcript
  rcases progress_cases d replies with ⟨sent, hs⟩ | ⟨sent, failure, rest, hs⟩ | ⟨sent, x, rest, hs⟩
  · rw [bind_of_waiting hs, hs]
    exact ⟨rfl, fun y rest hended => by cases hended⟩
  · rw [bind_of_failed hs, hs]
    exact ⟨rfl, fun y rest hended => by cases hended⟩
  · exact absurd (congrArg Progress.ended hs) (h x rest)

/-- An orderly conversation leaves the replies that belong to the requests after it. -/
theorem bind_with_value {d : Dialogue α} (hd : Orderly d) (f : α → Dialogue β)
    {replies rest : List Reply} {x : α} (h : (d replies).ended = some (.ok x, rest)) :
    (d >>= f).transcript replies = d.transcript replies ++ (f x).transcript rest ∧
      ((d >>= f) replies).ended = (f x rest).ended := by
  have hs : d replies = ⟨(d replies).sent, some (.ok x, rest)⟩ := by rw [← h]
  obtain ⟨used, hused, hlength, -⟩ := hd.ends hs
  have hrest : rest = replies.drop (d replies).sent.length := by
    rw [← hlength, hused, List.drop_left]
  unfold transcript
  rw [bind_of_ok hs, exchanges_append, ← hrest]
  exact ⟨rfl, rfl⟩

/-- A conversation has come to a value, or it has not. -/
theorem value_cases (d : Dialogue α) (replies : List Reply) :
    (∃ x rest, (d replies).ended = some (.ok x, rest)) ∨
      ∀ x rest, (d replies).ended ≠ some (.ok x, rest) := by
  by_cases h : ∃ x rest, (d replies).ended = some (.ok x, rest)
  · exact .inl h
  · exact .inr fun x rest hended => h ⟨x, rest, hended⟩

theorem transcript_send_cons (request : Request) (reply : Reply) (rest : List Reply) :
    (send request).transcript (reply :: rest) = [⟨request, some reply⟩] := by
  rcases reply with reason | response <;> rfl

end Dialogue

end GatewayProvisioning
