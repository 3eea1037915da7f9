import GatewayProvisioning.CommandLine.Run
import GatewayProvisioning.Proofs.Asking
import GatewayProvisioning.Proofs.InitPlan

/-!
# Sessions

The conversations of a command may also fail for reasons of the program itself. A session never breaks
off as a conversation: its result is a value or a fault. What is talked in a session is put together
like the conversations that it is made of.
-/

namespace GatewayProvisioning

open Dialogue PlanStep

variable {α β : Type}

namespace Dialogue

theorem bind_pure_eq (d : Dialogue α) : d >>= pure = d := by
  funext replies
  rcases progress_cases d replies with ⟨sent, h⟩ | ⟨sent, failure, rest, h⟩ | ⟨sent, x, rest, h⟩
  · rw [bind_of_waiting h, h]
  · rw [bind_of_failed h, h]
  · rw [bind_of_ok h, h]
    exact congrArg (Progress.mk · _) (List.append_nil sent)

instance : LawfulMonad Dialogue :=
  LawfulMonad.mk' Dialogue bind_pure_eq pure_bind_eq bind_assoc_eq

/-- A question is followed by what comes next if its response is accepted. -/
theorem follows_ask {request : Request} {judge : Response → Except Failure α}
    {accepts : Response → Bool} (h : ∀ r, accepts r = true ↔ ∃ x, judge r = .ok x)
    (replies : List Reply) : Follows (ask request judge) [.ask request accepts] replies :=
  follows_send fun r rest _ => follows_ofResult (h r) rest

end Dialogue

namespace Session

/-! ## One session after another -/

theorem run_bind (s : Session α) (f : α → Session β) :
    (s >>= f).run = s.run >>= fun result =>
      match result with
      | .ok x => (f x).run
      | .error fault => pure (.error fault) := by
  refine congrArg (s.run >>= ·) (funext fun result => ?_)
  cases result <;> rfl

theorem run_configured (result : Except ConfigurationFault α) :
    (configured result).run = pure (result.mapError .configuration) := rfl

/-- The result of a conversation as the result of a session, with the replies that are left. -/
def told (ended : Except Failure α × List Reply) :
    Except Failure (Except CommandFault α) × List Reply :=
  (.ok (ended.1.mapError .failure), ended.2)

/-- A conversation in a session sends what it sends, and its failure is a fault. -/
theorem run_talk (d : Dialogue α) (replies : List Reply) :
    (talk d).run replies = ⟨(d replies).sent, (d replies).ended.map told⟩ := by
  have hattempt : d.attempt replies =
      ⟨(d replies).sent, (d replies).ended.map fun ended => (.ok ended.1, ended.2)⟩ := rfl
  change (d.attempt >>= fun result => pure (result.mapError CommandFault.failure)) replies = _
  rcases progress_cases d replies with ⟨sent, h⟩ | ⟨sent, failure, rest, h⟩ | ⟨sent, x, rest, h⟩
  · rw [h] at hattempt ⊢
    exact bind_of_waiting hattempt
  · rw [h] at hattempt ⊢
    rw [bind_of_ok hattempt]
    exact congrArg (Progress.mk · _) (List.append_nil sent)
  · rw [h] at hattempt ⊢
    rw [bind_of_ok hattempt]
    exact congrArg (Progress.mk · _) (List.append_nil sent)

theorem talk_ofResult (result : Except Failure α) : talk (ofResult result) = check result := by
  funext replies
  exact run_talk (ofResult result) replies

/-- To talk twice is to talk once about both. -/
theorem talk_bind (d : Dialogue α) (f : α → Dialogue β) :
    talk (d >>= f) = talk d >>= fun x => talk (f x) := by
  funext replies
  change (talk (d >>= f)).run replies = (talk d >>= fun x => talk (f x)).run replies
  rw [run_talk, run_bind]
  have htalk := run_talk d replies
  rcases progress_cases d replies with ⟨sent, h⟩ | ⟨sent, failure, rest, h⟩ | ⟨sent, x, rest, h⟩
  · rw [h] at htalk
    rw [bind_of_waiting h, bind_of_waiting htalk]
    rfl
  · rw [h] at htalk
    rw [bind_of_failed h, bind_of_ok htalk]
    exact congrArg (Progress.mk · _) (List.append_nil sent).symm
  · rw [h] at htalk
    rw [bind_of_ok h, bind_of_ok htalk]
    change _ = Progress.mk (sent ++ ((talk (f x)).run rest).sent) ((talk (f x)).run rest).ended
    rw [run_talk]

/-! ## Plans of sessions -/

/-- The replies that are left after a session that has come to a value. -/
def unspent (progress : Progress (Except CommandFault α)) : Option (List Reply) :=
  match progress.ended with
  | some (.ok (.ok _), rest) => some rest
  | _ => none

/-- The session still waits for the reply to its last request, or it has failed with a fault. -/
def Unsuccessful (progress : Progress (Except CommandFault α)) (replies : List Reply) : Prop :=
  (progress.ended = none ∧ progress.sent.length = replies.length + 1) ∨
    ∃ fault rest, progress.ended = some (.ok (.error fault), rest)

/-- On a row of replies a session sends what the steps of a plan let it send. It comes to a value
exactly if all of them are met, and is unsuccessful otherwise. -/
structure Follows (s : Session α) (steps : List PlanStep) (replies : List Reply) : Prop where
  sent : (s.run replies).sent = reached steps replies
  succeeds : unspent (s.run replies) = passed steps replies
  fails : passed steps replies = none → Unsuccessful (s.run replies) replies

theorem follows_talk {d : Dialogue α} (hd : Orderly d) {steps : List PlanStep} {replies : List Reply}
    (h : Dialogue.Follows d steps replies) : Follows (talk d) steps replies := by
  obtain ⟨hsent, hleft⟩ := h
  have hrun := run_talk d replies
  rcases progress_cases d replies with ⟨sent, hs⟩ | ⟨sent, failure, rest, hs⟩ | ⟨sent, x, rest, hs⟩
  · rw [hs] at hsent hleft hrun
    constructor
    · rw [hrun]
      exact hsent
    · rw [hrun]
      exact hleft
    · intro _
      rw [hrun]
      exact .inl ⟨rfl, (hd.waits hs).1⟩
  · rw [hs] at hsent hleft hrun
    constructor
    · rw [hrun]
      exact hsent
    · rw [hrun]
      exact hleft
    · intro _
      rw [hrun]
      exact .inr ⟨.failure failure, rest, rfl⟩
  · rw [hs] at hsent hleft hrun
    constructor
    · rw [hrun]
      exact hsent
    · rw [hrun]
      exact hleft
    · intro hnone
      rw [← hleft] at hnone
      cases hnone

/-- A result of the program itself is a condition. -/
theorem follows_of_run {s : Session α} {result : Except CommandFault α} {met : Bool}
    (hrun : s.run = pure result) (h : met = true ↔ ∃ x, result = .ok x) (replies : List Reply) :
    Follows s [.need met] replies := by
  rcases result with fault | x
  · obtain rfl : met = false := by simpa using h
    refine ⟨?_, ?_, ?_⟩
    · rw [hrun]
      rfl
    · rw [hrun]
      rfl
    · intro _
      rw [hrun]
      exact .inr ⟨fault, replies, rfl⟩
  · obtain rfl : met = true := by simpa using h
    refine ⟨?_, ?_, ?_⟩
    · rw [hrun]
      rfl
    · rw [hrun]
      rfl
    · intro hnone
      cases hnone

theorem follows_pure (x : α) (replies : List Reply) : Follows (pure x) [] replies where
  sent := rfl
  succeeds := rfl
  fails h := by cases h

/-- How a session has run, by its outcome. -/
theorem run_cases {s : Session α} {steps : List PlanStep} {replies : List Reply}
    (h : Follows s steps replies) :
    (∃ sent, s.run replies = ⟨sent, none⟩ ∧ sent.length = replies.length + 1) ∨
    (∃ sent fault rest, s.run replies = ⟨sent, some (.ok (.error fault), rest)⟩) ∨
    ∃ sent x rest, s.run replies = ⟨sent, some (.ok (.ok x), rest)⟩ := by
  rcases hpassed : passed steps replies with _ | rest
  · rcases h.fails hpassed with ⟨hwait, hlength⟩ | ⟨fault, rest, hfault⟩
    · exact .inl ⟨(s.run replies).sent, by rw [← hwait], hlength⟩
    · exact .inr (.inl ⟨(s.run replies).sent, fault, rest, by rw [← hfault]⟩)
  · have hsucceeds := h.succeeds
    rw [hpassed] at hsucceeds
    unfold unspent at hsucceeds
    split at hsucceeds
    · rename_i x left hended
      exact .inr (.inr ⟨(s.run replies).sent, x, left, by rw [← hended]⟩)
    · cases hsucceeds

/-- As many replies are left as the plan has requests less. -/
theorem length_of_passed {steps : List PlanStep} {replies rest : List Reply}
    (h : passed steps replies = some rest) :
    (requests steps).length + rest.length = replies.length := by
  induction steps generalizing replies with
  | nil =>
    cases h
    exact Nat.zero_add _
  | cons step steps ih =>
    rcases step with ⟨request, accepts⟩ | met
    · rcases replies with _ | ⟨reason | response, replies⟩
      · cases h
      · cases h
      · unfold passed at h
        split at h
        · have hrest := ih h
          simp only [requests, List.length_cons]
          omega
        · cases h
    · unfold passed at h
      split at h
      · exact ih h
      · cases h

/-- What follows a session that is unsuccessful is not begun. -/
theorem Follows.bind_stopped {s : Session α} {steps : List PlanStep} {replies : List Reply}
    (h : Follows s steps replies) (f : α → Session β) (hnone : passed steps replies = none) :
    ((s >>= f).run replies).sent = reached steps replies ∧
      unspent ((s >>= f).run replies) = none ∧ Unsuccessful ((s >>= f).run replies) replies := by
  have hsent := h.sent
  rcases run_cases h with ⟨sent, hs, hlength⟩ | ⟨sent, fault, rest, hs⟩ | ⟨sent, x, rest, hs⟩
  · have hrun : (s >>= f).run replies = ⟨sent, none⟩ := by
      rw [run_bind, bind_of_waiting hs]
    rw [hs] at hsent
    rw [hrun]
    exact ⟨hsent, rfl, .inl ⟨rfl, hlength⟩⟩
  · have hrun : (s >>= f).run replies = ⟨sent, some (.ok (.error fault), rest)⟩ := by
      rw [run_bind, bind_of_ok hs]
      exact congrArg (Progress.mk · _) (List.append_nil sent)
    rw [hs] at hsent
    rw [hrun]
    exact ⟨hsent, rfl, .inr ⟨fault, rest, rfl⟩⟩
  · have hsucceeds := h.succeeds
    rw [hs, hnone] at hsucceeds
    cases hsucceeds

/-- What follows a session begins when the whole plan has been sent, with the replies that are left. -/
theorem Follows.bind_passed {s : Session α} {steps : List PlanStep} {replies rest : List Reply}
    (h : Follows s steps replies) (f : α → Session β) (hpassed : passed steps replies = some rest) :
    ∃ x, (s >>= f).run replies =
      ⟨requests steps ++ ((f x).run rest).sent, ((f x).run rest).ended⟩ := by
  have hsent := h.sent
  have hsucceeds := h.succeeds
  rcases run_cases h with ⟨sent, hs, -⟩ | ⟨sent, fault, left, hs⟩ | ⟨sent, x, left, hs⟩
  · rw [hs, hpassed] at hsucceeds
    cases hsucceeds
  · rw [hs, hpassed] at hsucceeds
    cases hsucceeds
  · rw [hs, hpassed] at hsucceeds
    rw [hs] at hsent
    have hleft : left = rest := Option.some.inj hsucceeds
    have hwhole : sent = requests steps := hsent.trans (reached_of_passed hpassed).1
    refine ⟨x, ?_⟩
    rw [run_bind, bind_of_ok hs, hleft, hwhole]

theorem Follows.bind {s : Session α} {f : α → Session β} {xs ys : List PlanStep}
    {replies : List Reply} (h : Follows s xs replies)
    (hf : ∀ x rest, passed xs replies = some rest → rest = replies.drop (requests xs).length →
      Follows (f x) ys rest) :
    Follows (s >>= f) (xs ++ ys) replies := by
  rcases hpassed : passed xs replies with _ | rest
  · obtain ⟨hsent, hleft, hfails⟩ := h.bind_stopped f hpassed
    constructor
    · rw [hsent, reached_append, hpassed]
      exact (List.append_nil _).symm
    · rw [hleft, passed_append, hpassed]
      rfl
    · intro _
      exact hfails
  · obtain ⟨x, hrun⟩ := h.bind_passed f hpassed
    obtain ⟨hwhole, hrest⟩ := reached_of_passed hpassed
    have hnext := hf x rest hpassed hrest
    rw [← hwhole] at hrun
    constructor
    · rw [hrun, reached_append, hpassed, hnext.sent]
      rfl
    · rw [hrun, passed_append, hpassed]
      exact hnext.succeeds
    · intro hnone
      rw [passed_append, hpassed] at hnone
      rw [hrun]
      rcases hnext.fails hnone with ⟨hwait, hlength⟩ | ⟨fault, left, hfault⟩
      · refine .inl ⟨hwait, ?_⟩
        have hcount := length_of_passed hpassed
        rw [List.length_append, hlength, hwhole]
        omega
      · exact .inr ⟨fault, left, hfault⟩

end Session

end GatewayProvisioning
