import GatewayProvisioning.Failure
import GatewayProvisioning.Http.Request

/-!
Conversations with a gateway. A conversation is given by what it has come to after each row of
replies: the requests that it has sent by then, and its result or the wait for one reply more. So a
statement about every behaviour of a gateway is a statement about every row of replies, and nothing
bounds how long a conversation may go on.
-/

namespace GatewayProvisioning

/-- What a conversation has come to: all requests in the order in which they were sent and, if it has
ended, its result and the replies that it has not used. If it has not ended, the reply to its last
request is missing. -/
structure Progress (α : Type) where
  sent : List Request
  ended : Option (Except Failure α × List Reply)

/-- A conversation, by its progress after a row of replies. -/
def Dialogue (α : Type) : Type :=
  List Reply → Progress α

namespace Dialogue

variable {α β σ : Type}

/-- A conversation that has ended before it began. -/
def ofResult (result : Except Failure α) : Dialogue α :=
  fun replies => ⟨[], some (result, replies)⟩

/-- Ends with a failure. -/
def fail (failure : Failure) : Dialogue α :=
  ofResult (.error failure)

/-- Goes on with `next` after `d`, unless `d` fails. -/
def andThen (d : Dialogue α) (next : α → Dialogue β) : Dialogue β :=
  fun replies =>
    match d replies with
    | ⟨sent, none⟩ => ⟨sent, none⟩
    | ⟨sent, some (.error failure, rest)⟩ => ⟨sent, some (.error failure, rest)⟩
    | ⟨sent, some (.ok x, rest)⟩ =>
      let more := next x rest
      ⟨sent ++ more.sent, more.ended⟩

instance : Monad Dialogue where
  pure x := ofResult (.ok x)
  bind := andThen

/-- The result of a conversation as a value: it ends well in any case. -/
def attempt (d : Dialogue α) : Dialogue (Except Failure α) :=
  fun replies =>
    let progress := d replies
    ⟨progress.sent, progress.ended.map fun (result, rest) => (.ok result, rest)⟩

/-- Sends a request and waits for its response. -/
def send (request : Request) : Dialogue Response
  | [] => ⟨[request], none⟩
  | .ok response :: rest => ⟨[request], some (.ok response, rest)⟩
  | .error reason :: rest => ⟨[request], some (.error (.unreachable request.url reason), rest)⟩

/-- Does the same for each member of a list, in order. -/
def forEach (f : α → Dialogue Unit) : List α → Dialogue Unit
  | [] => pure ()
  | x :: xs => do
    f x
    forEach f xs

/-- The conversation with a gateway that has a state, as far as `steps` replies go: the requests and
the state of the gateway after them, and the result if there is one by then. -/
def serve (gateway : σ → Request → Reply × σ) (d : Dialogue α) :
    Nat → List Reply → σ → List Request × σ × Option (Except Failure α)
  | 0, replies, state => ((d replies).sent, state, (d replies).ended.map Prod.fst)
  | steps + 1, replies, state =>
    match (d replies).ended, (d replies).sent.getLast? with
    | none, some request =>
      let (reply, state) := gateway state request
      serve gateway d steps (replies ++ [reply]) state
    | ended, _ => ((d replies).sent, state, ended.map Prod.fst)

end Dialogue

end GatewayProvisioning
