import GatewayProvisioning.Http.Dialogue

/-!
# Conversations as wholes

Two conversations that follow each other, which reply belongs to which request, and what comes of a
conversation with a gateway that has a state.

Replies are counted from the first request on: in an orderly conversation reply `i` answers request
`i`, so a row of `n` replies stands for the first `n` requests, and a conversation that still waits
has sent one request more than it has replies.
-/

namespace GatewayProvisioning.Dialogue

variable {α β ι σ : Type}

/-! ## One conversation after another -/

theorem bind_of_waiting {d : Dialogue α} {f : α → Dialogue β} {replies : List Reply}
    {sent : List Request} (h : d replies = ⟨sent, none⟩) : (d >>= f) replies = ⟨sent, none⟩ := by
  change andThen d f replies = _
  rw [andThen, h]

theorem bind_of_failed {d : Dialogue α} {f : α → Dialogue β} {replies rest : List Reply}
    {sent : List Request} {failure : Failure}
    (h : d replies = ⟨sent, some (.error failure, rest)⟩) :
    (d >>= f) replies = ⟨sent, some (.error failure, rest)⟩ := by
  change andThen d f replies = _
  rw [andThen, h]

theorem bind_of_ok {d : Dialogue α} {f : α → Dialogue β} {replies rest : List Reply}
    {sent : List Request} {x : α} (h : d replies = ⟨sent, some (.ok x, rest)⟩) :
    (d >>= f) replies = ⟨sent ++ (f x rest).sent, (f x rest).ended⟩ := by
  change andThen d f replies = _
  rw [andThen, h]

/-- A conversation waits, has failed, or has come to a value. -/
theorem progress_cases (d : Dialogue α) (replies : List Reply) :
    (∃ sent, d replies = ⟨sent, none⟩) ∨
    (∃ sent failure rest, d replies = ⟨sent, some (.error failure, rest)⟩) ∨
    ∃ sent x rest, d replies = ⟨sent, some (.ok x, rest)⟩ := by
  rcases h : d replies with ⟨sent, _ | ⟨failure | x, rest⟩⟩
  · exact .inl ⟨sent, rfl⟩
  · exact .inr (.inl ⟨sent, failure, rest, rfl⟩)
  · exact .inr (.inr ⟨sent, x, rest, rfl⟩)

@[simp] theorem ofResult_ok_bind (x : α) (f : α → Dialogue β) : ofResult (.ok x) >>= f = f x := by
  funext replies
  exact bind_of_ok (d := ofResult (.ok x)) rfl

@[simp] theorem ofResult_error_bind (failure : Failure) (f : α → Dialogue β) :
    ofResult (.error failure) >>= f = ofResult (.error failure) := by
  funext replies
  exact bind_of_failed (d := ofResult (.error failure)) rfl

@[simp] theorem pure_bind_eq (x : α) (f : α → Dialogue β) : (pure x : Dialogue α) >>= f = f x :=
  ofResult_ok_bind x f

theorem bind_assoc_eq (d : Dialogue α) (f : α → Dialogue β) (g : β → Dialogue σ) :
    d >>= f >>= g = d >>= fun x => f x >>= g := by
  funext replies
  rcases progress_cases d replies with ⟨sent, h⟩ | ⟨sent, failure, rest, h⟩ | ⟨sent, x, rest, h⟩
  · rw [bind_of_waiting h, bind_of_waiting (bind_of_waiting h)]
  · rw [bind_of_failed h, bind_of_failed (bind_of_failed h)]
  · rw [bind_of_ok h]
    have hd := bind_of_ok (f := f) h
    rcases progress_cases (f x) rest with ⟨sent', h'⟩ | ⟨sent', failure, rest', h'⟩ |
      ⟨sent', y, rest', h'⟩
    · rw [h'] at hd
      rw [bind_of_waiting hd, bind_of_waiting h']
    · rw [h'] at hd
      rw [bind_of_failed hd, bind_of_failed h']
    · rw [h'] at hd
      rw [bind_of_ok hd, bind_of_ok h', List.append_assoc]

/-- A conversation whose value does not matter. -/
def ignored (d : Dialogue α) : Dialogue Unit :=
  d >>= fun _ => pure ()

/-- A conversation that is held only under a condition. -/
def onlyIf (b : Bool) (d : Dialogue Unit) : Dialogue Unit :=
  if b then d else pure ()

theorem sent_prefix_bind (d : Dialogue α) (f : α → Dialogue β) (replies : List Reply) :
    (d replies).sent <+: ((d >>= f) replies).sent := by
  rcases progress_cases d replies with ⟨sent, h⟩ | ⟨sent, failure, rest, h⟩ | ⟨sent, x, rest, h⟩
  · have hsent : (d replies).sent = ((d >>= f) replies).sent := by rw [bind_of_waiting h, h]
    exact hsent ▸ List.prefix_rfl
  · have hsent : (d replies).sent = ((d >>= f) replies).sent := by rw [bind_of_failed h, h]
    exact hsent ▸ List.prefix_rfl
  · rw [bind_of_ok h, h]
    exact List.prefix_append _ _

/-! ## Orderly conversations -/

/-- One reply is taken up for each request. What has been sent is never taken back, and replies that
come after the end change nothing. -/
structure Orderly (d : Dialogue α) : Prop where
  waits : ∀ {replies sent}, d replies = ⟨sent, none⟩ →
    sent.length = replies.length + 1 ∧ ∀ more, sent <+: (d (replies ++ more)).sent
  ends : ∀ {replies sent result rest}, d replies = ⟨sent, some (result, rest)⟩ →
    ∃ used, replies = used ++ rest ∧ used.length = sent.length ∧
      ∀ more, d (used ++ more) = ⟨sent, some (result, more)⟩

theorem orderly_ofResult (result : Except Failure α) : Orderly (ofResult result) where
  waits h := by simp [ofResult] at h
  ends h := by
    simp only [ofResult, Progress.mk.injEq, Option.some.injEq, Prod.mk.injEq] at h
    obtain ⟨rfl, rfl, rfl⟩ := h
    exact ⟨[], rfl, rfl, fun _ => rfl⟩

theorem orderly_pure (x : α) : Orderly (pure x : Dialogue α) :=
  orderly_ofResult (.ok x)

theorem orderly_send (request : Request) : Orderly (send request) where
  waits {replies sent} h := by
    rcases replies with _ | ⟨reason | response, rest⟩ <;>
      simp only [send, Progress.mk.injEq, reduceCtorEq, and_false] at h
    obtain ⟨rfl, -⟩ := h
    refine ⟨rfl, fun more => ?_⟩
    rcases more with _ | ⟨reason | response, rest⟩ <;> exact List.prefix_rfl
  ends {replies sent result rest} h := by
    rcases replies with _ | ⟨reason | response, rest⟩ <;>
      simp only [send, Progress.mk.injEq, Option.some.injEq, Prod.mk.injEq, reduceCtorEq,
        and_false] at h
    · obtain ⟨rfl, rfl, rfl⟩ := h
      exact ⟨[.error reason], rfl, rfl, fun _ => rfl⟩
    · obtain ⟨rfl, rfl, rfl⟩ := h
      exact ⟨[.ok response], rfl, rfl, fun _ => rfl⟩

theorem Orderly.bind {d : Dialogue α} {f : α → Dialogue β} (hd : Orderly d)
    (hf : ∀ x, Orderly (f x)) : Orderly (d >>= f) where
  waits {replies sent} h := by
    rcases progress_cases d replies with ⟨first, hs⟩ | ⟨first, failure, rest, hs⟩ |
      ⟨first, x, rest, hs⟩
    · rw [bind_of_waiting hs, Progress.mk.injEq] at h
      obtain ⟨rfl, -⟩ := h
      obtain ⟨hlen, hgrow⟩ := hd.waits hs
      exact ⟨hlen, fun more => (hgrow more).trans (sent_prefix_bind d f _)⟩
    · rw [bind_of_failed hs] at h
      simp at h
    · rw [bind_of_ok hs, Progress.mk.injEq] at h
      obtain ⟨rfl, hw⟩ := h
      obtain ⟨used, rfl, hlen, hmore⟩ := hd.ends hs
      have hwait : f x rest = ⟨(f x rest).sent, none⟩ := by rw [← hw]
      obtain ⟨hlen', hgrow⟩ := (hf x).waits hwait
      refine ⟨by simp only [List.length_append]; omega, fun more => ?_⟩
      rw [List.append_assoc, bind_of_ok (hmore (rest ++ more)), List.prefix_append_right_inj]
      exact hgrow more
  ends {replies sent result rest} h := by
    rcases progress_cases d replies with ⟨first, hs⟩ | ⟨first, failure, after, hs⟩ |
      ⟨first, x, after, hs⟩
    · rw [bind_of_waiting hs] at h
      simp at h
    · rw [bind_of_failed hs] at h
      simp only [Progress.mk.injEq, Option.some.injEq, Prod.mk.injEq] at h
      obtain ⟨rfl, rfl, rfl⟩ := h
      obtain ⟨used, rfl, hlen, hmore⟩ := hd.ends hs
      exact ⟨used, rfl, hlen, fun more => bind_of_failed (hmore more)⟩
    · rw [bind_of_ok hs, Progress.mk.injEq] at h
      obtain ⟨rfl, he⟩ := h
      obtain ⟨used, rfl, hlen, hmore⟩ := hd.ends hs
      have hend : f x after = ⟨(f x after).sent, some (result, rest)⟩ := by rw [← he]
      obtain ⟨used', rfl, hlen', hmore'⟩ := (hf x).ends hend
      refine ⟨used ++ used', by simp, by simp only [List.length_append]; omega, fun more => ?_⟩
      rw [List.append_assoc, bind_of_ok (hmore _), hmore']

theorem orderly_forEach {f : ι → Dialogue Unit} (hf : ∀ x, Orderly (f x)) (xs : List ι) :
    Orderly (forEach f xs) := by
  induction xs with
  | nil => exact orderly_pure ()
  | cons x xs ih => exact (hf x).bind fun _ => ih

theorem Orderly.ignored {d : Dialogue α} (hd : Orderly d) : Orderly d.ignored :=
  hd.bind fun _ => orderly_pure ()

theorem orderly_onlyIf {d : Dialogue Unit} (hd : Orderly d) (b : Bool) : Orderly (onlyIf b d) := by
  cases b
  · exact orderly_pure ()
  · exact hd

/-! ## A gateway with a state -/

/-- The replies of a gateway to requests, one after the other, and its state after them. -/
def answers (gateway : σ → Request → Reply × σ) : σ → List Request → List Reply × σ
  | state, [] => ([], state)
  | state, request :: requests =>
    let (reply, next) := gateway state request
    let (replies, last) := answers gateway next requests
    (reply :: replies, last)

variable {gateway : σ → Request → Reply × σ}

theorem answers_cons (state : σ) (request : Request) (requests : List Request) :
    answers gateway state (request :: requests) =
      ((gateway state request).1 :: (answers gateway (gateway state request).2 requests).1,
        (answers gateway (gateway state request).2 requests).2) := rfl

theorem answers_append (state : σ) (xs ys : List Request) :
    answers gateway state (xs ++ ys) =
      ((answers gateway state xs).1 ++ (answers gateway (answers gateway state xs).2 ys).1,
        (answers gateway (answers gateway state xs).2 ys).2) := by
  induction xs generalizing state with
  | nil => rfl
  | cons x xs ih => simp only [List.cons_append, answers_cons, ih]

theorem answers_length (state : σ) (requests : List Request) :
    (answers gateway state requests).1.length = requests.length := by
  induction requests generalizing state with
  | nil => rfl
  | cons x xs ih => simp only [answers_cons, List.length_cons, ih]

/-- With the replies of a gateway to its requests a conversation comes to a result, and the gateway
to another state. -/
def Runs (gateway : σ → Request → Reply × σ) (d : Dialogue α) (state : σ)
    (requests : List Request) (result : Except Failure α) (last : σ) : Prop :=
  d (answers gateway state requests).1 = ⟨requests, some (result, [])⟩ ∧
    (answers gateway state requests).2 = last

/-- Served by a gateway for as long as it asks, a conversation comes to a result, and the gateway to
another state. -/
def Concludes (gateway : σ → Request → Reply × σ) (d : Dialogue α) (state : σ)
    (result : Except Failure α) (last : σ) : Prop :=
  ∃ requests : List Request, ∀ steps, requests.length ≤ steps →
    d.serve gateway steps [] state = (requests, last, some result)

theorem serve_of_ended {d : Dialogue α} {replies rest : List Reply} {sent : List Request}
    {result : Except Failure α} (h : d replies = ⟨sent, some (result, rest)⟩) (steps : Nat)
    (state : σ) : d.serve gateway steps replies state = (sent, state, some result) := by
  cases steps <;> simp [serve, h]

theorem serve_of_waiting {d : Dialogue α} {replies : List Reply} {asked : List Request}
    {request : Request} (h : d replies = ⟨asked ++ [request], none⟩) (steps : Nat) (state : σ) :
    d.serve gateway (steps + 1) replies state =
      d.serve gateway steps (replies ++ [(gateway state request).1]) (gateway state request).2 := by
  simp [serve, h]

theorem prefix_concat {xs ys : List ι} (h : xs <+: ys) (hl : ys.length = xs.length + 1) :
    ∃ y, ys = xs ++ [y] := by
  obtain ⟨rest, rfl⟩ := h
  obtain ⟨y, rfl⟩ := List.length_eq_one_iff.mp (by simpa using hl : rest.length = 1)
  exact ⟨y, rfl⟩

/-- Serving goes on from the requests that have been answered to those that are left. -/
theorem serve_of_answers {d : Dialogue α} (hd : Orderly d) {result : Except Failure α} {last : σ}
    (left : List Request) : ∀ (asked : List Request) (state first : σ),
    (answers gateway first asked).2 = state →
    Runs gateway d first (asked ++ left) result last → ∀ steps, left.length ≤ steps →
    d.serve gateway steps (answers gateway first asked).1 state =
      (asked ++ left, last, some result) := by
  induction left with
  | nil =>
    intro asked state first hstate ⟨hrun, hlast⟩ steps _
    rw [List.append_nil] at hrun hlast
    rw [serve_of_ended hrun, ← hstate, hlast, List.append_nil]
  | cons request left ih =>
    intro asked state first hstate hrun steps hsteps
    obtain ⟨steps, rfl⟩ : ∃ n, steps = n + 1 := ⟨steps - 1, by simp at hsteps; omega⟩
    have hdone := hrun.1
    rw [answers_append, hstate, answers_cons] at hdone
    -- with fewer replies than requests the conversation still waits
    have hwait : d (answers gateway first asked).1 = ⟨asked ++ [request], none⟩ := by
      rcases h : d (answers gateway first asked).1 with ⟨sent, _ | ⟨early, rest⟩⟩
      · obtain ⟨hlen, hgrow⟩ := hd.waits h
        have hpre := hgrow ((gateway state request).1 ::
          (answers gateway (gateway state request).2 left).1)
        rw [hdone] at hpre
        have heq := List.prefix_iff_eq_take.mp hpre
        rw [hlen, answers_length] at heq
        rw [heq]
        simp [List.take_append, List.take_of_length_le]
      · obtain ⟨used, hused, -, hmore⟩ := hd.ends h
        have hover := hmore (rest ++ ((gateway state request).1 ::
          (answers gateway (gateway state request).2 left).1))
        rw [← List.append_assoc, ← hused, hdone] at hover
        simp at hover
    rw [serve_of_waiting hwait]
    have hnext : (answers gateway first asked).1 ++ [(gateway state request).1] =
        (answers gateway first (asked ++ [request])).1 := by
      rw [answers_append, hstate]
      rfl
    rw [hnext, ih (asked ++ [request]) (gateway state request).2 first
      (by rw [answers_append, hstate]; rfl) (by simpa using hrun) steps (by simpa using hsteps)]
    simp

/-- A conversation that has been served to its end has run on the replies to its requests. -/
theorem runs_of_serve {d : Dialogue α} (hd : Orderly d) {requests : List Request}
    {result : Except Failure α} {first last : σ} (steps : Nat) :
    ∀ (asked : List Request) (state : σ), (answers gateway first asked).2 = state →
    asked <+: (d (answers gateway first asked).1).sent →
    d.serve gateway steps (answers gateway first asked).1 state = (requests, last, some result) →
    Runs gateway d first requests result last := by
  -- an end that is reached now has used all replies, since there are no more of them than requests
  have hended : ∀ (asked : List Request) (state : σ) sent early rest n,
      (answers gateway first asked).2 = state →
      asked <+: (d (answers gateway first asked).1).sent →
      d (answers gateway first asked).1 = ⟨sent, some (early, rest)⟩ →
      d.serve gateway n (answers gateway first asked).1 state = (requests, last, some result) →
      Runs gateway d first requests result last := by
    intro asked state sent early rest n hstate hpre h hserve
    rw [serve_of_ended h] at hserve
    simp only [Prod.mk.injEq, Option.some.injEq] at hserve
    obtain ⟨rfl, rfl, rfl⟩ := hserve
    obtain ⟨used, hused, hlen, -⟩ := hd.ends h
    rw [h] at hpre
    have hcount := congrArg List.length hused
    rw [answers_length, List.length_append] at hcount
    have hle := hpre.length_le
    obtain rfl := List.IsPrefix.eq_of_length hpre (by simp only at hle ⊢; omega)
    obtain rfl : rest = [] := List.eq_nil_of_length_eq_zero (by omega)
    exact ⟨h, hstate⟩
  induction steps with
  | zero =>
    intro asked state hstate hpre hserve
    rcases h : d (answers gateway first asked).1 with ⟨sent, _ | ⟨early, rest⟩⟩
    · simp [serve, h] at hserve
    · exact hended asked state sent early rest 0 hstate hpre h hserve
  | succ steps ih =>
    intro asked state hstate hpre hserve
    rcases h : d (answers gateway first asked).1 with ⟨sent, _ | ⟨early, rest⟩⟩
    · obtain ⟨hlen, hgrow⟩ := hd.waits h
      rw [answers_length] at hlen
      rw [h] at hpre
      obtain ⟨request, rfl⟩ := prefix_concat hpre hlen
      rw [serve_of_waiting h] at hserve
      have hnext : (answers gateway first asked).1 ++ [(gateway state request).1] =
          (answers gateway first (asked ++ [request])).1 := by
        rw [answers_append, hstate]
        rfl
      rw [hnext] at hserve
      refine ih (asked ++ [request]) _ ?_ ?_ hserve
      · rw [answers_append, hstate]
        rfl
      · rw [← hnext]
        exact hgrow _
    · exact hended asked state sent early rest _ hstate hpre h hserve

theorem concludes_iff_runs {d : Dialogue α} (hd : Orderly d) {state last : σ}
    {result : Except Failure α} :
    Concludes gateway d state result last ↔
      ∃ requests, Runs gateway d state requests result last := by
  constructor
  · -- serving begins with no request, which is a prefix of what is sent
    rintro ⟨requests, h⟩
    exact ⟨requests, runs_of_serve hd _ [] state rfl List.nil_prefix (h _ (Nat.le_refl _))⟩
  · rintro ⟨requests, h⟩
    exact ⟨requests, fun steps hsteps => serve_of_answers hd requests [] state state rfl h steps hsteps⟩

/-! ## What holds after a conversation -/

theorem runs_ofResult (result : Except Failure α) (state : σ) :
    Runs gateway (ofResult result) state [] result state :=
  ⟨rfl, rfl⟩

theorem runs_send {request : Request} {response : Response} {state : σ}
    (h : (gateway state request).1 = .ok response) :
    Runs gateway (send request) state [request] (.ok response) (gateway state request).2 := by
  refine ⟨?_, rfl⟩
  rw [answers_cons, h]
  rfl

theorem Runs.bind {d : Dialogue α} {f : α → Dialogue β} (hd : Orderly d) {state mid last : σ}
    {xs ys : List Request} {x : α} {result : Except Failure β}
    (h : Runs gateway d state xs (.ok x) mid) (h' : Runs gateway (f x) mid ys result last) :
    Runs gateway (d >>= f) state (xs ++ ys) result last := by
  obtain ⟨hrun, rfl⟩ := h
  obtain ⟨hrun', rfl⟩ := h'
  obtain ⟨used, hused, -, hmore⟩ := hd.ends hrun
  rw [List.append_nil] at hused
  refine ⟨?_, by rw [answers_append]⟩
  rw [answers_append, hused, bind_of_ok (hmore _), hrun']

theorem Runs.of_bind {d : Dialogue α} {f : α → Dialogue β} (hd : Orderly d) {state last : σ}
    {requests : List Request} {y : β} (h : Runs gateway (d >>= f) state requests (.ok y) last) :
    ∃ xs ys x mid, requests = xs ++ ys ∧ Runs gateway d state xs (.ok x) mid ∧
      Runs gateway (f x) mid ys (.ok y) last := by
  obtain ⟨hrun, rfl⟩ := h
  rcases progress_cases d (answers gateway state requests).1 with ⟨sent, hs⟩ |
    ⟨sent, failure, rest, hs⟩ | ⟨sent, x, rest, hs⟩
  · rw [bind_of_waiting hs] at hrun
    simp at hrun
  · rw [bind_of_failed hs] at hrun
    simp at hrun
  · rw [bind_of_ok hs, Progress.mk.injEq] at hrun
    obtain ⟨rfl, hend⟩ := hrun
    obtain ⟨used, hused, hlen, hmore⟩ := hd.ends hs
    -- the replies split where the requests do, since there is one for each
    rw [answers_append] at hused
    obtain ⟨rfl, hrest⟩ := List.append_inj hused (by rw [answers_length, hlen])
    refine ⟨sent, _, x, (answers gateway state sent).2, rfl, ⟨?_, rfl⟩, ?_, ?_⟩
    · simpa using hmore []
    · rw [hrest, ← hend]
    · rw [answers_append]

/-- With the gateway in a state, a conversation comes to a value, and what is asked holds of it and
of the state of the gateway then. -/
def Succeeds (gateway : σ → Request → Reply × σ) (d : Dialogue α) (state : σ)
    (post : α → σ → Prop) : Prop :=
  ∃ requests x last, Runs gateway d state requests (.ok x) last ∧ post x last

/-- If, with the gateway in a state, a conversation comes to a value, what is asked holds of it and
of the state of the gateway then. -/
def Ensures (gateway : σ → Request → Reply × σ) (d : Dialogue α) (state : σ)
    (post : α → σ → Prop) : Prop :=
  ∀ requests x last, Runs gateway d state requests (.ok x) last → post x last

theorem Succeeds.mono {d : Dialogue α} {state : σ} {post post' : α → σ → Prop}
    (h : Succeeds gateway d state post) (himp : ∀ x last, post x last → post' x last) :
    Succeeds gateway d state post' := by
  obtain ⟨requests, x, last, hrun, hpost⟩ := h
  exact ⟨requests, x, last, hrun, himp x last hpost⟩

theorem succeeds_ofResult {x : α} {state : σ} {post : α → σ → Prop} (h : post x state) :
    Succeeds gateway (ofResult (.ok x)) state post :=
  ⟨[], x, state, runs_ofResult _ state, h⟩

theorem succeeds_send {request : Request} {response : Response} {state : σ}
    {post : Response → σ → Prop} (h : (gateway state request).1 = .ok response)
    (hpost : post response (gateway state request).2) :
    Succeeds gateway (send request) state post :=
  ⟨[request], response, _, runs_send h, hpost⟩

theorem Succeeds.bind {d : Dialogue α} {f : α → Dialogue β} (hd : Orderly d) {state : σ}
    {post : β → σ → Prop}
    (h : Succeeds gateway d state fun x mid => Succeeds gateway (f x) mid post) :
    Succeeds gateway (d >>= f) state post := by
  obtain ⟨xs, x, mid, hrun, ys, y, last, hrun', hpost⟩ := h
  exact ⟨xs ++ ys, y, last, hrun.bind hd hrun', hpost⟩

theorem Succeeds.concludes {d : Dialogue Unit} (hd : Orderly d) {state : σ}
    {post : Unit → σ → Prop} (h : Succeeds gateway d state post) :
    ∃ last, Concludes gateway d state (.ok ()) last ∧ post () last := by
  obtain ⟨requests, x, last, hrun, hpost⟩ := h
  exact ⟨last, (concludes_iff_runs hd).mpr ⟨requests, hrun⟩, hpost⟩

theorem ensures_ofResult {result : Except Failure α} {state : σ} {post : α → σ → Prop}
    (h : ∀ x, result = .ok x → post x state) : Ensures gateway (ofResult result) state post := by
  rintro requests x last ⟨hrun, rfl⟩
  simp only [ofResult, Progress.mk.injEq, Option.some.injEq, Prod.mk.injEq] at hrun
  obtain ⟨rfl, hok, -⟩ := hrun
  exact h x hok

theorem ensures_send {request : Request} {state : σ} {post : Response → σ → Prop}
    (h : ∀ response, (gateway state request).1 = .ok response →
      post response (gateway state request).2) :
    Ensures gateway (send request) state post := by
  rintro requests x last ⟨hrun, rfl⟩
  rcases requests with _ | ⟨first, requests⟩
  · simp [answers, send] at hrun
  · rw [answers_cons] at hrun
    rcases hreply : (gateway state first).1 with reason | response <;>
      simp only [hreply, send, Progress.mk.injEq, List.cons.injEq, Option.some.injEq,
        Prod.mk.injEq, Except.ok.injEq, reduceCtorEq, false_and, and_false] at hrun
    obtain ⟨⟨rfl, rfl⟩, rfl, -⟩ := hrun
    exact h _ hreply

theorem Ensures.bind {d : Dialogue α} {f : α → Dialogue β} (hd : Orderly d) {state : σ}
    {post : β → σ → Prop}
    (h : Ensures gateway d state fun x mid => Ensures gateway (f x) mid post) :
    Ensures gateway (d >>= f) state post := by
  intro requests y last hrun
  obtain ⟨xs, ys, x, mid, -, hfirst, hthen⟩ := hrun.of_bind hd
  exact h xs x mid hfirst ys y last hthen

theorem Ensures.mono {d : Dialogue α} {state : σ} {post post' : α → σ → Prop}
    (h : Ensures gateway d state post) (himp : ∀ x last, post x last → post' x last) :
    Ensures gateway d state post' :=
  fun requests x last hrun => himp x last (h requests x last hrun)

/-- What each round keeps, given that it holds of the rounds before, holds of all rounds. -/
theorem ensures_forEach {f : ι → Dialogue Unit} (hf : ∀ x, Orderly (f x))
    (kept : List ι → σ → Prop) (left : List ι) : ∀ (done : List ι) (state : σ),
    kept done state →
    (∀ before x state, kept before state →
      Ensures gateway (f x) state fun _ last => kept (before ++ [x]) last) →
    Ensures gateway (forEach f left) state fun _ last => kept (done ++ left) last := by
  induction left with
  | nil =>
    intro done state h _
    exact ensures_ofResult fun _ _ => by simpa using h
  | cons x left ih =>
    intro done state h hstep
    refine Ensures.bind (hf x) ((hstep done x state h).mono fun _ mid hmid => ?_)
    simpa using ih (done ++ [x]) mid hmid hstep

theorem Ensures.of_concludes {d : Dialogue Unit} (hd : Orderly d) {state last : σ}
    {post : Unit → σ → Prop} (h : Ensures gateway d state post)
    (hrun : Concludes gateway d state (.ok ()) last) : post () last := by
  obtain ⟨requests, hrun⟩ := (concludes_iff_runs hd).mp hrun
  exact h requests () last hrun

end GatewayProvisioning.Dialogue
