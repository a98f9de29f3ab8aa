import ViamSdk.ArmServer

/-!
# The trajectory gate

Whatever the client sends, the batches handed to the arm implementation are
the beginning of a valid trajectory.  The first batch that is not ends the
call with INVALID_ARGUMENT, and none of its points is handed on; which point
is found invalid is decided by the points alone, not by how they were batched.
-/

namespace ViamSdk
namespace ArmServer

open StepTrace BidiStream TrajectoryStreamValidator

def decoded (pbPoints : List TrajectoryPointMessage) : List TrajectoryPoint :=
  pbPoints.filterMap TrajectoryPoint.fromProtoChecked

/-- The points that can be decoded. -/
def pointsOf (messages : List StreamedRequest) : List TrajectoryPoint :=
  messages.flatMap fun message => decoded message.batch

/-- The time of some point cannot be counted. -/
def Overflows (messages : List StreamedRequest) : Prop :=
  ∃ message ∈ messages, ∃ pbPoint ∈ message.batch,
    pbPoint.time.fromProtoChecked = none

/-- A time that cannot be counted is out of the range of its message. -/
theorem Overflows.exists_not_valid
    {messages : List StreamedRequest} (h : Overflows messages) :
    ∃ message ∈ messages, ∃ pbPoint ∈ message.batch,
      ¬ pbPoint.time.Valid := by
  rcases h with ⟨message, hmessage, pbPoint, hpbPoint, hnone⟩
  refine ⟨message, hmessage, pbPoint, hpbPoint, fun hvalid => ?_⟩
  rcases hvalid.fromProtoChecked with ⟨duration, hsome, -⟩
  rw [hnone] at hsome
  cases hsome

@[simp]
theorem pointsOf_append
    (before after : List StreamedRequest) :
    pointsOf (before ++ after) = pointsOf before ++ pointsOf after :=
  List.flatMap_append

@[simp]
theorem pointsOf_singleton
    (message : StreamedRequest) :
    pointsOf [message] = decoded message.batch := by
  simp [pointsOf]

/-- A batch passes when it continues the valid trajectory; otherwise the loop
ends at the first point that does not, or at one whose time overflows. -/
theorem checkBatch_cases
    {points : List TrajectoryPoint} (hvalid : ValidPrefix points)
    (pbPoints : List TrajectoryPointMessage) :
    (ValidPrefix (points ++ decoded pbPoints) ∧
      (after points).checkBatch pbPoints =
        .ok (decoded pbPoints, after (points ++ decoded pbPoints))) ∨
    (∃ i description,
      FirstRejected (points ++ decoded pbPoints) (points.length + i) ∧
      (after points).checkBatch pbPoints = .error (.invalid i description)) ∨
    ((∃ pbPoint ∈ pbPoints, pbPoint.time.fromProtoChecked = none) ∧
      (after points).checkBatch pbPoints = .error .overflow) := by
  induction pbPoints generalizing points with
  | nil =>
      left
      simpa [decoded, checkBatch] using hvalid
  | cons pbPoint pbPoints ih =>
      unfold checkBatch
      cases hpoint : TrajectoryPoint.fromProtoChecked pbPoint with
      | none =>
          right; right
          refine ⟨⟨pbPoint, List.mem_cons_self, ?_⟩, rfl⟩
          exact Option.map_eq_none_iff.mp hpoint
      | some point =>
          have hsplit : points ++ decoded (pbPoint :: pbPoints) =
              (points ++ [point]) ++ decoded pbPoints := by
            simp [decoded, hpoint]
          rw [hsplit]
          simp only
          rcases check_cases (after points) point with
            ⟨haccepts, hcheck⟩ | ⟨hrejects, description, hcheck⟩
          · have hvalid' := (accepts_after_iff hvalid point).mp haccepts
            rw [← after_concat points point] at hcheck
            simp only [hcheck]
            rcases ih hvalid' with
              ⟨hbatch, hrest⟩ | ⟨i, description, hfirst, hrest⟩ |
                ⟨⟨other, hother, hnone⟩, hrest⟩
            · left
              refine ⟨hbatch, ?_⟩
              have hdecoded : decoded (pbPoint :: pbPoints) =
                  point :: decoded pbPoints := by
                simp [decoded, hpoint]
              simp only [hrest, hdecoded]
            · right; left
              refine ⟨i + 1, description, ?_, ?_⟩
              · rw [List.length_append, List.length_singleton] at hfirst
                rw [Nat.add_comm i 1, ← Nat.add_assoc]
                exact hfirst
              · simp only [hrest, BatchFault.later]
            · right; right
              refine ⟨⟨other, List.mem_cons_of_mem _ hother, hnone⟩, ?_⟩
              simp only [hrest, BatchFault.later]
          · right; left
            refine ⟨0, description, ?_, ?_⟩
            · constructor
              · simp
              · rw [List.append_assoc, Nat.add_zero, List.take_left']
                · exact hvalid
                · rfl
              · rw [Nat.add_zero,
                  List.take_append_of_le_length (by simp),
                  List.take_of_length_le (by simp)]
                exact fun h => hrejects ((accepts_after_iff hvalid point).mpr h)
            · simp only [hcheck]

section Inversion

variable {arm : Arm} {found : Str → Bool} {c c' : StreamedCall}
  {h h' : Handler arm}

/-- What the handler can do: receive the Init message, take a turn of
`batch_source`, use `update_handler`, or answer because the implementation
has returned or thrown. -/
theorem next_cases
    {e : ServerEvent} (hnext : next found c h e = some (c', h')) :
    (∃ got request c₁, h.phase = .start ∧
      c.serverRead got = some (request, c₁) ∧
      (c', h') = receiveInit found c₁ h request) ∨
    (∃ v s resume request c₁, h.phase = .running v s ∧
      arm.pulls s = some resume ∧
      ((request = none ∧ c₁ = c ∧ c.Ended) ∨
        ∃ message lane, request = some message ∧
          c.up.pop = some (message, lane) ∧ c₁ = { c with up := lane }) ∧
      (c', h') = receiveBatch c₁ h v s resume request) ∨
    (∃ v s resume goOn down, h.phase = .running v s ∧
      arm.updates s = some resume ∧ c' = { c with down := down } ∧
      h' = { h with phase := .running v (resume goOn) }) ∨
    (∃ v s status, h.phase = .running v s ∧
      ((arm.returns s = true ∧ status = ⟨.ok, []⟩) ∨
        ∃ e, arm.throws s e = true ∧ status = e.toStatus) ∧
      (c', h') = reply c h status) := by
  unfold next at hnext
  cases e with
  | readInit got =>
      left
      simp only at hnext
      split at hnext
      next hphase =>
        rcases Option.map_eq_some_iff.mp hnext with ⟨⟨request, c₁⟩, hread, heq⟩
        exact ⟨got, request, c₁, hphase, hread, heq.symm⟩
      next => cases hnext
  | sourceCancelled =>
      right; left
      simp only at hnext
      split at hnext
      next v s hphase =>
        split at hnext
        next hdead =>
          rcases Option.map_eq_some_iff.mp hnext with ⟨resume, hpulls, heq⟩
          exact ⟨v, s, resume, none, c, hphase, hpulls,
            Or.inl ⟨rfl, rfl, Or.inl hdead⟩, heq.symm⟩
        next => cases hnext
      next => cases hnext
  | sourceRead got =>
      right; left
      simp only at hnext
      split at hnext
      next v s hphase =>
        split at hnext
        next resume request c₁ hpulls hread =>
          have heq := Option.some.inj hnext
          refine ⟨v, s, resume, request, c₁, hphase, hpulls, ?_, heq.symm⟩
          rcases Call.serverRead_cases hread with
            ⟨a, lane, hrequest, hpop, hc₁⟩ | ⟨hrequest, hc₁, hended⟩
          · exact Or.inr ⟨a, lane, hrequest, hpop, hc₁⟩
          · exact Or.inl ⟨hrequest, hc₁, hended⟩
        next => cases hnext
      next => cases hnext
  | updateCancelled =>
      right; right; left
      simp only at hnext
      split at hnext
      next v s hphase =>
        split at hnext
        next =>
          rcases Option.map_eq_some_iff.mp hnext with ⟨resume, hupdates, heq⟩
          cases heq
          exact ⟨v, s, resume, false, c.down, hphase, hupdates, rfl, rfl⟩
        next => cases hnext
      next => cases hnext
  | updateWrite ok =>
      right; right; left
      simp only at hnext
      split at hnext
      next v s hphase =>
        split at hnext
        next resume c₁ hupdates hwrite =>
          cases hnext
          rcases Call.serverWrite_cases hwrite with ⟨-, hc₁⟩ | ⟨-, -, hc₁⟩
          · exact ⟨v, s, resume, ok, _, hphase, hupdates, hc₁, rfl⟩
          · exact ⟨v, s, resume, ok, c.down, hphase, hupdates, hc₁, rfl⟩
        next => cases hnext
      next => cases hnext
  | armReturns =>
      right; right; right
      simp only at hnext
      split at hnext
      next v s hphase =>
        split at hnext
        next hreturns =>
          cases hnext
          exact ⟨v, s, _, hphase, Or.inl ⟨hreturns, rfl⟩, rfl⟩
        next => cases hnext
      next => cases hnext
  | armThrows e =>
      right; right; right
      simp only at hnext
      split at hnext
      next v s hphase =>
        split at hnext
        next hthrows =>
          cases hnext
          exact ⟨v, s, _, hphase, Or.inr ⟨e, hthrows, rfl⟩, rfl⟩
        next => cases hnext
      next => cases hnext

theorem serverMove_receiveInit
    {c₁ : StreamedCall} (hmove : Call.ServerMove c c₁)
    (request : Option StreamedRequest) :
    Call.ServerMove c (receiveInit found c₁ h request).1 := by
  unfold receiveInit
  split
  next => exact hmove.answer _
  next =>
    split
    next =>
      split
      next => exact hmove
      next => exact hmove.answer _
    next => exact hmove.answer _

theorem serverMove_receiveBatch
    {c₁ : StreamedCall} {v : TrajectoryStreamValidator} {s : arm.State}
    {resume : Option (List TrajectoryPoint) → arm.State}
    (hmove : Call.ServerMove c c₁) (request : Option StreamedRequest) :
    Call.ServerMove c (receiveBatch c₁ h v s resume request).1 := by
  unfold receiveBatch
  split
  next => exact hmove
  next =>
    split
    next => exact hmove.answer _
    next => exact hmove.answer _
    next =>
      split
      next => exact hmove
      next => exact hmove.answer _
      next =>
        split
        next => exact hmove
        next => exact hmove

/-- The handler takes nothing from what the client has sent, and it does
something only while it has not returned. -/
theorem serverMove_next
    {e : ServerEvent} (hnext : next found c h e = some (c', h')) :
    Call.ServerMove c c' ∧ ∀ status, h.phase ≠ .returned status := by
  rcases next_cases hnext with
    ⟨got, request, c₁, hphase, hread, heq⟩ |
      ⟨v, s, resume, request, c₁, hphase, -, hrequest, heq⟩ |
      ⟨v, s, resume, goOn, down, hphase, -, hc', -⟩ |
      ⟨v, s, status, hphase, -, heq⟩
  · refine ⟨?_, by simp [hphase]⟩
    have hmove : Call.ServerMove c (receiveInit found c₁ h request).1 :=
      serverMove_receiveInit (Call.serverMove_serverRead hread) request
    rw [← heq] at hmove
    exact hmove
  · refine ⟨?_, by simp [hphase]⟩
    have hc₁ : Call.ServerMove c c₁ := by
      rcases hrequest with ⟨-, hc₁, -⟩ | ⟨message, lane, -, hpop, hc₁⟩
      · subst c₁
        exact Call.ServerMove.refl c
      · subst c₁
        exact ⟨Lane.sent_pop hpop, rfl, rfl, Or.inl ⟨rfl, rfl⟩, id⟩
    have hmove : Call.ServerMove c (receiveBatch c₁ h v s resume request).1 :=
      serverMove_receiveBatch hc₁ request
    rw [← heq] at hmove
    exact hmove
  · subst c'
    exact ⟨⟨rfl, rfl, rfl, Or.inl ⟨rfl, rfl⟩, id⟩, by simp [hphase]⟩
  · refine ⟨?_, by simp [hphase]⟩
    have hmove := (Call.ServerMove.refl c).answer status
    cases heq
    exact hmove

end Inversion

/-! ## The invariant -/

/-- The messages that the handler has read after the first one. -/
def following (c : StreamedCall) : List StreamedRequest := c.up.received.tail

/-- The stream was rejected at a point of the last message that was read. -/
structure RejectedAt (arm : Arm) (c : StreamedCall) (h : Handler arm) (i : ℕ) :
    Prop where
  last : ∃ before message, following c = before ++ [message] ∧
    h.handed.flatten = pointsOf before
  first : FirstRejected (pointsOf (following c)) i
  beyond : h.handed.flatten.length ≤ i
  answer : ∃ description, h.phase = .returned (pointError description)

/-- The statuses of the handler's own refusals. -/
def Refused (found : Str → Bool) (status : Grpc.Status) : Prop :=
  status.code = .invalidArgument ∨
    (status.code = .notFound ∧ ∃ name, found name = false)

/-- The stream breaks the rules for messages: it ends before the first, the
first is not an Init message for an arm there is, or a later one is no batch. -/
def Violated (found : Str → Bool) (c : StreamedCall) : Prop :=
  (c.up.received = [] ∧ c.Ended) ∨
    (∃ first, c.up.received = [first] ∧
      ¬ (first.payload = .init ∧ found first.name = true)) ∨
    ∃ message ∈ following c, ∀ points, message.payload ≠ .batch points

/-- The handler refuses the stream, and has a reason for it. -/
structure Refusal (found : Str → Bool) {arm : Arm} (c : StreamedCall)
    (h : Handler arm) (status : Grpc.Status) : Prop where
  refused : Refused found status
  cause : h.rejectedAt ≠ none ∨ Violated found c

/-- What holds of the handler and its call whatever the client does. -/
structure HandlerInv (found : Str → Bool) (arm : Arm) (c : StreamedCall)
    (h : Handler arm) : Prop where
  delivered : ValidPrefix h.handed.flatten
  nonempty : [] ∉ h.handed
  accounted : h.phase ≠ .undefined → h.rejectedAt = none →
    h.handed.flatten = pointsOf (following c)
  rejected : ∀ i, h.rejectedAt = some i → RejectedAt arm c h i
  starting : h.phase = .start → h.rejectedAt = none ∧ h.exhausted = false ∧
    c.up.received = []
  running : ∀ v s, h.phase = .running v s → h.rejectedAt = none ∧
    v = after h.handed.flatten ∧ (h.exhausted = false → arm.Live s) ∧
    c.up.received ≠ []
  ended : h.exhausted = true → c.Ended
  answered : ∀ status, h.phase = .returned status →
    h.exhausted = true ∨ Refusal found c h status ∨ arm.StopsEarly status
  overflowed : h.phase = .undefined → Overflows (following c)
  returned : c.returned = true ↔ ∃ status, h.phase = .returned status
  terminal : ∀ status, c.terminal = some status → h.phase = .returned status ∧
    (arm.PullsUntilNone → status.isOk = true →
      c.halfClosed = true ∧ c.up.Drained)

namespace Handler

def initial (arm : Arm) : Handler arm := ⟨.start, [], false, none⟩

end Handler

section Preservation

variable {arm : Arm} {found : Str → Bool} {c c' : StreamedCall}
  {h h' : Handler arm}

theorem refused_not_ok
    {status : Grpc.Status} (h : Refused found status) :
    status.isOk = false := by
  unfold Grpc.Status.isOk
  rcases h with hcode | ⟨hcode, -⟩
  · rw [hcode]
    rfl
  · rw [hcode]
    rfl

theorem handlerInv_initial
    (found : Str → Bool) (arm : Arm) :
    HandlerInv found arm Call.opened (Handler.initial arm) := by
  constructor
  · exact validPrefix_nil
  · intro hmem
    cases hmem
  · intro _ _
    rfl
  · intro i hi
    cases hi
  · intro _
    exact ⟨rfl, rfl, rfl⟩
  · intro v s hphase
    cases hphase
  · intro hexhausted
    cases hexhausted
  · intro status hphase
    cases hphase
  · intro hphase
    cases hphase
  · constructor
    · intro hreturned
      cases hreturned
    · intro hreturned
      rcases hreturned with ⟨status, hphase⟩
      cases hphase
  · intro status hterminal
    cases hterminal

theorem Violated.clientMove
    (h : Violated found c) (hmove : Call.ClientMove c c') :
    Violated found c' := by
  have hfollowing : following c' = following c := by
    unfold following
    rw [hmove.received]
  unfold Violated at h ⊢
  rw [hmove.received, hfollowing]
  exact h.imp_left (And.imp_right hmove.ended)

theorem HandlerInv.clientMove
    (hinv : HandlerInv found arm c h) (hmove : Call.ClientMove c c') :
    HandlerInv found arm c' h := by
  have hfollowing : following c' = following c := by
    unfold following
    rw [hmove.received]
  constructor
  · exact hinv.delivered
  · exact hinv.nonempty
  · rw [hfollowing]
    exact hinv.accounted
  · intro i hi
    have hrejected := hinv.rejected i hi
    constructor
    · rw [hfollowing]
      exact hrejected.last
    · rw [hfollowing]
      exact hrejected.first
    · exact hrejected.beyond
    · exact hrejected.answer
  · rw [hmove.received]
    exact hinv.starting
  · rw [hmove.received]
    exact hinv.running
  · intro hexhausted
    exact hmove.ended (hinv.ended hexhausted)
  · intro status hphase
    refine (hinv.answered status hphase).imp_right (Or.imp_left fun h => ?_)
    exact ⟨h.refused, h.cause.imp_right fun hviolated =>
      hviolated.clientMove hmove⟩
  · rw [hfollowing]
    exact hinv.overflowed
  · rw [hmove.returned]
    exact hinv.returned
  · intro status hterminal
    rw [hmove.terminal] at hterminal
    rcases hinv.terminal status hterminal with ⟨hphase, hclosed⟩
    refine ⟨hphase, ?_⟩
    intro hpulls hok
    rcases hclosed hpulls hok with ⟨hhalf, hdrained⟩
    rcases hmove.closed hhalf with ⟨hhalf', hup⟩
    rw [hup]
    exact ⟨hhalf', hdrained⟩

/-- The handler answers with a status it has a reason for. -/
theorem handlerInv_reply
    {status : Grpc.Status} (hdelivered : ValidPrefix h.handed.flatten)
    (hnonempty : [] ∉ h.handed)
    (haccounted : h.rejectedAt = none →
      h.handed.flatten = pointsOf (following c))
    (hrejected : ∀ i, h.rejectedAt = some i →
      RejectedAt arm c { h with phase := .returned status } i)
    (hended : h.exhausted = true → c.Ended)
    (hwhy : h.exhausted = true ∨ Refusal found c h status ∨
      arm.StopsEarly status) :
    HandlerInv found arm (reply c h status).1 (reply c h status).2 := by
  constructor
  · exact hdelivered
  · exact hnonempty
  · exact fun _ => haccounted
  · intro i hi
    have h := hrejected i hi
    exact ⟨h.last, h.first, h.beyond, h.answer⟩
  · intro hphase
    cases hphase
  · intro v s hphase
    cases hphase
  · exact hended
  · intro st hphase
    cases hphase
    exact hwhy.imp_right (Or.imp_left fun h => ⟨h.refused, h.cause⟩)
  · intro hphase
    cases hphase
  · exact iff_of_true rfl ⟨status, rfl⟩
  · intro st hterminal
    unfold reply Call.answer at hterminal
    simp only at hterminal
    split at hterminal
    next => cases hterminal
    next halive =>
      cases hterminal
      refine ⟨rfl, ?_⟩
      intro hpulls hst
      have hexhausted : h.exhausted = true := by
        rcases hwhy with hexhausted | hrefused | hstops
        · exact hexhausted
        · rw [refused_not_ok hrefused.refused] at hst
          cases hst
        · rw [hpulls status hstops] at hst
          cases hst
      rcases hended hexhausted with hdead | hclosed
      · exact absurd hdead halive
      · exact hclosed

/-- An answer that no batch was turned away for, over a call that may have been
read from in between. -/
theorem HandlerInv.reply_of_not_rejected
    {status : Grpc.Status} (hinv : HandlerInv found arm c h)
    (hrejected : h.rejectedAt = none)
    (haccounted : h.handed.flatten = pointsOf (following c'))
    (hended : h.exhausted = true → c'.Ended)
    (hwhy : h.exhausted = true ∨ Refusal found c' h status ∨
      arm.StopsEarly status) :
    HandlerInv found arm (reply c' h status).1 (reply c' h status).2 := by
  apply handlerInv_reply hinv.delivered hinv.nonempty (fun _ => haccounted)
  · intro i hi
    rw [hrejected] at hi
    cases hi
  · exact hended
  · exact hwhy

theorem handlerInv_running
    {v : TrajectoryStreamValidator} {s : arm.State}
    (hdelivered : ValidPrefix h.handed.flatten) (hnonempty : [] ∉ h.handed)
    (hrejected : h.rejectedAt = none)
    (haccounted : h.handed.flatten = pointsOf (following c))
    (hv : v = after h.handed.flatten)
    (hlive : h.exhausted = false → arm.Live s) (hread : c.up.received ≠ [])
    (hended : h.exhausted = true → c.Ended) (hreturned : c.returned = false)
    (hterminal : c.terminal = none) :
    HandlerInv found arm c { h with phase := .running v s } := by
  constructor
  · exact hdelivered
  · exact hnonempty
  · intro _ _
    exact haccounted
  · intro i hi
    rw [hrejected] at hi
    cases hi
  · intro hphase
    cases hphase
  · intro v' s' hphase
    cases hphase
    exact ⟨hrejected, hv, hlive, hread⟩
  · exact hended
  · intro status hphase
    cases hphase
  · intro hphase
    cases hphase
  · apply iff_of_false
    · rw [hreturned]
      exact Bool.false_ne_true
    · intro hphase
      rcases hphase with ⟨status, hphase⟩
      cases hphase
  · intro status hstatus
    rw [hterminal] at hstatus
    cases hstatus

theorem HandlerInv.open_of_not_returned
    (hinv : HandlerInv found arm c h)
    (hphase : ∀ status, h.phase ≠ .returned status) :
    c.returned = false ∧ c.terminal = none := by
  constructor
  · apply Bool.eq_false_iff.mpr
    intro hreturned
    rcases hinv.returned.mp hreturned with ⟨status, h⟩
    exact hphase status h
  · cases hterminal : c.terminal with
    | none => rfl
    | some status => exact absurd (hinv.terminal status hterminal).1 (hphase _)

theorem HandlerInv.nothing_handed
    (hinv : HandlerInv found arm c h) (hphase : h.phase = .start) :
    h.handed.flatten = [] := by
  rcases hinv.starting hphase with ⟨hrejected, -, hreceived⟩
  rw [hinv.accounted (by simp [hphase]) hrejected]
  unfold following
  rw [hreceived]
  rfl

/-- A stream is turned away for how it starts. -/
theorem HandlerInv.refuse_start
    {status : Grpc.Status} (hinv : HandlerInv found arm c h)
    (hphase : h.phase = .start) (hrefused : Refused found status)
    (hviolated : Violated found c') (hfollowing : following c' = []) :
    HandlerInv found arm (reply c' h status).1 (reply c' h status).2 := by
  rcases hinv.starting hphase with ⟨hrejected, hexhausted, -⟩
  apply hinv.reply_of_not_rejected hrejected
  · rw [hinv.nothing_handed hphase, hfollowing]
    rfl
  · intro h
    rw [hexhausted] at h
    cases h
  · exact Or.inr (Or.inl ⟨hrefused, Or.inr hviolated⟩)

/-- The implementation is called. -/
theorem HandlerInv.start_arm
    {lane : Lane StreamedRequest} (hinv : HandlerInv found arm c h)
    (hphase : h.phase = .start) (hread : lane.received ≠ [])
    (hfollowing : following { c with up := lane } = []) :
    HandlerInv found arm { c with up := lane }
      { h with phase := .running .initial arm.init } := by
  rcases hinv.starting hphase with ⟨hrejected, hexhausted, -⟩
  rcases hinv.open_of_not_returned (by simp [hphase]) with
    ⟨hreturned, hterminal⟩
  have hnone := hinv.nothing_handed hphase
  apply handlerInv_running hinv.delivered hinv.nonempty hrejected
  · rw [hnone, hfollowing]
    rfl
  · rw [hnone]
    rfl
  · intro _
    exact Arm.Live.init
  · exact hread
  · intro h
    rw [hexhausted] at h
    cases h
  · exact hreturned
  · exact hterminal

theorem handlerInv_receiveInit
    {got : Bool} {request : Option StreamedRequest} (hinv : HandlerInv found arm c h)
    (hphase : h.phase = .start)
    (hread : c.serverRead got = some (request, c')) :
    HandlerInv found arm (receiveInit found c' h request).1
      (receiveInit found c' h request).2 := by
  rcases hinv.starting hphase with ⟨-, -, hreceived⟩
  rcases Call.serverRead_cases hread with
    ⟨first, lane, hrequest, hpop, hc'⟩ | ⟨hrequest, hc', hended⟩
  · have hreceived' : lane.received = [first] := by
      rw [Lane.received_pop hpop, hreceived, List.nil_append]
    have hfollowing : following { c with up := lane } = [] := by
      unfold following
      rw [hreceived']
      rfl
    have hviolated
        (hnot : ¬ (first.payload = .init ∧ found first.name = true)) :
        Violated found { c with up := lane } :=
      Or.inr (Or.inl ⟨first, hreceived', hnot⟩)
    subst request c'
    unfold receiveInit
    simp only
    split
    next hinit =>
      split
      next =>
        apply hinv.start_arm hphase _ hfollowing
        rw [hreceived']
        exact List.cons_ne_nil _ _
      next hfound =>
        exact hinv.refuse_start hphase
          (Or.inr ⟨rfl, first.name, Bool.eq_false_iff.mpr hfound⟩)
          (hviolated fun h => hfound h.2) hfollowing
    next hinit =>
      exact hinv.refuse_start hphase (Or.inl rfl)
        (hviolated fun h => hinit h.1) hfollowing
  · subst request c'
    apply hinv.refuse_start hphase (Or.inl rfl) (Or.inl ⟨hreceived, hended⟩)
    unfold following
    rw [hreceived]
    rfl

theorem following_pop
    {message : StreamedRequest} {lane : Lane StreamedRequest}
    (hread : c.up.received ≠ []) (hpop : c.up.pop = some (message, lane)) :
    following { c with up := lane } = following c ++ [message] := by
  unfold following
  rw [Lane.received_pop hpop, List.tail_append_of_ne_nil hread]

section Batch

variable {v : TrajectoryStreamValidator} {s : arm.State}
  {resume : Option (List TrajectoryPoint) → arm.State}
  {message : StreamedRequest} {lane : Lane StreamedRequest}
  {batch : List TrajectoryPoint}

theorem handlerInv_receiveBatch_none
    (hinv : HandlerInv found arm c h) (hphase : h.phase = .running v s)
    (hended : c.Ended) :
    HandlerInv found arm (receiveBatch c h v s resume none).1
      (receiveBatch c h v s resume none).2 := by
  rcases hinv.running v s hphase with ⟨hrejected, hv, -, hread⟩
  rcases hinv.open_of_not_returned (by simp [hphase]) with
    ⟨hreturned, hterminal⟩
  exact handlerInv_running (h := { h with exhausted := true }) hinv.delivered
    hinv.nonempty hrejected (hinv.accounted (by simp [hphase]) hrejected) hv
    (fun h => nomatch h) hread (fun _ => hended) hreturned hterminal

theorem HandlerInv.ended_pop
    (hinv : HandlerInv found arm c h) (hpop : c.up.pop = some (message, lane)) :
    h.exhausted = true → Call.Ended { c with up := lane } := by
  intro hexhausted
  exact (hinv.ended hexhausted).pop hpop

theorem received_ne_nil_of_pop
    (hpop : c.up.pop = some (message, lane)) : lane.received ≠ [] := by
  rw [Lane.received_pop hpop]
  simp

/-- The implementation is handed a batch that continues the trajectory. -/
theorem HandlerInv.hand
    (hinv : HandlerInv found arm c h) (hphase : h.phase = .running v s)
    (hpulls : arm.pulls s = some resume)
    (hpop : c.up.pop = some (message, lane))
    (hsplit : pointsOf (following { c with up := lane }) =
      h.handed.flatten ++ batch)
    (hvalid : ValidPrefix (h.handed.flatten ++ batch)) (hbatch : batch ≠ []) :
    HandlerInv found arm { c with up := lane }
      { h with
        phase := .running (after (h.handed.flatten ++ batch))
          (resume (some batch))
        handed := h.handed ++ [batch] } := by
  rcases hinv.running v s hphase with ⟨hrejected, -, hlive, -⟩
  rcases hinv.open_of_not_returned (by simp [hphase]) with
    ⟨hreturned, hterminal⟩
  have hflatten : (h.handed ++ [batch]).flatten =
      h.handed.flatten ++ batch := by
    simp
  apply handlerInv_running (h := { h with handed := h.handed ++ [batch] })
  · rw [hflatten]
    exact hvalid
  · intro hmem
    rcases List.mem_append.mp hmem with hold | hnew
    · exact hinv.nonempty hold
    · rw [List.mem_singleton] at hnew
      exact hbatch hnew.symm
  · exact hrejected
  · rw [hflatten, hsplit]
  · rw [hflatten]
  · intro hexhausted
    exact Arm.Live.pull _ (hlive hexhausted) hpulls
  · exact received_ne_nil_of_pop hpop
  · exact hinv.ended_pop hpop
  · exact hreturned
  · exact hterminal

/-- Nothing more is known of a handler that has read a time that overflows. -/
theorem HandlerInv.overflow
    {pbPoint : TrajectoryPointMessage}
    (hinv : HandlerInv found arm c h) (hphase : h.phase = .running v s)
    (hpop : c.up.pop = some (message, lane))
    (hpbPoint : pbPoint ∈ message.batch)
    (hnone : pbPoint.time.fromProtoChecked = none) :
    HandlerInv found arm { c with up := lane }
      { h with phase := .undefined } := by
  rcases hinv.running v s hphase with ⟨hrejected, -, -, hread⟩
  rcases hinv.open_of_not_returned (by simp [hphase]) with
    ⟨hreturned, hterminal⟩
  constructor
  · exact hinv.delivered
  · exact hinv.nonempty
  · intro hdefined
    exact absurd rfl hdefined
  · intro i hi
    rw [hrejected] at hi
    cases hi
  · intro hstart
    cases hstart
  · intro v' s' hrunning
    cases hrunning
  · exact hinv.ended_pop hpop
  · intro status hstatus
    cases hstatus
  · intro _
    refine ⟨message, ?_, pbPoint, hpbPoint, hnone⟩
    rw [following_pop hread hpop]
    simp
  · apply iff_of_false
    · rw [hreturned]
      exact Bool.false_ne_true
    · rintro ⟨status, hstatus⟩
      cases hstatus
  · intro status hstatus
    rw [hterminal] at hstatus
    cases hstatus

/-- A batch is turned away at the first point that is not in order. -/
theorem HandlerInv.reject
    {i : ℕ} {description : Str}
    (hinv : HandlerInv found arm c h) (hphase : h.phase = .running v s)
    (hpop : c.up.pop = some (message, lane))
    (hsplit : pointsOf (following { c with up := lane }) =
      h.handed.flatten ++ batch)
    (hfirst : FirstRejected (h.handed.flatten ++ batch)
      (h.handed.flatten.length + i)) :
    let rejected :=
      { h with rejectedAt := some (h.handed.flatten.length + i) }
    HandlerInv found arm
      (reply { c with up := lane } rejected (pointError description)).1
      (reply { c with up := lane } rejected (pointError description)).2 := by
  rcases hinv.running v s hphase with ⟨hrejected, -, -, hread⟩
  intro rejected
  apply handlerInv_reply (h := rejected)
  · exact hinv.delivered
  · exact hinv.nonempty
  · intro hnone
    cases hnone
  · intro j hj
    cases hj
    constructor
    · exact ⟨following c, message, following_pop hread hpop,
        hinv.accounted (by simp [hphase]) hrejected⟩
    · rw [hsplit]
      exact hfirst
    · exact Nat.le_add_right _ _
    · exact ⟨description, rfl⟩
  · exact hinv.ended_pop hpop
  · exact Or.inr (Or.inl ⟨Or.inl rfl, Or.inl (Option.some_ne_none _)⟩)

/-- A message that is no batch is turned away; it carries no points. -/
theorem HandlerInv.refuse_message
    {text : String} (hinv : HandlerInv found arm c h)
    (hphase : h.phase = .running v s)
    (hpop : c.up.pop = some (message, lane))
    (hnot : ∀ points, message.payload ≠ .batch points)
    (hpoints : pointsOf (following { c with up := lane }) =
      h.handed.flatten ++ []) :
    HandlerInv found arm (reply { c with up := lane } h (methodError text)).1
      (reply { c with up := lane } h (methodError text)).2 := by
  rcases hinv.running v s hphase with ⟨hrejected, -, -, hread⟩
  apply hinv.reply_of_not_rejected hrejected
  · rw [hpoints, List.append_nil]
  · exact hinv.ended_pop hpop
  · refine Or.inr (Or.inl ⟨Or.inl rfl, Or.inr (Or.inr (Or.inr ?_))⟩)
    refine ⟨message, ?_, hnot⟩
    rw [following_pop hread hpop]
    simp

theorem handlerInv_receiveBatch_some
    (hinv : HandlerInv found arm c h) (hphase : h.phase = .running v s)
    (hpulls : arm.pulls s = some resume)
    (hpop : c.up.pop = some (message, lane)) :
    HandlerInv found arm
      (receiveBatch { c with up := lane } h v s resume (some message)).1
      (receiveBatch { c with up := lane } h v s resume (some message)).2 := by
  rcases hinv.running v s hphase with ⟨hrejected, hv, hlive, hread⟩
  have hsplit : pointsOf (following { c with up := lane }) =
      h.handed.flatten ++ pointsOf [message] := by
    rw [following_pop hread hpop, pointsOf_append,
      ← hinv.accounted (by simp [hphase]) hrejected]
  rw [pointsOf_singleton] at hsplit
  unfold StreamedRequest.batch at hsplit
  unfold receiveBatch
  cases hpayload : message.payload with
  | init =>
      simp only [hpayload] at hsplit ⊢
      exact hinv.refuse_message hphase hpop (by simp [hpayload]) hsplit
  | unset =>
      simp only [hpayload] at hsplit ⊢
      exact hinv.refuse_message hphase hpop (by simp [hpayload]) hsplit
  | batch points =>
      have hbatch : message.batch = points := by
        unfold StreamedRequest.batch
        rw [hpayload]
      simp only [hpayload] at hsplit ⊢
      rw [hv]
      rcases checkBatch_cases hinv.delivered points with
        ⟨hvalid, hcheck⟩ | ⟨i, description, hfirst, hcheck⟩ |
          ⟨⟨pbPoint, hpbPoint, hnone⟩, hcheck⟩
      · rw [hcheck]
        simp only
        split
        next hempty =>
          -- The loop goes on, and the implementation keeps waiting.
          rcases hinv.open_of_not_returned (by simp [hphase]) with
            ⟨hreturned, hterminal⟩
          rw [List.isEmpty_iff.mp hempty, List.append_nil] at hsplit ⊢
          exact handlerInv_running hinv.delivered hinv.nonempty hrejected
            hsplit.symm rfl hlive (received_ne_nil_of_pop hpop)
            (hinv.ended_pop hpop) hreturned hterminal
        next hempty =>
          exact hinv.hand hphase hpulls hpop hsplit hvalid
            fun hnil => hempty (List.isEmpty_iff.mpr hnil)
      · rw [hcheck]
        exact hinv.reject hphase hpop hsplit hfirst
      · rw [hcheck]
        rw [← hbatch] at hpbPoint
        exact hinv.overflow hphase hpop hpbPoint hnone

end Batch

theorem HandlerInv.next
    {e : ServerEvent} (hinv : HandlerInv found arm c h)
    (hnext : ArmServer.next found c h e = some (c', h')) :
    HandlerInv found arm c' h' := by
  rcases next_cases hnext with
    ⟨got, request, c₁, hphase, hread, heq⟩ |
      ⟨v, s, resume, request, c₁, hphase, hpulls, hrequest, heq⟩ |
      ⟨v, s, resume, goOn, down, hphase, hupdates, hc', hh'⟩ |
      ⟨v, s, status, hphase, hwhy, heq⟩
  · have hanswered : HandlerInv found arm (receiveInit found c₁ h request).1
        (receiveInit found c₁ h request).2 :=
      handlerInv_receiveInit hinv hphase hread
    rw [← heq] at hanswered
    exact hanswered
  · rcases hrequest with
      ⟨hrequest, hc₁, hended⟩ | ⟨message, lane, hrequest, hpop, hc₁⟩
    · subst request c₁
      have hanswered : HandlerInv found arm
          (receiveBatch c h v s resume none).1
          (receiveBatch c h v s resume none).2 :=
        handlerInv_receiveBatch_none hinv hphase hended
      rw [← heq] at hanswered
      exact hanswered
    · subst request c₁
      have h := handlerInv_receiveBatch_some hinv hphase hpulls hpop
      rw [← heq] at h
      exact h
  · subst c' h'
    rcases hinv.running v s hphase with ⟨hrejected, hv, hlive, hread⟩
    rcases hinv.open_of_not_returned (by simp [hphase]) with
      ⟨hreturned, hterminal⟩
    exact handlerInv_running hinv.delivered hinv.nonempty hrejected
      (hinv.accounted (by simp [hphase]) hrejected) hv
      (fun hexhausted => Arm.Live.update goOn (hlive hexhausted) hupdates)
      hread hinv.ended hreturned hterminal
  · rcases hinv.running v s hphase with ⟨hrejected, -, hlive, -⟩
    have h : HandlerInv found arm (reply c h status).1 (reply c h status).2 := by
      apply hinv.reply_of_not_rejected hrejected
        (hinv.accounted (by simp [hphase]) hrejected)
      · exact hinv.ended
      · cases hexhausted : h.exhausted with
        | true => exact Or.inl rfl
        | false =>
            right
            right
            have hlive := hlive hexhausted
            rcases hwhy with ⟨hreturns, hstatus⟩ | ⟨e, hthrows, hstatus⟩
            · rw [hstatus]
              exact Arm.StopsEarly.returns hlive hreturns
            · rw [hstatus]
              exact Arm.StopsEarly.throws hlive hthrows
    rw [← heq] at h
    exact h

end Preservation

/-! ## Runs against an arbitrary client -/

inductive PeerEvent where
  | write (message : StreamedRequest) (ok : Bool)
  | writesDone
  | die
  | read (got : Bool)

def PeerEvent.apply (c : StreamedCall) : PeerEvent → Option StreamedCall
  | .write message ok => c.write message ok
  | .writesDone => some c.writesDone
  | .die => some c.die
  | .read got => (c.read got).map Prod.snd

theorem PeerEvent.clientMove
    {c c' : StreamedCall} {e : PeerEvent} (h : e.apply c = some c') :
    Call.ClientMove c c' := by
  cases e with
  | write message ok => exact Call.clientMove_write h
  | writesDone =>
      cases h
      exact Call.clientMove_writesDone c
  | die =>
      cases h
      exact Call.clientMove_die c
  | read got =>
      rcases Option.map_eq_some_iff.mp h with ⟨⟨response, c₁⟩, hread, heq⟩
      subst heq
      exact Call.clientMove_read hread

inductive SessionEvent where
  | peer (e : PeerEvent)
  | server (e : ServerEvent)

structure Session (arm : Arm) where
  call : StreamedCall
  handler : Handler arm

namespace Session

variable {arm : Arm}

def start (arm : Arm) : Session arm := ⟨Call.opened, Handler.initial arm⟩

def next (found : Str → Bool) (s : Session arm) :
    SessionEvent → Option (Session arm)
  | .peer e => (e.apply s.call).map fun call => { s with call }
  | .server e =>
      (ArmServer.next found s.call s.handler e).map fun (call, handler) =>
        ⟨call, handler⟩

def Step (found : Str → Bool) (s : Session arm) (e : SessionEvent)
    (s' : Session arm) : Prop :=
  s.next found e = some s'

theorem step_cases
    {found : Str → Bool} {s s' : Session arm} {e : SessionEvent}
    (h : Step found s e s') :
    (∃ peer call, e = .peer peer ∧ peer.apply s.call = some call ∧
      s' = { s with call }) ∨
    (∃ event call handler, e = .server event ∧
      ArmServer.next found s.call s.handler event = some (call, handler) ∧
      s' = ⟨call, handler⟩) := by
  unfold Step next at h
  cases e with
  | peer e =>
      left
      rcases Option.map_eq_some_iff.mp h with ⟨call, happly, heq⟩
      exact ⟨e, call, rfl, happly, heq.symm⟩
  | server e =>
      right
      rcases Option.map_eq_some_iff.mp h with ⟨⟨call, handler⟩, hnext, heq⟩
      exact ⟨e, call, handler, rfl, hnext, heq.symm⟩

theorem handlerInv_step
    {found : Str → Bool} {s s' : Session arm} {e : SessionEvent}
    (hinv : HandlerInv found arm s.call s.handler) (h : Step found s e s') :
    HandlerInv found arm s'.call s'.handler := by
  rcases step_cases h with
    ⟨peer, call, -, happly, hs'⟩ | ⟨event, call, handler, -, hnext, hs'⟩
  · subst s'
    exact hinv.clientMove (PeerEvent.clientMove happly)
  · subst s'
    exact hinv.next hnext

theorem handlerInv_of_run
    {found : Str → Bool} {run : List (SessionEvent × Session arm)}
    (hrun : IsRun (Step found) (start arm) run) :
    HandlerInv found arm (lastState (start arm) run).call
      (lastState (start arm) run).handler :=
  hrun.invariant (fun _ _ _ => handlerInv_step) (handlerInv_initial found arm)

/-- The messages that the client has sent after the first one. -/
def sentAfterInit (s : Session arm) : List StreamedRequest :=
  s.call.up.sent.tail

theorem sentAfterInit_eq_following_append
    (s : Session arm) :
    ∃ rest, s.sentAfterInit = following s.call ++ rest := by
  rcases s.call.up.received_prefix with ⟨rest, hsent⟩
  unfold sentAfterInit following
  cases hreceived : s.call.up.received with
  | nil => exact ⟨s.call.up.sent.tail, rfl⟩
  | cons first others =>
      rw [hsent, hreceived]
      exact ⟨rest, rfl⟩

end Session

/-! ## What keeps the handler waiting -/

section Waiting

variable {arm : Arm} {found : Str → Bool} {c : StreamedCall} {h : Handler arm}
  {v : TrajectoryStreamValidator} {s : arm.State}

/-- The handler can do nothing unless the client or the transport does. -/
def Waits (found : Str → Bool) (c : StreamedCall) (h : Handler arm) : Prop :=
  ∀ e, next found c h e = none

theorem Waits.init_unread
    (hwaits : Waits found c h) (hphase : h.phase = .start) (got : Bool) :
    c.serverRead got = none := by
  have hnone := hwaits (.readInit got)
  unfold next at hnone
  simpa only [hphase, Option.map_eq_none_iff] using hnone

theorem Waits.batch_unread
    (hwaits : Waits found c h) (hphase : h.phase = .running v s)
    (hpulls : arm.pulls s ≠ none) (got : Bool) :
    c.serverRead got = none := by
  obtain ⟨resume, hresume⟩ := Option.ne_none_iff_exists'.mp hpulls
  have hnone := hwaits (.sourceRead got)
  unfold next at hnone
  simp only [hphase, hresume] at hnone
  cases hread : c.serverRead got with
  | none => rfl
  | some read =>
      rw [hread] at hnone
      cases hnone

/-- An update can always be written, or found to be pointless. -/
theorem Waits.updates_eq_none
    (hwaits : Waits found c h) (hphase : h.phase = .running v s) :
    arm.updates s = none := by
  have hnone := hwaits (.updateWrite true)
  unfold next at hnone
  simp only [hphase, Call.serverWrite, if_true] at hnone
  cases hupdates : arm.updates s with
  | none => rfl
  | some resume =>
      rw [hupdates] at hnone
      cases hnone

theorem Waits.returns_eq_false
    (hwaits : Waits found c h) (hphase : h.phase = .running v s) :
    arm.returns s = false := by
  have hnone := hwaits .armReturns
  unfold next at hnone
  simpa [hphase] using hnone

theorem Waits.throws_eq_false
    (hwaits : Waits found c h) (hphase : h.phase = .running v s) (e : Thrown) :
    arm.throws s e = false := by
  have hnone := hwaits (.armThrows e)
  unfold next at hnone
  simpa [hphase] using hnone

/-- A handler that waits for a call that is alive has read all there is, unless
it is done. -/
theorem HandlerInv.waits_cases
    (hinv : HandlerInv found arm c h) (hkeeps : arm.KeepsPulling)
    (hwaits : Waits found c h) (halive : c.dead = false) :
    (∃ status, h.phase = .returned status) ∨ h.phase = .undefined ∨
      c.up.received = c.up.sent := by
  cases hphase : h.phase with
  | start =>
      right; right
      exact Lane.received_of_drained
        (Call.drained_of_no_serverRead (hwaits.init_unread hphase)).2.2
  | running v s =>
      right; right
      cases hexhausted : h.exhausted with
      | true => exact (hinv.ended hexhausted).received_eq_sent halive
      | false =>
          have hlive := (hinv.running v s hphase).2.2.1 hexhausted
          have hpulls := (hkeeps s hlive).1.resolve_right
            (not_not_intro (hwaits.updates_eq_none hphase))
          exact Lane.received_of_drained (Call.drained_of_no_serverRead
            (hwaits.batch_unread hphase hpulls)).2.2
  | returned status => exact Or.inl ⟨status, rfl⟩
  | undefined => exact Or.inr (Or.inl rfl)

end Waiting

/-! ## The gate -/

namespace Session

variable {arm : Arm}

/-- The handler of a live call has done all it can for what has been sent, whose
times can be counted, and for an implementation that keeps pulling. -/
structure Idle (found : Str → Bool) (s : Session arm) : Prop where
  alive : s.call.dead = false
  keepsPulling : arm.KeepsPulling
  waits : Waits found s.call s.handler
  countable : ¬ Overflows s.sentAfterInit

/-- The client has sent an Init message for an arm there is, then batches. -/
structure WellFormed (found : Str → Bool) (s : Session arm) : Prop where
  init : ∃ first, s.call.up.sent.head? = some first ∧ first.payload = .init ∧
    found first.name = true
  batches : ∀ message ∈ s.sentAfterInit, ∃ points,
    message.payload = .batch points

end Session

/-- The gate: what was handed on, when the stream was rejected, that the points
sent decide where, and that the handler comes that far. -/
structure TrajectoryGate (found : Str → Bool) {arm : Arm} (s : Session arm) :
    Prop where
  delivered : ValidPrefix s.handler.handed.flatten
  accounted : s.handler.phase ≠ .undefined → s.handler.rejectedAt = none →
    s.handler.handed.flatten = pointsOf (following s.call)
  rejection : s.handler.phase ≠ .undefined →
    ∀ i, FirstRejected (pointsOf (following s.call)) i →
      s.handler.rejectedAt = some i ∧
        ∃ before message description,
          following s.call = before ++ [message] ∧
          s.handler.handed.flatten = pointsOf before ∧
          (pointsOf before).length ≤ i ∧
          s.handler.phase = .returned (pointError description)
  byPoints : ∀ i, s.handler.rejectedAt = some i →
    FirstRejected (pointsOf s.sentAfterInit) i
  answered : s.call.dead = false → (∀ status, ¬ arm.StopsEarly status) →
    (∀ name, found name = true) →
    ∀ i status, FirstRejected (pointsOf s.sentAfterInit) i →
      s.handler.phase = .returned status → status.code = .invalidArgument
  overflowed : s.handler.phase = .undefined → Overflows (following s.call) ∧
    ∃ message ∈ following s.call, ∃ pbPoint ∈ message.batch,
      ¬ pbPoint.time.Valid
  refuses : s.Idle found → (∀ name, found name = true) →
    ∀ i, FirstRejected (pointsOf s.sentAfterInit) i →
      ∃ status, s.handler.phase = .returned status ∧
        status.code = .invalidArgument
  rejects : s.Idle found → s.WellFormed found →
    ∀ i, FirstRejected (pointsOf s.sentAfterInit) i →
      s.handler.rejectedAt = some i
  handsOn : s.Idle found → s.WellFormed found →
    ValidPrefix (pointsOf s.sentAfterInit) →
      s.handler.handed.flatten = pointsOf s.sentAfterInit

section Gate

variable {found : Str → Bool} {arm : Arm} {s : Session arm}

theorem HandlerInv.rejected_of_firstRejected
    {c : StreamedCall} {h : Handler arm} (hinv : HandlerInv found arm c h)
    (hdefined : h.phase ≠ .undefined) {i : ℕ}
    (hfirst : FirstRejected (pointsOf (following c)) i) :
    h.rejectedAt = some i := by
  cases hrejected : h.rejectedAt with
  | none =>
      have hvalid := hinv.delivered
      rw [hinv.accounted hdefined hrejected] at hvalid
      exact absurd hvalid hfirst.not_validPrefix
  | some j =>
      have hj := (hinv.rejected j hrejected).first
      rw [hj.unique hfirst]

theorem HandlerInv.firstRejected_sent
    (hinv : HandlerInv found arm s.call s.handler) {i : ℕ}
    (hrejected : s.handler.rejectedAt = some i) :
    FirstRejected (pointsOf s.sentAfterInit) i := by
  have hfirst := (hinv.rejected i hrejected).first
  rcases s.sentAfterInit_eq_following_append with ⟨rest, hrest⟩
  rw [hrest, pointsOf_append]
  exact hfirst.append _

theorem Session.following_eq_sentAfterInit
    (hall : s.call.up.received = s.call.up.sent) :
    following s.call = s.sentAfterInit := by
  unfold following sentAfterInit
  rw [hall]

/-- What the handler makes of all that was sent it makes of what it has read. -/
theorem HandlerInv.rejected_of_read
    (hinv : HandlerInv found arm s.call s.handler)
    (hdefined : s.handler.phase ≠ .undefined)
    (hall : s.call.up.received = s.call.up.sent) {i : ℕ}
    (hfirst : FirstRejected (pointsOf s.sentAfterInit) i) :
    s.handler.rejectedAt = some i ∧
      ∃ description, s.handler.phase = .returned (pointError description) := by
  rw [← Session.following_eq_sentAfterInit hall] at hfirst
  have hrejected := hinv.rejected_of_firstRejected hdefined hfirst
  exact ⟨hrejected, (hinv.rejected i hrejected).answer⟩

theorem HandlerInv.code_of_answer
    (hinv : HandlerInv found arm s.call s.handler)
    (halive : s.call.dead = false) (hstops : ∀ status, ¬ arm.StopsEarly status)
    (hfound : ∀ name, found name = true) {i : ℕ} {status : Grpc.Status}
    (hfirst : FirstRejected (pointsOf s.sentAfterInit) i)
    (hphase : s.handler.phase = .returned status) :
    status.code = .invalidArgument := by
  rcases hinv.answered status hphase with hexhausted | hrefusal | hearly
  · -- The implementation was told of the end, so everything was read.
    have hall := (hinv.ended hexhausted).received_eq_sent halive
    rcases (hinv.rejected_of_read (by simp [hphase]) hall hfirst).2 with
      ⟨description, hphase'⟩
    rw [hphase] at hphase'
    cases hphase'
    rfl
  · rcases hrefusal.refused with hcode | ⟨-, name, hname⟩
    · exact hcode
    · rw [hfound name] at hname
      cases hname
  · exact absurd hearly (hstops status)

theorem HandlerInv.defined
    (hinv : HandlerInv found arm s.call s.handler)
    (hcountable : ¬ Overflows s.sentAfterInit) :
    s.handler.phase ≠ .undefined := by
  intro hphase
  rcases hinv.overflowed hphase with ⟨message, hmessage, hoverflow⟩
  rcases s.sentAfterInit_eq_following_append with ⟨rest, hrest⟩
  apply hcountable
  refine ⟨message, ?_, hoverflow⟩
  rw [hrest]
  exact List.mem_append_left _ hmessage

theorem Session.WellFormed.not_violated
    (h : s.WellFormed found) (halive : s.call.dead = false) :
    ¬ Violated found s.call := by
  rcases h.init with ⟨first, hhead, hinit, hname⟩
  rcases s.call.up.received_prefix with ⟨rest, hsent⟩
  rintro (⟨hreceived, hended⟩ | ⟨other, hreceived, hnot⟩ |
    ⟨message, hmessage, hnot⟩)
  · rw [← hended.received_eq_sent halive, hreceived] at hhead
    cases hhead
  · rw [hsent, hreceived] at hhead
    cases hhead
    exact hnot ⟨hinit, hname⟩
  · rcases s.sentAfterInit_eq_following_append with ⟨more, hmore⟩
    rcases h.batches message (by
      rw [hmore]
      exact List.mem_append_left _ hmessage) with ⟨points, hpoints⟩
    exact hnot points hpoints

/-- In an idle session that breaks no rule, either a point has been rejected
or everything that was sent has been read. -/
theorem HandlerInv.idle_cases
    (hinv : HandlerInv found arm s.call s.handler) (hidle : s.Idle found)
    (hwell : s.WellFormed found) :
    (∃ i, s.handler.rejectedAt = some i) ∨
      s.call.up.received = s.call.up.sent := by
  have hdefined := hinv.defined hidle.countable
  rcases hinv.waits_cases hidle.keepsPulling hidle.waits hidle.alive with
    ⟨status, hphase⟩ | hundefined | hall
  · rcases hinv.answered status hphase with hexhausted | hrefusal | hearly
    · right
      exact (hinv.ended hexhausted).received_eq_sent hidle.alive
    · left
      rcases hrefusal.cause with hrejected | hviolated
      · exact Option.ne_none_iff_exists'.mp hrejected
      · exact absurd hviolated (hwell.not_violated hidle.alive)
    · exact absurd hearly (hidle.keepsPulling.not_stopsEarly status)
  · exact absurd hundefined hdefined
  · exact Or.inr hall

theorem trajectoryGate_of_handlerInv
    (hinv : HandlerInv found arm s.call s.handler) :
    TrajectoryGate found s := by
  constructor
  · exact hinv.delivered
  · exact hinv.accounted
  · intro hdefined i hfirst
    have hrejected := hinv.rejected_of_firstRejected hdefined hfirst
    refine ⟨hrejected, ?_⟩
    have h := hinv.rejected i hrejected
    rcases h.last with ⟨before, message, hfollowing, hhanded⟩
    rcases h.answer with ⟨description, hphase⟩
    have hbeyond := h.beyond
    rw [hhanded] at hbeyond
    exact ⟨before, message, description, hfollowing, hhanded, hbeyond, hphase⟩
  · intro i hrejected
    exact hinv.firstRejected_sent hrejected
  · intro halive hstops hfound i status hfirst hphase
    exact hinv.code_of_answer halive hstops hfound hfirst hphase
  · intro hundefined
    have hoverflows := hinv.overflowed hundefined
    exact ⟨hoverflows, hoverflows.exists_not_valid⟩
  · intro hidle hfound i hfirst
    have hdefined := hinv.defined hidle.countable
    rcases hinv.waits_cases hidle.keepsPulling hidle.waits hidle.alive with
      ⟨status, hphase⟩ | hundefined | hall
    · exact ⟨status, hphase, hinv.code_of_answer hidle.alive
        hidle.keepsPulling.not_stopsEarly hfound hfirst hphase⟩
    · exact absurd hundefined hdefined
    · rcases (hinv.rejected_of_read hdefined hall hfirst).2 with
        ⟨description, hphase⟩
      exact ⟨_, hphase, rfl⟩
  · intro hidle hwell i hfirst
    rcases hinv.idle_cases hidle hwell with ⟨j, hrejected⟩ | hall
    · rw [hrejected, (hinv.firstRejected_sent hrejected).unique hfirst]
    · exact (hinv.rejected_of_read (hinv.defined hidle.countable) hall hfirst).1
  · intro hidle hwell hvalid
    rcases hinv.idle_cases hidle hwell with ⟨j, hrejected⟩ | hall
    · exact absurd hvalid (hinv.firstRejected_sent hrejected).not_validPrefix
    · have hnone : s.handler.rejectedAt = none := by
        cases hrejected : s.handler.rejectedAt with
        | none => rfl
        | some j =>
            exact absurd hvalid
              (hinv.firstRejected_sent hrejected).not_validPrefix
      rw [hinv.accounted (hinv.defined hidle.countable) hnone,
        Session.following_eq_sentAfterInit hall]

end Gate

/-- The second of three points comes no later than the first. -/
def lateRun : List (SessionEvent × Session drainingArm) :=
  traceOf (Session.next fun _ => true) (Session.start drainingArm)
    [.peer (.write ⟨"arm1".toList, .init⟩ true),
      .peer (.write ⟨[], .batch [⟨⟨0, 0⟩, [⟨0⟩], none⟩]⟩ true),
      .peer (.write ⟨[], .batch [⟨⟨0, 0⟩, [⟨0⟩], none⟩,
        ⟨⟨0, 5000⟩, [⟨0⟩], none⟩]⟩ true),
      .server (.readInit true), .server (.sourceRead true),
      .server (.sourceRead true)]

theorem idle_lateRun :
    (lastState (Session.start drainingArm) lateRun).Idle fun _ => true := by
  constructor
  · rfl
  · exact drainingArm_keepsPulling
  · intro e
    cases e <;> rfl
  · unfold Overflows
    decide

end ArmServer
end ViamSdk
