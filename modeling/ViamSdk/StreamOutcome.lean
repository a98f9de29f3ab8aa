import Mathlib.Algebra.BigOperators.Ring.List
import ViamSdk.ArmClient

/-!
# The outcome of a streamed trajectory

Four causes can end the call, on two threads, and each may set off the others
by cancelling.  Whatever the schedule, the cause that wins is the first in a
fixed order, and the function leaves only after the reader has been joined and
`Finish` has been called once.

It does leave: the two threads take a bounded number of steps for each call of
a callback, and the one thing they ever wait for is a handler that has not
answered a call in which nothing has gone wrong.
-/

namespace ViamSdk
namespace ArmClient

open StepTrace BidiStream ArmServer

/-! ## What happened in a run -/

namespace SystemEvent

def initWritten : SystemEvent → List Unit
  | .client (.writeInit true) => [()]
  | _ => []

def writerFault : SystemEvent → List Exception
  | .client (.batchSource (.error e)) => [e]
  | .client (.writeBatch (.error e)) => [e]
  | _ => []

def readerFault : SystemEvent → List Exception
  | .client (.updateHandler (.error e)) => [e]
  | _ => []

def stop : SystemEvent → List Unit
  | .client (.updateHandler (.ok false)) => [()]
  | _ => []

def joined : SystemEvent → List Unit
  | .client .join => [()]
  | _ => []

def finished : SystemEvent → List Grpc.Status
  | .client (.finish status) => [status]
  | _ => []

def clientStep : SystemEvent → List Unit
  | .client _ => [()]
  | _ => []

/-- A call of `batch_source` or of `update_handler`. -/
def callback : SystemEvent → List Unit
  | .client (.batchSource _) => [()]
  | .client (.updateHandler _) => [()]
  | _ => []

end SystemEvent

def collect {α : Type} {arm : Arm} (out : SystemEvent → List α)
    (run : List (SystemEvent × System arm)) : List α :=
  run.flatMap fun entry => out entry.1

/-- The order of the causes: a fault of the writer, a fault of the reader, a
stop by the caller, a status that is not OK. -/
def precedence (writerFaults readerFaults : List Exception) (stops : List Unit)
    (status : Grpc.Status) : StreamResult :=
  match writerFaults, readerFaults, stops with
  | e :: _, _, _ => .rethrown e
  | [], e :: _, _ => .rethrown e
  | [], [], () :: _ => .haltedByUpdateHandler
  | [], [], [] =>
      if status.isOk then .completed else .grpcException status

/-! ## Where the threads can be -/

/-- The caller's thread is in its `try` block, or before it. -/
def WriterAt.working : WriterAt → Bool
  | .init | .reaping | .pulling | .writing _ | .closing => true
  | _ => false

def ReaderAt.working : ReaderAt → Bool
  | .notStarted | .reading | .handling _ => true
  | _ => false

/-- The reader thread has been started and not yet been joined. -/
def WriterAt.readerRuns : WriterAt → Bool
  | .pulling | .writing _ | .closing | .cancelling | .joining => true
  | _ => false

structure ClientInv (k : Client) : Prop where
  writerFault : k.writer.working = true → k.writerException = none
  readerFault : k.reader.working = true →
    k.readerException = none ∧ k.updateHandlerHalted = false
  before : k.writer = .init ∨ k.writer = .reaping → k.reader = .notStarted
  running : k.writer.readerRuns = true → k.reader ≠ .notStarted
  joinable : k.readerJoinable = k.writer.readerRuns
  finishing : k.writer = .finishing → k.reader = .ended
  unfinished : (∀ result, k.writer ≠ .left result) → k.finishStatus = none
  left : ∀ result, k.writer = .left result → k.reader = .notStarted ∨
    (k.reader = .ended ∧ ∃ status, k.finishStatus = some status ∧
      result = k.decideResult status)

theorem clientInv_initial : ClientInv Client.initial := by
  constructor <;> simp [Client.initial, WriterAt.readerRuns]

theorem ClientInv.step
    {name : Str} {c c' : StreamedCall} {k k' : Client} {e : ClientEvent}
    (hinv : ClientInv k) (h : ClientStep name c k e c' k') :
    ClientInv k' := by
  -- Each field follows, step by step, from the fields that are named for it.
  constructor
  · have hwriterFault := hinv.writerFault
    cases h <;> simp_all [WriterAt.working]
  · have hreaderFault := hinv.readerFault
    have hbefore := hinv.before
    cases h <;> simp_all [ReaderAt.working]
  · have hbefore := hinv.before
    cases h <;> simp_all
  · have hrunning := hinv.running
    cases h <;> simp_all [WriterAt.readerRuns]
  · have hjoinable := hinv.joinable
    cases h <;> simp_all [WriterAt.readerRuns]
  · have hfinishing := hinv.finishing
    cases h <;> simp_all
  · have hunfinished := hinv.unfinished
    cases h <;> simp_all
  · have hleft := hinv.left
    have hbefore := hinv.before
    have hfinishing := hinv.finishing
    cases h <;> simp_all [Client.decideResult]

section Runs

variable {name : Str} {found : Str → Bool} {arm : Arm}
  {run : List (SystemEvent × System arm)}

theorem clientInv_step
    (s : System arm) (e : SystemEvent) (s' : System arm)
    (hinv : ClientInv s.client) (h : System.Step name found s e s') :
    ClientInv s'.client := by
  rcases System.step_cases h with
    ⟨event, call, client, -, hstep, hs'⟩ | ⟨event, call, handler, -, -, hs'⟩ |
      ⟨-, hs'⟩
  · subst s'
    exact hinv.step hstep
  · subst s'
    exact hinv
  · subst s'
    exact hinv

/-- A record that the client's steps keep tells what happened in the run. -/
theorem collect_eq
    {α : Type} (record : Client → List α) {out : SystemEvent → List α}
    (hclient : ∀ {c c' : StreamedCall} {k k' : Client} {e : ClientEvent},
      ClientInv k → ClientStep name c k e c' k' →
        record k' = record k ++ out (.client e))
    (hserver : ∀ e, out (.server e) = []) (hbreaks : out .breaks = [])
    (hinitial : record Client.initial = [])
    (hrun : IsRun (System.Step name found) (System.start arm) run) :
    collect out run = record (lastState (System.start arm) run).client := by
  have hout : ∀ (s : System arm) (e : SystemEvent) (s' : System arm),
      ClientInv s.client → System.Step name found s e s' →
        record s'.client = record s.client ++ out e := by
    intro s e s' hinv h
    rcases System.step_cases h with
      ⟨event, call, client, he, hstep, hs'⟩ | ⟨event, call, handler, he, -, hs'⟩ |
        ⟨he, hs'⟩
    · subst s' e
      exact hclient hinv hstep
    · subst s' e
      rw [hserver, List.append_nil]
    · subst s' e
      rw [hbreaks, List.append_nil]
  have h := hrun.accumulates clientInv_step hout clientInv_initial
  rw [h]
  unfold System.start
  rw [hinitial]
  rfl

def Client.hasJoined (k : Client) : Bool :=
  !k.writer.working && !k.writer.readerRuns && k.reader != .notStarted

def once (b : Bool) : List Unit := if b then [()] else []

theorem collect_initWritten
    (hrun : IsRun (System.Step name found) (System.start arm) run) :
    collect SystemEvent.initWritten run =
      once ((lastState (System.start arm) run).client.reader != .notStarted) := by
  apply collect_eq (fun k => once (k.reader != .notStarted)) _
    (fun _ => rfl) rfl rfl hrun
  intro c c' k k' e hinv h
  have hbefore := hinv.before
  cases h <;> simp_all [once, SystemEvent.initWritten]

theorem collect_writerFault
    (hrun : IsRun (System.Step name found) (System.start arm) run) :
    collect SystemEvent.writerFault run =
      (lastState (System.start arm) run).client.writerException.toList := by
  apply collect_eq (fun k => k.writerException.toList) _
    (fun _ => rfl) rfl rfl hrun
  intro c c' k k' e hinv h
  have hwriterFault := hinv.writerFault
  cases h <;> simp_all [SystemEvent.writerFault, WriterAt.working]

theorem collect_readerFault
    (hrun : IsRun (System.Step name found) (System.start arm) run) :
    collect SystemEvent.readerFault run =
      (lastState (System.start arm) run).client.readerException.toList := by
  apply collect_eq (fun k => k.readerException.toList) _
    (fun _ => rfl) rfl rfl hrun
  intro c c' k k' e hinv h
  have hreaderFault := hinv.readerFault
  cases h <;> simp_all [SystemEvent.readerFault, ReaderAt.working]

theorem collect_stop
    (hrun : IsRun (System.Step name found) (System.start arm) run) :
    collect SystemEvent.stop run =
      once (lastState (System.start arm) run).client.updateHandlerHalted := by
  apply collect_eq (fun k => once k.updateHandlerHalted) _
    (fun _ => rfl) rfl rfl hrun
  intro c c' k k' e hinv h
  have hreaderFault := hinv.readerFault
  cases h <;> simp_all [once, SystemEvent.stop, ReaderAt.working]

theorem collect_joined
    (hrun : IsRun (System.Step name found) (System.start arm) run) :
    collect SystemEvent.joined run =
      once (lastState (System.start arm) run).client.hasJoined := by
  apply collect_eq (fun k => once k.hasJoined) _
    (fun _ => rfl) rfl rfl hrun
  intro c c' k k' e hinv h
  have hbefore := hinv.before
  cases h <;> simp_all [once, SystemEvent.joined, Client.hasJoined,
    WriterAt.working, WriterAt.readerRuns]

theorem collect_finished
    (hrun : IsRun (System.Step name found) (System.start arm) run) :
    collect SystemEvent.finished run =
      (lastState (System.start arm) run).client.finishStatus.toList := by
  apply collect_eq (fun k => k.finishStatus.toList) _
    (fun _ => rfl) rfl rfl hrun
  intro c c' k k' e hinv h
  have hunfinished := hinv.unfinished
  cases h <;> simp_all [SystemEvent.finished]

/-! ## The cause that wins -/

theorem decideResult_eq_precedence
    (k : Client) (status : Grpc.Status) :
    k.decideResult status = precedence k.writerException.toList
      k.readerException.toList (once k.updateHandlerHalted) status := by
  unfold Client.decideResult
  cases k.writerException with
  | some e => rfl
  | none =>
      cases k.readerException with
      | some e => rfl
      | none =>
          cases k.updateHandlerHalted with
          | true => rfl
          | false => cases hok : status.isOk <;> simp [precedence, once, hok]

/-- `Finish` is not called while the reader thread runs or can be joined. -/
theorem finish_after_join
    (hrun : IsRun (System.Step name found) (System.start arm) run) :
    AllSteps (fun s e _ => ∀ status, e = .client (.finish status) →
        s.client.readerJoinable = false ∧
          (s.client.reader = .notStarted ∨ s.client.reader = .ended))
      (System.start arm) run := by
  apply hrun.allSteps_of_invariant clientInv_step _ clientInv_initial
  intro s e s' hinv h status he
  subst e
  rcases System.step_cases h with
    ⟨event, call, client, he, hstep, -⟩ | ⟨event, call, handler, he, -, -⟩ |
      ⟨he, -⟩
  · cases he
    have hjoinable := hinv.joinable
    cases hstep with
    | finishesInit hwriter =>
        rw [hwriter] at hjoinable
        exact ⟨hjoinable, Or.inl (hinv.before (Or.inr hwriter))⟩
    | finishes hwriter =>
        rw [hwriter] at hjoinable
        exact ⟨hjoinable, Or.inr (hinv.finishing hwriter)⟩
  · cases he
  · cases he

/-- The call has ended with the result, after one join and one `Finish`. -/
structure EndsOneWay (run : List (SystemEvent × System arm))
    (result : StreamResult) : Prop where
  finished : ∃ status, collect SystemEvent.finished run = [status] ∧
    result = precedence (collect SystemEvent.writerFault run)
      (collect SystemEvent.readerFault run) (collect SystemEvent.stop run)
      status
  joined : collect SystemEvent.joined run = [()]
  afterJoin : AllSteps (fun s e _ => ∀ status, e = .client (.finish status) →
      s.client.readerJoinable = false ∧
        (s.client.reader = .notStarted ∨ s.client.reader = .ended))
    (System.start arm) run

theorem endsOneWay_of_left
    (hrun : IsRun (System.Step name found) (System.start arm) run)
    (hinit : collect SystemEvent.initWritten run = [()])
    {result : StreamResult}
    (hleft : (lastState (System.start arm) run).client.writer =
      .left result) :
    EndsOneWay run result := by
  have hinv := hrun.invariant clientInv_step clientInv_initial
  rw [collect_initWritten hrun] at hinit
  rcases hinv.left result hleft with
    hnotStarted | ⟨hended, status, hstatus, hresult⟩
  · rw [hnotStarted] at hinit
    cases hinit
  · constructor
    · refine ⟨status, ?_, ?_⟩
      · rw [collect_finished hrun, hstatus]
        rfl
      · rw [collect_writerFault hrun, collect_readerFault hrun,
          collect_stop hrun, hresult, decideResult_eq_precedence]
    · rw [collect_joined hrun]
      unfold Client.hasJoined
      rw [hleft, hended]
      rfl
    · exact finish_after_join hrun

end Runs

/-! ## The call ends -/

/-- The steps that the two threads may still take without another call of a
callback. -/
def WriterAt.stepsLeft : WriterAt → ℕ
  | .init => 6
  | .reaping => 1
  | .pulling => 4
  | .writing _ => 5
  | .closing => 3
  | .cancelling => 3
  | .joining => 2
  | .finishing => 1
  | .left _ => 0

def ReaderAt.stepsLeft : ReaderAt → ℕ
  | .reading => 1
  | .cancelling => 1
  | _ => 0

def Client.stepsLeft (k : Client) : ℕ :=
  k.writer.stepsLeft + k.reader.stepsLeft

/-- What a callback brings in pays for the steps up to the next call. -/
theorem ClientStep.stepsLeft
    {name : Str} {c c' : StreamedCall} {k k' : Client} {e : ClientEvent}
    (h : ClientStep name c k e c' k') :
    1 + k'.stepsLeft ≤
      k.stepsLeft + 2 * (SystemEvent.callback (.client e)).length := by
  unfold Client.stepsLeft
  cases h <;>
    simp_all [WriterAt.stepsLeft, ReaderAt.stepsLeft, SystemEvent.callback] <;>
    omega

/-- What the threads rely on in the call between them and the handler. -/
structure CallInv (c : StreamedCall) (k : Client) : Prop where
  settled : c.Settled
  opened : k.writer.working = true → c.halfClosed = false
  joining : k.writer = .joining → c.dead = true ∨ c.halfClosed = true
  faulted : k.writer = .joining → k.writerException ≠ none → c.dead = true
  finished : k.reader = .ended ∨ k.writer = .reaping →
    c.dead = true ∨ c.returned = true
  countable : ¬ Overflows c.up.sent

theorem callInv_initial : CallInv Call.opened Client.initial := by
  constructor
  · intro hreturned
    cases hreturned
  · intro _
    rfl
  · intro hjoining
    cases hjoining
  · intro hjoining
    cases hjoining
  · intro hover
    rcases hover with hended | hreaping
    · cases hended
    · cases hreaping
  · rintro ⟨message, hmessage, -⟩
    cases hmessage

theorem not_overflows_append
    {before : List StreamedRequest} {message : StreamedRequest}
    (hbefore : ¬ Overflows before)
    (hmessage : ∀ pbPoint ∈ message.batch,
      pbPoint.time.fromProtoChecked ≠ none) :
    ¬ Overflows (before ++ [message]) := by
  rintro ⟨other, hother, pbPoint, hpbPoint, hnone⟩
  rcases List.mem_append.mp hother with hold | hnew
  · exact hbefore ⟨other, hold, pbPoint, hpbPoint, hnone⟩
  · rw [List.mem_singleton] at hnew
    subst other
    exact hmessage pbPoint hpbPoint hnone

/-- The client sends no time that cannot be counted. -/
theorem countable_batchMessage
    (batch : List TrajectoryPoint) :
    ∀ pbPoint ∈ (Client.batchMessage batch).batch,
      pbPoint.time.fromProtoChecked ≠ none := by
  intro pbPoint hpbPoint
  rcases List.mem_map.mp hpbPoint with ⟨point, -, rfl⟩
  change (Duration.toProto point.time).fromProtoChecked ≠ none
  rw [Duration.fromProtoChecked_toProto]
  exact Option.some_ne_none _

section Call

variable {name : Str} {found : Str → Bool} {arm : Arm} {c c' : StreamedCall}
  {k k' : Client} {h h' : Handler arm}

theorem not_overflows_write
    {message : StreamedRequest} {ok : Bool} (hcountable : ¬ Overflows c.up.sent)
    (hmessage : ∀ pbPoint ∈ message.batch,
      pbPoint.time.fromProtoChecked ≠ none)
    (hwrite : c.write message ok = some c') :
    ¬ Overflows c'.up.sent := by
  rcases Call.write_cases hwrite with ⟨-, -, hc'⟩ | ⟨-, -, hc'⟩
  · subst c'
    exact not_overflows_append hcountable hmessage
  · subst c'
    exact hcountable

theorem ClientStep.countable
    {e : ClientEvent} (h : ClientStep name c k e c' k')
    (hcountable : ¬ Overflows c.up.sent) :
    ¬ Overflows c'.up.sent := by
  have hinit : ∀ pbPoint ∈ (Client.initMessage name).batch,
      pbPoint.time.fromProtoChecked ≠ none := by
    intro pbPoint hpbPoint
    cases hpbPoint
  cases h with
  | initWritten _ hwrite => exact not_overflows_write hcountable hinit hwrite
  | initFailed _ hwrite => exact not_overflows_write hcountable hinit hwrite
  | batchWritten _ hwrite =>
      exact not_overflows_write hcountable (countable_batchMessage _) hwrite
  | batchFailed _ hwrite =>
      exact not_overflows_write hcountable (countable_batchMessage _) hwrite
  | readUpdate _ hread =>
      rw [(Call.read_frame hread).1]
      exact hcountable
  | readEnd _ hread =>
      rw [(Call.read_frame hread).1]
      exact hcountable
  | _ => exact hcountable

/-- The client closes its side only with `WritesDone`. -/
theorem ClientStep.halfClosed
    {e : ClientEvent} (h : ClientStep name c k e c' k')
    (hwriter : k'.writer.working = true) :
    k.writer.working = true ∧ c'.halfClosed = c.halfClosed := by
  cases h with
  | initWritten hat hwrite =>
      exact ⟨by simp [hat, WriterAt.working], Call.halfClosed_of_write hwrite⟩
  | initFailed hat hwrite =>
      exact ⟨by simp [hat, WriterAt.working], Call.halfClosed_of_write hwrite⟩
  | batchWritten hat hwrite =>
      exact ⟨by simp [hat, WriterAt.working], Call.halfClosed_of_write hwrite⟩
  | batchFailed hat hwrite =>
      exact ⟨by simp [hat, WriterAt.working], Call.halfClosed_of_write hwrite⟩
  | readUpdate _ hread => exact ⟨hwriter, (Call.read_frame hread).2⟩
  | readEnd _ hread => exact ⟨hwriter, (Call.read_frame hread).2⟩
  | sourceBatch _ hat => exact ⟨by simp [hat, WriterAt.working], rfl⟩
  | sourceNone hat => exact ⟨by simp [hat, WriterAt.working], rfl⟩
  | handlerGoesOn => exact ⟨hwriter, rfl⟩
  | handlerStops => exact ⟨hwriter, rfl⟩
  | handlerThrows => exact ⟨hwriter, rfl⟩
  | readerCancels => exact ⟨hwriter, rfl⟩
  | _ => cases hwriter

/-- The writer comes to wait for the reader after it has closed its side or
cancelled the call; a fault it has had was not before the first of these. -/
theorem ClientStep.joining
    {e : ClientEvent} (hinv : ClientInv k) (h : ClientStep name c k e c' k')
    (hwriter : k'.writer = .joining) :
    (k.writer = .joining ∧ k'.writerException = k.writerException ∧
      (c.halfClosed = true → c'.halfClosed = true)) ∨
    (c'.halfClosed = true ∧ k'.writerException = none) ∨ c'.dead = true := by
  cases h with
  | writesDone hat =>
      right; left
      exact ⟨rfl, hinv.writerFault (by simp [hat, WriterAt.working])⟩
  | writerCancels => exact Or.inr (Or.inr rfl)
  | readUpdate _ hread =>
      left
      rw [(Call.read_frame hread).2]
      exact ⟨hwriter, rfl, id⟩
  | readEnd _ hread =>
      left
      rw [(Call.read_frame hread).2]
      exact ⟨hwriter, rfl, id⟩
  | handlerGoesOn => exact Or.inl ⟨hwriter, rfl, id⟩
  | handlerStops => exact Or.inl ⟨hwriter, rfl, id⟩
  | handlerThrows => exact Or.inl ⟨hwriter, rfl, id⟩
  | readerCancels => exact Or.inl ⟨hwriter, rfl, id⟩
  | _ => cases hwriter

/-- The reader ends, and Init fails, only in a call that is over. -/
theorem ClientStep.finished
    {e : ClientEvent} (h : ClientStep name c k e c' k')
    (hover : k'.reader = .ended ∨ k'.writer = .reaping) :
    (k.reader = .ended ∨ k.writer = .reaping) ∨
      c'.dead = true ∨ c'.returned = true := by
  cases h with
  | initFailed _ hwrite =>
      right
      rcases Call.write_cases hwrite with ⟨hok, -, -⟩ | ⟨-, hover, hc'⟩
      · cases hok
      · rw [hc']
        exact hover
  | readEnd _ hread =>
      right
      rcases Call.read_cases hread with ⟨a, lane, hsome, -, -⟩ | ⟨-, hc', hover⟩
      · cases hsome
      · rw [hc']
        exact hover.imp_right And.left
  | readerCancels => exact Or.inr (Or.inl rfl)
  | _ => simp_all

theorem CallInv.clientStep
    {e : ClientEvent} (hcall : CallInv c k) (hinv : ClientInv k)
    (h : ClientStep name c k e c' k') :
    CallInv c' k' := by
  have hmove := h.clientMove
  constructor
  · exact hmove.settled hcall.settled
  · intro hworking
    rcases h.halfClosed hworking with ⟨hbefore, hsame⟩
    rw [hsame]
    exact hcall.opened hbefore
  · intro hjoining
    rcases h.joining hinv hjoining with
      ⟨hbefore, -, hclosed⟩ | ⟨hclosed, -⟩ | hdead
    · exact (hcall.joining hbefore).imp hmove.dead hclosed
    · exact Or.inr hclosed
    · exact Or.inl hdead
  · intro hjoining hfault
    rcases h.joining hinv hjoining with
      ⟨hbefore, hsame, -⟩ | ⟨-, hnone⟩ | hdead
    · rw [hsame] at hfault
      exact hmove.dead (hcall.faulted hbefore hfault)
    · exact absurd hnone hfault
    · exact hdead
  · intro hover
    rcases h.finished hover with hbefore | hafter
    · rw [hmove.returned]
      exact (hcall.finished hbefore).imp_left hmove.dead
    · exact hafter
  · exact h.countable hcall.countable

theorem CallInv.serverMove
    (hcall : CallInv c k) (hmove : Call.ServerMove c c') :
    CallInv c' k := by
  constructor
  · exact hmove.settled hcall.settled
  · rw [hmove.halfClosed]
    exact hcall.opened
  · rw [hmove.dead, hmove.halfClosed]
    exact hcall.joining
  · rw [hmove.dead]
    exact hcall.faulted
  · intro hover
    rw [hmove.dead]
    refine (hcall.finished hover).imp_right fun hreturned => ?_
    rcases hmove.status with ⟨-, hsame⟩ | ⟨hreturned', -⟩
    · rw [hsame]
      exact hreturned
    · exact hreturned'
  · rw [hmove.sent]
    exact hcall.countable

theorem CallInv.dies (hcall : CallInv c k) : CallInv c.die k := by
  constructor
  · exact (Call.clientMove_die c).settled hcall.settled
  · exact hcall.opened
  · exact fun _ => Or.inl rfl
  · exact fun _ _ => rfl
  · exact fun _ => Or.inl rfl
  · exact hcall.countable

/-- No operation of the client can be performed. -/
def Blocked (name : Str) (c : StreamedCall) (k : Client) : Prop :=
  ∀ e, k.next name c e = none

/-- The client has nothing more to say, and nothing has gone wrong, in a call
that is alive and not yet answered. -/
structure AwaitsServer (c : StreamedCall) (k : Client) : Prop where
  alive : c.dead = false
  unanswered : c.returned = false
  drained : c.down.Drained
  closed : c.halfClosed = true
  noFault : k.writerException = none ∧ k.readerException = none ∧
    k.updateHandlerHalted = false

theorem Blocked.not_finishing
    {status : Grpc.Status} (hblocked : Blocked name c k)
    (hfinish : c.MayFinish Grpc.Status.isOk status) :
    k.writer ≠ .reaping ∧ k.writer ≠ .finishing := by
  have hnone := hblocked (.finish status)
  constructor
  · intro hwriter
    simp [Client.next, hfinish, hwriter] at hnone
  · intro hwriter
    simp [Client.next, hfinish, hwriter] at hnone

/-- The reader waits for nothing but the server. -/
theorem Blocked.reader_cases
    (hblocked : Blocked name c k) :
    k.reader = .notStarted ∨ k.reader = .ended ∨
      (k.reader = .reading ∧ ∀ got, c.read got = none) := by
  cases hreader : k.reader with
  | notStarted => exact Or.inl rfl
  | ended => exact Or.inr (Or.inl rfl)
  | reading =>
      refine Or.inr (Or.inr ⟨rfl, fun got => ?_⟩)
      have hnone := hblocked (.read got)
      simpa [Client.next, hreader] using hnone
  | handling update =>
      have hnone := hblocked (.updateHandler (.ok true))
      simp [Client.next, hreader] at hnone
  | cancelling =>
      have hnone := hblocked .readerCancel
      simp [Client.next, hreader] at hnone

/-- The writer waits for nothing but the reader and the status. -/
theorem Blocked.writer_cases
    (hblocked : Blocked name c k) (hcall : CallInv c k) :
    (∃ result, k.writer = .left result) ∨ k.writer = .joining ∨
      k.writer = .reaping ∨ k.writer = .finishing := by
  cases hwriter : k.writer with
  | left result => exact Or.inl ⟨result, rfl⟩
  | joining => exact Or.inr (Or.inl rfl)
  | reaping => exact Or.inr (Or.inr (Or.inl rfl))
  | finishing => exact Or.inr (Or.inr (Or.inr rfl))
  | init =>
      have hopen := hcall.opened (by simp [hwriter, WriterAt.working])
      have hnone := hblocked (.writeInit true)
      simp [Client.next, hwriter, Call.write_of_open hopen] at hnone
  | pulling =>
      have hnone := hblocked (.batchSource (.ok none))
      simp [Client.next, hwriter] at hnone
  | writing batch =>
      have hopen := hcall.opened (by simp [hwriter, WriterAt.working])
      have hnone := hblocked (.writeBatch (.ok true))
      simp [Client.next, hwriter, Call.write_of_open hopen] at hnone
  | closing =>
      have hnone := hblocked .writesDone
      simp [Client.next, hwriter] at hnone
  | cancelling =>
      have hnone := hblocked .writerCancel
      simp [Client.next, hwriter] at hnone

/-- A client that can do nothing has left, or waits for a server that has
no reason to be told to stop. -/
theorem Blocked.left_or_awaitsServer
    (hblocked : Blocked name c k) (hcall : CallInv c k) (hinv : ClientInv k) :
    (∃ result, k.writer = .left result) ∨ AwaitsServer c k := by
  -- A call that is over has a status for `Finish`.
  have hover (hover : c.dead = true ∨ c.returned = true) :
      k.writer ≠ .reaping ∧ k.writer ≠ .finishing := by
    have hcancelled : Grpc.Status.isOk ⟨.cancelled, []⟩ = false := rfl
    rcases Call.exists_mayFinish hover hcall.settled hcancelled with
      ⟨status, hfinish⟩
    exact hblocked.not_finishing hfinish
  rcases hblocked.writer_cases hcall with hleft | hwriter | hwriter | hwriter
  · exact Or.inl hleft
  · right
    rcases hblocked.reader_cases with hreader | hreader | ⟨hreader, hread⟩
    · have hstarted := hinv.running (by simp [hwriter, WriterAt.readerRuns])
      exact absurd hreader hstarted
    · have hnone := hblocked .join
      simp [Client.next, hwriter, hreader] at hnone
    · rcases Call.drained_of_no_read hread with
        ⟨halive, hunanswered, hdrained⟩
      have hnotDead : ¬ c.dead = true := by simp [halive]
      have hreaderFault := hinv.readerFault (by
        simp [hreader, ReaderAt.working])
      constructor
      · exact halive
      · exact hunanswered
      · exact hdrained
      · exact (hcall.joining hwriter).resolve_left hnotDead
      · refine ⟨?_, hreaderFault⟩
        by_contra hfault
        exact hnotDead (hcall.faulted hwriter hfault)
  · exact absurd hwriter (hover (hcall.finished (Or.inr hwriter))).1
  · have hended := hinv.finishing hwriter
    exact absurd hwriter (hover (hcall.finished (Or.inl hended))).2

/-- A responsive implementation does not keep a client waiting that has closed
its side. -/
theorem AwaitsServer.server_moves
    (hawaits : AwaitsServer c k) (hresponsive : arm.Responsive)
    (hinv : HandlerInv found arm c h) (hcountable : ¬ Overflows c.up.sent) :
    ¬ Waits found c h := by
  intro hwaits
  have hread (hnone : ∀ got, c.serverRead got = none) : False := by
    have hopen := (Call.drained_of_no_serverRead hnone).2.1
    rw [hawaits.closed] at hopen
    cases hopen
  cases hphase : h.phase with
  | start => exact hread (hwaits.init_unread hphase)
  | running v s =>
      rcases hresponsive s with hpulls | hupdates | hreturns | ⟨e, hthrows⟩
      · exact hread (hwaits.batch_unread hphase hpulls)
      · exact hupdates (hwaits.updates_eq_none hphase)
      · rw [hwaits.returns_eq_false hphase] at hreturns
        cases hreturns
      · rw [hwaits.throws_eq_false hphase e] at hthrows
        cases hthrows
  | returned status =>
      have hreturned := hinv.returned.mpr ⟨status, hphase⟩
      rw [hawaits.unanswered] at hreturned
      cases hreturned
  | undefined =>
      rcases hinv.overflowed hphase with ⟨message, hmessage, hoverflow⟩
      rcases c.up.received_prefix with ⟨rest, hsent⟩
      apply hcountable
      refine ⟨message, ?_, hoverflow⟩
      rw [hsent]
      exact List.mem_append_left _ (List.mem_of_mem_tail hmessage)

end Call

section Runs

variable {name : Str} {found : Str → Bool} {arm : Arm}
  {run : List (SystemEvent × System arm)}

structure SystemInv (found : Str → Bool) (s : System arm) : Prop where
  client : ClientInv s.client
  call : CallInv s.call s.client
  handler : HandlerInv found arm s.call s.handler

theorem systemInv_start : SystemInv found (System.start arm) :=
  ⟨clientInv_initial, callInv_initial, handlerInv_initial found arm⟩

theorem systemInv_step
    (s : System arm) (e : SystemEvent) (s' : System arm)
    (hinv : SystemInv found s) (h : System.Step name found s e s') :
    SystemInv found s' := by
  have hclient := clientInv_step s e s' hinv.client h
  rcases System.step_cases h with
    ⟨event, call, client, -, hstep, hs'⟩ |
      ⟨event, call, handler, -, hnext, hs'⟩ | ⟨-, hs'⟩
  · subst s'
    exact ⟨hclient, hinv.call.clientStep hinv.client hstep,
      hinv.handler.clientMove hstep.clientMove⟩
  · subst s'
    exact ⟨hclient, hinv.call.serverMove (serverMove_next hnext).1,
      hinv.handler.next hnext⟩
  · subst s'
    exact ⟨hclient, hinv.call.dies,
      hinv.handler.clientMove (Call.clientMove_die s.call)⟩

theorem System.stepsLeft
    {s s' : System arm} {e : SystemEvent} (h : System.Step name found s e s') :
    e.clientStep.length + s'.client.stepsLeft ≤
      s.client.stepsLeft + 2 * e.callback.length := by
  rcases System.step_cases h with
    ⟨event, call, client, he, hstep, hs'⟩ | ⟨event, call, handler, he, -, hs'⟩ |
      ⟨he, hs'⟩
  · subst s' e
    exact hstep.stepsLeft
  · subst s' e
    exact Nat.le_of_eq (Nat.zero_add _)
  · subst s' e
    exact Nat.le_of_eq (Nat.zero_add _)

/-- How the call comes to its end: the threads spend a bounded number of steps
on each callback, and when they can do no more, the function has left, or waits
for a server that has not answered a call in which nothing has gone wrong.  For
that, a responsive implementation does not wait. -/
structure ComesToAnEnd (name : Str) (found : Str → Bool)
    (run : List (SystemEvent × System arm)) : Prop where
  bounded : (collect SystemEvent.clientStep run).length ≤
    2 * (collect SystemEvent.callback run).length + 6
  waits : Blocked name (lastState (System.start arm) run).call
      (lastState (System.start arm) run).client →
    (∃ result, (lastState (System.start arm) run).client.writer =
      .left result) ∨
    (AwaitsServer (lastState (System.start arm) run).call
        (lastState (System.start arm) run).client ∧
      collect SystemEvent.writerFault run = [] ∧
      collect SystemEvent.readerFault run = [] ∧
      collect SystemEvent.stop run = [])
  leaves : arm.Responsive →
    (∀ e s, e ≠ .breaks →
      ¬ System.Step name found (lastState (System.start arm) run) e s) →
    ∃ result, (lastState (System.start arm) run).client.writer = .left result

theorem blocked_of_no_step
    {s : System arm}
    (hnone : ∀ e s', e ≠ .breaks → ¬ System.Step name found s e s') :
    Blocked name s.call s.client ∧ Waits found s.call s.handler := by
  constructor
  · intro e
    by_contra hsome
    obtain ⟨next, hnext⟩ := Option.ne_none_iff_exists'.mp hsome
    apply hnone (.client e) { s with call := next.1, client := next.2 } nofun
    simp [System.Step, System.next, hnext]
  · intro e
    by_contra hsome
    obtain ⟨next, hnext⟩ := Option.ne_none_iff_exists'.mp hsome
    apply hnone (.server e) { s with call := next.1, handler := next.2 } nofun
    simp [System.Step, System.next, hnext]

theorem comesToAnEnd_of_run
    (hrun : IsRun (System.Step name found) (System.start arm) run) :
    ComesToAnEnd name found run := by
  have hinv := hrun.invariant systemInv_step systemInv_start
  have hwaits (hblocked : Blocked name (lastState (System.start arm) run).call
      (lastState (System.start arm) run).client) :=
    hblocked.left_or_awaitsServer hinv.call hinv.client
  constructor
  · have hcost := hrun.cost_le
      (fun e => (SystemEvent.clientStep e).length)
      (fun e => 2 * (SystemEvent.callback e).length)
      (fun s => s.client.stepsLeft) (fun _ _ _ h => System.stepsLeft h)
    have hstart : (System.start arm).client.stepsLeft = 6 := rfl
    rw [hstart] at hcost
    unfold collect
    rw [List.length_flatMap, List.length_flatMap, ← List.sum_map_mul_left]
    omega
  · intro hblocked
    refine (hwaits hblocked).imp_right fun hawaits => ⟨hawaits, ?_⟩
    rcases hawaits.noFault with ⟨hwriter, hreader, hstop⟩
    rw [collect_writerFault hrun, collect_readerFault hrun, collect_stop hrun,
      hwriter, hreader, hstop]
    exact ⟨rfl, rfl, rfl⟩
  · intro hresponsive hnone
    rcases blocked_of_no_step hnone with ⟨hblocked, hserver⟩
    rcases hwaits hblocked with hleft | hawaits
    · exact hleft
    · exact absurd hserver (hawaits.server_moves hresponsive hinv.handler
        hinv.call.countable)

/-- The source throws, and the call is reported as cancelled. -/
def faultyRun : List (SystemEvent × System drainingArm) :=
  traceOf (System.next "arm1".toList fun _ => true) (System.start drainingArm)
    [.client (.writeInit true), .client (.batchSource (.error .foreign)),
      .client .writerCancel, .client (.read false), .client .join,
      .client (.finish ⟨.cancelled, []⟩)]

/-- Once Init has been written, the call comes to an end, in the one way that
the outcomes of the callbacks and the status decide. -/
theorem endsOneWay_of_run
    (hrun : IsRun (System.Step name found) (System.start arm) run)
    (hinit : collect SystemEvent.initWritten run = [()]) :
    (∀ result, (lastState (System.start arm) run).client.writer =
      .left result → EndsOneWay run result) ∧
    ComesToAnEnd name found run :=
  ⟨fun _ => endsOneWay_of_left hrun hinit, comesToAnEnd_of_run hrun⟩

theorem endsOneWay_of_faultyRun :
    EndsOneWay faultyRun (.rethrown .foreign) ∧
      ComesToAnEnd "arm1".toList (fun _ => true) faultyRun ∧
      drainingArm.Responsive := by
  have hends := endsOneWay_of_run (isRun_traceOf
    (System.next "arm1".toList fun _ => true) (System.start drainingArm)
    [.client (.writeInit true), .client (.batchSource (.error .foreign)),
      .client .writerCancel, .client (.read false), .client .join,
      .client (.finish ⟨.cancelled, []⟩)]) rfl
  exact ⟨hends.1 _ rfl, hends.2, drainingArm_responsive⟩

end Runs

end ArmClient
end ViamSdk
