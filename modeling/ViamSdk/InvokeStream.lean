import ViamSdk.ServiceHelper

/-!
# Streamed calls

`invoke_stream` reads responses into one object and hands it to the caller's
handler until the stream ends or the handler returns false.  What the call
then comes to is told from the final status and from whether the handler
stopped it.
-/

namespace ViamSdk
namespace ClientHelper

/-- The caller's handler, with the state it closes over.  It gets the response
object by reference and may change it. -/
abbrev ResponseHandler (σ Resp E : Type) := σ → Resp → σ × Resp × Except E Bool

/-- What `Read` delivers, one after the other, and what `Finish` reports. -/
structure Reader (Resp : Type) where
  responses : List Resp
  status : Grpc.Status

/-- The loop when it is left.  `calls` are the responses that the handler was
called with, each with what it returned or threw. -/
structure Reading (σ Resp E : Type) where
  handler : σ
  response : Resp
  calls : List (Resp × Except E Bool)
  cancelledByHandler : Except E Bool

/-- How a call is left; a program with an error handler that returns is
aborted. -/
inductive CallOutcome (E : Type) where
  | returned
  | threw (e : E)
  | aborted
  deriving DecidableEq, Repr

def errorHandlerReturnedUnexpectedly {E : Type} : Except E Unit → CallOutcome E
  | .error e => .threw e
  | .ok () => .aborted

def isStatusCancelled (status : Grpc.StatusCode) : Bool := status == .cancelled

variable {σ Resp E : Type}

def readLoop (rhc : ResponseHandler σ Resp E) :
    List Resp → σ → Resp → List (Resp × Except E Bool) → Reading σ Resp E
  | [], handler, response, calls => ⟨handler, response, calls, .ok false⟩
  | next :: rest, handler, _, calls =>
      -- `Read` replaces whatever the handler left in the object.
      let response := next
      let (handler, left, answer) := rhc handler response
      let calls := calls ++ [(response, answer)]
      match answer with
      | .error e => ⟨handler, left, calls, .error e⟩
      | .ok false => ⟨handler, left, calls, .ok true⟩
      | .ok true => readLoop rhc rest handler left calls

/-- What follows the loop, unless the handler threw. -/
def afterFinish (ehc : Grpc.Status → Except E Unit) (result : Grpc.Status)
    (cancelledByHandler : Bool) : CallOutcome E :=
  if result.isOk || (cancelledByHandler && isStatusCancelled result.code) then
    .returned
  else errorHandlerReturnedUnexpectedly (ehc result)

def invokeStream (rhc : ResponseHandler σ Resp E)
    (ehc : Grpc.Status → Except E Unit) (reader : Reader Resp) (handler : σ)
    (response : Resp) : Reading σ Resp E × CallOutcome E :=
  let reading := readLoop rhc reader.responses handler response []
  match reading.cancelledByHandler with
  | .error e => (reading, .threw e)
  | .ok cancelledByHandler =>
      (reading, afterFinish ehc reader.status cancelledByHandler)

theorem readLoop_cons
    (rhc : ResponseHandler σ Resp E) (next : Resp) (rest : List Resp)
    (handler : σ) (response : Resp) (calls : List (Resp × Except E Bool)) :
    readLoop rhc (next :: rest) handler response calls =
      let (handler', left, answer) := rhc handler next
      match answer with
      | .error e => ⟨handler', left, calls ++ [(next, answer)], .error e⟩
      | .ok false => ⟨handler', left, calls ++ [(next, answer)], .ok true⟩
      | .ok true => readLoop rhc rest handler' left (calls ++ [(next, answer)]) :=
  rfl

/-! ## The calls of the handler -/

/-- Each answer is the handler's, in the state that the calls before it left
it in. -/
def Answered (rhc : ResponseHandler σ Resp E) :
    σ → List (Resp × Except E Bool) → Prop
  | _, [] => True
  | handler, (response, answer) :: rest =>
      (rhc handler response).2.2 = answer ∧
        Answered rhc (rhc handler response).1 rest

/-- The calls are made on the responses in order, each once, until one stops
them. -/
structure CalledInOrder (responses : List Resp)
    (calls : List (Resp × Except E Bool)) : Prop where
  in_order : calls.map Prod.fst <+: responses
  goes_on : ∀ call ∈ calls.dropLast, call.2 = .ok true
  complete : calls.map Prod.fst = responses ∨
    ∃ call ∈ calls.getLast?, call.2 ≠ .ok true

def StoppedByHandler (calls : List (Resp × Except E Bool)) : Prop :=
  ∃ call ∈ calls, call.2 = .ok false

def Threw (calls : List (Resp × Except E Bool)) (e : E) : Prop :=
  ∃ call ∈ calls, call.2 = .error e

/-- What the loop leaves behind, given the calls of one iteration after the
other. -/
structure Read (rhc : ResponseHandler σ Resp E) (responses : List Resp)
    (handler : σ) (calls : List (Resp × Except E Bool))
    (cancelledByHandler : Except E Bool) : Prop where
  answered : Answered rhc handler calls
  called : CalledInOrder responses calls
  stopped : StoppedByHandler calls ↔ cancelledByHandler = .ok true
  threw : ∀ e, Threw calls e ↔ cancelledByHandler = .error e

theorem read_nil
    (rhc : ResponseHandler σ Resp E) (handler : σ) :
    Read rhc [] handler [] (.ok false) := by
  constructor
  · trivial
  · constructor
    · exact List.prefix_rfl
    · intro call hcall
      cases hcall
    · exact .inl rfl
  · simp [StoppedByHandler]
  · simp [Threw]

/-- A call that stops the loop is the last one. -/
theorem read_stop
    {rhc : ResponseHandler σ Resp E} {handler : σ} {next : Resp}
    {answer : Except E Bool} {cancelledByHandler : Except E Bool}
    (hanswer : (rhc handler next).2.2 = answer) (hne : answer ≠ .ok true)
    (hstopped : answer = .ok false ↔ cancelledByHandler = .ok true)
    (hthrew : ∀ e, answer = .error e ↔ cancelledByHandler = .error e)
    (rest : List Resp) :
    Read rhc (next :: rest) handler [(next, answer)] cancelledByHandler := by
  constructor
  · exact ⟨hanswer, trivial⟩
  · constructor
    · exact ⟨rest, rfl⟩
    · intro call hcall
      cases hcall
    · exact .inr ⟨(next, answer), rfl, hne⟩
  · simpa [StoppedByHandler] using hstopped
  · simpa [Threw] using hthrew

theorem Read.cons
    {rhc : ResponseHandler σ Resp E} {handler : σ} {next : Resp}
    {rest : List Resp} {calls : List (Resp × Except E Bool)}
    {cancelledByHandler : Except E Bool}
    (hanswer : (rhc handler next).2.2 = .ok true)
    (h : Read rhc rest (rhc handler next).1 calls cancelledByHandler) :
    Read rhc (next :: rest) handler ((next, .ok true) :: calls)
      cancelledByHandler := by
  constructor
  · exact ⟨hanswer, h.answered⟩
  · obtain ⟨horder, hgoes, hcomplete⟩ := h.called
    cases calls with
    | nil =>
        constructor
        · exact ⟨rest, rfl⟩
        · intro call hcall
          cases hcall
        · rcases hcomplete with hall | ⟨call, hcall, _⟩
          · rw [← hall]
            exact .inl rfl
          · cases hcall
    | cons first more =>
        constructor
        · exact List.cons_prefix_cons.mpr ⟨rfl, horder⟩
        · intro call hcall
          rw [List.dropLast_cons_cons] at hcall
          rcases List.mem_cons.mp hcall with rfl | hcall
          · rfl
          · exact hgoes call hcall
        · rcases hcomplete with hall | hlast
          · rw [List.map_cons, hall]
            exact .inl rfl
          · rw [List.getLast?_cons_cons]
            exact .inr hlast
  · have hstopped := h.stopped
    simpa [StoppedByHandler] using hstopped
  · have hthrew := h.threw
    simpa [Threw] using hthrew

theorem exists_read_readLoop
    (rhc : ResponseHandler σ Resp E) (responses : List Resp) (handler : σ)
    (response : Resp) (before : List (Resp × Except E Bool)) :
    ∃ calls, (readLoop rhc responses handler response before).calls =
        before ++ calls ∧
      Read rhc responses handler calls
        (readLoop rhc responses handler response
          before).cancelledByHandler := by
  induction responses generalizing handler response before with
  | nil => exact ⟨[], by rw [List.append_nil]; rfl, read_nil rhc handler⟩
  | cons next rest ih =>
      rcases hcall : rhc handler next with ⟨handler', left, answer⟩
      have hanswer : (rhc handler next).2.2 = answer := by rw [hcall]
      rw [readLoop_cons, hcall]
      rcases answer with e | stop
      · refine ⟨[(next, .error e)], rfl, read_stop hanswer ?_ ?_ ?_ rest⟩
        · intro h
          cases h
        · simp
        · simp
      · cases stop with
        | false =>
            refine ⟨[(next, .ok false)], rfl, read_stop hanswer ?_ ?_ ?_ rest⟩
            · intro h
              cases h
            · simp
            · simp
        | true =>
            obtain ⟨calls, hcalls, hread⟩ :=
              ih handler' left (before ++ [(next, .ok true)])
            refine ⟨(next, .ok true) :: calls, ?_, Read.cons hanswer ?_⟩
            · rw [List.append_assoc] at hcalls
              exact hcalls
            · rw [hcall]
              exact hread

/-! ## The outcome -/

/-- What the caller of a streamed call relies on. -/
structure Correct (rhc : ResponseHandler σ Resp E)
    (ehc : Grpc.Status → Except E Unit) (reader : Reader Resp) (handler : σ)
    (calls : List (Resp × Except E Bool)) (outcome : CallOutcome E) :
    Prop where
  answered : Answered rhc handler calls
  called : CalledInOrder reader.responses calls
  threw : ∀ e, Threw calls e → outcome = .threw e
  returned_iff : (∀ e, ¬ Threw calls e) →
    (outcome = .returned ↔ reader.status.code = .ok ∨
      (StoppedByHandler calls ∧ reader.status.code = .cancelled))
  failed : (∀ e, ¬ Threw calls e) → outcome ≠ .returned →
    outcome = errorHandlerReturnedUnexpectedly (ehc reader.status)

theorem afterFinish_eq_returned_iff
    (ehc : Grpc.Status → Except E Unit) (result : Grpc.Status)
    (cancelledByHandler : Bool) :
    afterFinish ehc result cancelledByHandler = .returned ↔
      result.code = .ok ∨
        (cancelledByHandler = true ∧ result.code = .cancelled) := by
  have hne : errorHandlerReturnedUnexpectedly (ehc result) ≠ .returned := by
    cases ehc result <;> exact fun h => by cases h
  unfold afterFinish
  split
  next h =>
    simpa [Grpc.Status.isOk, isStatusCancelled] using h
  next h =>
    simpa [hne, Grpc.Status.isOk, isStatusCancelled] using h

theorem afterFinish_of_ne_returned
    {ehc : Grpc.Status → Except E Unit} {result : Grpc.Status}
    {cancelledByHandler : Bool}
    (h : afterFinish ehc result cancelledByHandler ≠ .returned) :
    afterFinish ehc result cancelledByHandler =
      errorHandlerReturnedUnexpectedly (ehc result) := by
  unfold afterFinish at h ⊢
  split at h
  next => exact absurd rfl h
  next hstatus => rw [if_neg hstatus]

/-- Every streamed call is correct, whatever the responses, the handler and
the status. -/
theorem invokeStream_correct
    (rhc : ResponseHandler σ Resp E) (ehc : Grpc.Status → Except E Unit)
    (reader : Reader Resp) (handler : σ) (response : Resp) :
    Correct rhc ehc reader handler
      (invokeStream rhc ehc reader handler response).1.calls
      (invokeStream rhc ehc reader handler response).2 := by
  obtain ⟨calls, hcalls, hread⟩ :=
    exists_read_readLoop rhc reader.responses handler response []
  rw [List.nil_append] at hcalls
  unfold invokeStream
  generalize readLoop rhc reader.responses handler response [] = reading
    at hcalls hread
  rcases reading with ⟨handler', left, made, cancelled⟩
  dsimp only at hcalls hread
  subst made
  cases cancelled with
  | error e =>
      have hthrew : Threw calls e := (hread.threw e).mpr rfl
      constructor
      · exact hread.answered
      · exact hread.called
      · intro e' he'
        cases (hread.threw e').mp he'
        rfl
      · intro hnone
        exact absurd hthrew (hnone e)
      · intro hnone
        exact absurd hthrew (hnone e)
  | ok cancelledByHandler =>
      constructor
      · exact hread.answered
      · exact hread.called
      · intro e hthrew
        cases (hread.threw e).mp hthrew
      · intro _
        rw [hread.stopped, Except.ok.injEq]
        exact afterFinish_eq_returned_iff ehc reader.status cancelledByHandler
      · intro _ hne
        exact afterFinish_of_ne_returned hne

end ClientHelper

end ViamSdk
