import ViamSdk.BidiStream
import ViamSdk.LinkedChain
import ViamSdk.ServiceHelper

/-!
# The ticks of a board

`stream_ticks` on the client of a board reads a stream of responses and calls
the caller's handler with each tick, until the handler returns false.  On the
server the board calls a callback, which writes its ticks to the stream and
tells it to stop when the call is cancelled.

The board of a server may be the client of another one.  What the handler of
one server does to its board is then what happens at the next client, and the
ticks come through a chain of calls.  The last board, the first caller and the
connections are arbitrary.
-/

namespace ViamSdk

open StepTrace BidiStream

/-- The time is in nanoseconds. -/
structure Board.Tick where
  pinName : Str
  time : Int64
  high : Bool
  deriving DecidableEq, Repr

namespace BoardV1

structure StreamTicksRequest where
  name : Str
  pinNames : List Str
  extra : Option Struct

structure StreamTicksResponse where
  pinName : Str
  high : Bool
  time : UInt64
  deriving DecidableEq, Repr

end BoardV1

namespace StreamTicks

open Board BoardV1

/-! ## A client and its server -/

inductive ClientPhase where
  | idle
  | reading
  | finishing (cancelledByHandler : Bool)
  | leaving (outcome : Except Exception Unit)
  | left

/-- One call: its client, the stream, and the handler of the server.  The
handler is `serving` from when it calls its board. -/
structure Hop where
  name : Str
  clientArrangement : Arrangement
  serverArrangement : Arrangement
  client : ClientPhase
  request : Option StreamTicksRequest
  call : Call Unit StreamTicksResponse Grpc.Status
  serving : Bool

/-- Nobody has called `stream_ticks` yet. -/
def Hop.fresh (name : Str) (clientArrangement serverArrangement : Arrangement) :
    Hop where
  name := name
  clientArrangement := clientArrangement
  serverArrangement := serverArrangement
  client := .idle
  request := none
  call := Call.opened
  serving := false

def method : Str := "BoardServer::StreamTicks".toList

def toResponse (tick : Tick) : StreamTicksResponse where
  pinName := tick.pinName
  high := tick.high
  time := tick.time.toUInt64

def toTick (response : StreamTicksResponse) : Tick where
  pinName := response.pinName
  time := response.time.toInt64
  high := response.high

@[simp]
theorem toTick_toResponse (tick : Tick) : toTick (toResponse tick) = tick := rfl

namespace Hop

/-! ### The client -/

/-- `stream_ticks` up to its loop.  Nothing is promised where the debug key of
the extra is not a string. -/
def ask (s : Hop) (pins : List Str) (extra : ProtoStruct) : Option Hop :=
  match s.client, ClientHelper.debugMapValue extra with
  | .idle, some _ =>
      some { s with
        client := .reading
        request := some ⟨s.name, pins,
          some (extra.toProto s.clientArrangement)⟩ }
  | _, _ => none

/-- What the loop of `invoke_stream` does with the answer of the handler.  Where
the handler throws, the call goes down with the context that owns it. -/
def afterHandler (s : Hop) : Except Exception Bool → Hop
  | .ok true => s
  | .ok false => { s with call := s.call.die, client := .finishing true }
  | .error e => { s with call := s.call.die, client := .leaving (.error e) }

/-- The tick that the handler is called with next, and what its answer leads
to. -/
def read (s : Hop) (answer : Except Exception Bool) : Option (Tick × Hop) :=
  match s.client, s.call.down.pop with
  | .reading, some (response, lane) =>
      some (toTick response,
        afterHandler { s with call := { s.call with down := lane } } answer)
  | _, _ => none

def readFails (s : Hop) : Option Hop :=
  match s.client, s.call.read false with
  | .reading, some (_, call) =>
      some { s with call, client := .finishing false }
  | _, _ => none

/-- The status travels behind the messages, so who has read to the end and
finds the status OK has read them all. -/
def MayFinish (s : Hop) (cancelledByHandler : Bool) (status : Grpc.Status) :
    Prop :=
  s.call.MayFinish Grpc.Status.isOk status ∧
    (cancelledByHandler = false → status.isOk = true → s.call.down.Drained)

instance (s : Hop) (cancelledByHandler : Bool) (status : Grpc.Status) :
    Decidable (s.MayFinish cancelledByHandler status) :=
  inferInstanceAs (Decidable (_ ∧ _))

def finish (s : Hop) (status : Grpc.Status) : Option Hop :=
  match s.client with
  | .finishing cancelledByHandler =>
      if s.MayFinish cancelledByHandler status then
        if status.isOk || (cancelledByHandler && status.code == .cancelled) then
          some { s with client := .leaving (.ok ()) }
        else
          some { s with
            client := .leaving (.error (.sdk .grpc status.message)) }
      else none
  | _ => none

/-- `stream_ticks` returns or throws. -/
def leave (s : Hop) : Option (Except Exception Unit × Hop) :=
  match s.client with
  | .leaving outcome => some (outcome, { s with client := .left })
  | _ => none

/-! ### The handler -/

/-- The request that has reached the server, where its handler has not started
on it. -/
def waiting (s : Hop) : Option StreamTicksRequest :=
  if s.serving || s.call.returned then none else s.request

def resourceMissing (s : Hop) : Option Hop :=
  s.waiting.map fun request =>
    { s with
      call := s.call.answer (ServiceHelper.failNoResource method request.name) }

/-- What the handler calls its board with. -/
def serve (s : Hop) : Option (List Str × ProtoStruct × Hop) :=
  s.waiting.map fun request =>
    (request.pinNames, ServiceHelper.getExtra s.serverArrangement request.extra,
      { s with serving := true })

/-- `writeTick`.  What it writes to a dead call is lost, and it does not look
at the result of the write.  A call that is dead may not be seen to be so
yet. -/
def writeTick (s : Hop) (tick : Tick) (seesCancelled : Bool) :
    Option (Bool × Hop) :=
  if s.serving && !s.call.returned then
    if seesCancelled then if s.call.dead then some (false, s) else none
    else
      (s.call.serverWrite (toResponse tick) (!s.call.dead)).map fun call =>
        (true, { s with call })
  else none

/-- The board has returned or thrown. -/
def answer (s : Hop) (outcome : Except Exception Unit) : Option Hop :=
  if s.serving && !s.call.returned then
    match outcome with
    | .ok () => some { s with call := s.call.answer ⟨.ok, []⟩ }
    | .error e =>
        some { s with
          call := s.call.answer (ServiceHelper.failException method e) }
  else none

end Hop

/-! ## Chains of calls -/

/-- What a caller and a board do to each other. -/
inductive Action where
  | ask (pins : List Str) (extra : ProtoStruct)
  | tick (tick : Tick) (answer : Except Exception Bool)
  | leave (outcome : Except Exception Unit)

inductive Inside where
  | resourceMissing
  | transportBreaks
  | readFails
  | finish (status : Grpc.Status)

namespace Hop

/-- The caller above is the client's, the board below the server's. -/
def component : LinkedChain.Component Hop Action Inside where
  above s action s' :=
    match action with
    | .ask pins extra => s.ask pins extra = some s'
    | .tick tick answer => s.read answer = some (tick, s')
    | .leave outcome => s.leave = some (outcome, s')
  below s action s' :=
    match action with
    | .ask pins extra => s.serve = some (pins, extra, s')
    | .tick tick answer => ∃ goesOn seesCancelled, answer = .ok goesOn ∧
        s.writeTick tick seesCancelled = some (goesOn, s')
    | .leave outcome => s.answer outcome = some s'
  inside s event s' :=
    match event with
    | .resourceMissing => s.resourceMissing = some s'
    | .transportBreaks => s' = { s with call := s.call.die }
    | .readFails => s.readFails = some s'
    | .finish status => s.finish status = some s'

end Hop

/-- What happens in a chain, wherever in it. -/
abbrev Event := LinkedChain.Event Action Inside

abbrev Step : List Hop → Event → List Hop → Prop :=
  LinkedChain.Step Hop.component

/-! ## What a caller sees -/

/-- The ticks that the handler was called with, and what it answered. -/
def answers (actions : List Action) : List (Tick × Except Exception Bool) :=
  actions.filterMap fun action =>
    match action with
    | .tick tick answer => some (tick, answer)
    | _ => none

/-- The ticks of the answers that let the board go on. -/
def kept (answered : List (Tick × Except Exception Bool)) : List Tick :=
  answered.filterMap fun entry =>
    match entry.2 with
    | .ok true => some entry.1
    | _ => none

def GoesOn (actions : List Action) : Prop :=
  ∀ entry ∈ answers actions, entry.2 = .ok true

/-- After an answer that does not let the board go on there is none. -/
def Stops (answered : List (Tick × Except Exception Bool)) : Prop :=
  ∀ before entry after, answered = before ++ entry :: after →
    entry.2 ≠ .ok true → after = []

/-- The caller has asked for the pins, with an equal extra. -/
def AskedFor (upper : List Action) (pins : List Str) (extra : ProtoStruct) :
    Prop :=
  ∃ extra', .ask pins extra' ∈ upper ∧ extra.Same extra'

/-- What a caller above may find of what is done to a board below. -/
structure Relayed (upper lower : List Action) : Prop where
  asked : ∀ pins extra, .ask pins extra ∈ lower → AskedFor upper pins extra
  handled : (answers upper).map Prod.fst <+: kept (answers lower)
  stops : Stops (answers upper)
  complete : .leave (.ok ()) ∈ upper → GoesOn upper →
    .leave (.ok ()) ∈ lower ∧ GoesOn lower ∧
      (answers upper).map Prod.fst = (answers lower).map Prod.fst

/-! ### Lists of actions -/

theorem answers_append
    (actions more : List Action) :
    answers (actions ++ more) = answers actions ++ answers more :=
  List.filterMap_append

@[simp]
theorem answers_ask
    (actions : List Action) (pins : List Str) (extra : ProtoStruct) :
    answers (actions ++ [.ask pins extra]) = answers actions := by
  rw [answers_append]
  exact List.append_nil _

@[simp]
theorem answers_tick
    (actions : List Action) (tick : Tick) (answer : Except Exception Bool) :
    answers (actions ++ [.tick tick answer]) =
      answers actions ++ [(tick, answer)] := by
  rw [answers_append]
  rfl

@[simp]
theorem answers_leave
    (actions : List Action) (outcome : Except Exception Unit) :
    answers (actions ++ [.leave outcome]) = answers actions := by
  rw [answers_append]
  exact List.append_nil _

theorem kept_append
    (answered more : List (Tick × Except Exception Bool)) :
    kept (answered ++ more) = kept answered ++ kept more :=
  List.filterMap_append

theorem kept_of_goesOn
    {answered : List (Tick × Except Exception Bool)}
    (h : ∀ entry ∈ answered, entry.2 = .ok true) :
    kept answered = answered.map Prod.fst := by
  induction answered with
  | nil => rfl
  | cons entry rest ih =>
      obtain ⟨tick, answer⟩ := entry
      have hfirst : answer = .ok true := h _ List.mem_cons_self
      have hrest := ih fun e he => h e (List.mem_cons_of_mem _ he)
      subst hfirst
      rw [List.map_cons, ← hrest]
      rfl

theorem Stops.tail
    {entry : Tick × Except Exception Bool}
    {rest : List (Tick × Except Exception Bool)} (h : Stops (entry :: rest)) :
    Stops rest := by
  intro before e after hsplit
  apply h (entry :: before) e after
  rw [hsplit, List.cons_append]

/-- Where nothing follows an answer that does not let the board go on, the
ticks of the others come first. -/
theorem kept_isFirst
    {answered : List (Tick × Except Exception Bool)} (h : Stops answered) :
    kept answered <+: answered.map Prod.fst := by
  induction answered with
  | nil => exact List.prefix_rfl
  | cons entry rest ih =>
      by_cases hgoes : entry.2 = .ok true
      · obtain ⟨tick, answer⟩ := entry
        simp only at hgoes
        subst hgoes
        exact List.prefix_cons_inj tick |>.mpr (ih h.tail)
      · have hrest : rest = [] := h [] entry rest rfl hgoes
        subst hrest
        have hnone : kept [entry] = [] := by
          obtain ⟨tick, answer⟩ := entry
          cases answer with
          | error e => rfl
          | ok goesOn =>
              cases goesOn with
              | true => exact absurd rfl hgoes
              | false => rfl
        rw [hnone]
        exact List.nil_prefix

/-- The answers so far have let the board go on, so at most the new one does
not. -/
theorem stops_concat_of_goesOn
    {answered : List (Tick × Except Exception Bool)}
    (h : ∀ entry ∈ answered, entry.2 = .ok true)
    (last : Tick × Except Exception Bool) :
    Stops (answered ++ [last]) := by
  induction answered with
  | nil =>
      intro before entry after hsplit _
      have hlength := congrArg List.length hsplit
      simp only [List.nil_append, List.length_append, List.length_cons,
        List.length_nil] at hlength
      exact List.length_eq_zero_iff.mp (by omega)
  | cons first rest ih =>
      intro before entry after hsplit hstop
      have hrest := ih fun e he => h e (List.mem_cons_of_mem _ he)
      cases before with
      | nil =>
          rw [List.cons_append, List.nil_append, List.cons.injEq] at hsplit
          exact absurd (hsplit.1 ▸ h first List.mem_cons_self) hstop
      | cons head before =>
          rw [List.cons_append, List.cons_append, List.cons.injEq] at hsplit
          exact hrest before entry after hsplit.2 hstop

/-! ### What is relayed is relayed on -/

theorem Relayed.trans
    {upper middle lower : List Action} (h : Relayed upper middle)
    (h' : Relayed middle lower) :
    Relayed upper lower := by
  constructor
  case asked =>
    intro pins extra hlower
    obtain ⟨extra', hmiddle, hsame⟩ := h'.asked pins extra hlower
    obtain ⟨extra'', hupper, hsame'⟩ := h.asked pins extra' hmiddle
    exact ⟨extra'', hupper, hsame.trans hsame'⟩
  case handled =>
    exact (h.handled.trans (kept_isFirst h'.stops)).trans h'.handled
  case stops => exact h.stops
  case complete =>
    intro hleft hgoes
    obtain ⟨hmiddle, hgoes', hall⟩ := h.complete hleft hgoes
    obtain ⟨hlower, hgoes'', hall'⟩ := h'.complete hmiddle hgoes'
    exact ⟨hlower, hgoes'', hall.trans hall'⟩

/-! ## What a step does -/

/-- The call has ended well, and the client has read it to its end. -/
def ReadToEnd (call : Call Unit StreamTicksResponse Grpc.Status) : Prop :=
  ∃ status, call.terminal = some status ∧ status.isOk = true ∧
    call.down.Drained

section Steps

variable {s s' : Hop}

theorem ask_cases
    {pins : List Str} {extra : ProtoStruct} (h : s.ask pins extra = some s') :
    s.client = .idle ∧
      s' = { s with
        client := .reading
        request := some ⟨s.name, pins,
          some (extra.toProto s.clientArrangement)⟩ } := by
  unfold Hop.ask at h
  split at h
  next value hidle hvalue =>
    cases h
    exact ⟨hidle, rfl⟩
  next => cases h

theorem read_cases
    {tick : Tick} {answer : Except Exception Bool}
    (h : s.read answer = some (tick, s')) :
    ∃ response lane, s.client = .reading ∧
      s.call.down.pop = some (response, lane) ∧ tick = toTick response ∧
      s' = Hop.afterHandler { s with call := { s.call with down := lane } }
        answer := by
  unfold Hop.read at h
  split at h
  next response lane hreading hpop =>
    cases h
    exact ⟨response, lane, hreading, hpop, rfl, rfl⟩
  next => cases h

theorem readFails_cases
    (h : s.readFails = some s') :
    s.client = .reading ∧ s' = { s with client := .finishing false } := by
  unfold Hop.readFails at h
  split at h
  next response call hreading hread =>
    cases h
    unfold Call.read at hread
    simp only [Bool.false_eq_true, if_false] at hread
    split at hread
    next =>
      cases hread
      exact ⟨hreading, rfl⟩
    next => cases hread
  next => cases h

theorem finish_cases
    {status : Grpc.Status} (h : s.finish status = some s') :
    ∃ cancelledByHandler, s.client = .finishing cancelledByHandler ∧
      ((s' = { s with client := .leaving (.ok ()) } ∧
          (cancelledByHandler = true ∨ ReadToEnd s.call)) ∨
        ∃ e, s' = { s with client := .leaving (.error e) }) := by
  unfold Hop.finish at h
  split at h
  next cancelledByHandler hfinishing =>
    refine ⟨cancelledByHandler, hfinishing, ?_⟩
    split at h
    next hfinish =>
      split at h
      next hgood =>
        cases h
        refine .inl ⟨rfl, ?_⟩
        cases cancelledByHandler with
        | true => exact .inl rfl
        | false =>
            right
            have hok : status.isOk = true := by simpa using hgood
            have hterminal := Call.ok_of_mayFinish hfinish.1 hok
            exact ⟨status, hterminal, hok, hfinish.2 rfl hok⟩
      next =>
        cases h
        exact .inr ⟨_, rfl⟩
    next => cases h
  next => cases h

theorem leave_cases
    {outcome : Except Exception Unit} (h : s.leave = some (outcome, s')) :
    s.client = .leaving outcome ∧ s' = { s with client := .left } := by
  unfold Hop.leave at h
  split at h
  next outcome' hleaving =>
    cases h
    exact ⟨hleaving, rfl⟩
  next => cases h

theorem waiting_cases
    {request : StreamTicksRequest} (h : s.waiting = some request) :
    s.call.returned = false ∧ s.request = some request := by
  unfold Hop.waiting at h
  split at h
  next => cases h
  next hwaiting =>
    rw [Bool.or_eq_true, not_or, Bool.not_eq_true, Bool.not_eq_true] at hwaiting
    exact ⟨hwaiting.2, h⟩

theorem resourceMissing_cases
    (h : s.resourceMissing = some s') :
    s.call.returned = false ∧ ∃ status, status.isOk = false ∧
      s' = { s with call := s.call.answer status } := by
  obtain ⟨request, hwaiting, rfl⟩ := Option.map_eq_some_iff.mp h
  exact ⟨(waiting_cases hwaiting).1, _,
    ServiceHelper.failNoResource_isOk _ _, rfl⟩

theorem serve_cases
    {pins : List Str} {extra : ProtoStruct}
    (h : s.serve = some (pins, extra, s')) :
    ∃ request, s.request = some request ∧ pins = request.pinNames ∧
      extra = ServiceHelper.getExtra s.serverArrangement request.extra ∧
      s' = { s with serving := true } := by
  obtain ⟨request, hwaiting, heq⟩ := Option.map_eq_some_iff.mp h
  cases heq
  exact ⟨request, (waiting_cases hwaiting).2, rfl, rfl, rfl⟩

/-- The callback refuses the tick, or the tick is lost, or it is written. -/
theorem writeTick_cases
    {tick : Tick} {seesCancelled goesOn : Bool}
    (h : s.writeTick tick seesCancelled = some (goesOn, s')) :
    s.call.returned = false ∧
      ((s.call.dead = true ∧ s' = s) ∨
        (goesOn = true ∧ s.call.dead = false ∧
          s' = { s with call := { s.call with
            down := s.call.down.push (toResponse tick) } })) := by
  unfold Hop.writeTick at h
  split at h
  next hserving =>
    rw [Bool.and_eq_true, Bool.not_eq_true'] at hserving
    refine ⟨hserving.2, ?_⟩
    split at h
    next =>
      split at h
      next hdead =>
        cases h
        exact .inl ⟨hdead, rfl⟩
      next => cases h
    next =>
      obtain ⟨call, hwrite, heq⟩ := Option.map_eq_some_iff.mp h
      cases heq
      rcases Call.serverWrite_cases hwrite with
        ⟨halive, rfl⟩ | ⟨-, hdead, rfl⟩
      · exact .inr ⟨rfl, by simpa using halive, rfl⟩
      · exact .inl ⟨hdead, rfl⟩
  next => cases h

theorem answer_cases
    {outcome : Except Exception Unit} (h : s.answer outcome = some s') :
    s.call.returned = false ∧ ∃ status,
      (status.isOk = true → outcome = .ok ()) ∧
        s' = { s with call := s.call.answer status } := by
  unfold Hop.answer at h
  split at h
  next hserving =>
    rw [Bool.and_eq_true, Bool.not_eq_true'] at hserving
    refine ⟨hserving.2, ?_⟩
    split at h
    next =>
      cases h
      exact ⟨_, fun _ => rfl, rfl⟩
    next e =>
      cases h
      refine ⟨_, ?_, rfl⟩
      intro hok
      rw [ServiceHelper.failException_isOk] at hok
      cases hok
  next => cases h

end Steps

end StreamTicks

end ViamSdk
