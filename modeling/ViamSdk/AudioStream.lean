import ViamSdk.BidiStream
import ViamSdk.ServiceHelper
import ViamSdk.StepTrace

/-!
# Audio capture

`get_audio` on the client reads a stream of responses and hands each, as a
chunk, to the caller's handler.  On the server the implementation emits chunks
through a callback that writes them to the stream.  A run interleaves the two
sides; the implementation, the handler and the transport are arbitrary.
-/

namespace ViamSdk

open StepTrace BidiStream

structure AudioInfo where
  codec : Str
  sampleRateHz : Int32
  numChannels : Int32
  deriving DecidableEq, Repr

structure AudioChunk where
  audioData : List UInt8
  info : AudioInfo
  startTimestampNs : Int64
  endTimestampNs : Int64
  sequenceNumber : Int32
  requestId : Str
  deriving DecidableEq, Repr

/-! ## Messages -/

structure AudioInfoMessage where
  codec : Str
  sampleRateHz : Int32
  numChannels : Int32
  deriving DecidableEq, Repr

structure AudioChunkMessage where
  audioData : List UInt8
  audioInfo : Option AudioInfoMessage
  startTimestampNanoseconds : Int64
  endTimestampNanoseconds : Int64
  sequence : Int32
  deriving DecidableEq, Repr

structure GetAudioResponse where
  audio : AudioChunkMessage
  requestId : Str
  deriving DecidableEq, Repr

/-- The fields of an info that is not in the message keep their defaults. -/
def AudioInfo.fromMessage : Option AudioInfoMessage → AudioInfo
  | some info => ⟨info.codec, info.sampleRateHz, info.numChannels⟩
  | none => ⟨[], 0, 0⟩

/-- What `writeChunk` writes. -/
def AudioInServer.toResponse (requestId : Str) (chunk : AudioChunk) :
    GetAudioResponse where
  audio :=
    { audioData := chunk.audioData
      audioInfo := some
        ⟨chunk.info.codec, chunk.info.sampleRateHz, chunk.info.numChannels⟩
      startTimestampNanoseconds := chunk.startTimestampNs
      endTimestampNanoseconds := chunk.endTimestampNs
      sequence := chunk.sequenceNumber }
  requestId := requestId

/-- The chunk that the handler is called with.  The client sets no
timestamps. -/
def AudioInClient.toChunk (response : GetAudioResponse) : AudioChunk where
  audioData := response.audio.audioData
  info := AudioInfo.fromMessage response.audio.audioInfo
  startTimestampNs := 0
  endTimestampNs := 0
  sequenceNumber := response.audio.sequence
  requestId := response.requestId

/-- Equal but for the request id. -/
def AudioChunk.Same (a b : AudioChunk) : Prop :=
  a = { b with requestId := a.requestId }

instance (a b : AudioChunk) : Decidable (a.Same b) :=
  inferInstanceAs (Decidable (_ = _))

def AudioChunk.Untimed (chunk : AudioChunk) : Prop :=
  chunk.startTimestampNs = 0 ∧ chunk.endTimestampNs = 0

instance (chunk : AudioChunk) : Decidable chunk.Untimed :=
  inferInstanceAs (Decidable (_ ∧ _))

def AudioChunk.delivered (requestId : Str) (chunk : AudioChunk) : AudioChunk :=
  { chunk with startTimestampNs := 0, endTimestampNs := 0, requestId }

theorem toChunk_toResponse
    (requestId : Str) (chunk : AudioChunk) :
    AudioInClient.toChunk (AudioInServer.toResponse requestId chunk) =
      chunk.delivered requestId := rfl

theorem same_delivered_iff
    (requestId : Str) (chunk : AudioChunk) :
    (chunk.delivered requestId).Same chunk ↔ chunk.Untimed := by
  rcases chunk with ⟨audioData, info, start, stop, sequenceNumber, id⟩
  simp [AudioChunk.Same, AudioChunk.delivered, AudioChunk.Untimed, eq_comm]

/-! ## The call -/

namespace GetAudio

inductive ClientPhase where
  | reading
  | finishing (cancelledByHandler : Bool)
  | returned
  | threw
  deriving DecidableEq, Repr

/-- One call.  `emitted` are the chunks that the implementation has called its
callback with, `handled` those that the handler was called with, each with
what it returned or threw. -/
structure State where
  call : Call Unit GetAudioResponse Grpc.Status
  emitted : List AudioChunk
  client : ClientPhase
  handled : List (AudioChunk × Except Exception Bool)

inductive Event where
  | resourceMissing
  | emit (chunk : AudioChunk) (seesCancelled : Bool)
  | implementationEnds (outcome : Except Exception Unit)
  | transportBreaks
  | read (answer : Except Exception Bool)
  | readFails
  | finish (status : Grpc.Status)

def initial : State := ⟨Call.opened, [], .reading, []⟩

def method : Str := "AudioInServer::GetAudio".toList

/-- `writeChunk`.  What it writes to a dead call is lost, and it does not look
at the result of the write.  A call that is dead may not be seen to be so
yet. -/
def emit (requestId : Str) (s : State) (chunk : AudioChunk)
    (seesCancelled : Bool) : Option State :=
  let emitted := s.emitted ++ [chunk]
  if s.call.returned then none
  else if seesCancelled then
    if s.call.dead then some { s with emitted } else none
  else
    (s.call.serverWrite (AudioInServer.toResponse requestId chunk)
      (!s.call.dead)).map fun call => { s with call, emitted }

/-- The loop of `invoke_stream` around the handler.  Where the handler throws,
the call goes down with the context that owns it. -/
def afterHandler (s : State) (call : Call Unit GetAudioResponse Grpc.Status)
    (chunk : AudioChunk) (answer : Except Exception Bool) : State :=
  let handled := s.handled ++ [(chunk, answer)]
  match answer with
  | .ok true => { s with call, handled }
  | .ok false => { s with call := call.die, handled, client := .finishing true }
  | .error _ => { s with call := call.die, handled, client := .threw }

@[simp]
theorem afterHandler_emitted
    (s : State) (call : Call Unit GetAudioResponse Grpc.Status)
    (chunk : AudioChunk) (answer : Except Exception Bool) :
    (afterHandler s call chunk answer).emitted = s.emitted := by
  unfold afterHandler
  split <;> rfl

@[simp]
theorem afterHandler_handled
    (s : State) (call : Call Unit GetAudioResponse Grpc.Status)
    (chunk : AudioChunk) (answer : Except Exception Bool) :
    (afterHandler s call chunk answer).handled =
      s.handled ++ [(chunk, answer)] := by
  unfold afterHandler
  split <;> rfl

/-- The status travels behind the messages, so who has read to the end and
finds the status OK has read them all. -/
def MayFinish (s : State) (cancelledByHandler : Bool) (status : Grpc.Status) :
    Prop :=
  s.call.MayFinish Grpc.Status.isOk status ∧
    (cancelledByHandler = false → status.isOk = true → s.call.down.Drained)

instance (s : State) (cancelledByHandler : Bool) (status : Grpc.Status) :
    Decidable (MayFinish s cancelledByHandler status) :=
  inferInstanceAs (Decidable (_ ∧ _))

def next (requestId name : Str) (s : State) : Event → Option State
  | .resourceMissing =>
      if s.call.returned || !s.emitted.isEmpty then none
      else
        some { s with
          call := s.call.answer (ServiceHelper.failNoResource method name) }
  | .emit chunk seesCancelled => emit requestId s chunk seesCancelled
  | .implementationEnds outcome =>
      if s.call.returned then none
      else
        match outcome with
        | .ok () => some { s with call := s.call.answer ⟨.ok, []⟩ }
        | .error e =>
            some { s with
              call := s.call.answer (ServiceHelper.failException method e) }
  | .transportBreaks => some { s with call := s.call.die }
  | .read answer =>
      match s.client, s.call.read true with
      | .reading, some (some response, call) =>
          some (afterHandler s call (AudioInClient.toChunk response) answer)
      | _, _ => none
  | .readFails =>
      match s.client, s.call.read false with
      | .reading, some (_, call) =>
          some { s with call, client := .finishing false }
      | _, _ => none
  | .finish status =>
      match s.client with
      | .finishing cancelledByHandler =>
          if MayFinish s cancelledByHandler status then
            if status.isOk ||
                (cancelledByHandler && status.code == .cancelled) then
              some { s with client := .returned }
            else some { s with client := .threw }
          else none
      | _ => none

/-- The handler was called with a prefix of the emitted chunks, not again after
it returned false, and with all of them if it never did and the call has
returned. -/
structure Faithful (s : State) : Prop where
  same : List.Forall₂ AudioChunk.Same (s.handled.map Prod.fst)
    (s.emitted.take s.handled.length)
  requestId : ∃ id, ∀ entry ∈ s.handled, entry.1.requestId = id
  stops : ∀ before chunk after, s.handled = before ++ (chunk, .ok false) :: after →
    after = []
  complete : s.client = .returned →
    (∀ entry ∈ s.handled, entry.2 ≠ .ok false) →
      s.handled.length = s.emitted.length

/-- If the handler is called, the chunk was emitted without timestamps. -/
def ReadsUntimed (s : State) : Event → Prop
  | .read _ => ∀ chunk, s.emitted[s.handled.length]? = some chunk → chunk.Untimed
  | _ => True

/-! ## What a step does -/

variable {requestId name : Str} {s s' : State} {e : Event}

/-- The steps at which the handler is not called. -/
inductive Quiet (requestId : Str) (s : State) : State → Prop
  | answered (status : Grpc.Status) (hopen : s.call.returned = false) :
      Quiet requestId s { s with call := s.call.answer status }
  | lost (chunk : AudioChunk) (hopen : s.call.returned = false)
      (hdead : s.call.dead = true) :
      Quiet requestId s { s with emitted := s.emitted ++ [chunk] }
  | written (chunk : AudioChunk) (hopen : s.call.returned = false)
      (halive : s.call.dead = false) :
      Quiet requestId s
        { s with
          call :=
            { s.call with
              down :=
                s.call.down.push (AudioInServer.toResponse requestId chunk) }
          emitted := s.emitted ++ [chunk] }
  | died : Quiet requestId s { s with call := s.call.die }
  | ended (hreading : s.client = .reading) :
      Quiet requestId s { s with client := .finishing false }
  | finished (cancelledByHandler : Bool)
      (hfinishing : s.client = .finishing cancelledByHandler)
      (hdone : cancelledByHandler = true ∨
        s.call.terminal ≠ none ∧ s.call.down.Drained) :
      Quiet requestId s { s with client := .returned }
  | failed : Quiet requestId s { s with client := .threw }

theorem quiet_of_emit
    {chunk : AudioChunk} {seesCancelled : Bool}
    (h : emit requestId s chunk seesCancelled = some s') :
    Quiet requestId s s' := by
  unfold emit at h
  split at h
  next => cases h
  next hopen =>
    have hopen := Bool.eq_false_iff.mpr hopen
    split at h
    next =>
      split at h
      next hdead =>
        cases h
        exact Quiet.lost chunk hopen hdead
      next => cases h
    next =>
      rcases Option.map_eq_some_iff.mp h with ⟨call, hwrite, heq⟩
      subst s'
      rcases Call.serverWrite_cases hwrite with
        ⟨halive, hcall⟩ | ⟨-, hdead, hcall⟩
      · subst call
        exact Quiet.written chunk hopen (by simpa using halive)
      · subst call
        exact Quiet.lost chunk hopen hdead

theorem quiet_of_finish
    {status : Grpc.Status} {cancelledByHandler : Bool}
    (hfinishing : s.client = .finishing cancelledByHandler)
    (h : next requestId name s (.finish status) = some s') :
    Quiet requestId s s' := by
  simp only [next, hfinishing] at h
  split at h
  next hfinish =>
    split at h
    next hgood =>
      cases h
      apply Quiet.finished cancelledByHandler hfinishing
      cases cancelledByHandler with
      | true => exact Or.inl rfl
      | false =>
          right
          have hok : status.isOk = true := by simpa using hgood
          have hterminal := Call.ok_of_mayFinish hfinish.1 hok
          exact ⟨by simp [hterminal], hfinish.2 rfl hok⟩
    next =>
      cases h
      exact Quiet.failed
  next => cases h

theorem quiet_of_next
    (h : next requestId name s e = some s')
    (hquiet : ∀ answer, e ≠ .read answer) :
    Quiet requestId s s' := by
  cases e with
  | resourceMissing =>
      simp only [next] at h
      split at h
      next => cases h
      next hopen =>
        cases h
        exact Quiet.answered _ (by simp_all)
  | emit chunk seesCancelled => exact quiet_of_emit h
  | implementationEnds outcome =>
      simp only [next] at h
      split at h
      next => cases h
      next hopen =>
        have hopen := Bool.eq_false_iff.mpr hopen
        split at h
        next =>
          cases h
          exact Quiet.answered _ hopen
        next =>
          cases h
          exact Quiet.answered _ hopen
  | transportBreaks =>
      cases h
      exact Quiet.died
  | read answer => exact absurd rfl (hquiet answer)
  | readFails =>
      simp only [next] at h
      split at h
      next response call hreading hread =>
        cases h
        rcases Call.read_cases hread with ⟨a, lane, hsome, hpop, -⟩ | ⟨-, hcall, -⟩
        · simp only [Call.read, Bool.false_eq_true, if_false] at hread
          split at hread
          next => cases hread; cases hsome
          next => cases hread
        · subst call
          exact Quiet.ended hreading
      next => cases h
  | finish status =>
      cases hclient : s.client with
      | finishing cancelledByHandler => exact quiet_of_finish hclient h
      | _ => simp [next, hclient] at h

theorem handled_of_next
    {answer : Except Exception Bool}
    (h : next requestId name s (.read answer) = some s') :
    ∃ response lane, s.client = .reading ∧
      s.call.down.pop = some (response, lane) ∧
      s' = afterHandler s { s.call with down := lane }
        (AudioInClient.toChunk response) answer := by
  simp only [next] at h
  split at h
  next response call hreading hread =>
    cases h
    rcases Call.read_cases hread with
      ⟨response', lane, hresponse, hpop, hcall⟩ | ⟨hnone, -⟩
    · cases hresponse
      subst call
      exact ⟨response, lane, hreading, hpop, rfl⟩
    · cases hnone
  next => cases h

theorem Quiet.frame
    (h : Quiet requestId s s') :
    s'.handled = s.handled ∧ ∃ more, s'.emitted = s.emitted ++ more := by
  cases h with
  | lost chunk => exact ⟨rfl, [chunk], rfl⟩
  | written chunk => exact ⟨rfl, [chunk], rfl⟩
  | _ => exact ⟨rfl, [], (List.append_nil _).symm⟩

/-! ## The invariant -/

/-- What was written and not lost, and how far the client has got. -/
structure Inv (requestId : Str) (s : State) : Prop where
  sent : ∃ written lost, s.emitted = written ++ lost ∧
    s.call.down.sent = written.map (AudioInServer.toResponse requestId) ∧
    (s.call.dead = false ∨ s.call.terminal ≠ none → lost = [])
  terminal : s.call.terminal ≠ none → s.call.returned = true
  handled : s.handled.map Prod.fst =
    s.call.down.received.map AudioInClient.toChunk
  goesOn : s.client = .reading ∨ s.client = .finishing false →
    ∀ entry ∈ s.handled, entry.2 = .ok true
  stopped : s.client = .finishing true → ∃ entry ∈ s.handled, entry.2 = .ok false
  stops : ∀ before chunk after, s.handled = before ++ (chunk, .ok false) :: after →
    after = []
  complete : s.client = .returned →
    (∃ entry ∈ s.handled, entry.2 = .ok false) ∨
      s.call.returned = true ∧ s.handled.length = s.emitted.length

theorem inv_initial (requestId : Str) : Inv requestId initial where
  sent := ⟨[], [], rfl, rfl, fun _ => rfl⟩
  terminal := fun h => absurd rfl h
  handled := rfl
  goesOn := by simp [initial]
  stopped := by simp [initial]
  stops := by simp [initial]
  complete := by simp [initial]

/-- While the implementation may still emit, the client has not returned but
by the handler's word. -/
theorem Inv.complete_of_open
    (hinv : Inv requestId s) (hopen : s.call.returned = false)
    (hreturned : s.client = .returned) :
    ∃ entry ∈ s.handled, entry.2 = .ok false := by
  rcases hinv.complete hreturned with hstopped | ⟨hclosed, -⟩
  · exact hstopped
  · rw [hopen] at hclosed
    cases hclosed

theorem Inv.terminal_of_open
    (hinv : Inv requestId s) (hopen : s.call.returned = false) :
    s.call.terminal = none := by
  by_contra hterminal
  have hclosed := hinv.terminal hterminal
  rw [hopen] at hclosed
  cases hclosed

theorem Inv.answered
    (hinv : Inv requestId s) (status : Grpc.Status)
    (hopen : s.call.returned = false) :
    Inv requestId { s with call := s.call.answer status } := by
  obtain ⟨written, lost, hemitted, hsent, hlost⟩ := hinv.sent
  constructor
  case sent =>
    refine ⟨written, lost, hemitted, hsent, ?_⟩
    intro halive
    apply hlost
    left
    by_contra hdead
    rw [Bool.not_eq_false] at hdead
    simp [Call.answer, hdead] at halive
  case terminal =>
    intro _
    rfl
  case handled => exact hinv.handled
  case goesOn => exact hinv.goesOn
  case stopped => exact hinv.stopped
  case stops => exact hinv.stops
  case complete =>
    intro hreturned
    exact Or.inl (hinv.complete_of_open hopen hreturned)

theorem Inv.lost
    (hinv : Inv requestId s) (chunk : AudioChunk)
    (hopen : s.call.returned = false) (hdead : s.call.dead = true) :
    Inv requestId { s with emitted := s.emitted ++ [chunk] } := by
  obtain ⟨written, lost, hemitted, hsent, -⟩ := hinv.sent
  constructor
  case sent =>
    refine ⟨written, lost ++ [chunk], ?_, hsent, ?_⟩
    · simp [hemitted]
    · intro halive
      simp [hdead, hinv.terminal_of_open hopen] at halive
  case terminal => exact hinv.terminal
  case handled => exact hinv.handled
  case goesOn => exact hinv.goesOn
  case stopped => exact hinv.stopped
  case stops => exact hinv.stops
  case complete =>
    intro hreturned
    exact Or.inl (hinv.complete_of_open hopen hreturned)

theorem Inv.written
    (hinv : Inv requestId s) (chunk : AudioChunk)
    (hopen : s.call.returned = false) (halive : s.call.dead = false) :
    Inv requestId
      { s with
        call :=
          { s.call with
            down :=
              s.call.down.push (AudioInServer.toResponse requestId chunk) }
        emitted := s.emitted ++ [chunk] } := by
  obtain ⟨written, lost, hemitted, hsent, hlost⟩ := hinv.sent
  have hnone : lost = [] := hlost (Or.inl halive)
  constructor
  case sent =>
    refine ⟨written ++ [chunk], [], ?_, ?_, fun _ => rfl⟩
    · simp [hemitted, hnone]
    · simp [hsent]
  case terminal => exact hinv.terminal
  case handled =>
    rw [Lane.received_push]
    exact hinv.handled
  case goesOn => exact hinv.goesOn
  case stopped => exact hinv.stopped
  case stops => exact hinv.stops
  case complete =>
    intro hreturned
    exact Or.inl (hinv.complete_of_open hopen hreturned)

theorem Inv.died
    (hinv : Inv requestId s) :
    Inv requestId { s with call := s.call.die } := by
  obtain ⟨written, lost, hemitted, hsent, hlost⟩ := hinv.sent
  constructor
  case sent =>
    refine ⟨written, lost, hemitted, hsent, ?_⟩
    rintro (halive | hterminal)
    · cases halive
    · exact hlost (Or.inr hterminal)
  case terminal => exact hinv.terminal
  case handled => exact hinv.handled
  case goesOn => exact hinv.goesOn
  case stopped => exact hinv.stopped
  case stops => exact hinv.stops
  case complete => exact hinv.complete

/-- The handler has let the client go on, so nothing stands behind an answer
that tells it to stop. -/
theorem stops_concat
    {handled : List (AudioChunk × Except Exception Bool)}
    (hgoesOn : ∀ entry ∈ handled, entry.2 = .ok true)
    (last : AudioChunk × Except Exception Bool)
    {before after : List (AudioChunk × Except Exception Bool)}
    {chunk : AudioChunk}
    (hsplit : handled ++ [last] = before ++ (chunk, .ok false) :: after) :
    after = [] := by
  rcases List.eq_nil_or_concat after with hnil | ⟨init, final, hafter⟩
  · exact hnil
  · rw [hafter, List.concat_eq_append, ← List.cons_append,
      ← List.append_assoc] at hsplit
    have hmem : (chunk, .ok false) ∈ handled := by
      rw [(List.append_inj' hsplit rfl).1]
      simp
    have hstop := hgoesOn _ hmem
    cases hstop

section Handled

variable {response : GetAudioResponse} {lane : Lane GetAudioResponse}

theorem Inv.handled_pop
    (hinv : Inv requestId s) (hpop : s.call.down.pop = some (response, lane))
    (answer : Except Exception Bool) :
    (s.handled ++ [(AudioInClient.toChunk response, answer)]).map Prod.fst =
      lane.received.map AudioInClient.toChunk := by
  rw [Lane.received_pop hpop, List.map_append, List.map_append, hinv.handled]
  rfl

theorem Inv.goesOn_afterHandler
    (hinv : Inv requestId s) (hreading : s.client = .reading)
    (hpop : s.call.down.pop = some (response, lane)) :
    Inv requestId
      { s with
        call := { s.call with down := lane }
        handled := s.handled ++ [(AudioInClient.toChunk response, .ok true)] } := by
  obtain ⟨written, lost, hemitted, hsent, hlost⟩ := hinv.sent
  have hgoesOn := hinv.goesOn (Or.inl hreading)
  constructor
  case sent =>
    exact ⟨written, lost, hemitted, (Lane.sent_pop hpop).trans hsent, hlost⟩
  case terminal => exact hinv.terminal
  case handled => exact hinv.handled_pop hpop _
  case goesOn =>
    intro _ entry hentry
    rcases List.mem_append.mp hentry with hold | hnew
    · exact hgoesOn entry hold
    · rw [List.mem_singleton.mp hnew]
  case stopped => simp [hreading]
  case stops =>
    intro before chunk after hsplit
    exact stops_concat hgoesOn _ hsplit
  case complete => simp [hreading]

/-- The handler has returned false or thrown, and the call goes down. -/
theorem Inv.interrupted
    (hinv : Inv requestId s) (hreading : s.client = .reading)
    (hpop : s.call.down.pop = some (response, lane))
    {answer : Except Exception Bool} {client : ClientPhase}
    (hclient : client = .threw ∨ client = .finishing true ∧ answer = .ok false) :
    Inv requestId
      { s with
        call := Call.die { s.call with down := lane }
        client
        handled := s.handled ++ [(AudioInClient.toChunk response, answer)] } := by
  obtain ⟨written, lost, hemitted, hsent, hlost⟩ := hinv.sent
  have hgoesOn := hinv.goesOn (Or.inl hreading)
  constructor
  case sent =>
    refine ⟨written, lost, hemitted, (Lane.sent_pop hpop).trans hsent, ?_⟩
    rintro (halive | hterminal)
    · cases halive
    · exact hlost (Or.inr hterminal)
  case terminal => exact hinv.terminal
  case handled => exact hinv.handled_pop hpop answer
  case goesOn =>
    rcases hclient with rfl | ⟨rfl, -⟩ <;> simp
  case stopped =>
    rcases hclient with rfl | ⟨rfl, rfl⟩ <;> simp
  case stops =>
    intro before chunk after hsplit
    exact stops_concat hgoesOn _ hsplit
  case complete =>
    rcases hclient with rfl | ⟨rfl, -⟩ <;> simp

theorem Inv.afterHandler
    (hinv : Inv requestId s) (hreading : s.client = .reading)
    (hpop : s.call.down.pop = some (response, lane))
    (answer : Except Exception Bool) :
    Inv requestId
      (afterHandler s { s.call with down := lane }
        (AudioInClient.toChunk response) answer) := by
  unfold GetAudio.afterHandler
  split
  next => exact hinv.goesOn_afterHandler hreading hpop
  next => exact hinv.interrupted hreading hpop (Or.inr ⟨rfl, rfl⟩)
  next => exact hinv.interrupted hreading hpop (Or.inl rfl)

end Handled

theorem Inv.length_handled
    (hinv : Inv requestId s) :
    s.handled.length = s.call.down.received.length := by
  have hlength := congrArg List.length hinv.handled
  simpa using hlength

theorem Inv.finished
    (hinv : Inv requestId s) {cancelledByHandler : Bool}
    (hfinishing : s.client = .finishing cancelledByHandler)
    (hdone : cancelledByHandler = true ∨
      s.call.terminal ≠ none ∧ s.call.down.Drained) :
    Inv requestId { s with client := .returned } := by
  obtain ⟨written, lost, hemitted, hsent, hlost⟩ := hinv.sent
  constructor
  case sent => exact ⟨written, lost, hemitted, hsent, hlost⟩
  case terminal => exact hinv.terminal
  case handled => exact hinv.handled
  case goesOn => simp
  case stopped => simp
  case stops => exact hinv.stops
  case complete =>
    intro _
    rcases hdone with hstop | ⟨hterminal, hdrained⟩
    · left
      rw [hstop] at hfinishing
      exact hinv.stopped hfinishing
    · right
      refine ⟨hinv.terminal hterminal, ?_⟩
      rw [hinv.length_handled, Lane.received_of_drained hdrained, hsent,
        hemitted, hlost (Or.inr hterminal)]
      simp

theorem Inv.quiet
    (hinv : Inv requestId s) (hquiet : Quiet requestId s s') :
    Inv requestId s' := by
  cases hquiet with
  | answered status hopen => exact hinv.answered status hopen
  | lost chunk hopen hdead => exact hinv.lost chunk hopen hdead
  | written chunk hopen halive => exact hinv.written chunk hopen halive
  | died => exact hinv.died
  | ended hreading =>
      exact
        { hinv with
          goesOn := fun _ => hinv.goesOn (Or.inl hreading)
          stopped := by simp
          complete := by simp }
  | finished cancelledByHandler hfinishing hdone =>
      exact hinv.finished hfinishing hdone
  | failed =>
      exact
        { hinv with
          goesOn := by simp
          stopped := by simp
          complete := by simp }

theorem Inv.next
    (hinv : Inv requestId s) (h : next requestId name s e = some s') :
    Inv requestId s' := by
  cases e with
  | read answer =>
      rcases handled_of_next h with ⟨response, lane, hreading, hpop, rfl⟩
      exact hinv.afterHandler hreading hpop answer
  | _ => exact hinv.quiet (quiet_of_next h (by simp))

/-! ## What the handler has seen -/

/-- The handler was called with the first chunks that were emitted, as they
arrive. -/
theorem Inv.handled_eq
    (hinv : Inv requestId s) :
    s.handled.map Prod.fst =
      (s.emitted.take s.handled.length).map (AudioChunk.delivered requestId) := by
  obtain ⟨written, lost, hemitted, hsent, -⟩ := hinv.sent
  have hlength : s.handled.length ≤ written.length := by
    rw [hinv.length_handled, Lane.received, hsent]
    simp
  have htaken : s.call.down.received =
      s.call.down.sent.take s.handled.length := by
    rw [hinv.length_handled, Lane.received, List.length_take,
      min_eq_left s.call.down.taken_le]
  have harrives : AudioInClient.toChunk ∘ AudioInServer.toResponse requestId =
      AudioChunk.delivered requestId :=
    funext (toChunk_toResponse requestId)
  rw [hinv.handled, htaken, hsent, hemitted, ← List.map_take, List.map_map,
    List.take_append_of_le_length hlength, harrives]

theorem Inv.length_handled_le
    (hinv : Inv requestId s) :
    s.handled.length ≤ s.emitted.length := by
  have hlength := congrArg List.length hinv.handled_eq
  simp only [List.length_map, List.length_take] at hlength
  omega

theorem Inv.faithful_iff
    (hinv : Inv requestId s) :
    Faithful s ↔
      ∀ chunk ∈ s.emitted.take s.handled.length, chunk.Untimed := by
  have hsame : List.Forall₂ AudioChunk.Same (s.handled.map Prod.fst)
      (s.emitted.take s.handled.length) ↔
        ∀ chunk ∈ s.emitted.take s.handled.length, chunk.Untimed := by
    rw [hinv.handled_eq, List.forall₂_map_left_iff, List.forall₂_same]
    simp only [same_delivered_iff]
  constructor
  · intro hfaithful
    exact hsame.mp hfaithful.same
  · intro huntimed
    constructor
    case same => exact hsame.mpr huntimed
    case requestId =>
      refine ⟨requestId, ?_⟩
      intro entry hentry
      have hmem := List.mem_map_of_mem (f := Prod.fst) hentry
      rw [hinv.handled_eq] at hmem
      rcases List.mem_map.mp hmem with ⟨chunk, -, hchunk⟩
      rw [← hchunk]
      rfl
    case stops => exact hinv.stops
    case complete =>
      intro hreturned hnever
      rcases hinv.complete hreturned with ⟨entry, hentry, hstop⟩ | ⟨-, hall⟩
      · exact absurd hstop (hnever entry hentry)
      · exact hall

theorem faithful_next_iff
    (hinv : Inv requestId s) (hfaithful : Faithful s)
    (h : next requestId name s e = some s') :
    Faithful s' ↔ ReadsUntimed s e := by
  rw [hinv.faithful_iff] at hfaithful
  rw [(hinv.next h).faithful_iff]
  have hle := (hinv.next h).length_handled_le
  cases e with
  | read answer =>
      rcases handled_of_next h with ⟨response, lane, -, -, rfl⟩
      simp only [afterHandler_emitted, afterHandler_handled,
        List.length_append, List.length_singleton] at hle ⊢
      rw [List.take_succ_eq_append_getElem (by omega)]
      unfold ReadsUntimed
      rw [List.getElem?_eq_getElem (by omega)]
      constructor
      · intro huntimed chunk hchunk
        apply huntimed
        rw [← Option.some.inj hchunk]
        exact List.mem_append_right _ List.mem_cons_self
      · intro hnext chunk hchunk
        rcases List.mem_append.mp hchunk with hold | hnew
        · exact hfaithful chunk hold
        · exact hnext chunk (by rw [List.mem_singleton.mp hnew])
  | _ =>
      obtain ⟨hhandled, more, hemitted⟩ :=
        (quiet_of_next h (by simp)).frame
      rw [hhandled, hemitted,
        List.take_append_of_le_length hinv.length_handled_le]
      exact iff_of_true hfaithful trivial

variable {run : List (Event × State)}

/-- Every state of a run is faithful if and only if no chunk that the handler
is called with was emitted with a timestamp. -/
theorem faithful_iff_readsUntimed
    (hrun : IsRun (fun s e s' => next requestId name s e = some s') initial
      run) :
    AllSteps (fun _ _ s' => Faithful s') initial run ↔
      AllSteps (fun s e _ => ReadsUntimed s e) initial run := by
  have hfaithful : Faithful initial := by
    rw [(inv_initial requestId).faithful_iff]
    simp [initial]
  exact hrun.everyState_iff_everyStep
    (fun _ _ _ hinv h => hinv.next h)
    (fun _ _ _ hinv hfaithful h => faithful_next_iff hinv hfaithful h)
    (inv_initial requestId) hfaithful

/-! ### A capture of one chunk -/

def oneChunk (start stop : Int64) : List Event :=
  [.emit ⟨[7], ⟨"pcm16".toList, 16000, 1⟩, start, stop, 0, []⟩ false,
    .read (.ok true), .implementationEnds (.ok ()), .readFails,
    .finish ⟨.ok, []⟩]

def oneChunkRun (start stop : Int64) : List (Event × State) :=
  traceOf (next "id".toList "mic".toList) initial (oneChunk start stop)

theorem faithful_iff_readsUntimed_oneChunk :
    (oneChunkRun 0 0).length = 5 ∧
      AllSteps (fun _ _ s' => Faithful s') initial (oneChunkRun 0 0) := by
  refine ⟨by decide, ?_⟩
  unfold oneChunkRun
  rw [faithful_iff_readsUntimed (isRun_traceOf _ _ _)]
  refine ⟨trivial, ?_, trivial, trivial, trivial, trivial⟩
  intro chunk hchunk
  cases hchunk
  decide

theorem not_faithful_oneChunk :
    ¬ AllSteps (fun _ _ s' => Faithful s') initial (oneChunkRun 1 2) := by
  rintro ⟨-, hread, -⟩
  cases hread.same with
  | cons hsame _ => exact absurd hsame (by decide)

end GetAudio

end ViamSdk
