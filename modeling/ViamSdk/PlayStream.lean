import ViamSdk.HandlerFailures

/-!
# Audio playback on a stream

`play_stream` of the client sends an init message and then the chunks that its
source yields, each in a message of its own.  The handler gives the
implementation a source that pulls the chunks off the stream again.

The implementation pulls until it is given none.  The stream keeps what is
written in order; the call may be cancelled or break at any time.
-/

namespace ViamSdk

open StepTrace BidiStream

abbrev PlayStreamCall := Call PlayStreamRequest Unit Grpc.Status

/-! ## Messages -/

namespace AudioOutClient

def chunkMessage (chunk : List UInt8) : PlayStreamRequest :=
  .audioChunk (bytesOfString (stringOfBytes chunk))

def initMessage (o : Arrangement) (name : Str) (info : AudioInfo)
    (extra : ProtoStruct) : PlayStreamRequest :=
  .init
    { name
      audioInfo := some ⟨info.codec, info.sampleRateHz, info.numChannels⟩
      extra := some (extra.toProto o) }

end AudioOutClient

namespace AudioOutServer

/-- The info and the extra that the implementation is called with. -/
def arguments (o : Arrangement) (init : PlayStreamInit) :
    AudioInfo × ProtoStruct :=
  (.fromMessage init.audioInfo, ServiceHelper.getExtra o init.extra)

def chunkOf : PlayStreamRequest → Option (List UInt8)
  | .audioChunk audioData => some (bytesOfString (stringOfBytes audioData))
  | _ => none

def payloads (messages : List PlayStreamRequest) : List (List UInt8) :=
  messages.filterMap chunkOf

/-- The source yields the first payload and leaves the others. -/
theorem nextChunk_payloads
    (writes : List Bool) (messages : List PlayStreamRequest) :
    (nextChunk writes messages []).1 = (payloads messages).head? ∧
      payloads (nextChunk writes messages []).2.incoming =
        (payloads messages).tail := by
  induction messages with
  | nil => exact ⟨rfl, rfl⟩
  | cons message messages ih =>
      cases message with
      | init init => exact ih
      | payloadNotSet => exact ih
      | audioChunk audioData =>
          refine ⟨?_, rfl⟩
          exact congrArg some (bytesOfString_stringOfBytes audioData).symm

end AudioOutServer

theorem payloads_chunkMessages
    (chunks : List (List UInt8)) :
    AudioOutServer.payloads (chunks.map AudioOutClient.chunkMessage) =
      chunks := by
  unfold AudioOutServer.payloads
  rw [List.filterMap_map]
  have hsome : AudioOutServer.chunkOf ∘ AudioOutClient.chunkMessage = some := by
    funext chunk
    change some (bytesOfString (stringOfBytes
      (bytesOfString (stringOfBytes chunk)))) = some chunk
    rw [bytesOfString_stringOfBytes, bytesOfString_stringOfBytes]
  rw [hsome, List.filterMap_some]

theorem payloads_append
    (messages rest : List PlayStreamRequest) :
    AudioOutServer.payloads (messages ++ rest) =
      AudioOutServer.payloads messages ++ AudioOutServer.payloads rest :=
  List.filterMap_append

/-! ## The server -/

namespace AudioOutServer

/-- An implementation that pulls until it is given none; what it has received
decides how it ends. -/
structure PullingAudioOut where
  ends : AudioInfo → ProtoStruct → List (List UInt8) → Except Exception Unit

inductive Phase where
  | start
  | pulling (audioOut : PullingAudioOut)
  | drained (audioOut : PullingAudioOut)
  | returned (status : Grpc.Status)
  | terminated

/-- The handler.  `called` is what the implementation was called with, and
`pulled` what the source has given it. -/
structure Handler where
  phase : Phase
  called : Option (AudioInfo × ProtoStruct)
  pulled : List (Option (List UInt8))

def Handler.initial : Handler := ⟨.start, none, []⟩

inductive ServerEvent where
  | readInit (got : Bool)
  | sourceRead (got : Bool)
  | sourceCancelled
  | playStreamEnds

def reply (c : PlayStreamCall) (h : Handler) (status : Grpc.Status) :
    PlayStreamCall × Handler :=
  (c.answer status, { h with phase := .returned status })

section Handler

variable {ρ : Type} (server : ResourceServer ρ PullingAudioOut)
  (o : Arrangement)

def receiveInit (c : PlayStreamCall) (h : Handler) :
    Option PlayStreamRequest → PlayStreamCall × Handler
  | none =>
      reply c h ⟨.invalidArgument,
        "PlayStream: stream closed before init message".toList⟩
  | some (.init init) =>
      match server.resource init.name with
      | some audioOut =>
          (c, { h with
            phase := .pulling audioOut
            called := some (arguments o init) })
      | none =>
          reply c h ⟨.notFound,
            "PlayStream: resource not found: ".toList ++ init.name⟩
  | some _ =>
      reply c h ⟨.invalidArgument,
        "PlayStream: first message must be PlayStreamInit".toList⟩

/-- One turn of the loop in `chunk_source`. -/
def receive (audioOut : PullingAudioOut) (h : Handler) :
    Option PlayStreamRequest → Handler
  | none => { h with phase := .drained audioOut, pulled := h.pulled ++ [none] }
  | some message =>
      match chunkOf message with
      | some chunk => { h with pulled := h.pulled ++ [some chunk] }
      | none => h

/-- What comes of the implementation's end.  The handler is `noexcept`. -/
def conclude (audioOut : PullingAudioOut) (c : PlayStreamCall) (h : Handler) :
    PlayStreamCall × Handler :=
  let called := h.called.getD (.fromMessage none, .empty)
  match audioOut.ends called.1 called.2 (h.pulled.filterMap id) with
  | .ok () => reply c h ⟨.ok, []⟩
  | .error e =>
      if e.isStd then reply c h ⟨.internal, cStr e.what⟩
      else (c, { h with phase := .terminated })

def next (c : PlayStreamCall) (h : Handler) :
    ServerEvent → Option (PlayStreamCall × Handler)
  | .readInit got =>
      match h.phase with
      | .start =>
          (c.serverRead got).map fun (request, c) =>
            receiveInit server o c h request
      | _ => none
  | .sourceRead got =>
      match h.phase with
      | .pulling audioOut =>
          (c.serverRead got).map fun (request, c) =>
            (c, receive audioOut h request)
      | _ => none
  | .sourceCancelled =>
      match h.phase with
      | .pulling audioOut =>
          if c.dead then
            (c.serverRead true).map fun (_, c) => (c, receive audioOut h none)
          else none
      | _ => none
  | .playStreamEnds =>
      match h.phase with
      | .drained audioOut => some (conclude audioOut c h)
      | _ => none

end Handler

/-! ## What the handler has done -/

/-- The implementation has been called for the init message, and the source has
given it the chunks of the messages after it. -/
def Played (o : Arrangement) (c : PlayStreamCall) (h : Handler)
    (end_ : List (Option (List UInt8))) : Prop :=
  ∃ init rest, c.up.received = .init init :: rest ∧
    h.called = some (arguments o init) ∧
    h.pulled = (payloads rest).map some ++ end_

/-- The handler has answered without calling an implementation. -/
def Rejected {ρ : Type} (server : ResourceServer ρ PullingAudioOut)
    (c : PlayStreamCall) (h : Handler) : Prop :=
  h.called = none ∧ h.pulled = [] ∧
    ((c.up.received = [] ∧ c.Ended) ∨
      ∃ first, c.up.received = [first] ∧
        ∀ init, first = .init init → server.resource init.name = none)

/-- Where the handler stands, in a call that is alive. -/
def HandlerInv {ρ : Type} (server : ResourceServer ρ PullingAudioOut)
    (o : Arrangement) (c : PlayStreamCall) (h : Handler) : Prop :=
  match h.phase with
  | .start =>
      c.returned = false ∧ c.up.received = [] ∧ h.called = none ∧ h.pulled = []
  | .pulling _ => c.returned = false ∧ Played o c h []
  | .drained _ => c.returned = false ∧ Played o c h [none] ∧ c.Ended
  | .returned status => c.terminal = some status ∧
      (Rejected server c h ∨ (Played o c h [none] ∧ c.Ended))
  | .terminated => c.returned = false ∧ Played o c h [none] ∧ c.Ended

section Server

variable {ρ : Type} {server : ResourceServer ρ PullingAudioOut}
  {o : Arrangement} {c c' : PlayStreamCall} {h h' : Handler}

theorem Played.of_received
    {end_ : List (Option (List UInt8))} (hplayed : Played o c h end_)
    (hreceived : c'.up.received = c.up.received) :
    Played o c' h end_ := by
  rcases hplayed with ⟨init, rest, hup, hcalled, hpulled⟩
  rw [← hreceived] at hup
  exact ⟨init, rest, hup, hcalled, hpulled⟩

theorem HandlerInv.clientMove
    (hinv : HandlerInv server o c h) (hmove : Call.ClientMove c c') :
    HandlerInv server o c' h := by
  unfold HandlerInv at hinv ⊢
  rw [hmove.returned, hmove.terminal]
  cases hphase : h.phase with
  | start =>
      simp only [hphase] at hinv ⊢
      rw [hmove.received]
      exact hinv
  | pulling audioOut =>
      simp only [hphase] at hinv ⊢
      exact ⟨hinv.1, hinv.2.of_received hmove.received⟩
  | drained audioOut =>
      simp only [hphase] at hinv ⊢
      rcases hinv with ⟨hreturned, hplayed, hended⟩
      exact ⟨hreturned, hplayed.of_received hmove.received,
        hmove.ended hended⟩
  | terminated =>
      simp only [hphase] at hinv ⊢
      rcases hinv with ⟨hreturned, hplayed, hended⟩
      exact ⟨hreturned, hplayed.of_received hmove.received,
        hmove.ended hended⟩
  | returned status =>
      simp only [hphase] at hinv ⊢
      refine ⟨hinv.1, ?_⟩
      rcases hinv.2 with hrejected | ⟨hplayed, hended⟩
      · left
        rcases hrejected with ⟨hcalled, hpulled, hwhy⟩
        refine ⟨hcalled, hpulled, ?_⟩
        rw [hmove.received]
        exact hwhy.imp_left (And.imp_right hmove.ended)
      · right
        exact ⟨hplayed.of_received hmove.received, hmove.ended hended⟩

theorem ended_answer
    (hended : c.Ended) (status : Grpc.Status) : (c.answer status).Ended :=
  hended

theorem terminal_answer
    (halive : c.dead = false) (status : Grpc.Status) :
    (c.answer status).terminal = some status := by
  unfold Call.answer
  rw [halive]
  rfl

theorem handlerInv_receiveInit
    (halive : c.dead = false) (hphase : h.phase = .start)
    (hinv : HandlerInv server o c h) {got : Bool}
    {request : Option PlayStreamRequest}
    (hread : c.serverRead got = some (request, c')) :
    HandlerInv server o (receiveInit server o c' h request).1
      (receiveInit server o c' h request).2 := by
  unfold HandlerInv at hinv
  simp only [hphase] at hinv
  rcases hinv with ⟨hreturned, hup, hcalled, hpulled⟩
  rcases Call.serverRead_cases hread with
    ⟨first, lane, hrequest, hpop, hc'⟩ | ⟨hrequest, hc', hended⟩
  · have hreceived : lane.received = [first] := by
      rw [Lane.received_pop hpop, hup, List.nil_append]
    subst hrequest hc'
    have hrejected (status : Grpc.Status)
        (hwhy : ∀ init, first = .init init → server.resource init.name = none) :
        HandlerInv server o (reply { c with up := lane } h status).1
          (reply { c with up := lane } h status).2 := by
      refine ⟨terminal_answer (c := { c with up := lane }) halive status, ?_⟩
      exact Or.inl ⟨hcalled, hpulled, Or.inr ⟨first, hreceived, hwhy⟩⟩
    cases first with
    | init init =>
        unfold receiveInit
        cases hresource : server.resource init.name with
        | some audioOut =>
            simp only [hresource]
            refine ⟨hreturned, init, [], hreceived, rfl, ?_⟩
            rw [hpulled]
            rfl
        | none =>
            simp only [hresource]
            apply hrejected
            intro init' hinit
            cases hinit
            exact hresource
    | audioChunk bytes =>
        apply hrejected
        intro init hinit
        cases hinit
    | payloadNotSet =>
        apply hrejected
        intro init hinit
        cases hinit
  · subst hrequest hc'
    refine ⟨terminal_answer halive _, ?_⟩
    exact Or.inl ⟨hcalled, hpulled, Or.inl ⟨hup, ended_answer hended _⟩⟩

theorem handlerInv_receive
    {audioOut : PullingAudioOut} (hphase : h.phase = .pulling audioOut)
    (hinv : HandlerInv server o c h) {got : Bool}
    {request : Option PlayStreamRequest}
    (hread : c.serverRead got = some (request, c')) :
    HandlerInv server o c' (receive audioOut h request) := by
  unfold HandlerInv at hinv
  simp only [hphase] at hinv
  rcases hinv with ⟨hreturned, init, rest, hup, hcalled, hpulled⟩
  rw [List.append_nil] at hpulled
  rcases Call.serverRead_cases hread with
    ⟨message, lane, hrequest, hpop, hc'⟩ | ⟨hrequest, hc', hended⟩
  · subst hrequest hc'
    have hreceived : lane.received = .init init :: (rest ++ [message]) := by
      rw [Lane.received_pop hpop, hup, List.cons_append]
    unfold receive
    cases hchunk : chunkOf message with
    | some chunk =>
        have hpayloads : payloads (rest ++ [message]) =
            payloads rest ++ [chunk] := by
          rw [payloads_append]
          simp [payloads, hchunk]
        unfold HandlerInv
        simp only [hchunk, hphase]
        refine ⟨hreturned, init, rest ++ [message], hreceived, hcalled, ?_⟩
        simp [hpulled, hpayloads]
    | none =>
        have hpayloads : payloads (rest ++ [message]) = payloads rest := by
          rw [payloads_append]
          simp [payloads, hchunk]
        unfold HandlerInv
        simp only [hchunk, hphase]
        refine ⟨hreturned, init, rest ++ [message], hreceived, hcalled, ?_⟩
        simp [hpulled, hpayloads]
  · subst hrequest hc'
    refine ⟨hreturned, ⟨init, rest, hup, hcalled, ?_⟩, hended⟩
    simp [receive, hpulled]

theorem handlerInv_conclude
    (halive : c.dead = false) {audioOut : PullingAudioOut}
    (hphase : h.phase = .drained audioOut) (hinv : HandlerInv server o c h) :
    HandlerInv server o (conclude audioOut c h).1
      (conclude audioOut c h).2 := by
  unfold HandlerInv at hinv
  simp only [hphase] at hinv
  rcases hinv with ⟨hreturned, hplayed, hended⟩
  have hreply (status : Grpc.Status) :
      HandlerInv server o (reply c h status).1 (reply c h status).2 :=
    ⟨terminal_answer halive status, Or.inr ⟨hplayed, hended⟩⟩
  unfold conclude
  simp only
  split
  next => exact hreply _
  next e =>
    split
    next => exact hreply _
    next => exact ⟨hreturned, hplayed, hended⟩

theorem next_cases
    (halive : c.dead = false) {e : ServerEvent}
    (hnext : next server o c h e = some (c', h')) :
    (h.phase = .start ∧ ∃ got request c₁,
      c.serverRead got = some (request, c₁) ∧
      (c', h') = receiveInit server o c₁ h request) ∨
    (∃ audioOut got request, h.phase = .pulling audioOut ∧
      c.serverRead got = some (request, c') ∧
      h' = receive audioOut h request) ∨
    (∃ audioOut, h.phase = .drained audioOut ∧
      (c', h') = conclude audioOut c h) := by
  unfold next at hnext
  cases e with
  | readInit got =>
      left
      simp only at hnext
      split at hnext
      next hphase =>
        rcases Option.map_eq_some_iff.mp hnext with ⟨⟨request, c₁⟩, hread, heq⟩
        exact ⟨hphase, got, request, c₁, hread, heq.symm⟩
      next => cases hnext
  | sourceRead got =>
      right; left
      simp only at hnext
      split at hnext
      next audioOut hphase =>
        rcases Option.map_eq_some_iff.mp hnext with ⟨⟨request, c₁⟩, hread, heq⟩
        cases heq
        exact ⟨audioOut, got, request, hphase, hread, rfl⟩
      next => cases hnext
  | sourceCancelled =>
      simp only at hnext
      split at hnext
      next =>
        rw [halive, if_neg Bool.false_ne_true] at hnext
        cases hnext
      next => cases hnext
  | playStreamEnds =>
      right; right
      simp only at hnext
      split at hnext
      next audioOut hphase =>
        exact ⟨audioOut, hphase, (Option.some.inj hnext).symm⟩
      next => cases hnext

theorem HandlerInv.next
    (halive : c.dead = false) (hinv : HandlerInv server o c h) {e : ServerEvent}
    (hnext : next server o c h e = some (c', h')) :
    HandlerInv server o c' h' := by
  rcases next_cases halive hnext with
    ⟨hphase, got, request, c₁, hread, heq⟩ |
      ⟨audioOut, got, request, hphase, hread, heq⟩ | ⟨audioOut, hphase, heq⟩
  · have hreceive := handlerInv_receiveInit halive hphase hinv hread
    rw [← heq] at hreceive
    exact hreceive
  · rw [heq]
    exact handlerInv_receive hphase hinv hread
  · have hconclude := handlerInv_conclude halive hphase hinv
    rw [← heq] at hconclude
    exact hconclude

theorem serverMove_receiveInit
    (server : ResourceServer ρ PullingAudioOut) (o : Arrangement)
    (c : PlayStreamCall) (h : Handler) (request : Option PlayStreamRequest) :
    Call.ServerMove c (receiveInit server o c h request).1 := by
  have hreply (status : Grpc.Status) : Call.ServerMove c (reply c h status).1 :=
    (Call.ServerMove.refl c).answer status
  unfold receiveInit
  split
  next => exact hreply _
  next init =>
    split
    next => exact Call.ServerMove.refl c
    next => exact hreply _
  next => exact hreply _

theorem serverMove_conclude
    (audioOut : PullingAudioOut) (c : PlayStreamCall) (h : Handler) :
    Call.ServerMove c (conclude audioOut c h).1 := by
  have hreply (status : Grpc.Status) : Call.ServerMove c (reply c h status).1 :=
    (Call.ServerMove.refl c).answer status
  unfold conclude
  simp only
  split
  next => exact hreply _
  next e =>
    split
    next => exact hreply _
    next => exact Call.ServerMove.refl c

/-- The handler neither sends requests nor closes the client's side. -/
theorem next_frame
    (halive : c.dead = false) {e : ServerEvent}
    (hnext : AudioOutServer.next server o c h e = some (c', h')) :
    c'.up.sent = c.up.sent ∧ c'.halfClosed = c.halfClosed ∧
      c'.dead = c.dead := by
  rcases next_cases halive hnext with
    ⟨-, got, request, c₁, hread, heq⟩ | ⟨-, got, request, -, hread, -⟩ |
      ⟨audioOut, -, heq⟩
  · have hfirst := Call.serverMove_serverRead hread
    have hsecond := serverMove_receiveInit server o c₁ h request
    rw [← heq] at hsecond
    exact ⟨hsecond.sent.trans hfirst.sent,
      hsecond.halfClosed.trans hfirst.halfClosed,
      hsecond.dead.trans hfirst.dead⟩
  · have hmove := Call.serverMove_serverRead hread
    exact ⟨hmove.sent, hmove.halfClosed, hmove.dead⟩
  · have hmove := serverMove_conclude audioOut c h
    rw [← heq] at hmove
    exact ⟨hmove.sent, hmove.halfClosed, hmove.dead⟩

end Server

end AudioOutServer

end ViamSdk
