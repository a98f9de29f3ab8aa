import ViamSdk.PlayStream

/-!
# A playback, end to end

First the handler with any client at all, of which nothing is known but that
it writes, closes its side and reads.  Then the handler with `play_stream` of
the client.  A playback that nothing cuts off is over after finitely many
steps, and then the implementation has all that the client's source yielded.
-/

namespace ViamSdk

open StepTrace BidiStream

/-! ## Any client -/

namespace AudioOutServer

inductive OpenEvent where
  | client
  | server (e : ServerEvent)

/-- The client does anything but cancel. -/
def OpenStep {ρ : Type} (server : ResourceServer ρ PullingAudioOut)
    (o : Arrangement) (s : PlayStreamCall × Handler) (e : OpenEvent)
    (s' : PlayStreamCall × Handler) : Prop :=
  match e with
  | .client => Call.ClientMove s.1 s'.1 ∧ s'.1.dead = s.1.dead ∧ s'.2 = s.2
  | .server e => next server o s.1 s.2 e = some s'

/-- If the implementation was called, the source has given it the payloads of
the chunk messages after the first message; and of all that were sent, if it
has said that there are no more. -/
def YieldsPayloads (c : PlayStreamCall) (h : Handler) : Prop :=
  h.called ≠ none → ∃ first rest, c.up.received = first :: rest ∧
    (h.pulled = (payloads rest).map some ∨
      (h.pulled = (payloads rest).map some ++ [none] ∧
        c.up.sent = first :: rest))

section Open

variable {ρ : Type} {server : ResourceServer ρ PullingAudioOut}
  {o : Arrangement} {s s' : PlayStreamCall × Handler} {e : OpenEvent}

theorem openStep_inv
    (hinv : s.1.dead = false ∧ HandlerInv server o s.1 s.2)
    (hstep : OpenStep server o s e s') :
    s'.1.dead = false ∧ HandlerInv server o s'.1 s'.2 := by
  cases e with
  | client =>
      rcases hstep with ⟨hmove, hdead, hhandler⟩
      rw [hdead, hhandler]
      exact ⟨hinv.1, hinv.2.clientMove hmove⟩
  | server e =>
      change next server o s.1 s.2 e = some (s'.1, s'.2) at hstep
      rw [(next_frame hinv.1 hstep).2.2]
      exact ⟨hinv.1, hinv.2.next hinv.1 hstep⟩

theorem yieldsPayloads_of_inv
    {c : PlayStreamCall} {h : Handler} (halive : c.dead = false)
    (hinv : HandlerInv server o c h) :
    YieldsPayloads c h := by
  intro hcalled
  have hdone (hplayed : Played o c h [none]) (hended : c.Ended) :
      ∃ first rest, c.up.received = first :: rest ∧
        (h.pulled = (payloads rest).map some ∨
          (h.pulled = (payloads rest).map some ++ [none] ∧
            c.up.sent = first :: rest)) := by
    rcases hplayed with ⟨init, rest, hup, -, hpulled⟩
    refine ⟨.init init, rest, hup, Or.inr ⟨hpulled, ?_⟩⟩
    rw [← hended.received_eq_sent halive]
    exact hup
  unfold HandlerInv at hinv
  cases hphase : h.phase with
  | start =>
      simp only [hphase] at hinv
      exact absurd hinv.2.2.1 hcalled
  | pulling audioOut =>
      simp only [hphase] at hinv
      rcases hinv.2 with ⟨init, rest, hup, -, hpulled⟩
      rw [List.append_nil] at hpulled
      exact ⟨.init init, rest, hup, Or.inl hpulled⟩
  | drained audioOut =>
      simp only [hphase] at hinv
      exact hdone hinv.2.1 hinv.2.2
  | terminated =>
      simp only [hphase] at hinv
      exact hdone hinv.2.1 hinv.2.2
  | returned status =>
      simp only [hphase] at hinv
      rcases hinv.2 with hrejected | ⟨hplayed, hended⟩
      · exact absurd hrejected.1 hcalled
      · exact hdone hplayed hended

end Open

end AudioOutServer

/-! ## The client -/

namespace AudioOutClient

inductive Phase where
  | init
  | initFailed
  | pulling
  | writing (chunk : List UInt8)
  | closing
  | finishing
  | returned
  | threw (status : Grpc.Status)

/-- `remaining` is what the source has yet to yield. -/
structure Client where
  phase : Phase
  remaining : List (List UInt8)

inductive ClientEvent where
  | writeInit (ok : Bool)
  | pull
  | writeChunk (ok : Bool)
  | writesDone
  | finish (status : Grpc.Status)

/-- The arguments of a call of `play_stream`, the chunks being those that its
source yields, and the client that it is called on. -/
structure Playback where
  name : Str
  info : AudioInfo
  chunks : List (List UInt8)
  extra : ProtoStruct

def Playback.init (p : Playback) (o : Arrangement) : PlayStreamRequest :=
  initMessage o p.name p.info p.extra

def next (p : Playback) (o : Arrangement) (c : PlayStreamCall) (k : Client) :
    ClientEvent → Option (PlayStreamCall × Client)
  | .writeInit ok =>
      match k.phase with
      | .init =>
          (c.write (p.init o) ok).map fun c =>
            (c, { k with phase := if ok then .pulling else .initFailed })
      | _ => none
  | .pull =>
      match k.phase, k.remaining with
      | .pulling, [] => some (c, { k with phase := .closing })
      | .pulling, chunk :: remaining => some (c, ⟨.writing chunk, remaining⟩)
      | _, _ => none
  | .writeChunk ok =>
      match k.phase with
      | .writing chunk =>
          (c.write (chunkMessage chunk) ok).map fun c =>
            (c, { k with phase := if ok then .pulling else .closing })
      | _ => none
  | .writesDone =>
      match k.phase with
      | .closing => some (c.writesDone, { k with phase := .finishing })
      | _ => none
  | .finish status =>
      match k.phase with
      | .initFailed =>
          if c.MayFinish Grpc.Status.isOk status then
            some (c, { k with phase := .threw status })
          else none
      | .finishing =>
          if c.MayFinish Grpc.Status.isOk status then
            some (c, { k with
              phase := if status.isOk then .returned else .threw status })
          else none
      | _ => none

def Sent (p : Playback) (o : Arrangement) (c : PlayStreamCall)
    (chunks : List (List UInt8)) : Prop :=
  c.up.sent = p.init o :: chunks.map chunkMessage

/-- Where the client stands, in a call that is alive. -/
def ClientInv (p : Playback) (o : Arrangement) (c : PlayStreamCall)
    (k : Client) : Prop :=
  match k.phase with
  | .init => c.halfClosed = false ∧ c.up.sent = [] ∧ k.remaining = p.chunks
  | .initFailed => False
  | .pulling => c.halfClosed = false ∧
      ∃ before, p.chunks = before ++ k.remaining ∧ Sent p o c before
  | .writing chunk => c.halfClosed = false ∧
      ∃ before, p.chunks = before ++ chunk :: k.remaining ∧ Sent p o c before
  | .closing => c.halfClosed = false ∧ Sent p o c p.chunks
  | .finishing => c.halfClosed = true ∧ Sent p o c p.chunks
  | .returned => c.halfClosed = true ∧ Sent p o c p.chunks
  | .threw _ => c.halfClosed = true ∧ Sent p o c p.chunks

section Client

variable {p : Playback} {o : Arrangement} {c c' : PlayStreamCall}
  {k k' : Client}

/-- The steps of a client in a call that is not over before it has closed its
side. -/
theorem next_cases
    (halive : c.dead = false) (hopen : c.returned = true → c.halfClosed = true)
    (hinv : ClientInv p o c k) {e : ClientEvent}
    (hnext : next p o c k e = some (c', k')) :
    (k.phase = .init ∧ c.halfClosed = false ∧
      c' = { c with up := c.up.push (p.init o) } ∧
      k' = { k with phase := .pulling }) ∨
    (k.phase = .pulling ∧ k.remaining = [] ∧ c' = c ∧
      k' = { k with phase := .closing }) ∨
    (∃ chunk remaining, k.phase = .pulling ∧ k.remaining = chunk :: remaining ∧
      c' = c ∧ k' = ⟨.writing chunk, remaining⟩) ∨
    (∃ chunk, k.phase = .writing chunk ∧ c.halfClosed = false ∧
      c' = { c with up := c.up.push (chunkMessage chunk) } ∧
      k' = { k with phase := .pulling }) ∨
    (k.phase = .closing ∧ c' = c.writesDone ∧
      k' = { k with phase := .finishing }) ∨
    (k.phase = .finishing ∧ c' = c ∧ ∃ phase,
      (phase = .returned ∨ ∃ status, phase = .threw status) ∧
      k' = { k with phase }) := by
  unfold next at hnext
  unfold ClientInv at hinv
  -- A write fails only when the call is over.
  have hwrite {message : PlayStreamRequest} {ok : Bool} {c₁ : PlayStreamCall}
      (hclosed : c.halfClosed = false)
      (hwritten : c.write message ok = some c₁) :
      ok = true ∧ c₁ = { c with up := c.up.push message } := by
    rcases Call.write_cases hwritten with ⟨hok, -, hc₁⟩ | ⟨-, hover, -⟩
    · exact ⟨hok, hc₁⟩
    · rcases hover with hdead | hreturned
      · rw [halive] at hdead
        cases hdead
      · have hhalf := hopen hreturned
        rw [hclosed] at hhalf
        cases hhalf
  cases e with
  | writeInit ok =>
      left
      simp only at hnext
      split at hnext
      next hphase =>
        simp only [hphase] at hinv
        rcases Option.map_eq_some_iff.mp hnext with ⟨c₁, hwritten, heq⟩
        rcases hwrite hinv.1 hwritten with ⟨hok, hc₁⟩
        subst hok
        cases heq
        exact ⟨hphase, hinv.1, hc₁, rfl⟩
      next => cases hnext
  | pull =>
      right
      simp only at hnext
      split at hnext
      next hphase hremaining =>
        cases hnext
        exact Or.inl ⟨hphase, hremaining, rfl, rfl⟩
      next chunk remaining hphase hremaining =>
        cases hnext
        exact Or.inr (Or.inl ⟨chunk, remaining, hphase, hremaining, rfl, rfl⟩)
      next => cases hnext
  | writeChunk ok =>
      right; right; right; left
      simp only at hnext
      split at hnext
      next chunk hphase =>
        simp only [hphase] at hinv
        rcases Option.map_eq_some_iff.mp hnext with ⟨c₁, hwritten, heq⟩
        rcases hwrite hinv.1 hwritten with ⟨hok, hc₁⟩
        subst hok
        cases heq
        exact ⟨chunk, hphase, hinv.1, hc₁, rfl⟩
      next => cases hnext
  | writesDone =>
      right; right; right; right; left
      simp only at hnext
      split at hnext
      next hphase =>
        cases hnext
        exact ⟨hphase, rfl, rfl⟩
      next => cases hnext
  | finish status =>
      right; right; right; right; right
      simp only at hnext
      split at hnext
      next hphase =>
        simp only [hphase] at hinv
      next hphase =>
        split at hnext
        next =>
          cases hnext
          refine ⟨hphase, rfl, _, ?_, rfl⟩
          cases status.isOk with
          | true => exact Or.inl rfl
          | false => exact Or.inr ⟨status, rfl⟩
        next => cases hnext
      next => cases hnext

theorem ClientInv.next
    (halive : c.dead = false) (hopen : c.returned = true → c.halfClosed = true)
    (hinv : ClientInv p o c k) {e : ClientEvent}
    (hnext : next p o c k e = some (c', k')) :
    ClientInv p o c' k' := by
  rcases next_cases halive hopen hinv hnext with
    ⟨hphase, hclosed, rfl, rfl⟩ | ⟨hphase, hremaining, rfl, rfl⟩ |
      ⟨chunk, remaining, hphase, hremaining, rfl, rfl⟩ |
      ⟨chunk, hphase, hclosed, rfl, rfl⟩ | ⟨hphase, rfl, rfl⟩ |
      ⟨hphase, rfl, phase, hended, rfl⟩
  · unfold ClientInv at hinv ⊢
    simp only [hphase] at hinv
    refine ⟨hclosed, [], hinv.2.2.symm, ?_⟩
    unfold Sent
    rw [Lane.sent_push, hinv.2.1]
    rfl
  · unfold ClientInv at hinv ⊢
    simp only [hphase, hremaining] at hinv
    rcases hinv with ⟨hclosed, before, hchunks, hsent⟩
    rw [List.append_nil] at hchunks
    rw [hchunks]
    exact ⟨hclosed, hsent⟩
  · unfold ClientInv at hinv ⊢
    simp only [hphase, hremaining] at hinv
    exact hinv
  · unfold ClientInv at hinv ⊢
    simp only [hphase] at hinv
    rcases hinv with ⟨-, before, hchunks, hsent⟩
    refine ⟨hclosed, before ++ [chunk], ?_, ?_⟩
    · rw [hchunks, List.append_assoc]
      rfl
    · unfold Sent at hsent ⊢
      rw [Lane.sent_push, hsent, List.map_append]
      rfl
  · unfold ClientInv at hinv ⊢
    simp only [hphase] at hinv
    exact ⟨rfl, hinv.2⟩
  · unfold ClientInv at hinv ⊢
    simp only [hphase] at hinv
    rcases hended with rfl | ⟨status, rfl⟩
    · exact hinv
    · exact hinv

theorem ClientInv.of_sent
    (hinv : ClientInv p o c k) (hsent : c'.up.sent = c.up.sent)
    (hclosed : c'.halfClosed = c.halfClosed) :
    ClientInv p o c' k := by
  unfold ClientInv Sent at hinv ⊢
  rw [hsent, hclosed]
  exact hinv

theorem clientMove_next
    (halive : c.dead = false) (hopen : c.returned = true → c.halfClosed = true)
    (hinv : ClientInv p o c k) {e : ClientEvent}
    (hnext : AudioOutClient.next p o c k e = some (c', k')) :
    Call.ClientMove c c' ∧ c'.dead = c.dead := by
  have hpush (hclosed : c.halfClosed = false) (message : PlayStreamRequest) :
      Call.ClientMove c { c with up := c.up.push message } := by
    have hwrite : c.write message true =
        some { c with up := c.up.push message } := by
      unfold Call.write
      rw [if_pos rfl, hclosed]
      rfl
    exact Call.clientMove_write hwrite
  rcases next_cases halive hopen hinv hnext with
    ⟨-, hclosed, rfl, -⟩ | ⟨-, -, rfl, -⟩ | ⟨_, _, -, -, rfl, -⟩ |
      ⟨chunk, -, hclosed, rfl, -⟩ | ⟨-, rfl, -⟩ | ⟨-, rfl, -⟩
  · exact ⟨hpush hclosed _, rfl⟩
  · exact ⟨Call.ClientMove.refl _, rfl⟩
  · exact ⟨Call.ClientMove.refl _, rfl⟩
  · exact ⟨hpush hclosed _, rfl⟩
  · exact ⟨Call.clientMove_writesDone c, rfl⟩
  · exact ⟨Call.ClientMove.refl _, rfl⟩

/-- What has been sent is a beginning of the playback, and all of it once the
client has closed its side. -/
theorem ClientInv.sent
    (hinv : ClientInv p o c k) :
    (∃ rest, p.init o :: p.chunks.map chunkMessage = c.up.sent ++ rest) ∧
      (c.halfClosed = true → Sent p o c p.chunks) := by
  unfold ClientInv at hinv
  have hpart (before after : List (List UInt8))
      (hchunks : p.chunks = before ++ after) (hsent : Sent p o c before) :
      ∃ rest, p.init o :: p.chunks.map chunkMessage = c.up.sent ++ rest := by
    refine ⟨after.map chunkMessage, ?_⟩
    rw [hsent, hchunks, List.map_append]
    rfl
  have hnot (hclosed : c.halfClosed = false) :
      c.halfClosed = true → Sent p o c p.chunks := by
    intro hhalf
    rw [hclosed] at hhalf
    cases hhalf
  cases hphase : k.phase with
  | init =>
      simp only [hphase] at hinv
      refine ⟨⟨p.init o :: p.chunks.map chunkMessage, ?_⟩, hnot hinv.1⟩
      rw [hinv.2.1, List.nil_append]
  | initFailed => simp only [hphase] at hinv
  | pulling =>
      simp only [hphase] at hinv
      rcases hinv with ⟨hclosed, before, hchunks, hsent⟩
      exact ⟨hpart before _ hchunks hsent, hnot hclosed⟩
  | writing chunk =>
      simp only [hphase] at hinv
      rcases hinv with ⟨hclosed, before, hchunks, hsent⟩
      exact ⟨hpart before _ hchunks hsent, hnot hclosed⟩
  | closing =>
      simp only [hphase] at hinv
      exact ⟨hpart p.chunks [] (by simp) hinv.2, hnot hinv.1⟩
  | finishing =>
      simp only [hphase] at hinv
      exact ⟨hpart p.chunks [] (by simp) hinv.2, fun _ => hinv.2⟩
  | returned =>
      simp only [hphase] at hinv
      exact ⟨hpart p.chunks [] (by simp) hinv.2, fun _ => hinv.2⟩
  | threw status =>
      simp only [hphase] at hinv
      exact ⟨hpart p.chunks [] (by simp) hinv.2, fun _ => hinv.2⟩

end Client

end AudioOutClient

/-! ## Both sides -/

namespace PlayStream

open AudioOutClient AudioOutServer

structure State where
  call : PlayStreamCall
  client : AudioOutClient.Client
  handler : Handler

inductive Event where
  | client (e : ClientEvent)
  | server (e : ServerEvent)
  | cutOff

def initial (p : Playback) : State :=
  ⟨Call.opened, ⟨.init, p.chunks⟩, .initial⟩

section System

variable {ρ : Type} (server : ResourceServer ρ PullingAudioOut)
  (o o' : Arrangement) (p : Playback)

def next (s : State) : Event → Option State
  | .client e =>
      (AudioOutClient.next p o s.call s.client e).map fun (call, client) =>
        { s with call, client }
  | .server e =>
      (AudioOutServer.next server o' s.call s.handler e).map
        fun (call, handler) => { s with call, handler }
  | .cutOff => some { s with call := s.call.die }

/-- A step while the stream loses nothing: nobody cuts it off, and the runtime
takes every message. -/
def QuietStep (s : State) (e : Event) (s' : State) : Prop :=
  e ≠ .cutOff ∧ next server o o' p s e = some s'

def Stuck (s : State) : Prop := ∀ e s', ¬ QuietStep server o o' p s e s'

variable {server o o' p}

/-- The arguments are right, and the chunks are the first of those to come. -/
structure FaithfulSoFar (p : Playback) (h : Handler) : Prop where
  arguments : ∀ args, h.called = some args →
    args.1 = p.info ∧ args.2.Same p.extra
  chunks : ∃ rest, p.chunks.map some ++ [none] = h.pulled ++ rest

/-- The implementation has been called with the arguments, and has pulled
exactly the chunks and then none. -/
structure Delivered (p : Playback) (h : Handler) : Prop where
  arguments : ∃ args, h.called = some args ∧
    args.1 = p.info ∧ args.2.Same p.extra
  chunks : h.pulled = p.chunks.map some ++ [none]

/-- Whatever the order of the steps, a playback that is not cut off delivers
what it has to, and is over at last. -/
def PlaysFaithfully {ρ : Type} (server : ResourceServer ρ PullingAudioOut)
    (o o' : Arrangement) (p : Playback) : Prop :=
  ∀ run, IsRun (QuietStep server o o' p) (initial p) run →
    FaithfulSoFar p (lastState (initial p) run).handler ∧
      run.length ≤ 3 * p.chunks.length + 8 ∧
      (Stuck server o o' p (lastState (initial p) run) →
        Delivered p (lastState (initial p) run).handler)

structure Inv (server : ResourceServer ρ PullingAudioOut) (o o' : Arrangement)
    (p : Playback) (s : State) : Prop where
  alive : s.call.dead = false
  client : ClientInv p o s.call s.client
  handler : HandlerInv server o' s.call s.handler

variable {s s' : State} {e : Event}

/-- What the handler has received is the init message and some first chunks. -/
theorem Inv.received
    (hinv : Inv server o o' p s) {first : PlayStreamRequest}
    {rest : List PlayStreamRequest}
    (hreceived : s.call.up.received = first :: rest) :
    first = p.init o ∧
      ∃ more, p.chunks.map chunkMessage = rest ++ more := by
  rcases hinv.client.sent.1 with ⟨unsent, hsent⟩
  rcases Lane.received_prefix s.call.up with ⟨untaken, htaken⟩
  rw [htaken, hreceived, List.cons_append, List.cons_append, List.cons.injEq]
    at hsent
  refine ⟨hsent.1.symm, untaken ++ unsent, ?_⟩
  rw [hsent.2, List.append_assoc]

theorem Inv.halfClosed_of_ended
    (hinv : Inv server o o' p s) (hended : s.call.Ended) :
    s.call.halfClosed = true ∧
      s.call.up.received = p.init o :: p.chunks.map chunkMessage := by
  have hclosed : s.call.halfClosed = true := by
    rcases hended with hdead | ⟨hclosed, -⟩
    · rw [hinv.alive] at hdead
      cases hdead
    · exact hclosed
  refine ⟨hclosed, ?_⟩
  rw [hended.received_eq_sent hinv.alive]
  exact hinv.client.sent.2 hclosed

theorem Inv.not_rejected
    (hfound : server.resource p.name ≠ none) (hinv : Inv server o o' p s) :
    ¬ Rejected server s.call s.handler := by
  rintro ⟨-, -, ⟨hempty, hended⟩ | ⟨first, hfirst, hmissing⟩⟩
  · rw [(hinv.halfClosed_of_ended hended).2] at hempty
    cases hempty
  · exact hfound (hmissing _ (hinv.received hfirst).1)

/-- Nothing but the end of the stream makes the handler return. -/
theorem Inv.halfClosed_of_returned
    (hfound : server.resource p.name ≠ none) (hinv : Inv server o o' p s)
    (hreturned : s.call.returned = true) :
    s.call.halfClosed = true := by
  have hnot {P : Prop} (hrunning : s.call.returned = false) : P := by
    rw [hreturned] at hrunning
    cases hrunning
  have hhandler := hinv.handler
  unfold HandlerInv at hhandler
  cases hphase : s.handler.phase with
  | start =>
      simp only [hphase] at hhandler
      exact hnot hhandler.1
  | pulling audioOut =>
      simp only [hphase] at hhandler
      exact hnot hhandler.1
  | drained audioOut =>
      simp only [hphase] at hhandler
      exact hnot hhandler.1
  | terminated =>
      simp only [hphase] at hhandler
      exact hnot hhandler.1
  | returned status =>
      simp only [hphase] at hhandler
      rcases hhandler.2 with hrejected | ⟨-, hended⟩
      · exact absurd hrejected (hinv.not_rejected hfound)
      · exact (hinv.halfClosed_of_ended hended).1

theorem Inv.step
    (hfound : server.resource p.name ≠ none) (hinv : Inv server o o' p s)
    (hstep : QuietStep server o o' p s e s') :
    Inv server o o' p s' := by
  have hopen := hinv.halfClosed_of_returned hfound
  rcases hstep with ⟨hquiet, hnext⟩
  cases e with
  | client e =>
      rcases Option.map_eq_some_iff.mp hnext with ⟨⟨call, client⟩, hclient, rfl⟩
      rcases clientMove_next hinv.alive hopen hinv.client hclient with
        ⟨hmove, hdead⟩
      constructor
      · exact hdead.trans hinv.alive
      · exact hinv.client.next hinv.alive hopen hclient
      · exact hinv.handler.clientMove hmove
  | server e =>
      rcases Option.map_eq_some_iff.mp hnext with
        ⟨⟨call, handler⟩, hserver, rfl⟩
      rcases next_frame hinv.alive hserver with ⟨hsent, hclosed, hdead⟩
      constructor
      · exact hdead.trans hinv.alive
      · exact hinv.client.of_sent hsent hclosed
      · exact hinv.handler.next hinv.alive hserver
  | cutOff => exact absurd rfl hquiet

theorem inv_initial : Inv server o o' p (initial p) :=
  ⟨rfl, ⟨rfl, rfl, rfl⟩, ⟨rfl, rfl, rfl, rfl⟩⟩

/-! ## What is delivered -/

theorem arguments_init
    {init : PlayStreamInit} (hinit : .init init = p.init o) :
    (arguments o' init).1 = p.info ∧ (arguments o' init).2.Same p.extra := by
  cases hinit
  exact ⟨rfl, ProtoStruct.same_fromProto_toProto o o' p.extra⟩

theorem Inv.played
    (hinv : Inv server o o' p s) {end_ : List (Option (List UInt8))}
    (hplayed : Played o' s.call s.handler end_) :
    ∃ args chunks more, s.handler.called = some args ∧
      (args.1 = p.info ∧ args.2.Same p.extra) ∧
      p.chunks = chunks ++ more ∧
      s.handler.pulled = chunks.map some ++ end_ := by
  rcases hplayed with ⟨init, rest, hreceived, hcalled, hpulled⟩
  rcases hinv.received hreceived with ⟨hinit, more, hmore⟩
  refine ⟨arguments o' init, payloads rest, payloads more, hcalled,
    arguments_init hinit, ?_, hpulled⟩
  rw [← payloads_append, ← hmore, payloads_chunkMessages]

theorem Inv.delivered
    (hinv : Inv server o o' p s) (hplayed : Played o' s.call s.handler [none])
    (hended : s.call.Ended) :
    Delivered p s.handler := by
  have hall := (hinv.halfClosed_of_ended hended).2
  rcases hplayed with ⟨init, rest, hreceived, hcalled, hpulled⟩
  rw [hreceived, List.cons.injEq] at hall
  refine ⟨⟨_, hcalled, arguments_init hall.1⟩, ?_⟩
  rw [hpulled, hall.2, payloads_chunkMessages]

theorem Delivered.faithfulSoFar
    {h : Handler} (hdelivered : Delivered p h) : FaithfulSoFar p h := by
  rcases hdelivered with ⟨⟨args, hcalled, hargs⟩, hchunks⟩
  constructor
  · intro args' hargs'
    rw [hcalled] at hargs'
    cases hargs'
    exact hargs
  · refine ⟨[], ?_⟩
    rw [hchunks, List.append_nil]

/-- The handler has yet to read, or everything has been delivered. -/
theorem Inv.reading_or_delivered
    (hfound : server.resource p.name ≠ none) (hinv : Inv server o o' p s) :
    s.handler.phase = .start ∨
      (∃ audioOut, s.handler.phase = .pulling audioOut) ∨
      Delivered p s.handler := by
  have hhandler := hinv.handler
  unfold HandlerInv at hhandler
  cases hphase : s.handler.phase with
  | start => exact Or.inl rfl
  | pulling audioOut => exact Or.inr (Or.inl ⟨audioOut, rfl⟩)
  | drained audioOut =>
      simp only [hphase] at hhandler
      exact Or.inr (Or.inr (hinv.delivered hhandler.2.1 hhandler.2.2))
  | terminated =>
      simp only [hphase] at hhandler
      exact Or.inr (Or.inr (hinv.delivered hhandler.2.1 hhandler.2.2))
  | returned status =>
      simp only [hphase] at hhandler
      rcases hhandler.2 with hrejected | ⟨hplayed, hended⟩
      · exact absurd hrejected (hinv.not_rejected hfound)
      · exact Or.inr (Or.inr (hinv.delivered hplayed hended))

theorem Inv.faithfulSoFar
    (hfound : server.resource p.name ≠ none) (hinv : Inv server o o' p s) :
    FaithfulSoFar p s.handler := by
  have hhandler := hinv.handler
  rcases hinv.reading_or_delivered hfound with
    hphase | ⟨audioOut, hphase⟩ | hdelivered
  · unfold HandlerInv at hhandler
    simp only [hphase] at hhandler
    rcases hhandler with ⟨-, -, hcalled, hpulled⟩
    constructor
    · intro args hargs
      rw [hcalled] at hargs
      cases hargs
    · rw [hpulled]
      exact ⟨_, rfl⟩
  · unfold HandlerInv at hhandler
    simp only [hphase] at hhandler
    rcases hinv.played hhandler.2 with
      ⟨args, chunks, more, hcalled, hargs, hchunks, hpulled⟩
    constructor
    · intro args' hargs'
      rw [hcalled] at hargs'
      cases hargs'
      exact hargs
    · refine ⟨more.map some ++ [none], ?_⟩
      rw [hpulled, hchunks, List.map_append, List.append_nil, List.append_assoc]
  · exact hdelivered.faithfulSoFar

/-! ## Progress -/

theorem not_stuck_of_client
    {e : ClientEvent} {c : PlayStreamCall} {k : AudioOutClient.Client}
    (h : AudioOutClient.next p o s.call s.client e = some (c, k)) :
    ¬ Stuck server o o' p s := by
  intro hstuck
  apply hstuck (.client e) { s with call := c, client := k }
  refine ⟨Event.noConfusion, ?_⟩
  simp only [next, h, Option.map_some]

theorem not_stuck_of_server
    {e : ServerEvent} {result : PlayStreamCall × Handler}
    (h : AudioOutServer.next server o' s.call s.handler e = some result) :
    ¬ Stuck server o o' p s := by
  intro hstuck
  apply hstuck (.server e) { s with call := result.1, handler := result.2 }
  refine ⟨Event.noConfusion, ?_⟩
  simp only [next, h, Option.map_some]

/-- A client that has not closed its side can go on. -/
theorem Inv.client_moves
    (hinv : Inv server o o' p s) (hopen : s.call.halfClosed = false) :
    ¬ Stuck server o o' p s := by
  have hclient := hinv.client
  unfold ClientInv at hclient
  have hclosed {P : Prop} (hhalf : s.call.halfClosed = true) : P := by
    rw [hopen] at hhalf
    cases hhalf
  cases hphase : s.client.phase with
  | init =>
      have hnext : AudioOutClient.next p o s.call s.client (.writeInit true) =
          some ({ s.call with up := s.call.up.push (p.init o) },
            { s.client with phase := .pulling }) := by
        simp [AudioOutClient.next, hphase, Call.write, hopen]
      exact not_stuck_of_client hnext
  | initFailed => simp only [hphase] at hclient
  | pulling =>
      cases hremaining : s.client.remaining with
      | nil =>
          have hnext : AudioOutClient.next p o s.call s.client .pull =
              some (s.call, { s.client with phase := .closing }) := by
            simp [AudioOutClient.next, hphase, hremaining]
          exact not_stuck_of_client hnext
      | cons chunk remaining =>
          have hnext : AudioOutClient.next p o s.call s.client .pull =
              some (s.call, ⟨.writing chunk, remaining⟩) := by
            simp [AudioOutClient.next, hphase, hremaining]
          exact not_stuck_of_client hnext
  | writing chunk =>
      have hnext : AudioOutClient.next p o s.call s.client (.writeChunk true) =
          some ({ s.call with up := s.call.up.push (chunkMessage chunk) },
            { s.client with phase := .pulling }) := by
        simp [AudioOutClient.next, hphase, Call.write, hopen]
      exact not_stuck_of_client hnext
  | closing =>
      have hnext : AudioOutClient.next p o s.call s.client .writesDone =
          some (s.call.writesDone, { s.client with phase := .finishing }) := by
        simp [AudioOutClient.next, hphase]
      exact not_stuck_of_client hnext
  | finishing =>
      simp only [hphase] at hclient
      exact hclosed hclient.1
  | returned =>
      simp only [hphase] at hclient
      exact hclosed hclient.1
  | threw status =>
      simp only [hphase] at hclient
      exact hclosed hclient.1

theorem Inv.delivered_of_stuck
    (hfound : server.resource p.name ≠ none) (hinv : Inv server o o' p s)
    (hstuck : Stuck server o o' p s) :
    Delivered p s.handler := by
  cases hclosed : s.call.halfClosed with
  | false => exact absurd hstuck (hinv.client_moves hclosed)
  | true =>
      rcases Call.exists_serverRead hclosed with ⟨got, request, c, hread⟩
      rcases hinv.reading_or_delivered hfound with
        hphase | ⟨audioOut, hphase⟩ | hdelivered
      · have hnext : AudioOutServer.next server o' s.call s.handler
            (.readInit got) =
              some (receiveInit server o' c s.handler request) := by
          simp only [AudioOutServer.next, hphase, hread, Option.map_some]
        exact absurd hstuck (not_stuck_of_server hnext)
      · have hnext : AudioOutServer.next server o' s.call s.handler
            (.sourceRead got) =
              some (c, receive audioOut s.handler request) := by
          simp only [AudioOutServer.next, hphase, hread, Option.map_some]
        exact absurd hstuck (not_stuck_of_server hnext)
      · exact hdelivered

/-! ## Termination -/

def clientLeft (k : AudioOutClient.Client) : ℕ :=
  match k.phase with
  | .init => 3 * k.remaining.length + 5
  | .pulling => 3 * k.remaining.length + 3
  | .writing _ => 3 * k.remaining.length + 5
  | .closing => 2
  | .finishing => 1
  | .initFailed => 1
  | .returned => 0
  | .threw _ => 0

def handlerLeft (h : Handler) : ℕ :=
  match h.phase with
  | .start => 3
  | .pulling _ => 2
  | .drained _ => 1
  | .returned _ => 0
  | .terminated => 0

/-- The steps that may be left.  A message that is written is one more for the
handler to read. -/
def left (s : State) : ℕ :=
  clientLeft s.client + handlerLeft s.handler + s.call.up.pending

theorem pending_receiveInit
    (server : ResourceServer ρ PullingAudioOut) (o' : Arrangement)
    (c : PlayStreamCall) (h : Handler) (request : Option PlayStreamRequest) :
    (receiveInit server o' c h request).1.up = c.up ∧
      handlerLeft (receiveInit server o' c h request).2 ≤ 2 := by
  unfold receiveInit
  split
  next => exact ⟨rfl, Nat.zero_le 2⟩
  next init =>
    split
    next => exact ⟨rfl, le_rfl⟩
    next => exact ⟨rfl, Nat.zero_le 2⟩
  next => exact ⟨rfl, Nat.zero_le 2⟩

theorem pending_conclude
    (audioOut : PullingAudioOut) (c : PlayStreamCall) (h : Handler) :
    (conclude audioOut c h).1.up = c.up ∧
      handlerLeft (conclude audioOut c h).2 = 0 := by
  unfold conclude
  simp only
  split
  next => exact ⟨rfl, rfl⟩
  next =>
    split
    next => exact ⟨rfl, rfl⟩
    next => exact ⟨rfl, rfl⟩

/-- Reading takes a message off the stream or finds that there are no more. -/
theorem left_receive
    {audioOut : PullingAudioOut} {h : Handler}
    (hphase : h.phase = .pulling audioOut) {c c' : PlayStreamCall} {got : Bool}
    {request : Option PlayStreamRequest}
    (hread : c.serverRead got = some (request, c')) :
    handlerLeft (receive audioOut h request) + c'.up.pending <
      handlerLeft h + c.up.pending := by
  have hbefore : handlerLeft h = 2 := by
    unfold handlerLeft
    rw [hphase]
  rcases Call.serverRead_cases hread with
    ⟨message, lane, rfl, hpop, rfl⟩ | ⟨rfl, rfl, -⟩
  · have hafter : handlerLeft (receive audioOut h (some message)) = 2 := by
      unfold receive
      simp only
      split
      next =>
        unfold handlerLeft
        rw [hphase]
      next => exact hbefore
    have hpending := Lane.pending_pop hpop
    simp only
    omega
  · have hafter : handlerLeft (receive audioOut h none) = 1 := rfl
    omega

theorem left_client
    {k k' : AudioOutClient.Client} {c c' : PlayStreamCall}
    (halive : c.dead = false) (hopen : c.returned = true → c.halfClosed = true)
    (hinv : ClientInv p o c k) {e : ClientEvent}
    (hnext : AudioOutClient.next p o c k e = some (c', k')) :
    clientLeft k' + c'.up.pending < clientLeft k + c.up.pending := by
  rcases AudioOutClient.next_cases halive hopen hinv hnext with
    ⟨hphase, -, rfl, rfl⟩ | ⟨hphase, hremaining, rfl, rfl⟩ |
      ⟨chunk, remaining, hphase, hremaining, rfl, rfl⟩ |
      ⟨chunk, hphase, -, rfl, rfl⟩ | ⟨hphase, rfl, rfl⟩ |
      ⟨hphase, rfl, phase, hended, rfl⟩
  · simp only [clientLeft, hphase, Lane.pending_push]
    omega
  · simp only [clientLeft, hphase]
    omega
  · simp only [clientLeft, hphase, hremaining, List.length_cons]
    omega
  · simp only [clientLeft, hphase, Lane.pending_push]
    omega
  · simp only [clientLeft, hphase, Call.writesDone]
    omega
  · rcases hended with rfl | ⟨status, rfl⟩
    · simp only [clientLeft, hphase]
      omega
    · simp only [clientLeft, hphase]
      omega

theorem left_server
    {h h' : Handler} {c c' : PlayStreamCall} (halive : c.dead = false)
    {e : ServerEvent}
    (hnext : AudioOutServer.next server o' c h e = some (c', h')) :
    handlerLeft h' + c'.up.pending < handlerLeft h + c.up.pending := by
  rcases AudioOutServer.next_cases halive hnext with
    ⟨hphase, got, request, c₁, hread, heq⟩ |
      ⟨audioOut, got, request, hphase, hread, rfl⟩ | ⟨audioOut, hphase, heq⟩
  · rcases pending_receiveInit server o' c₁ h request with ⟨hup, hleft⟩
    rw [← heq] at hup hleft
    have hbefore : handlerLeft h = 3 := by
      unfold handlerLeft
      rw [hphase]
    have hpending : c₁.up.pending ≤ c.up.pending := by
      rcases Call.serverRead_cases hread with
        ⟨message, lane, -, hpop, rfl⟩ | ⟨-, rfl, -⟩
      · have hpop' := Lane.pending_pop hpop
        simp only
        omega
      · exact le_rfl
    simp only at hup hleft
    rw [hup]
    omega
  · exact left_receive hphase hread
  · rcases pending_conclude audioOut c h with ⟨hup, hleft⟩
    rw [← heq] at hup hleft
    have hbefore : handlerLeft h = 1 := by
      unfold handlerLeft
      rw [hphase]
    simp only at hup hleft
    rw [hup]
    omega

theorem Inv.left_lt
    (hfound : server.resource p.name ≠ none) (hinv : Inv server o o' p s)
    (hstep : QuietStep server o o' p s e s') :
    left s' < left s := by
  rcases hstep with ⟨hquiet, hnext⟩
  unfold left
  cases e with
  | cutOff => exact absurd rfl hquiet
  | client e =>
      rcases Option.map_eq_some_iff.mp hnext with ⟨⟨call, client⟩, hclient, rfl⟩
      have hless := left_client hinv.alive (hinv.halfClosed_of_returned hfound)
        hinv.client hclient
      simp only
      omega
  | server e =>
      rcases Option.map_eq_some_iff.mp hnext with
        ⟨⟨call, handler⟩, hserver, rfl⟩
      have hless := left_server hinv.alive hserver
      simp only
      omega

theorem left_initial
    (p : Playback) : left (initial p) = 3 * p.chunks.length + 8 := by
  have hclient : clientLeft (initial p).client = 3 * p.chunks.length + 5 := rfl
  have hhandler : handlerLeft (initial p).handler = 3 := rfl
  have hpending : (initial p).call.up.pending = 0 := rfl
  unfold left
  rw [hclient, hhandler, hpending]

theorem playsFaithfully_of_found
    (hfound : server.resource p.name ≠ none) :
    PlaysFaithfully server o o' p := by
  intro run hrun
  have hkeep (s : State) (e : Event) (s' : State)
      (hs : Inv server o o' p s) (hstep : QuietStep server o o' p s e s') :
      Inv server o o' p s' := hs.step hfound hstep
  have hcost (s : State) (e : Event) (s' : State)
      (hs : Inv server o o' p s) (hstep : QuietStep server o o' p s e s') :
      left s' < left s := hs.left_lt hfound hstep
  have hinv := hrun.invariant hkeep inv_initial
  have hlength := hrun.length_le hkeep hcost inv_initial
  rw [left_initial] at hlength
  exact ⟨hinv.faithfulSoFar hfound, hlength, hinv.delivered_of_stuck hfound⟩

end System

end PlayStream

end ViamSdk
