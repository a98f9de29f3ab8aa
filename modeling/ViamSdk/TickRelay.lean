import ViamSdk.TickStream

/-!
# Ticks through a chain of calls

What a hop has written and what its caller has heard, as an invariant of its
steps, and what follows from it for the two ends of a chain.
-/

namespace ViamSdk

open StepTrace BidiStream

namespace StreamTicks

open Board BoardV1

/-! ## What has been written -/

variable {call : Call Unit StreamTicksResponse Grpc.Status}
  {upper lower : List Action}

/-- The ticks that the board was let go on with were written to the call, but
for those that it lost when it was dead. -/
structure Wrote (call : Call Unit StreamTicksResponse Grpc.Status)
    (lower : List Action) : Prop where
  sent : ∃ written lost, kept (answers lower) = written ++ lost ∧
    call.down.sent = written.map toResponse ∧
    (call.dead = false ∨ call.terminal ≠ none → lost = [])
  terminal : call.terminal ≠ none → call.returned = true ∧ GoesOn lower
  answered : ∀ status, call.terminal = some status → status.isOk = true →
    .leave (.ok ()) ∈ lower
  told : ¬ GoesOn lower → call.dead = true

theorem wrote_opened : Wrote Call.opened [] where
  sent := ⟨[], [], rfl, rfl, fun _ => rfl⟩
  terminal := fun h => absurd rfl h
  answered := fun _ h => by cases h
  told := fun h => absurd (fun _ hentry => by cases hentry) h

namespace Wrote

theorem terminal_of_open
    (h : Wrote call lower) (hopen : call.returned = false) :
    call.terminal = none := by
  by_contra hterminal
  have hreturned := (h.terminal hterminal).1
  rw [hopen] at hreturned
  cases hreturned

theorem not_readToEnd_of_open
    (h : Wrote call lower) (hopen : call.returned = false) :
    ¬ ReadToEnd call := by
  rintro ⟨status, hterminal, -, -⟩
  rw [h.terminal_of_open hopen] at hterminal
  cases hterminal

/-- The board has done something other than emit. -/
theorem silent
    (h : Wrote call lower) {action : Action}
    (hsilent : answers (lower ++ [action]) = answers lower) :
    Wrote call (lower ++ [action]) := by
  have hgoes : GoesOn (lower ++ [action]) ↔ GoesOn lower := by
    unfold GoesOn
    rw [hsilent]
  constructor
  case sent =>
    rw [hsilent]
    exact h.sent
  case terminal =>
    rw [hgoes]
    exact h.terminal
  case answered =>
    intro status hterminal hok
    exact List.mem_append_left _ (h.answered status hterminal hok)
  case told =>
    rw [hgoes]
    exact h.told

theorem answer
    (h : Wrote call lower) {status : Grpc.Status}
    (hok : status.isOk = true → .leave (.ok ()) ∈ lower) :
    Wrote (call.answer status) lower := by
  obtain ⟨written, lost, hkept, hsent, hlost⟩ := h.sent
  have halive : (call.answer status).terminal ≠ none → call.dead = false := by
    intro hterminal
    by_contra hdead
    rw [Bool.not_eq_false] at hdead
    simp [Call.answer, hdead] at hterminal
  constructor
  case sent =>
    refine ⟨written, lost, hkept, hsent, ?_⟩
    rintro (hdead | hterminal)
    · exact hlost (.inl hdead)
    · exact hlost (.inl (halive hterminal))
  case terminal =>
    intro hterminal
    refine ⟨rfl, ?_⟩
    by_contra hgoes
    have hdead := h.told hgoes
    rw [halive hterminal] at hdead
    cases hdead
  case answered =>
    intro status' hterminal hok'
    unfold Call.answer at hterminal
    simp only at hterminal
    split at hterminal
    next => cases hterminal
    next =>
      cases hterminal
      exact hok hok'
  case told => exact h.told

theorem die (h : Wrote call lower) : Wrote call.die lower := by
  obtain ⟨written, lost, hkept, hsent, hlost⟩ := h.sent
  constructor
  case sent =>
    refine ⟨written, lost, hkept, hsent, ?_⟩
    rintro (hdead | hterminal)
    · cases hdead
    · exact hlost (.inr hterminal)
  case terminal => exact h.terminal
  case answered => exact h.answered
  case told => exact fun _ => rfl

theorem pop
    (h : Wrote call lower) {response : StreamTicksResponse}
    {lane : Lane StreamTicksResponse}
    (hpop : call.down.pop = some (response, lane)) :
    Wrote { call with down := lane } lower := by
  obtain ⟨written, lost, hkept, hsent, hlost⟩ := h.sent
  constructor
  case sent =>
    exact ⟨written, lost, hkept, (Lane.sent_pop hpop).trans hsent, hlost⟩
  case terminal => exact h.terminal
  case answered => exact h.answered
  case told => exact h.told

/-- A tick for a dead call: it is refused, or it is lost. -/
theorem lost
    (h : Wrote call lower) (hopen : call.returned = false)
    (hdead : call.dead = true) (tick : Tick) (answer : Except Exception Bool) :
    Wrote call (lower ++ [.tick tick answer]) := by
  obtain ⟨written, lost, hkept, hsent, -⟩ := h.sent
  have hnone := h.terminal_of_open hopen
  constructor
  case sent =>
    refine ⟨written, lost ++ kept [(tick, answer)], ?_, hsent, ?_⟩
    · rw [answers_tick, kept_append, hkept, List.append_assoc]
    · simp [hdead, hnone]
  case terminal => exact fun hterminal => absurd hnone hterminal
  case answered =>
    intro status hterminal
    rw [hnone] at hterminal
    cases hterminal
  case told => exact fun _ => hdead

theorem written
    (h : Wrote call lower) (hopen : call.returned = false)
    (halive : call.dead = false) (tick : Tick) :
    Wrote { call with down := call.down.push (toResponse tick) }
      (lower ++ [.tick tick (.ok true)]) := by
  obtain ⟨written, lost, hkept, hsent, hlost⟩ := h.sent
  have hnone := h.terminal_of_open hopen
  have hgoes : GoesOn lower := by
    by_contra hgoes
    have hdead := h.told hgoes
    rw [halive] at hdead
    cases hdead
  rw [hlost (.inl halive), List.append_nil] at hkept
  constructor
  case sent =>
    refine ⟨written ++ [tick], [], ?_, ?_, fun _ => rfl⟩
    · rw [answers_tick, kept_append, hkept, List.append_nil]
      rfl
    · rw [Lane.sent_push, hsent, List.map_append]
      rfl
  case terminal => exact fun hterminal => absurd hnone hterminal
  case answered =>
    intro status hterminal
    rw [hnone] at hterminal
    cases hterminal
  case told =>
    intro hnot
    apply absurd _ hnot
    intro entry hentry
    rw [answers_tick] at hentry
    rcases List.mem_append.mp hentry with hold | hnew
    · exact hgoes entry hold
    · rw [List.mem_singleton.mp hnew]

end Wrote

/-! ## What has been heard -/

/-- The handler was called with what the client has read, and how far the client
has got tells what the handler has answered. -/
structure Heard (client : ClientPhase) (received : List StreamTicksResponse)
    (upper : List Action) : Prop where
  handled : (answers upper).map Prod.fst = received.map toTick
  goesOn : client = .idle ∨ client = .reading ∨ client = .finishing false →
    GoesOn upper
  stopped : client = .finishing true → ¬ GoesOn upper
  stops : Stops (answers upper)
  left : ∀ outcome, .leave outcome ∈ upper → client = .left

theorem heard_idle : Heard .idle [] [] where
  handled := rfl
  goesOn := fun _ _ hentry => by cases hentry
  stopped := fun h => by cases h
  stops := fun before _ _ hsplit _ => by
    have hlength := congrArg List.length hsplit
    simp only [answers, List.filterMap_nil, List.length_nil,
      List.length_append, List.length_cons] at hlength
    omega
  left := fun _ hmem => by cases hmem

namespace Heard

variable {client : ClientPhase} {received : List StreamTicksResponse}

theorem not_left
    (h : Heard client received upper) (hclient : client ≠ .left)
    (outcome : Except Exception Unit) :
    .leave outcome ∉ upper := fun hmem => hclient (h.left outcome hmem)

theorem ask
    (h : Heard .idle received upper) (pins : List Str) (extra : ProtoStruct) :
    Heard .reading received (upper ++ [.ask pins extra]) := by
  have hgoes : GoesOn (upper ++ [.ask pins extra]) := by
    unfold GoesOn
    rw [answers_ask]
    exact h.goesOn (.inl rfl)
  constructor
  case handled => rw [answers_ask, h.handled]
  case goesOn => exact fun _ => hgoes
  case stopped => exact fun hphase => by cases hphase
  case stops =>
    rw [answers_ask]
    exact h.stops
  case left =>
    intro outcome hmem
    rcases List.mem_append.mp hmem with hold | hnew
    · exact absurd hold (h.not_left (by simp) outcome)
    · simp at hnew

theorem ended
    (h : Heard .reading received upper) :
    Heard (.finishing false) received upper where
  handled := h.handled
  goesOn := fun _ => h.goesOn (.inr (.inl rfl))
  stopped := fun hphase => by cases hphase
  stops := h.stops
  left := fun outcome hmem => by cases h.left outcome hmem

theorem finished
    {cancelledByHandler : Bool}
    (h : Heard (.finishing cancelledByHandler) received upper)
    (outcome : Except Exception Unit) :
    Heard (.leaving outcome) received upper where
  handled := h.handled
  goesOn := fun hphase => by rcases hphase with h | h | h <;> cases h
  stopped := fun hphase => by cases hphase
  stops := h.stops
  left := fun outcome' hmem => by cases h.left outcome' hmem

theorem leave
    {outcome : Except Exception Unit}
    (h : Heard (.leaving outcome) received upper) :
    Heard .left received (upper ++ [.leave outcome]) where
  handled := by rw [answers_leave, h.handled]
  goesOn := fun hphase => by rcases hphase with h | h | h <;> cases h
  stopped := fun hphase => by cases hphase
  stops := by
    rw [answers_leave]
    exact h.stops
  left := fun _ _ => rfl

/-- The handler is called once more, and its answer decides how the client goes
on. -/
theorem read
    (h : Heard .reading received upper) (response : StreamTicksResponse)
    {answer : Except Exception Bool} {client' : ClientPhase}
    (hnext : (answer = .ok true ∧ client' = .reading) ∨
      (answer ≠ .ok true ∧
        (client' = .finishing true ∨ ∃ outcome, client' = .leaving outcome))) :
    Heard client' (received ++ [response])
      (upper ++ [.tick (toTick response) answer]) := by
  have hgoes := h.goesOn (.inr (.inl rfl))
  constructor
  case handled =>
    rw [answers_tick, List.map_append, List.map_append, h.handled]
    rfl
  case goesOn =>
    intro hphase entry hentry
    rw [answers_tick] at hentry
    rcases List.mem_append.mp hentry with hold | hnew
    · exact hgoes entry hold
    · rw [List.mem_singleton.mp hnew]
      rcases hnext with ⟨hanswer, -⟩ | ⟨-, hclient | ⟨outcome, hclient⟩⟩
      · exact hanswer
      · simp [hclient] at hphase
      · simp [hclient] at hphase
  case stopped =>
    intro hphase hall
    have hlast := hall (toTick response, answer) (by simp)
    rcases hnext with ⟨-, hclient⟩ | ⟨hstop, -⟩
    · rw [hclient] at hphase
      cases hphase
    · exact hstop hlast
  case stops =>
    rw [answers_tick]
    exact stops_concat_of_goesOn hgoes _
  case left =>
    intro outcome hmem
    rcases List.mem_append.mp hmem with hold | hnew
    · exact absurd hold (h.not_left (by simp) outcome)
    · simp at hnew

end Heard

/-! ## The invariant of a hop -/

structure Inv (s : Hop) (upper lower : List Action) : Prop where
  wrote : Wrote s.call lower
  heard : Heard s.client s.call.down.received upper
  requested : ∀ request, s.request = some request →
    AskedFor upper request.pinNames
      (ServiceHelper.getExtra s.serverArrangement request.extra)
  asked : ∀ pins extra, .ask pins extra ∈ lower → AskedFor upper pins extra
  complete : s.client = .leaving (.ok ()) ∨
      (s.client = .left ∧ .leave (.ok ()) ∈ upper) →
    GoesOn upper → ReadToEnd s.call

/-- While the handler of the server may still act, the client has not finished
but by the word of its own handler. -/
theorem Inv.not_finished
    {s : Hop} (h : Inv s upper lower) (hopen : s.call.returned = false)
    (hfinished : s.client = .leaving (.ok ()) ∨
      (s.client = .left ∧ .leave (.ok ()) ∈ upper)) :
    ¬ GoesOn upper :=
  fun hgoes =>
    h.wrote.not_readToEnd_of_open hopen (h.complete hfinished hgoes)

def Hop.Fresh (s : Hop) : Prop :=
  ∃ name clientArrangement serverArrangement,
    s = fresh name clientArrangement serverArrangement

theorem inv_fresh
    (name : Str) (o o' : Arrangement) : Inv (Hop.fresh name o o') [] [] where
  wrote := wrote_opened
  heard := heard_idle
  requested := fun _ hrequest => by cases hrequest
  asked := fun _ _ hmem => by cases hmem
  complete := fun hfinished => by
    rcases hfinished with hphase | ⟨hphase, -⟩ <;> cases hphase

theorem AskedFor.append
    {pins : List Str} {extra : ProtoStruct} (h : AskedFor upper pins extra)
    (action : Action) :
    AskedFor (upper ++ [action]) pins extra := by
  obtain ⟨extra', hmem, hsame⟩ := h
  exact ⟨extra', List.mem_append_left _ hmem, hsame⟩

namespace Inv

variable {s s' : Hop}

theorem ask
    (h : Inv s upper lower) {pins : List Str} {extra : ProtoStruct}
    (hstep : s.ask pins extra = some s') :
    Inv s' (upper ++ [.ask pins extra]) lower := by
  obtain ⟨hidle, rfl⟩ := ask_cases hstep
  have hheard := h.heard
  rw [hidle] at hheard
  constructor
  case wrote => exact h.wrote
  case heard => exact hheard.ask pins extra
  case requested =>
    intro request hrequest
    cases hrequest
    exact ⟨extra, List.mem_append_right _ List.mem_cons_self,
      ProtoStruct.same_fromProto_toProto _ _ extra⟩
  case asked => exact fun pins' extra' hmem => (h.asked _ _ hmem).append _
  case complete => simp

/-- What follows an answer of the handler that does not let it go on. -/
theorem interrupted
    (h : Inv s upper lower) (hreading : s.client = .reading)
    {response : StreamTicksResponse} {lane : Lane StreamTicksResponse}
    (hpop : s.call.down.pop = some (response, lane))
    {answer : Except Exception Bool} (hstop : answer ≠ .ok true)
    {client : ClientPhase}
    (hclient : client = .finishing true ∨ ∃ e, client = .leaving (.error e)) :
    Inv { s with call := Call.die { s.call with down := lane }, client }
      (upper ++ [.tick (toTick response) answer]) lower := by
  have hheard := h.heard
  rw [hreading] at hheard
  constructor
  case wrote => exact (h.wrote.pop hpop).die
  case heard =>
    change Heard client lane.received _
    rw [Lane.received_pop hpop]
    apply hheard.read response
    rcases hclient with hphase | ⟨e, hphase⟩
    · exact .inr ⟨hstop, .inl hphase⟩
    · exact .inr ⟨hstop, .inr ⟨_, hphase⟩⟩
  case requested =>
    exact fun request hrequest => (h.requested request hrequest).append _
  case asked => exact fun pins extra hmem => (h.asked _ _ hmem).append _
  case complete =>
    rcases hclient with rfl | ⟨e, rfl⟩
    · simp
    · simp

theorem read
    (h : Inv s upper lower) {tick : Tick} {answer : Except Exception Bool}
    (hstep : s.read answer = some (tick, s')) :
    Inv s' (upper ++ [.tick tick answer]) lower := by
  obtain ⟨response, lane, hreading, hpop, rfl, rfl⟩ := read_cases hstep
  unfold Hop.afterHandler
  split
  next =>
    have hheard := h.heard
    rw [hreading] at hheard
    constructor
    case wrote => exact h.wrote.pop hpop
    case heard =>
      change Heard s.client lane.received _
      rw [Lane.received_pop hpop, hreading]
      exact hheard.read response (.inl ⟨rfl, rfl⟩)
    case requested =>
      exact fun request hrequest => (h.requested request hrequest).append _
    case asked => exact fun pins extra hmem => (h.asked _ _ hmem).append _
    case complete => simp [hreading]
  next => exact h.interrupted hreading hpop (by simp) (.inl rfl)
  next e => exact h.interrupted hreading hpop (by simp) (.inr ⟨e, rfl⟩)

theorem leave
    (h : Inv s upper lower) {outcome : Except Exception Unit}
    (hstep : s.leave = some (outcome, s')) :
    Inv s' (upper ++ [.leave outcome]) lower := by
  obtain ⟨hleaving, rfl⟩ := leave_cases hstep
  have hheard := h.heard
  rw [hleaving] at hheard
  constructor
  case wrote => exact h.wrote
  case heard => exact hheard.leave
  case requested =>
    exact fun request hrequest => (h.requested request hrequest).append _
  case asked => exact fun pins extra hmem => (h.asked _ _ hmem).append _
  case complete =>
    intro hfinished hgoes
    have hgoes' : GoesOn upper := by
      unfold GoesOn at hgoes
      rwa [answers_leave] at hgoes
    apply h.complete _ hgoes'
    left
    rcases hfinished with hphase | ⟨-, hmem⟩
    · cases hphase
    · rcases List.mem_append.mp hmem with hold | hnew
      · exact absurd hold (hheard.not_left (by simp) _)
      · rw [hleaving]
        simp only [List.mem_singleton, Action.leave.injEq] at hnew
        rw [hnew]

theorem serve
    (h : Inv s upper lower) {pins : List Str} {extra : ProtoStruct}
    (hstep : s.serve = some (pins, extra, s')) :
    Inv s' upper (lower ++ [.ask pins extra]) := by
  obtain ⟨request, hrequest, rfl, rfl, rfl⟩ := serve_cases hstep
  constructor
  case wrote => exact h.wrote.silent (answers_ask lower _ _)
  case heard => exact h.heard
  case requested => exact h.requested
  case asked =>
    intro pins extra hmem
    rcases List.mem_append.mp hmem with hold | hnew
    · exact h.asked pins extra hold
    · simp only [List.mem_singleton, Action.ask.injEq] at hnew
      rw [hnew.1, hnew.2]
      exact h.requested request hrequest
  case complete => exact h.complete

theorem writeTick
    (h : Inv s upper lower) {tick : Tick} {seesCancelled goesOn : Bool}
    (hstep : s.writeTick tick seesCancelled = some (goesOn, s')) :
    Inv s' upper (lower ++ [.tick tick (.ok goesOn)]) := by
  have hasked : ∀ pins extra,
      .ask pins extra ∈ lower ++ [.tick tick (.ok goesOn)] →
        AskedFor upper pins extra := by
    intro pins extra hmem
    rcases List.mem_append.mp hmem with hold | hnew
    · exact h.asked pins extra hold
    · simp at hnew
  obtain ⟨hopen, ⟨hdead, rfl⟩ | ⟨rfl, halive, rfl⟩⟩ := writeTick_cases hstep
  · constructor
    case wrote => exact h.wrote.lost hopen hdead tick _
    case heard => exact h.heard
    case requested => exact h.requested
    case asked => exact hasked
    case complete => exact h.complete
  · constructor
    case wrote => exact h.wrote.written hopen halive tick
    case heard =>
      change Heard s.client (s.call.down.push _).received upper
      rw [Lane.received_push]
      exact h.heard
    case requested => exact h.requested
    case asked => exact hasked
    case complete =>
      exact fun hfinished hgoes => absurd hgoes (h.not_finished hopen hfinished)

/-- The call is answered, after what the board has done last. -/
theorem answered
    (h : Inv s upper lower) (hopen : s.call.returned = false)
    {lower' : List Action} (hwrote : Wrote s.call lower')
    (hasked : ∀ pins extra, .ask pins extra ∈ lower' → .ask pins extra ∈ lower)
    {status : Grpc.Status}
    (hok : status.isOk = true → .leave (.ok ()) ∈ lower') :
    Inv { s with call := s.call.answer status } upper lower' where
  wrote := hwrote.answer hok
  heard := h.heard
  requested := h.requested
  asked := fun pins extra hmem => h.asked pins extra (hasked pins extra hmem)
  complete := fun hfinished hgoes =>
    absurd hgoes (h.not_finished hopen hfinished)

theorem answer
    (h : Inv s upper lower) {outcome : Except Exception Unit}
    (hstep : s.answer outcome = some s') :
    Inv s' upper (lower ++ [.leave outcome]) := by
  obtain ⟨hopen, status, hok, rfl⟩ := answer_cases hstep
  apply h.answered hopen (h.wrote.silent (answers_leave lower outcome))
  · intro pins extra hmem
    rcases List.mem_append.mp hmem with hold | hnew
    · exact hold
    · simp at hnew
  · intro hgood
    rw [hok hgood]
    exact List.mem_append_right _ List.mem_cons_self

theorem resourceMissing
    (h : Inv s upper lower) (hstep : s.resourceMissing = some s') :
    Inv s' upper lower := by
  obtain ⟨hopen, status, hbad, rfl⟩ := resourceMissing_cases hstep
  apply h.answered hopen h.wrote fun _ _ hmem => hmem
  intro hgood
  rw [hbad] at hgood
  cases hgood

theorem die
    (h : Inv s upper lower) :
    Inv { s with call := s.call.die } upper lower where
  wrote := h.wrote.die
  heard := h.heard
  requested := h.requested
  asked := h.asked
  complete := h.complete

theorem readFails
    (h : Inv s upper lower) (hstep : s.readFails = some s') :
    Inv s' upper lower := by
  obtain ⟨hreading, rfl⟩ := readFails_cases hstep
  have hheard := h.heard
  rw [hreading] at hheard
  exact
    { h with
      heard := hheard.ended
      complete := by simp }

theorem finish
    (h : Inv s upper lower) {status : Grpc.Status}
    (hstep : s.finish status = some s') :
    Inv s' upper lower := by
  obtain ⟨cancelledByHandler, hfinishing, hcases⟩ := finish_cases hstep
  have hheard := h.heard
  rw [hfinishing] at hheard
  rcases hcases with ⟨rfl, hend⟩ | ⟨e, rfl⟩
  · constructor
    case wrote => exact h.wrote
    case heard => exact hheard.finished _
    case requested => exact h.requested
    case asked => exact h.asked
    case complete =>
      intro _ hgoes
      rcases hend with rfl | hend
      · exact absurd hgoes (hheard.stopped rfl)
      · exact hend
  · exact
      { h with
        heard := hheard.finished _
        complete := by simp }

end Inv

/-- The step lemma. -/
theorem keeps_inv :
    LinkedChain.Component.Keeps Hop.component (fun _ => True) Inv where
  above := by
    intro s s' action upper lower h hstep
    cases action with
    | ask pins extra => exact h.ask hstep
    | tick tick answer => exact h.read hstep
    | leave outcome => exact h.leave hstep
  below := by
    intro s s' action upper lower h hstep
    cases action with
    | ask pins extra => exact h.serve hstep
    | tick tick answer =>
        obtain ⟨goesOn, seesCancelled, rfl, hstep⟩ := hstep
        exact h.writeTick hstep
    | leave outcome => exact h.answer hstep
  inside := by
    intro s s' event upper lower h _ hstep
    cases event with
    | resourceMissing => exact h.resourceMissing hstep
    | transportBreaks =>
        cases hstep
        exact h.die
    | readFails => exact h.readFails hstep
    | finish status => exact h.finish hstep

theorem Inv.relayed
    {s : Hop} (h : Inv s upper lower) : Relayed upper lower := by
  obtain ⟨written, lost, hkept, hsent, hlost⟩ := h.wrote.sent
  have harrives : toTick ∘ toResponse = id := funext toTick_toResponse
  constructor
  case asked => exact h.asked
  case handled =>
    rw [h.heard.handled, Lane.received, hsent, ← List.map_take, List.map_map,
      harrives, List.map_id, hkept]
    have htaken := List.take_prefix s.call.down.taken written
    exact htaken.trans (List.prefix_append written lost)
  case stops => exact h.heard.stops
  case complete =>
    intro hleft hgoes
    obtain ⟨status, hterminal, hok, hdrained⟩ :=
      h.complete (.inr ⟨h.heard.left _ hleft, hleft⟩) hgoes
    have hsome : s.call.terminal ≠ none := by simp [hterminal]
    have hgoes' := (h.wrote.terminal hsome).2
    refine ⟨h.wrote.answered status hterminal hok, hgoes', ?_⟩
    rw [← kept_of_goesOn hgoes', hkept, hlost (.inr hsome), List.append_nil,
      h.heard.handled, Lane.received_of_drained hdrained, hsent, List.map_map,
      harrives, List.map_id]

/-! ### While no connection breaks -/

theorem GoesOn.of_append
    {action : Action} (h : GoesOn (upper ++ [action])) : GoesOn upper := by
  intro entry hentry
  apply h entry
  rw [answers_append]
  exact List.mem_append_left _ hentry

/-- A call that is dead was cancelled by the word of the handler. -/
structure Unbroken (s : Hop) (upper lower : List Action) : Prop where
  inv : Inv s upper lower
  cancelled : s.call.dead = true → ¬ GoesOn upper

theorem Unbroken.read
    {s s' : Hop} (h : Unbroken s upper lower) {tick : Tick}
    {answer : Except Exception Bool} (hstep : s.read answer = some (tick, s')) :
    Unbroken s' (upper ++ [.tick tick answer]) lower := by
  refine ⟨h.inv.read hstep, ?_⟩
  obtain ⟨response, lane, -, -, rfl, rfl⟩ := read_cases hstep
  intro hdead hgoes
  have hlast := hgoes (toTick response, answer) (by simp)
  simp only at hlast
  subst hlast
  exact h.cancelled hdead hgoes.of_append

theorem keeps_unbroken :
    LinkedChain.Component.Keeps Hop.component (· ≠ .transportBreaks)
      Unbroken where
  above := by
    intro s s' action upper lower h hstep
    cases action with
    | ask pins extra =>
        refine ⟨h.inv.ask hstep, ?_⟩
        obtain ⟨-, rfl⟩ := ask_cases hstep
        exact fun hdead hgoes => h.cancelled hdead hgoes.of_append
    | tick tick answer => exact h.read hstep
    | leave outcome =>
        refine ⟨h.inv.leave hstep, ?_⟩
        obtain ⟨-, rfl⟩ := leave_cases hstep
        exact fun hdead hgoes => h.cancelled hdead hgoes.of_append
  below := by
    intro s s' action upper lower h hstep
    refine ⟨keeps_inv.below h.inv hstep, ?_⟩
    cases action with
    | ask pins extra =>
        obtain ⟨request, -, -, -, rfl⟩ := serve_cases hstep
        exact h.cancelled
    | tick tick answer =>
        obtain ⟨goesOn, seesCancelled, -, hwrite⟩ := hstep
        obtain ⟨-, ⟨-, rfl⟩ | ⟨-, -, rfl⟩⟩ := writeTick_cases hwrite
        · exact h.cancelled
        · exact h.cancelled
    | leave outcome =>
        obtain ⟨-, status, -, rfl⟩ := answer_cases hstep
        exact h.cancelled
  inside := by
    intro s s' event upper lower h hunbroken hstep
    refine ⟨keeps_inv.inside h.inv trivial hstep, ?_⟩
    cases event with
    | resourceMissing =>
        obtain ⟨-, status, -, rfl⟩ := resourceMissing_cases hstep
        exact h.cancelled
    | transportBreaks => exact absurd rfl hunbroken
    | readFails =>
        obtain ⟨-, rfl⟩ := readFails_cases hstep
        exact h.cancelled
    | finish status =>
        obtain ⟨cancelledByHandler, -, ⟨rfl, -⟩ | ⟨e, rfl⟩⟩ :=
          finish_cases hstep
        · exact h.cancelled
        · exact h.cancelled

/-- The board is told to stop only by the word of the caller. -/
theorem Unbroken.goesOn
    {s : Hop} (h : Unbroken s upper lower) (hgoes : GoesOn upper) :
    GoesOn lower := by
  by_contra hnot
  exact h.cancelled (h.inv.wrote.told hnot) hgoes

/-! ## Runs -/

def nearHop : Hop := .fresh "near".toList .inPlace .inPlace

def farHop : Hop := .fresh "far".toList .inPlace .inPlace

namespace Hop

/-- The hop once it has been asked for a pin. -/
def asked (s : Hop) : Hop :=
  { s with
    client := .reading
    request := some ⟨s.name, ["d1".toList], some .empty⟩ }

/-- The hop once it has passed the question on, with what is in its stream. -/
def streaming (s : Hop) (down : Lane StreamTicksResponse) : Hop :=
  { s.asked with serving := true, call := { s.call with down } }

/-- The board has returned, and the client has got so far with that. -/
def answered (s : Hop) (client : ClientPhase) : Hop :=
  { s with call := s.call.answer ⟨.ok, []⟩, client }

end Hop

def pinUp : Tick := ⟨"d1".toList, -5, true⟩

/-- A tick that is on its way, and one that has been read. -/
def written : Lane StreamTicksResponse := ⟨[toResponse pinUp], 0, by decide⟩

def readOnce : Lane StreamTicksResponse := ⟨[toResponse pinUp], 1, by decide⟩

/-- A hop that the tick has come through. -/
def nearRead : Hop := nearHop.streaming readOnce

def farRead : Hop := farHop.streaming readOnce

/-- A tick comes through two calls, and then both return. -/
def twoHops : List (Event × List Hop) :=
  [(.above (.ask ["d1".toList] .empty), [nearHop.asked, farHop]),
    (.between (.ask ["d1".toList] .empty),
      [nearHop.streaming .empty, farHop.asked]),
    (.below (.ask ["d1".toList] .empty),
      [nearHop.streaming .empty, farHop.streaming .empty]),
    (.below (.tick pinUp (.ok true)),
      [nearHop.streaming .empty, farHop.streaming written]),
    (.between (.tick pinUp (.ok true)), [nearHop.streaming written, farRead]),
    (.above (.tick pinUp (.ok true)), [nearRead, farRead]),
    (.below (.leave (.ok ())), [nearRead, farRead.answered .reading]),
    (.inside .readFails, [nearRead, farRead.answered (.finishing false)]),
    (.inside (.finish ⟨.ok, []⟩),
      [nearRead, farRead.answered (.leaving (.ok ()))]),
    (.between (.leave (.ok ())),
      [nearRead.answered .reading, farRead.answered .left]),
    (.inside .readFails,
      [nearRead.answered (.finishing false), farRead.answered .left]),
    (.inside (.finish ⟨.ok, []⟩),
      [nearRead.answered (.leaving (.ok ())), farRead.answered .left]),
    (.above (.leave (.ok ())),
      [nearRead.answered .left, farRead.answered .left])]

theorem isRun_twoHops : IsRun Step [nearHop, farHop] twoHops := by
  apply IsRun.cons (.first _ rfl)
  apply IsRun.cons (.between _ rfl rfl)
  apply IsRun.cons (.further _ rfl (.last rfl))
  apply IsRun.cons (.further _ rfl (.last ⟨true, false, rfl, rfl⟩))
  apply IsRun.cons (.between _ ⟨true, false, rfl, rfl⟩ rfl)
  apply IsRun.cons (.first _ rfl)
  apply IsRun.cons (.further _ rfl (.last rfl))
  apply IsRun.cons (.further _ rfl (.inside _ rfl))
  apply IsRun.cons (.further _ rfl (.inside _ rfl))
  apply IsRun.cons (.between _ rfl rfl)
  apply IsRun.cons (.inside _ rfl)
  apply IsRun.cons (.inside _ rfl)
  apply IsRun.cons (.first _ rfl)
  exact IsRun.nil _

/-- Through any number of calls, whatever the board, the caller and the
connections do, the caller gets the ticks of the board, and while no connection
breaks the board is told to stop by the caller alone. -/
theorem ticks_relayed
    {chain : List Hop} (hchain : chain ≠ []) (hfresh : ∀ s ∈ chain, s.Fresh)
    {run : List (Event × List Hop)} (hrun : IsRun Step chain run) :
    Relayed (LinkedChain.doneAbove run) (LinkedChain.doneBelow run) ∧
      ((∀ entry ∈ run, entry.1 ≠ .inside .transportBreaks) →
        GoesOn (LinkedChain.doneAbove run) →
          GoesOn (LinkedChain.doneBelow run)) := by
  have hinv : ∀ s ∈ chain, Inv s [] [] := by
    intro s hs
    obtain ⟨name, o, o', rfl⟩ := hfresh s hs
    exact inv_fresh name o o'
  have hcancelled : ∀ s ∈ chain, Unbroken s [] [] := by
    intro s hs
    refine ⟨hinv s hs, ?_⟩
    obtain ⟨name, o, o', rfl⟩ := hfresh s hs
    intro hdead
    cases hdead
  constructor
  · exact LinkedChain.ends_of_run (T := Relayed) keeps_inv Relayed.trans
      Inv.relayed hchain hinv hrun fun _ _ _ _ => trivial
  · intro hunbroken
    apply LinkedChain.ends_of_run
      (T := fun upper lower => GoesOn upper → GoesOn lower) keeps_unbroken
      (fun h h' hgoes => h' (h hgoes)) Unbroken.goesOn hchain hcancelled hrun
    intro entry hentry event hevent hbreaks
    rw [hbreaks] at hevent
    exact hunbroken entry hentry hevent

theorem ticks_relayed_twoHops :
    (answers (LinkedChain.doneAbove twoHops)).map Prod.fst = [pinUp] ∧
      (answers (LinkedChain.doneBelow twoHops)).map Prod.fst = [pinUp] ∧
      .leave (.ok ()) ∈ LinkedChain.doneBelow twoHops := by
  have hfresh : ∀ s ∈ [nearHop, farHop], s.Fresh := by
    intro s hs
    rcases List.mem_cons.mp hs with rfl | hs
    · exact ⟨_, _, _, rfl⟩
    · rw [List.mem_singleton.mp hs]
      exact ⟨_, _, _, rfl⟩
  have hrelayed := (ticks_relayed (by simp) hfresh isRun_twoHops).1
  have hgoes : GoesOn (LinkedChain.doneAbove twoHops) := by
    intro entry hentry
    rw [List.mem_singleton.mp hentry]
  have hleft : .leave (.ok ()) ∈ LinkedChain.doneAbove twoHops :=
    .tail _ (.tail _ (.head _))
  obtain ⟨hbelow, -, hsame⟩ := hrelayed.complete hleft hgoes
  exact ⟨rfl, hsame.symm.trans rfl, hbelow⟩

end StreamTicks

end ViamSdk
