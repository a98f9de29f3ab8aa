import ViamSdk.StreamOutcome

/-!
# A streamed trajectory, end to end

A client that reports completion has seen an OK status, so the handler
answered a call that was alive and whose end it had been told of.  It had then
taken every message, and the client had closed its side only after the last
batch.  A write that fails says that the call is over before that point, which
rules an OK status out for good.
-/

namespace ViamSdk
namespace ArmClient

open StepTrace BidiStream ArmServer

def SystemEvent.sourceOutcome : SystemEvent → List SourceOutcome
  | .client (.batchSource outcome) => [outcome]
  | _ => []

/-- What a source yields that has these batches and then ends. -/
def yields (batches : List (List TrajectoryPoint)) : List SourceOutcome :=
  batches.map fun batch => .ok (some batch)

def Sent (name : Str) (c : StreamedCall)
    (batches : List (List TrajectoryPoint)) : Prop :=
  c.up.sent = Client.initMessage name :: batches.map Client.batchMessage

/-- The source came to its end, and all its batches were sent. -/
def Whole (name : Str) (c : StreamedCall) (k : Client) : Prop :=
  ∃ batches, k.pulled = yields batches ++ [.ok none] ∧ Sent name c batches

/-- The call is over, and its status will not be OK. -/
def Failed (c : StreamedCall) : Prop :=
  (c.dead = true ∨ c.returned = true) ∧
    ∀ status, c.terminal = some status → status.isOk = false

/-- The implementation was handed all that the source yielded. -/
structure Delivered {arm : Arm} (k : Client) (h : Handler arm) : Prop where
  points : ∃ batches, k.pulled = yields batches ++ [.ok none] ∧
    h.handed.flatten = batches.flatten
  returned : ∃ status, h.phase = .returned status

/-- What has been pulled and sent, by where the caller's thread is. -/
def WriterInv {arm : Arm} (name : Str) (c : StreamedCall) (k : Client)
    (h : Handler arm) : Prop :=
  match k.writer with
  | .init => k.pulled = [] ∧ c.up.sent = [] ∧ c.halfClosed = false
  | .reaping => True
  | .pulling => c.halfClosed = false ∧
      ∃ batches, k.pulled = yields batches ∧ Sent name c batches
  | .writing batch => c.halfClosed = false ∧
      ∃ batches, k.pulled = yields (batches ++ [batch]) ∧ Sent name c batches
  | .closing => c.halfClosed = false ∧ (Whole name c k ∨ Failed c)
  | .cancelling => k.writerException ≠ none
  | .joining | .finishing => k.writerException = none →
      Whole name c k ∨ Failed c
  | .left result => result = .completed → Delivered k h

theorem decoded_toProto
    (batch : List TrajectoryPoint) :
    decoded (batch.map TrajectoryPoint.toProto) = batch := by
  unfold decoded
  rw [List.filterMap_map]
  have hsome :
      TrajectoryPoint.fromProtoChecked ∘ TrajectoryPoint.toProto = some := by
    funext point
    exact TrajectoryPoint.fromProtoChecked_toProto point
  rw [hsome, List.filterMap_some]

theorem pointsOf_batchMessages
    (batches : List (List TrajectoryPoint)) :
    pointsOf (batches.map Client.batchMessage) = batches.flatten := by
  induction batches with
  | nil => rfl
  | cons batch batches ih =>
      have hcons : pointsOf ((batch :: batches).map Client.batchMessage) =
          pointsOf [Client.batchMessage batch] ++
            pointsOf (batches.map Client.batchMessage) := by
        rw [← pointsOf_append]
        rfl
      have hbatch : pointsOf [Client.batchMessage batch] = batch := by
        rw [pointsOf_singleton]
        exact decoded_toProto batch
      rw [hcons, hbatch, ih, List.flatten_cons]

section Preservation

variable {name : Str} {found : Str → Bool} {arm : Arm} {c c' : StreamedCall}
  {k k' : Client} {h h' : Handler arm}

/-- The call cannot have been answered with OK before the client closed its
side. -/
theorem failed_of_over
    (hpulls : arm.PullsUntilNone) (hinv : HandlerInv found arm c h)
    (hopen : c.halfClosed = false)
    (hover : c.dead = true ∨ c.returned = true) :
    Failed c := by
  refine ⟨hover, ?_⟩
  intro status hterminal
  apply Bool.eq_false_iff.mpr
  intro hok
  have hclosed := ((hinv.terminal status hterminal).2 hpulls hok).1
  rw [hopen] at hclosed
  cases hclosed

theorem Failed.clientMove
    (hfailed : Failed c) (hmove : Call.ClientMove c c') :
    Failed c' := by
  constructor
  · rw [hmove.returned]
    exact hfailed.1.imp_left hmove.dead
  · rw [hmove.terminal]
    exact hfailed.2

theorem Failed.serverMove
    (hfailed : Failed c) (hinv : HandlerInv found arm c h)
    (hmove : Call.ServerMove c c')
    (hphase : ∀ status, h.phase ≠ .returned status) :
    Failed c' := by
  -- The handler has not returned, so the call is dead.
  have hdead : c.dead = true := by
    rcases hfailed.1 with hdead | hreturned
    · exact hdead
    · rcases hinv.returned.mp hreturned with ⟨status, h⟩
      exact absurd h (hphase status)
  constructor
  · rw [hmove.dead]
    exact Or.inl hdead
  · intro status hterminal
    rcases hmove.status with ⟨hsame, -⟩ | ⟨-, hnone⟩
    · rw [hsame] at hterminal
      exact hfailed.2 status hterminal
    · rw [hnone hdead] at hterminal
      cases hterminal

/-- A change that leaves the writer and what it has sent alone. -/
theorem WriterInv.transfer
    (hinv : WriterInv name c k h) (hwriter : k'.writer = k.writer)
    (hpulled : k'.pulled = k.pulled)
    (hexception : k'.writerException = k.writerException)
    (hsent : c'.up.sent = c.up.sent)
    (hclosed : c'.halfClosed = c.halfClosed)
    (hfailed : Failed c → Failed c')
    (hhandler : ∀ result, k.writer = .left result → Delivered k h →
      Delivered k' h') :
    WriterInv name c' k' h' := by
  have hsentAll : ∀ batches, Sent name c batches → Sent name c' batches := by
    intro batches hbatches
    unfold Sent
    rw [hsent]
    exact hbatches
  have hover : Whole name c k ∨ Failed c → Whole name c' k' ∨ Failed c' := by
    intro hor
    rcases hor with ⟨batches, hpulled', hbatches⟩ | hfailed'
    · left
      rw [← hpulled] at hpulled'
      exact ⟨batches, hpulled', hsentAll batches hbatches⟩
    · exact Or.inr (hfailed hfailed')
  unfold WriterInv at hinv ⊢
  rw [hwriter]
  cases hk : k.writer with
  | init =>
      simp only [hk] at hinv ⊢
      rw [hpulled, hsent, hclosed]
      exact hinv
  | reaping => trivial
  | pulling =>
      simp only [hk] at hinv ⊢
      rcases hinv with ⟨hopen, batches, hyields, hbatches⟩
      rw [hclosed, hpulled]
      exact ⟨hopen, batches, hyields, hsentAll batches hbatches⟩
  | writing batch =>
      simp only [hk] at hinv ⊢
      rcases hinv with ⟨hopen, batches, hyields, hbatches⟩
      rw [hclosed, hpulled]
      exact ⟨hopen, batches, hyields, hsentAll batches hbatches⟩
  | closing =>
      simp only [hk] at hinv ⊢
      rw [hclosed]
      exact ⟨hinv.1, hover hinv.2⟩
  | cancelling =>
      simp only [hk] at hinv ⊢
      rw [hexception]
      exact hinv
  | joining =>
      simp only [hk] at hinv ⊢
      rw [hexception]
      exact fun hnone => hover (hinv hnone)
  | finishing =>
      simp only [hk] at hinv ⊢
      rw [hexception]
      exact fun hnone => hover (hinv hnone)
  | left result =>
      simp only [hk] at hinv ⊢
      exact fun hresult => hhandler result hk (hinv hresult)

theorem WriterInv.serverStep
    {e : ServerEvent} (hwriter : WriterInv name c k h)
    (hinv : HandlerInv found arm c h)
    (hnext : ArmServer.next found c h e = some (c', h')) :
    WriterInv name c' k h' := by
  rcases serverMove_next hnext with ⟨hmove, hphase⟩
  apply hwriter.transfer rfl rfl rfl hmove.sent hmove.halfClosed
  · intro hfailed
    exact hfailed.serverMove hinv hmove hphase
  · intro result _ hdelivered
    rcases hdelivered.returned with ⟨status, hreturned⟩
    exact absurd hreturned (hphase status)

theorem WriterInv.dies
    (hwriter : WriterInv name c k h) :
    WriterInv name c.die k h :=
  hwriter.transfer rfl rfl rfl rfl rfl
    (fun hfailed => hfailed.clientMove (Call.clientMove_die c))
    fun _ _ hdelivered => hdelivered

theorem decideResult_completed
    {status : Grpc.Status} (h : k.decideResult status = .completed) :
    k.writerException = none ∧ status.isOk = true := by
  unfold Client.decideResult at h
  cases hwriter : k.writerException with
  | some e =>
      rw [hwriter] at h
      cases h
  | none =>
      rw [hwriter] at h
      simp only at h
      split at h
      next => cases h
      next =>
        split at h
        next => cases h
        next =>
          split at h
          next => cases h
          next hok => exact ⟨rfl, by simpa using hok⟩

/-- An OK status comes from a handler that has read the call to its end. -/
theorem delivered_of_ok
    (hpulls : arm.PullsUntilNone) (hinv : HandlerInv found arm c h)
    (hwhole : Whole name c k ∨ Failed c) {status : Grpc.Status}
    (hfinish : c.MayFinish Grpc.Status.isOk status)
    (hok : status.isOk = true) :
    Delivered k h := by
  have hterminal := Call.ok_of_mayFinish hfinish hok
  rcases hinv.terminal status hterminal with ⟨hphase, hclosed⟩
  rcases hclosed hpulls hok with ⟨-, hdrained⟩
  rcases hwhole with ⟨batches, hpulled, hsent⟩ | hfailed
  · refine ⟨⟨batches, hpulled, ?_⟩, ⟨status, hphase⟩⟩
    have hrejected : h.rejectedAt = none := by
      cases hrejected : h.rejectedAt with
      | none => rfl
      | some i =>
          rcases (hinv.rejected i hrejected).answer with ⟨description, hanswer⟩
          rw [hphase] at hanswer
          cases hanswer
          cases hok
    have hfollowing : following c = batches.map Client.batchMessage := by
      unfold following
      rw [Lane.received_of_drained hdrained, hsent]
      rfl
    rw [hinv.accounted (by simp [hphase]) hrejected, hfollowing,
      pointsOf_batchMessages]
  · rw [hfailed.2 status hterminal] at hok
    cases hok

/-- Reading changes nothing that the writer relies on. -/
theorem WriterInv.readerStep
    (hwriter : WriterInv name c k h) (hmove : Call.ClientMove c c')
    (hsame : k'.writer = k.writer) (hpulled : k'.pulled = k.pulled)
    (hexception : k'.writerException = k.writerException)
    (hsent : c'.up.sent = c.up.sent) (hclosed : c'.halfClosed = c.halfClosed) :
    WriterInv name c' k' h := by
  apply hwriter.transfer hsame hpulled hexception hsent hclosed
  · intro hfailed
    exact hfailed.clientMove hmove
  · intro result _ hdelivered
    rcases hdelivered.points with ⟨batches, hbatches, hpoints⟩
    rw [← hpulled] at hbatches
    exact ⟨⟨batches, hbatches, hpoints⟩, hdelivered.returned⟩

theorem WriterInv.clientStep
    {e : ClientEvent} (hpulls : arm.PullsUntilNone)
    (hwriter : WriterInv name c k h) (hinv : HandlerInv found arm c h)
    (hstep : ClientStep name c k e c' k') :
    WriterInv name c' k' h := by
  have hmove := hstep.clientMove
  cases hstep with
  | initWritten hat hwrite =>
      simp only [WriterInv, hat] at hwriter
      rcases hwriter with ⟨hpulled, hsent, hopen⟩
      rcases Call.write_cases hwrite with ⟨-, -, hc'⟩ | ⟨hok, -, -⟩
      · subst c'
        refine ⟨hopen, [], hpulled, ?_⟩
        unfold Sent
        rw [Lane.sent_push, hsent]
        rfl
      · cases hok
  | initFailed hat hwrite => trivial
  | sourceBatch batch hat =>
      simp only [WriterInv, hat] at hwriter
      rcases hwriter with ⟨hopen, batches, hpulled, hsent⟩
      refine ⟨hopen, batches, ?_, hsent⟩
      simp [hpulled, yields]
  | sourceNone hat =>
      simp only [WriterInv, hat] at hwriter
      rcases hwriter with ⟨hopen, batches, hpulled, hsent⟩
      refine ⟨hopen, Or.inl ⟨batches, ?_, hsent⟩⟩
      simp [hpulled]
  | sourceThrows e hat => exact Option.some_ne_none e
  | batchWritten hat hwrite =>
      simp only [WriterInv, hat] at hwriter
      rcases hwriter with ⟨hopen, batches, hpulled, hsent⟩
      rcases Call.write_cases hwrite with ⟨-, -, hc'⟩ | ⟨hok, -, -⟩
      · subst c'
        refine ⟨hopen, _, hpulled, ?_⟩
        unfold Sent at hsent ⊢
        rw [Lane.sent_push, hsent]
        simp
      · cases hok
  | batchFailed hat hwrite =>
      simp only [WriterInv, hat] at hwriter
      rcases Call.write_cases hwrite with ⟨hok, -, -⟩ | ⟨-, hover, hc'⟩
      · cases hok
      · subst c'
        exact ⟨hwriter.1,
          Or.inr (failed_of_over hpulls hinv hwriter.1 hover)⟩
  | writeThrows e hat => exact Option.some_ne_none e
  | writesDone hat =>
      simp only [WriterInv, hat] at hwriter
      intro _
      rcases hwriter.2 with hwhole | hfailed
      · exact Or.inl hwhole
      · exact Or.inr (hfailed.clientMove hmove)
  | writerCancels hat =>
      simp only [WriterInv, hat] at hwriter
      intro hnone
      exact absurd hnone hwriter
  | readUpdate hat hread =>
      rcases Call.read_frame hread with ⟨hup, hclosed⟩
      exact hwriter.readerStep hmove rfl rfl rfl (by rw [hup]) hclosed
  | readEnd hat hread =>
      rcases Call.read_frame hread with ⟨hup, hclosed⟩
      exact hwriter.readerStep hmove rfl rfl rfl (by rw [hup]) hclosed
  | handlerGoesOn hat => exact hwriter.readerStep hmove rfl rfl rfl rfl rfl
  | handlerStops hat => exact hwriter.readerStep hmove rfl rfl rfl rfl rfl
  | handlerThrows e hat => exact hwriter.readerStep hmove rfl rfl rfl rfl rfl
  | readerCancels hat => exact hwriter.readerStep hmove rfl rfl rfl rfl rfl
  | joins hat hended =>
      simp only [WriterInv, hat] at hwriter
      exact hwriter
  | finishesInit hat hfinish =>
      intro hresult
      cases hresult
  | finishes hat hfinish =>
      simp only [WriterInv, hat] at hwriter
      intro hresult
      rcases decideResult_completed hresult with ⟨hnone, hok⟩
      have hdelivered := delivered_of_ok hpulls hinv (hwriter hnone) hfinish hok
      exact ⟨hdelivered.points, hdelivered.returned⟩

end Preservation

/-! ## Whole runs -/

section Runs

variable {name : Str} {found : Str → Bool} {arm : Arm}
  {run : List (SystemEvent × System arm)}

structure StreamInv (name : Str) (found : Str → Bool) (s : System arm) :
    Prop where
  handler : HandlerInv found arm s.call s.handler
  writer : WriterInv name s.call s.client s.handler

theorem streamInv_step
    (hpulls : arm.PullsUntilNone) (s : System arm) (e : SystemEvent)
    (s' : System arm) (hinv : StreamInv name found s)
    (h : System.Step name found s e s') :
    StreamInv name found s' := by
  rcases System.step_cases h with
    ⟨event, call, client, -, hstep, hs'⟩ |
      ⟨event, call, handler, -, hnext, hs'⟩ | ⟨-, hs'⟩
  · subst s'
    exact ⟨hinv.handler.clientMove hstep.clientMove,
      hinv.writer.clientStep hpulls hinv.handler hstep⟩
  · subst s'
    exact ⟨hinv.handler.next hnext, hinv.writer.serverStep hinv.handler hnext⟩
  · subst s'
    exact ⟨hinv.handler.clientMove (Call.clientMove_die s.call),
      hinv.writer.dies⟩

theorem collect_sourceOutcome
    (hrun : IsRun (System.Step name found) (System.start arm) run) :
    collect SystemEvent.sourceOutcome run =
      (lastState (System.start arm) run).client.pulled := by
  apply collect_eq Client.pulled _ (fun _ => rfl) rfl rfl hrun
  intro c c' k k' e _ h
  cases h <;> simp [SystemEvent.sourceOutcome]

theorem eq_of_prefix_yields
    {pulled batches : List (List TrajectoryPoint)}
    (h : yields pulled ++ [.ok none] <+: yields batches ++ [.ok none]) :
    pulled = batches := by
  induction pulled generalizing batches with
  | nil =>
      cases batches with
      | nil => rfl
      | cons batch batches =>
          have hhead := (List.cons_prefix_cons.mp h).1
          cases hhead
  | cons first pulled ih =>
      cases batches with
      | nil =>
          have hhead := (List.cons_prefix_cons.mp h).1
          cases hhead
      | cons batch batches =>
          rcases List.cons_prefix_cons.mp h with ⟨hhead, hrest⟩
          cases hhead
          rw [ih hrest]

/-- When the client reports completion, the implementation has been handed the
points of all batches, in order, and no empty batch. -/
theorem handed_of_completed
    (hpulls : arm.PullsUntilNone)
    (hrun : IsRun (System.Step name found) (System.start arm) run)
    {batches : List (List TrajectoryPoint)}
    (hsource : collect SystemEvent.sourceOutcome run <+:
      yields batches ++ [.ok none])
    (hcompleted : (lastState (System.start arm) run).client.writer =
      .left .completed) :
    (lastState (System.start arm) run).handler.handed.flatten =
        batches.flatten ∧
      [] ∉ (lastState (System.start arm) run).handler.handed := by
  have hstart : StreamInv name found (System.start arm) :=
    ⟨handlerInv_initial found arm, rfl, rfl, rfl⟩
  have hinv := hrun.invariant (streamInv_step hpulls) hstart
  have hwriter := hinv.writer
  simp only [WriterInv, hcompleted] at hwriter
  rcases (hwriter trivial).points with ⟨pulled, hpulled, hhanded⟩
  rw [collect_sourceOutcome hrun, hpulled] at hsource
  rw [eq_of_prefix_yields hsource] at hhanded
  exact ⟨hhanded, hinv.handler.nonempty⟩

end Runs

/-! ## A run -/

def arm1 : Str := "arm1".toList

def twoPoints : List (List TrajectoryPoint) :=
  [[⟨0, [⟨0⟩], none⟩], [], [⟨10, [⟨1⟩], none⟩]]

def sendBatch (batch : List TrajectoryPoint) : List SystemEvent :=
  [.client (.batchSource (.ok (some batch))), .client (.writeBatch (.ok true))]

/-- Everything is written before the handler reads. -/
def completedRun : List (SystemEvent × System drainingArm) :=
  traceOf (System.next arm1 fun _ => true) (System.start drainingArm)
    ([.client (.writeInit true)] ++ twoPoints.flatMap sendBatch ++
      [.client (.batchSource (.ok none)), .client .writesDone,
        .server (.readInit true), .server (.sourceRead true),
        .server (.sourceRead true), .server (.sourceRead true),
        .server (.sourceRead false), .server .armReturns,
        .client (.read false), .client .join, .client (.finish ⟨.ok, []⟩)])

theorem handed_of_completedRun :
    (lastState (System.start drainingArm) completedRun).handler.handed.flatten =
        twoPoints.flatten ∧
      [] ∉ (lastState (System.start drainingArm) completedRun).handler.handed :=
  handed_of_completed drainingArm_pullsUntilNone
    (isRun_traceOf (System.next arm1 fun _ => true) _ _)
    (List.prefix_refl _) rfl

end ArmClient
end ViamSdk
