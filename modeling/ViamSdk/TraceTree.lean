import ViamSdk.HandlerScope

/-!
# The trace of a call

What a handler does can open spans of its own and make further calls, whose
handlers run in other processes and do the same.  The spans are recorded
through what each thread has as its current span and what goes over the wire
as metadata; together they are the tree of the calls.

An exception unwinds the spans that are open, so it shows here only in how the
handler ends.
-/

namespace ViamSdk

/-- The context that a call is made with. -/
inductive CallContext where
  /-- Of the client's channel, and with the debug key if there is one. -/
  | ofChannel (authToken debugKey : Option Str)
  | plain
  | grpc
  deriving DecidableEq, Repr

namespace CallContext

def make (env : CallEnv) : CallContext → ClientContext
  | .ofChannel authToken none => .ofChannel env authToken
  | .ofChannel authToken (some key) =>
      (ClientContext.ofChannel env authToken).setDebugKey key
  | .plain => .plain env
  | .grpc => .grpc

def KnowsChannel : CallContext → Prop
  | .ofChannel _ _ => True
  | .plain => False
  | .grpc => False

instance (context : CallContext) : Decidable context.KnowsChannel :=
  match context with
  | .ofChannel _ _ => isTrue trivial
  | .plain => isFalse id
  | .grpc => isFalse id

/-- Every call of the clients is made with such a context. -/
theorem exists_of_issue
    {env : CallEnv} {authToken : Option Str} {call : RpcCall}
    {issued : IssuedRpc} (h : call.issue env authToken = some issued) :
    ∃ context : CallContext, issued.context = context.make env ∧
      (context.KnowsChannel ↔ call.KnowsChannel) := by
  cases call with
  | helper rpc extra =>
      simp only [RpcCall.issue, Option.bind_eq_bind,
        Option.bind_eq_some_iff] at h
      obtain ⟨key, -, hissued⟩ := h
      split at hissued
      next =>
        cases hissued
        exact ⟨.ofChannel authToken none, rfl, Iff.rfl⟩
      next =>
        split at hissued
        next =>
          cases hissued
          exact ⟨.ofChannel authToken (some key), rfl, Iff.rfl⟩
        next => cases hissued
  | helperStream rpc extra =>
      simp only [RpcCall.issue, Option.bind_eq_bind,
        Option.bind_eq_some_iff] at h
      obtain ⟨key, -, hissued⟩ := h
      cases hissued
      exact ⟨.ofChannel authToken none, rfl, Iff.rfl⟩
  | channelContext rpc =>
      cases h
      exact ⟨.ofChannel authToken none, rfl, Iff.rfl⟩
  | plainContext rpc =>
      cases h
      exact ⟨.plain, rfl, Iff.rfl⟩
  | grpcContext rpc =>
      cases h
      exact ⟨.grpc, rfl, Iff.rfl⟩
  | notMade => cases h

end CallContext

/-! ## What handlers do -/

mutual

inductive Work where
  /-- Under a `TracingSpan`. -/
  | span (name : Str) (work : List Work)
  | call (context : CallContext) (handler : Handler)
  /-- A handler that is called directly, on the thread of this one. -/
  | invoke (context : ServerContext) (handler : Handler)

inductive Handler where
  | mk (traced : Bool) (method name : Str) (found : Bool) (work : List Work)
      (outcome : Except Exception Grpc.Status)

end

/-- What all processes share. -/
structure TraceEnv where
  propagator : Propagator
  version : Str
  sends : Str → Bool

/-- What surrounds a call made under the span. -/
def TraceEnv.callEnv (env : TraceEnv) (span : Option SpanContext) : CallEnv :=
  ⟨env.version, env.propagator.inject span, env.sends⟩

/-- `start_or_noop`. -/
def TracingSpan.start (traced : Bool) (name : Str) :
    Traced (Option SpanContext) := do
  let s ← get
  match s.thread.currentSpan with
  | none => return none
  | some parent => Tracing.startSpan traced name .internal (some parent)

mutual

def Work.exec (env : TraceEnv) (traced : Bool) : Work → Traced Unit
  | .span name work => do
      let span ← TracingSpan.start traced name
      modify (Scene.pushContext span)
      Work.execAll env traced work
      modify (Scene.update span Span.end_)
      modify Scene.popContext
  | .call context handler => do
      let s ← get
      let issued := context.make (env.callEnv s.thread.currentSpan)
      -- The thread waits, and one of the server's takes over.
      set (⟨Thread.idle, s.spans⟩ : Scene)
      let _ ← Handler.exec env ⟨issued.metadata⟩ handler
      modify fun served => ⟨s.thread, served.spans⟩
  | .invoke context handler => do
      let _ ← Handler.exec env context handler

def Work.execAll (env : TraceEnv) (traced : Bool) : List Work → Traced Unit
  | [] => return
  | work :: rest => do
      Work.exec env traced work
      Work.execAll env traced rest

def Handler.exec (env : TraceEnv) (context : ServerContext) :
    Handler → Traced (Cxx (Grpc.Status × Unit))
  | .mk traced method name found work outcome =>
      ServiceHelper.run ⟨env.propagator, traced⟩ method name context
        (if found then some () else none) fun _ => do
          Work.execAll env traced work
          return (outcome, ())

end

/-! ## The tree -/

namespace TracingSpan

/-- The context that the span is given. -/
def context (traced : Bool) (parent : Option SpanContext) (next : ℕ) :
    Option SpanContext :=
  if traced then parent.map fun p => ⟨p.traceId, next⟩ else none

/-- What is recorded of the span while it is open. -/
def opened (name : Str) (parent span : Option SpanContext) : List Span :=
  span.toList.map (Span.started name .internal parent)

def closed (name : Str) (parent span : Option SpanContext) : List Span :=
  (opened name parent span).map Span.end_

end TracingSpan

mutual

/-- The spans of what is done under the parent, if spans are numbered from the
given one. -/
def Work.trace (traced : Bool) (parent : Option SpanContext) (next : ℕ) :
    Work → List Span
  | .span name work =>
      let span := TracingSpan.context traced parent next
      let closed := TracingSpan.closed name parent span
      closed ++ Work.traceAll traced span (next + closed.length) work
  | .call context handler =>
      Handler.trace (if context.KnowsChannel then parent else none) next handler
  | .invoke _ _ => []

def Work.traceAll (traced : Bool) (parent : Option SpanContext) (next : ℕ) :
    List Work → List Span
  | [] => []
  | work :: rest =>
      Work.trace traced parent next work ++
        Work.traceAll traced parent
          (next + (Work.trace traced parent next work).length) rest

def Handler.trace (parent : Option SpanContext) (next : ℕ) :
    Handler → List Span
  | .mk traced method _ found work outcome =>
      if found then
        let span := Tracing.newContext traced parent next
        let closed := ServerSpanGuard.closed method parent span outcome
        closed ++ Work.traceAll traced span (next + closed.length) work
      else []

end

/-! ## What goes over the wire -/

section

variable (env : TraceEnv) (span : Option SpanContext)

theorem extract_none : env.propagator.extract none = none := by
  have h := env.propagator.extract_inject none
  rwa [env.propagator.inject_none] at h

theorem traceparents_plain (callEnv : CallEnv) :
    (ClientContext.plain callEnv).values ClientContext.traceparentKey = [] :=
  ClientContext.values_addMetadata_ne (by decide) callEnv.version _

theorem traceparents_ofChannel (callEnv : CallEnv) (authToken : Option Str) :
    (ClientContext.ofChannel callEnv authToken).values
        ClientContext.traceparentKey =
      callEnv.trace.traceparent.toList := by
  have hstate : ClientContext.tracestateKey ≠ ClientContext.traceparentKey := by
    decide
  have hauthorization :
      ClientContext.authorizationKey ≠ ClientContext.traceparentKey := by
    decide
  have hbefore := ClientContext.values_addOptional_ne hauthorization
    (authToken.map ClientContext.bearer) (ClientContext.plain callEnv)
  rw [traceparents_plain] at hbefore
  unfold ClientContext.ofChannel ClientContext.injectTraceContext
  rw [ClientContext.values_addOptional_ne hstate]
  cases callEnv.trace.traceparent with
  | none => exact hbefore
  | some value =>
      rw [ClientContext.addOptional, ClientContext.values_addMetadata_self,
        hbefore]
      rfl

theorem traceparents_make (context : CallContext) :
    (context.make (env.callEnv span)).values ClientContext.traceparentKey =
      if context.KnowsChannel then
        (env.propagator.inject span).traceparent.toList
      else [] := by
  cases context with
  | ofChannel authToken debugKey =>
      cases debugKey with
      | none => exact traceparents_ofChannel _ authToken
      | some key =>
          exact (ClientContext.values_addMetadata_ne (by decide) key _).trans
            (traceparents_ofChannel _ authToken)
  | plain => exact traceparents_plain _
  | grpc => rfl

/-- The handler of a call continues the span that the call was made under, if
its context knows the channel. -/
theorem parent_make (context : CallContext) :
    ServerSpanGuard.parent env.propagator
        ⟨(context.make (env.callEnv span)).metadata⟩ Thread.idle =
      if context.KnowsChannel then span else none := by
  have hvalues : ServerContext.fieldValues ClientContext.traceparentKey
      ⟨(context.make (env.callEnv span)).metadata⟩ =
        (context.make (env.callEnv span)).values
          ClientContext.traceparentKey := rfl
  have hidle : Thread.idle.currentSpan = none := rfl
  unfold ServerSpanGuard.parent
  rw [hvalues, traceparents_make, hidle]
  by_cases hchannel : context.KnowsChannel
  · simp [hchannel, env.propagator.extract_inject]
  · simp [hchannel, extract_none]

end

/-! ## Runs -/

/-- How the handler answers, which tracing has no part in. -/
def Handler.answer : Handler → Cxx (Grpc.Status × Unit)
  | .mk _ method name found _ outcome => Id.run
      (ServiceHelper.invoke method name (if found then some () else none)
        fun _ => return (rethrow outcome, ()))

/-- The thread of a handler that is called on the thread of another is
observed already: it fails before its span is started. -/
theorem ServiceHelper.run_of_observed
    {τ Resp : Type} [Inhabited Resp] (process : TracedProcess)
    (method name : Str) (context : ServerContext) (resource : Option τ)
    (callable : τ → Traced (Except Exception Grpc.Status × Resp))
    {s : Scene} (hobserver : s.thread.observer ≠ none) :
    ∃ status : Grpc.Status, status.isOk = false ∧
      Appends (run process method name context resource callable) s
        (.ok (status, default)) [] := by
  obtain ⟨observed, hobserved⟩ := Option.ne_none_iff_exists'.mp hobserver
  obtain ⟨⟨contexts, observer⟩, before⟩ := s
  cases hobserved
  cases resource with
  | none =>
      refine ⟨failNoResource method name, rfl, ?_⟩
      simp [Appends, run]
      rfl
  | some resource =>
      refine ⟨failException method (.std
        "Cannot replace existing GrpcContextObserver with a new one".toList),
        rfl, ?_⟩
      simp [Appends, run, GrpcContextObserver.enable]
      rfl

namespace TracingSpan

theorem start_run
    (traced : Bool) (name : Str) (s : Scene) :
    (start traced name).run s =
      (context traced s.thread.currentSpan s.spans.length,
        { s with
          spans := s.spans ++ opened name s.thread.currentSpan
            (context traced s.thread.currentSpan s.spans.length) }) := by
  obtain ⟨thread, before⟩ := s
  cases hspan : thread.currentSpan with
  | none =>
      cases traced with
      | false =>
          simp [start, context, opened, hspan]
          rfl
      | true =>
          simp [start, context, opened, hspan]
          rfl
  | some parent =>
      cases traced with
      | false =>
          simp [start, context, opened, hspan, Tracing.startSpan,
            Tracing.newContext]
          rfl
      | true =>
          simp [start, context, opened, hspan, Tracing.startSpan,
            Tracing.newContext]
          rfl

theorem keptAt_opened
    (traced : Bool) (name : Str) (parent : Option SpanContext) (next : ℕ) :
    KeptAt next (context traced parent next)
      (opened name parent (context traced parent next)) := by
  cases parent with
  | none =>
      cases traced with
      | false => exact .unrecorded
      | true => exact .unrecorded
  | some parent =>
      cases traced with
      | false => exact .unrecorded
      | true => exact .recorded _ _

end TracingSpan

section

variable (env : TraceEnv)

mutual

/-- What runs on the thread of a handler leaves it as it was, and appends the
spans of its tree. -/
theorem Work.exec_appends
    (traced : Bool) (work : Work) (s : Scene)
    (hobserver : s.thread.observer ≠ none) :
    Appends (Work.exec env traced work) s ()
      (Work.trace traced s.thread.currentSpan s.spans.length work) := by
  obtain ⟨thread, before⟩ := s
  cases work with
  | span name work =>
      let span := TracingSpan.context traced thread.currentSpan before.length
      let opened := TracingSpan.opened name thread.currentSpan span
      let inner : Thread := ⟨span :: thread.contexts, thread.observer⟩
      let spans := Work.traceAll traced span (before.length + opened.length) work
      have hkept : KeptAt before.length span opened :=
        TracingSpan.keptAt_opened traced name thread.currentSpan before.length
      have hstart : (TracingSpan.start traced name).run ⟨thread, before⟩ =
          (span, ⟨thread, before ++ opened⟩) :=
        TracingSpan.start_run traced name ⟨thread, before⟩
      have hpush : (modify (Scene.pushContext span) : Traced Unit).run
          ⟨thread, before ++ opened⟩ = ((), ⟨inner, before ++ opened⟩) := rfl
      have happends := Work.execAll_appends traced work ⟨inner, before ++ opened⟩
        hobserver
      have hend := run_modify (hkept.update inner spans Span.end_)
      have hpop : (modify Scene.popContext : Traced Unit).run
          ⟨inner, before ++ (opened.map Span.end_ ++ spans)⟩ =
            ((), ⟨thread, before ++ (opened.map Span.end_ ++ spans)⟩) := rfl
      unfold Appends at happends ⊢
      rw [List.append_assoc, List.length_append] at happends
      have hwork : (Work.execAll env traced work).run
          ⟨inner, before ++ opened⟩ =
            ((), ⟨inner, before ++ (opened ++ spans)⟩) := happends
      rw [Work.exec, run_bind_of_run hstart]
      simp only
      rw [run_bind_of_run hpush, run_bind_of_run hwork, run_bind_of_run hend,
        hpop, Work.trace, TracingSpan.closed, List.length_map]
  | call context handler =>
      have hhandler := Handler.exec_appends
        ⟨(context.make (env.callEnv thread.currentSpan)).metadata⟩ handler
        ⟨Thread.idle, before⟩ rfl
      have hget : (get : Traced Scene).run ⟨thread, before⟩ =
        (⟨thread, before⟩, ⟨thread, before⟩) := rfl
      have hset : (set (⟨Thread.idle, before⟩ : Scene) : Traced PUnit).run
        ⟨thread, before⟩ = (⟨⟩, ⟨Thread.idle, before⟩) := rfl
      unfold Appends at hhandler ⊢
      rw [parent_make] at hhandler
      rw [Work.exec, run_bind_of_run hget]
      simp only
      rw [run_bind_of_run hset, run_bind_of_run hhandler]
      rfl
  | invoke context handler =>
      obtain ⟨childTraced, method, name, found, work, outcome⟩ := handler
      obtain ⟨status, -, hrun⟩ := ServiceHelper.run_of_observed
        ⟨env.propagator, childTraced⟩ method name context
        (if found then some () else none) (fun _ => do
          Work.execAll env childTraced work
          return (outcome, ())) hobserver
      unfold Appends at hrun ⊢
      rw [Work.exec, Handler.exec, run_bind_of_run hrun]
      rfl

theorem Work.execAll_appends
    (traced : Bool) (work : List Work) (s : Scene)
    (hobserver : s.thread.observer ≠ none) :
    Appends (Work.execAll env traced work) s ()
      (Work.traceAll traced s.thread.currentSpan s.spans.length work) := by
  obtain ⟨thread, before⟩ := s
  cases work with
  | nil =>
      unfold Appends
      rw [Work.traceAll, List.append_nil]
      rfl
  | cons work rest =>
      have hwork := Work.exec_appends traced work ⟨thread, before⟩ hobserver
      have hrest := Work.execAll_appends traced rest
        ⟨thread, before ++
          Work.trace traced thread.currentSpan before.length work⟩ hobserver
      unfold Appends at hwork hrest ⊢
      rw [List.append_assoc, List.length_append] at hrest
      rw [Work.execAll, run_bind_of_run hwork]
      exact hrest

theorem Handler.exec_appends
    (context : ServerContext) (handler : Handler) (s : Scene)
    (hobserver : s.thread.observer = none) :
    Appends (Handler.exec env context handler) s handler.answer
      (Handler.trace (ServerSpanGuard.parent env.propagator context s.thread)
        s.spans.length handler) := by
  obtain ⟨traced, method, name, found, work, outcome⟩ := handler
  cases found with
  | false =>
      unfold Appends
      rw [Handler.trace, if_neg Bool.false_ne_true, List.append_nil]
      rfl
  | true =>
      let parent := ServerSpanGuard.parent env.propagator context s.thread
      let span := Tracing.newContext traced parent s.spans.length
      let entered := ServerSpanGuard.entered context method parent span s
      have hentered : entered.spans.length = s.spans.length +
          (ServerSpanGuard.closed method parent span outcome).length := by
        rw [ServerSpanGuard.closed, List.length_map]
        exact List.length_append
      have hwork := Work.execAll_appends traced work entered
        (Option.some_ne_none context)
      have hcallable : Appends (do
          Work.execAll env traced work
          return (outcome, ())) entered (outcome, ())
          (Work.traceAll traced span entered.spans.length work) := by
        unfold Appends at hwork ⊢
        rw [run_bind_of_run hwork]
        rfl
      have htrace : Handler.trace parent s.spans.length
          (.mk traced method name true work outcome) =
            ServerSpanGuard.closed method parent span outcome ++
              Work.traceAll traced span entered.spans.length work := by
        rw [hentered]
        rfl
      rw [htrace, Handler.exec, if_pos rfl]
      exact ServiceHelper.run_of_found hobserver rfl rfl hcallable

end

end

/-! ## What runs record -/

/-- The span has ended, and one of a handler has a status. -/
structure Span.Complete (span : Span) : Prop where
  ended : span.ended = true
  status : span.kind = .server → span.status ≠ .unset

theorem TracingSpan.complete_of_mem_closed
    {name : Str} {parent span : Option SpanContext} {s : Span}
    (h : s ∈ closed name parent span) :
    s.Complete := by
  obtain ⟨opening, hopened, rfl⟩ := List.mem_map.mp h
  obtain ⟨c, -, rfl⟩ := List.mem_map.mp hopened
  exact ⟨rfl, fun hserver => nomatch hserver⟩

theorem Span.recordOutcome_status
    (outcome : Except Exception Grpc.Status) (span : Span) :
    (span.recordOutcome outcome).status ≠ .unset := by
  cases outcome with
  | error e =>
      change (recordException e span).status ≠ .unset
      unfold recordException
      split <;> exact SpanStatus.noConfusion
  | ok status =>
      change (recordStatus status span).status ≠ .unset
      unfold recordStatus
      split <;> exact SpanStatus.noConfusion

theorem ServerSpanGuard.complete_of_mem_closed
    {method : Str} {parent span : Option SpanContext}
    {outcome : Except Exception Grpc.Status} {s : Span}
    (h : s ∈ closed method parent span outcome) :
    s.Complete := by
  obtain ⟨opening, -, rfl⟩ := List.mem_map.mp h
  exact ⟨rfl, fun _ => Span.recordOutcome_status outcome opening⟩

mutual

theorem Work.complete_of_mem_trace
    {traced : Bool} {parent : Option SpanContext} {next : ℕ} {work : Work}
    {s : Span} (h : s ∈ Work.trace traced parent next work) :
    s.Complete := by
  cases work with
  | span name work =>
      rw [Work.trace, List.mem_append] at h
      exact h.elim TracingSpan.complete_of_mem_closed
        Work.complete_of_mem_traceAll
  | call context handler => exact Handler.complete_of_mem_trace h
  | invoke context handler => cases h

theorem Work.complete_of_mem_traceAll
    {traced : Bool} {parent : Option SpanContext} {next : ℕ}
    {work : List Work} {s : Span}
    (h : s ∈ Work.traceAll traced parent next work) :
    s.Complete := by
  cases work with
  | nil => cases h
  | cons work rest =>
      rw [Work.traceAll, List.mem_append] at h
      exact h.elim Work.complete_of_mem_trace Work.complete_of_mem_traceAll

theorem Handler.complete_of_mem_trace
    {parent : Option SpanContext} {next : ℕ} {handler : Handler} {s : Span}
    (h : s ∈ Handler.trace parent next handler) :
    s.Complete := by
  obtain ⟨traced, method, name, found, work, outcome⟩ := handler
  cases found with
  | false => cases h
  | true =>
      rw [Handler.trace, if_pos rfl, List.mem_append] at h
      exact h.elim ServerSpanGuard.complete_of_mem_closed
        Work.complete_of_mem_traceAll

end

theorem ServerSpanGuard.parent_idle
    (propagator : Propagator) (context : ServerContext) :
    parent propagator context Thread.idle =
      propagator.extract
        (context.fieldValues ClientContext.traceparentKey).head? := by
  simp [parent, Thread.idle, Thread.currentSpan]

/-- A call from outside records the tree of its handlers, all complete, is
answered as it would be without tracing, and leaves the thread for the next
call. -/
theorem handler_records_tree
    (env : TraceEnv) (context : ServerContext) (handler : Handler)
    (before : List Span) :
    let parent := env.propagator.extract
      (context.fieldValues ClientContext.traceparentKey).head?
    let spans := Handler.trace parent before.length handler
    (Handler.exec env context handler).run ⟨Thread.idle, before⟩ =
        (handler.answer, ⟨Thread.idle, before ++ spans⟩) ∧
      ∀ span ∈ spans, span.Complete := by
  have hexec := Handler.exec_appends env context handler ⟨Thread.idle, before⟩
    rfl
  rw [ServerSpanGuard.parent_idle] at hexec
  exact ⟨hexec, fun span => Handler.complete_of_mem_trace⟩

end ViamSdk
