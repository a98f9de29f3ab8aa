import ViamSdk.ClientContexts

/-!
# What surrounds a handler

The service helper shows a handler the context of its call through an observer
of the thread, and records a span for it that continues the trace of the
caller.  Both are taken back when the handler ends, whether it returns or
throws.  Identifiers of spans are drawn at random; here they are numbers that
have not been drawn before.
-/

namespace ViamSdk

/-! ## Spans -/

structure SpanContext where
  traceId : ℕ
  spanId : ℕ
  deriving DecidableEq, Repr

/-- The propagator of the W3C trace context reads back what it has written. -/
structure Propagator where
  inject : Option SpanContext → TraceContext
  extract : Option Str → Option SpanContext
  inject_none : (inject none).traceparent = none
  extract_inject : ∀ c, extract (inject c).traceparent = c

inductive SpanStatus where
  | unset
  | ok
  | error (description : Str)
  deriving DecidableEq, Repr

inductive SpanKind where
  | server
  | internal
  deriving DecidableEq, Repr

inductive AttributeValue where
  | string (s : Str)
  | int (n : ℕ)
  deriving DecidableEq, Repr

structure Span where
  name : Str
  kind : SpanKind
  context : SpanContext
  parent : Option SpanContext
  attributes : List (String × AttributeValue) := []
  events : List (String × List (String × Str)) := []
  status : SpanStatus := .unset
  ended : Bool := false
  deriving DecidableEq, Repr

namespace Span

def started (name : Str) (kind : SpanKind) (parent : Option SpanContext)
    (context : SpanContext) : Span where
  name := name
  kind := kind
  context := context
  parent := parent

def setAttribute (key : String) (value : AttributeValue) (span : Span) : Span :=
  { span with attributes := span.attributes ++ [(key, value)] }

def addEvent (name : String) (attributes : List (String × Str)) (span : Span) :
    Span :=
  { span with events := span.events ++ [(name, attributes)] }

def setStatus (status : SpanStatus) (span : Span) : Span := { span with status }

def end_ (span : Span) : Span := { span with ended := true }

/-- `record_exception`, and `record_unknown_exception` for what is no
`std::exception`. -/
def recordException (e : Exception) (span : Span) : Span :=
  if e.isStd then
    ((span.setAttribute "error.type" (.string "std::exception".toList)).addEvent
      "exception" [("exception.type", "std::exception".toList),
        ("exception.message", e.what)]).setStatus (.error e.what)
  else
    ((span.setAttribute "error.type" (.string "unknown".toList)).addEvent
      "exception" [("exception.type", "unknown".toList)]).setStatus
        (.error "unknown exception".toList)

def statusCodeNumber : Grpc.StatusCode → ℕ
  | .ok => 0
  | .cancelled => 1
  | .invalidArgument => 3
  | .notFound => 5
  | .internal => 13
  | .other code => code

/-- `commit`. -/
def recordStatus (status : Grpc.Status) (span : Span) : Span :=
  if status.isOk then span.setStatus .ok
  else
    (span.setStatus (.error [])).setAttribute "rpc.grpc.status_code"
      (.int (statusCodeNumber status.code))

end Span

/-! ## The thread of a handler -/

/-- A `GrpcServerContext`, by the metadata of the call. -/
structure ServerContext where
  metadata : List (Str × Str)
  deriving DecidableEq, Repr

/-- `get_client_metadata_field_values`. -/
def ServerContext.fieldValues (key : Str) (context : ServerContext) :
    List Str :=
  (context.metadata.filter fun entry => entry.1 = key).map Prod.snd

/-- The stack of OpenTelemetry's current contexts, by their spans, and the
observer. -/
structure Thread where
  contexts : List (Option SpanContext)
  observer : Option ServerContext
  deriving DecidableEq, Repr

/-- A thread outside of any handler. -/
def Thread.idle : Thread := ⟨[], none⟩

def Thread.currentSpan (thread : Thread) : Option SpanContext :=
  thread.contexts.head?.join

/-- A thread, and the spans that all processes have recorded. -/
structure Scene where
  thread : Thread
  spans : List Span
  deriving DecidableEq, Repr

abbrev Traced := StateM Scene

namespace Scene

def pushContext (span : Option SpanContext) (s : Scene) : Scene :=
  { s with thread.contexts := span :: s.thread.contexts }

def popContext (s : Scene) : Scene :=
  { s with thread.contexts := s.thread.contexts.tail }

/-- A span without a context is not recorded. -/
def update (span : Option SpanContext) (f : Span → Span) (s : Scene) : Scene :=
  match span with
  | none => s
  | some context => { s with spans := s.spans.modify context.spanId f }

end Scene

namespace Tracing

/-- The context of a span that is started now.  The tracer of a process without
a provider starts none. -/
def newContext (traced : Bool) (parent : Option SpanContext) (next : ℕ) :
    Option SpanContext :=
  if traced then some ⟨(parent.map SpanContext.traceId).getD next, next⟩
  else none

def startSpan (traced : Bool) (name : Str) (kind : SpanKind)
    (parent : Option SpanContext) : Traced (Option SpanContext) := do
  let s ← get
  match newContext traced parent s.spans.length with
  | none => return none
  | some context =>
      set { s with spans := s.spans ++ [Span.started name kind parent context] }
      return some context

end Tracing

namespace GrpcContextObserver

def enable (context : ServerContext) : Traced (Except Exception Unit) := do
  let s ← get
  match s.thread.observer with
  | some _ => return .error (.std
      "Cannot replace existing GrpcContextObserver with a new one".toList)
  | none =>
      set { s with thread.observer := some context }
      return .ok ()

def disable : Traced Unit :=
  modify fun s => { s with thread.observer := none }

end GrpcContextObserver

namespace ServerSpanGuard

/-- The span that the caller has injected, or else that of the thread. -/
def parent (propagator : Propagator) (context : ServerContext)
    (thread : Thread) : Option SpanContext :=
  let header := (context.fieldValues ClientContext.traceparentKey).head?
  propagator.extract header <|> thread.currentSpan

def start (propagator : Propagator) (traced : Bool) (context : ServerContext)
    (method : Str) : Traced (Option SpanContext) := do
  let s ← get
  let span ← Tracing.startSpan traced method .server
    (parent propagator context s.thread)
  modify (Scene.update span
    (Span.setAttribute "rpc.system" (.string "grpc".toList)))
  modify (Scene.pushContext span)
  return span

/-- The destructor, once something has been committed or recorded. -/
def finish (span : Option SpanContext) : Traced Unit := do
  modify (Scene.update span Span.end_)
  modify Scene.popContext

end ServerSpanGuard

/-- What a span records of how its handler ended. -/
def Span.recordOutcome : Except Exception Grpc.Status → Span → Span
  | .ok status => recordStatus status
  | .error e => recordException e

/-- What surrounds the calls of a process: how contexts are propagated, whether
a provider is installed. -/
structure TracedProcess where
  propagator : Propagator
  traced : Bool

namespace ServiceHelper

variable {τ Resp : Type}

/-- `operator()`, with a context and a request. -/
def run [Inhabited Resp] (process : TracedProcess) (method name : Str)
    (context : ServerContext) (resource : Option τ)
    (callable : τ → Traced (Except Exception Grpc.Status × Resp)) :
    Traced (Cxx (Grpc.Status × Resp)) := do
  match resource with
  | none => return .ok (failNoResource method name, default)
  | some resource =>
      match ← GrpcContextObserver.enable context with
      | .error e => return .ok (failException method e, default)
      | .ok () =>
          let span ← ServerSpanGuard.start process.propagator process.traced
            context method
          let (outcome, response) ← callable resource
          modify (Scene.update span (Span.recordOutcome outcome))
          ServerSpanGuard.finish span
          GrpcContextObserver.disable
          return answer method (rethrow outcome, response)

end ServiceHelper

/-! ## What a handler leaves -/

theorem modify_append_length
    {α : Type} (before after : List α) (a : α) (f : α → α) :
    (before ++ a :: after).modify before.length f = before ++ f a :: after := by
  induction before with
  | nil => rfl
  | cons b before ih => exact congrArg (b :: ·) ih

theorem run_bind_of_run
    {σ α β : Type} {x : StateM σ α} {s s' : σ} {a : α} (h : x.run s = (a, s'))
    (f : α → StateM σ β) :
    (x >>= f).run s = (f a).run s' := by
  rw [StateT.run_bind, h]
  rfl

theorem run_modify
    {σ : Type} {f : σ → σ} {s s' : σ} (h : f s = s') :
    (modify f : StateM σ Unit).run s = ((), s') := congrArg (Prod.mk ()) h

/-- Running from the scene yields the result, appends the spans, and leaves the
thread as it was. -/
def Appends {α : Type} (x : Traced α) (s : Scene) (a : α) (spans : List Span) :
    Prop :=
  x.run s = (a, { s with spans := s.spans ++ spans })

/-- The span is kept at the index, if it is recorded at all. -/
inductive KeptAt (index : ℕ) : Option SpanContext → List Span → Prop
  | unrecorded : KeptAt index none []
  | recorded (traceId : ℕ) (span : Span) :
      KeptAt index (some ⟨traceId, index⟩) [span]

theorem KeptAt.map
    {index : ℕ} {span : Option SpanContext} {kept : List Span}
    (h : KeptAt index span kept) (f : Span → Span) :
    KeptAt index span (kept.map f) := by
  cases h with
  | unrecorded => exact .unrecorded
  | recorded traceId span => exact .recorded traceId (f span)

theorem KeptAt.update
    {before kept : List Span} {span : Option SpanContext}
    (h : KeptAt before.length span kept) (thread : Thread) (after : List Span)
    (f : Span → Span) :
    Scene.update span f ⟨thread, before ++ (kept ++ after)⟩ =
      ⟨thread, before ++ (kept.map f ++ after)⟩ := by
  cases h with
  | unrecorded => rfl
  | recorded traceId span =>
      have hmodify := modify_append_length before after span f
      simp [Scene.update, hmodify]

namespace ServerSpanGuard

/-- The span of a handler while it runs. -/
def opened (method : Str) (parent span : Option SpanContext) : List Span :=
  span.toList.map fun context =>
    (Span.started method .server parent context).setAttribute "rpc.system"
      (.string "grpc".toList)

/-- The span of a handler that has ended. -/
def closed (method : Str) (parent span : Option SpanContext)
    (outcome : Except Exception Grpc.Status) : List Span :=
  (opened method parent span).map fun span =>
    (span.recordOutcome outcome).end_

/-- The scene of a handler's callable. -/
def entered (context : ServerContext) (method : Str)
    (parent span : Option SpanContext) (s : Scene) : Scene where
  thread := ⟨span :: s.thread.contexts, some context⟩
  spans := s.spans ++ opened method parent span

theorem keptAt_opened
    (method : Str) (traced : Bool) (parent : Option SpanContext) (next : ℕ) :
    KeptAt next (Tracing.newContext traced parent next)
      (opened method parent (Tracing.newContext traced parent next)) := by
  cases traced with
  | false => exact .unrecorded
  | true => exact .recorded _ _

theorem start_run
    (process : TracedProcess) (context : ServerContext) (method : Str)
    (s : Scene) {parent span : Option SpanContext}
    (hparent :
      parent = ServerSpanGuard.parent process.propagator context s.thread)
    (hspan : span = Tracing.newContext process.traced parent s.spans.length) :
    (start process.propagator process.traced context method).run s =
      (span, ⟨⟨span :: s.thread.contexts, s.thread.observer⟩,
        s.spans ++ opened method parent span⟩) := by
  subst hparent hspan
  cases htraced : process.traced with
  | false =>
      simp [start, Tracing.startSpan, Tracing.newContext, Scene.update,
        Scene.pushContext, opened]
      rfl
  | true =>
      simp [start, Tracing.startSpan, Tracing.newContext, Scene.update,
        Scene.pushContext, opened, modify_append_length]
      rfl

end ServerSpanGuard

namespace ServiceHelper

open ServerSpanGuard

variable {τ Resp : Type} [Inhabited Resp] {process : TracedProcess}
  {method name : Str} {context : ServerContext}

/-- A handler appends its span, closed, and the spans of its callable, and
leaves the thread as it was. -/
theorem run_of_found
    {s : Scene} (hobserver : s.thread.observer = none) {resource : τ}
    {callable : τ → Traced (Except Exception Grpc.Status × Resp)}
    {outcome : Except Exception Grpc.Status} {response : Resp}
    {spans : List Span} {parent span : Option SpanContext}
    (hparent : parent =
      ServerSpanGuard.parent process.propagator context s.thread)
    (hspan : span = Tracing.newContext process.traced parent s.spans.length)
    (hcallable : Appends (callable resource) (entered context method parent span s)
      (outcome, response) spans) :
    Appends (run process method name context (some resource) callable) s
      (answer method (rethrow outcome, response))
      (closed method parent span outcome ++ spans) := by
  obtain ⟨⟨contexts, observer⟩, before⟩ := s
  cases hobserver
  have hkept := keptAt_opened method process.traced parent before.length
  rw [← hspan] at hkept
  have henable : (GrpcContextObserver.enable context).run
      ⟨⟨contexts, none⟩, before⟩ =
        (.ok (), ⟨⟨contexts, some context⟩, before⟩) := rfl
  have hstart : (start process.propagator process.traced context method).run
      ⟨⟨contexts, some context⟩, before⟩ = (span, entered context method parent
        span ⟨⟨contexts, none⟩, before⟩) :=
    start_run process context method _ hparent hspan
  have hscene : (⟨(entered context method parent span
      ⟨⟨contexts, none⟩, before⟩).thread, (entered context method parent span
        ⟨⟨contexts, none⟩, before⟩).spans ++ spans⟩ : Scene) =
      ⟨⟨span :: contexts, some context⟩,
        before ++ (opened method parent span ++ spans)⟩ := by
    simp [entered]
  have hrecord := run_modify (hkept.update ⟨span :: contexts, some context⟩ spans
    (Span.recordOutcome outcome))
  have hend := run_modify ((hkept.map (Span.recordOutcome outcome)).update
    ⟨span :: contexts, some context⟩ spans Span.end_)
  have hfinish : (finish span).run ⟨⟨span :: contexts, some context⟩, before ++
      ((opened method parent span).map (Span.recordOutcome outcome) ++ spans)⟩ =
      ((), ⟨⟨contexts, some context⟩,
        before ++ (closed method parent span outcome ++ spans)⟩) := by
    unfold finish
    rw [run_bind_of_run hend, List.map_map]
    rfl
  unfold Appends at hcallable ⊢
  rw [hscene] at hcallable
  unfold run
  rw [run_bind_of_run henable]
  simp only
  rw [run_bind_of_run hstart, run_bind_of_run hcallable,
    run_bind_of_run hrecord, run_bind_of_run hfinish]
  rfl

end ServiceHelper

end ViamSdk
