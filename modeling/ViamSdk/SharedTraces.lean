import ViamSdk.TraceTree

/-!
# Which calls share a trace

A call takes the trace of its caller along only if its context was made with
the channel and the process that it reaches is traced.  What is recorded below
any other call starts traces of its own.
-/

namespace ViamSdk

mutual

/-- Nothing is recorded of it while no span is current. -/
def Work.Silent : Work → Prop
  | .span _ work => Work.AllSilent work
  | .call _ handler => handler.Silent
  | .invoke _ _ => True

def Work.AllSilent : List Work → Prop
  | [] => True
  | work :: rest => work.Silent ∧ Work.AllSilent rest

def Handler.Silent : Handler → Prop
  | .mk traced _ _ found work _ =>
      found = true → traced = false ∧ Work.AllSilent work

end

mutual

/-- No call that is made without the channel, and no process that is not
traced, has anything recorded below it. -/
def Work.Linked : Work → Prop
  | .span _ work => Work.AllLinked work
  | .call context handler =>
      if context.KnowsChannel then handler.Linked else handler.Silent
  | .invoke _ _ => True

def Work.AllLinked : List Work → Prop
  | [] => True
  | work :: rest => work.Linked ∧ Work.AllLinked rest

def Handler.Linked : Handler → Prop
  | .mk traced _ _ found work _ =>
      found = true →
        if traced then Work.AllLinked work else Work.AllSilent work

end

theorem Handler.trace_untraced
    (method name : Str) (work : List Work)
    (outcome : Except Exception Grpc.Status) (parent : Option SpanContext)
    (next : ℕ) :
    Handler.trace parent next (.mk false method name true work outcome) =
      Work.traceAll false none next work := rfl

mutual

theorem Work.trace_none
    (traced : Bool) (work : Work) (next : ℕ) :
    Work.trace traced none next work = [] ↔ work.Silent := by
  cases work with
  | span name work =>
      have h := Work.traceAll_none traced work next
      cases traced with
      | false => exact h
      | true => exact h
  | call context handler =>
      rw [Work.trace, ite_self]
      exact Handler.trace_none handler next
  | invoke context handler => exact iff_of_true rfl trivial

theorem Work.traceAll_none
    (traced : Bool) (work : List Work) (next : ℕ) :
    Work.traceAll traced none next work = [] ↔ Work.AllSilent work := by
  cases work with
  | nil => exact iff_of_true rfl trivial
  | cons work rest =>
      rw [Work.traceAll, List.append_eq_nil_iff, Work.trace_none,
        Work.traceAll_none]
      rfl

theorem Handler.trace_none
    (handler : Handler) (next : ℕ) :
    Handler.trace none next handler = [] ↔ handler.Silent := by
  obtain ⟨traced, method, name, found, work, outcome⟩ := handler
  cases found with
  | false => simp [Handler.trace, Handler.Silent]
  | true =>
      cases traced with
      | false =>
          rw [Handler.trace_untraced, Work.traceAll_none, Handler.Silent]
          exact ⟨fun h _ => ⟨rfl, h⟩, fun h => (h rfl).2⟩
      | true =>
          refine iff_of_false (List.cons_ne_nil _ _) fun h => ?_
          cases (h rfl).1

end

theorem Span.recordOutcome_context
    (outcome : Except Exception Grpc.Status) (span : Span) :
    (span.recordOutcome outcome).context = span.context := by
  cases outcome with
  | error e =>
      change (recordException e span).context = span.context
      unfold recordException
      split <;> rfl
  | ok status =>
      change (recordStatus status span).context = span.context
      unfold recordStatus
      split <;> rfl

theorem TracingSpan.forall_mem_closed
    {name : Str} {parent span : Option SpanContext} {P : SpanContext → Prop}
    (h : ∀ c ∈ span, P c) :
    ∀ s ∈ closed name parent span, P s.context := by
  cases span with
  | none => simp [closed, opened]
  | some c => exact List.forall_mem_singleton.mpr (h c rfl)

theorem ServerSpanGuard.forall_mem_closed
    {method : Str} {parent span : Option SpanContext}
    {outcome : Except Exception Grpc.Status} {P : SpanContext → Prop}
    (h : ∀ c ∈ span, P c) :
    ∀ s ∈ closed method parent span outcome, P s.context := by
  cases span with
  | none => simp [closed, opened]
  | some c =>
      have hcontext := Span.recordOutcome_context outcome
        ((Span.started method .server parent c).setAttribute "rpc.system"
          (.string "grpc".toList))
      refine List.forall_mem_singleton.mpr ?_
      change P (Span.recordOutcome outcome _).context
      rw [hcontext]
      exact h c rfl

section

variable {bound : ℕ} {parent : Option SpanContext}

theorem TracingSpan.le_context
    (hparent : ∀ p ∈ parent, bound ≤ p.traceId) (traced : Bool) (next : ℕ) :
    ∀ c ∈ context traced parent next, bound ≤ c.traceId := by
  cases traced with
  | false => simp [context]
  | true =>
      cases parent with
      | none => simp [context]
      | some p =>
          have hp := hparent p rfl
          simpa [context] using hp

theorem Tracing.le_newContext
    (hparent : ∀ p ∈ parent, bound ≤ p.traceId) {next : ℕ}
    (hnext : bound ≤ next) (traced : Bool) :
    ∀ c ∈ newContext traced parent next, bound ≤ c.traceId := by
  cases traced with
  | false => simp [newContext]
  | true =>
      cases parent with
      | none => simpa [newContext] using hnext
      | some p =>
          have hp := hparent p rfl
          simpa [newContext] using hp

end

mutual

/-- Spans are of the trace of the parent, or of traces that start later. -/
theorem Work.le_traceId
    {bound next : ℕ} {parent : Option SpanContext}
    (hparent : ∀ p ∈ parent, bound ≤ p.traceId) (hnext : bound ≤ next)
    (traced : Bool) (work : Work) :
    ∀ span ∈ Work.trace traced parent next work,
      bound ≤ span.context.traceId := by
  cases work with
  | span name work =>
      have hcontext := TracingSpan.le_context hparent traced next
      rw [Work.trace, List.forall_mem_append]
      exact ⟨TracingSpan.forall_mem_closed hcontext,
        Work.le_traceIds hcontext (Nat.le_add_right_of_le hnext) traced work⟩
  | call context handler =>
      have hcaller : ∀ p ∈ if context.KnowsChannel then parent else none,
          bound ≤ p.traceId := by
        split
        next => exact hparent
        next => simp
      exact Handler.le_traceId hcaller hnext handler
  | invoke context handler => simp [Work.trace]

theorem Work.le_traceIds
    {bound next : ℕ} {parent : Option SpanContext}
    (hparent : ∀ p ∈ parent, bound ≤ p.traceId) (hnext : bound ≤ next)
    (traced : Bool) (work : List Work) :
    ∀ span ∈ Work.traceAll traced parent next work,
      bound ≤ span.context.traceId := by
  cases work with
  | nil => simp [Work.traceAll]
  | cons work rest =>
      rw [Work.traceAll, List.forall_mem_append]
      exact ⟨Work.le_traceId hparent hnext traced work,
        Work.le_traceIds hparent (Nat.le_add_right_of_le hnext) traced rest⟩

theorem Handler.le_traceId
    {bound next : ℕ} {parent : Option SpanContext}
    (hparent : ∀ p ∈ parent, bound ≤ p.traceId) (hnext : bound ≤ next)
    (handler : Handler) :
    ∀ span ∈ Handler.trace parent next handler,
      bound ≤ span.context.traceId := by
  obtain ⟨traced, method, name, found, work, outcome⟩ := handler
  cases found with
  | false => simp [Handler.trace]
  | true =>
      have hcontext := Tracing.le_newContext hparent hnext traced
      rw [Handler.trace, if_pos rfl, List.forall_mem_append]
      exact ⟨ServerSpanGuard.forall_mem_closed hcontext,
        Work.le_traceIds hcontext (Nat.le_add_right_of_le hnext) traced work⟩

end

/-- What is recorded without a current span is of other traces than those there
are. -/
theorem forall_traceId_eq_iff
    {spans : List Span} {traceId next : ℕ} (hlt : traceId < next)
    (hfresh : ∀ span ∈ spans, next ≤ span.context.traceId) :
    (∀ span ∈ spans, span.context.traceId = traceId) ↔ spans = [] := by
  constructor
  · intro h
    refine List.eq_nil_iff_forall_not_mem.mpr fun span hspan => ?_
    have heq := h span hspan
    have hle := hfresh span hspan
    omega
  · rintro rfl
    simp

mutual

theorem Work.one_trace_iff
    {p : SpanContext} {next : ℕ} (hlt : p.traceId < next) (work : Work) :
    (∀ span ∈ Work.trace true (some p) next work,
      span.context.traceId = p.traceId) ↔ work.Linked := by
  cases work with
  | span name work =>
      have hclosed : ∀ c ∈ TracingSpan.context true (some p) next,
          c.traceId = p.traceId := by
        simp [TracingSpan.context]
      have hlength : (TracingSpan.closed name (some p)
          (TracingSpan.context true (some p) next)).length = 1 := rfl
      have hwork := Work.one_traces_iff
        (show (⟨p.traceId, next⟩ : SpanContext).traceId < next + 1 from
          Nat.lt_succ_of_lt hlt) work
      rw [Work.trace, List.forall_mem_append, hlength]
      exact (and_iff_right (TracingSpan.forall_mem_closed hclosed)).trans hwork
  | call context handler =>
      by_cases hchannel : context.KnowsChannel
      · have hhandler := Handler.one_trace_iff hlt handler
        simpa [Work.trace, Work.Linked, hchannel] using hhandler
      · have hfresh : ∀ span ∈ Handler.trace none next handler,
            next ≤ span.context.traceId :=
          Handler.le_traceId (by simp) le_rfl handler
        have hnone := forall_traceId_eq_iff hlt hfresh
        rw [Handler.trace_none] at hnone
        simpa [Work.trace, Work.Linked, hchannel] using hnone
  | invoke context handler => simp [Work.trace, Work.Linked]

theorem Work.one_traces_iff
    {p : SpanContext} {next : ℕ} (hlt : p.traceId < next) (work : List Work) :
    (∀ span ∈ Work.traceAll true (some p) next work,
      span.context.traceId = p.traceId) ↔ Work.AllLinked work := by
  cases work with
  | nil => simp [Work.traceAll, Work.AllLinked]
  | cons work rest =>
      rw [Work.traceAll, List.forall_mem_append, Work.one_trace_iff hlt work,
        Work.one_traces_iff (Nat.lt_add_right _ hlt) rest]
      rfl

theorem Handler.one_trace_iff
    {p : SpanContext} {next : ℕ} (hlt : p.traceId < next) (handler : Handler) :
    (∀ span ∈ Handler.trace (some p) next handler,
      span.context.traceId = p.traceId) ↔ handler.Linked := by
  obtain ⟨traced, method, name, found, work, outcome⟩ := handler
  cases found with
  | false => simp [Handler.trace, Handler.Linked]
  | true =>
      cases traced with
      | false =>
          have hfresh : ∀ span ∈ Work.traceAll false none next work,
              next ≤ span.context.traceId :=
            Work.le_traceIds (by simp) le_rfl false work
          have hnone := forall_traceId_eq_iff hlt hfresh
          rw [Work.traceAll_none] at hnone
          rw [Handler.trace_untraced, hnone, Handler.Linked]
          exact ⟨fun h _ => h, fun h => h rfl⟩
      | true =>
          have hclosed : ∀ c ∈ Tracing.newContext true (some p) next,
              c.traceId = p.traceId := by
            simp [Tracing.newContext]
          have hlength : (ServerSpanGuard.closed method (some p)
              (Tracing.newContext true (some p) next) outcome).length = 1 := rfl
          have hwork := Work.one_traces_iff
            (show (⟨p.traceId, next⟩ : SpanContext).traceId < next + 1 from
              Nat.lt_succ_of_lt hlt) work
          rw [Handler.trace, if_pos rfl, List.forall_mem_append, hlength]
          refine (and_iff_right
            (ServerSpanGuard.forall_mem_closed hclosed)).trans ?_
          exact hwork.trans ⟨fun h _ => h, fun h => h rfl⟩

end

namespace Propagator

/-- The header of the W3C trace context, with the identifiers in decimal. -/
def header (c : SpanContext) : Str :=
  List.intercalate ['-'] ["00".toList, Nat.toDigits 10 c.traceId,
    Nat.toDigits 10 c.spanId, "01".toList]

def ofHeader (header : Str) : Option SpanContext :=
  match header.splitOn '-' with
  | [_, traceId, spanId, _] =>
      some ⟨Nat.ofDigitChars 10 traceId 0, Nat.ofDigitChars 10 spanId 0⟩
  | _ => none

theorem dash_notMem_toDigits (n : ℕ) : '-' ∉ Nat.toDigits 10 n := by
  intro h
  have hdigit := Nat.isDigit_of_mem_toDigits (by decide) (by decide) h
  cases hdigit

theorem ofHeader_header (c : SpanContext) : ofHeader (header c) = some c := by
  have hparts : ∀ part ∈ ["00".toList, Nat.toDigits 10 c.traceId,
      Nat.toDigits 10 c.spanId, "01".toList], '-' ∉ part := by
    simp [dash_notMem_toDigits]
  unfold ofHeader header
  rw [List.splitOn_intercalate '-' hparts (List.cons_ne_nil _ _)]
  simp

def w3c : Propagator where
  inject span := ⟨span.map header, none⟩
  extract value := value.bind ofHeader
  inject_none := rfl
  extract_inject c := by
    cases c with
    | none => rfl
    | some c => exact ofHeader_header c

end Propagator

def TraceEnv.w3c : TraceEnv := ⟨.w3c, "v0.0.0".toList, fun _ => true⟩

/-- A handler that calls another, and one of a process that is not traced. -/
def relay : Handler :=
  .mk true "BaseServer::MoveStraight".toList "base".toList true
    [.span "wheels".toList [.call (.ofChannel none none)
      (.mk true "MotorServer::GoFor".toList "left".toList true []
        (.ok ⟨.ok, []⟩))],
     .call .plain
      (.mk false "MotorServer::Stop".toList "left".toList true []
        (.ok ⟨.ok, []⟩))]
    (.ok ⟨.ok, []⟩)

/-- What a traced handler does is recorded in the trace of its caller exactly
if it is linked. -/
theorem handler_one_trace_iff
    (env : TraceEnv) {caller : SpanContext} {context : ServerContext}
    {before : List Span} (hfresh : caller.traceId < before.length)
    (hcaller : env.propagator.extract
      (context.fieldValues ClientContext.traceparentKey).head? = some caller)
    (handler : Handler) :
    ∃ spans, (Handler.exec env context handler).run ⟨Thread.idle, before⟩ =
        (handler.answer, ⟨Thread.idle, before ++ spans⟩) ∧
      ((∀ span ∈ spans, span.context.traceId = caller.traceId) ↔
        handler.Linked) := by
  have hexec := Handler.exec_appends env context handler ⟨Thread.idle, before⟩
    rfl
  rw [ServerSpanGuard.parent_idle, hcaller] at hexec
  exact ⟨_, hexec, Handler.one_trace_iff hfresh handler⟩

theorem handler_one_trace_relay :
    ∃ spans, (Handler.exec .w3c ⟨[(ClientContext.traceparentKey,
        Propagator.header ⟨0, 0⟩)]⟩ relay).run
          ⟨Thread.idle, [.started [] .internal none ⟨0, 0⟩]⟩ =
        (relay.answer,
          ⟨Thread.idle, [.started [] .internal none ⟨0, 0⟩] ++ spans⟩) ∧
      ∀ span ∈ spans, span.context.traceId = 0 := by
  have hcaller : Propagator.w3c.extract
      (ServerContext.fieldValues ClientContext.traceparentKey
        ⟨[(ClientContext.traceparentKey, Propagator.header ⟨0, 0⟩)]⟩).head? =
          some ⟨0, 0⟩ := by
    simp [ServerContext.fieldValues, Propagator.w3c, Propagator.ofHeader_header]
  have hlinked : relay.Linked := by
    simp [relay, Handler.Linked, Work.AllLinked, Work.Linked, Handler.Silent,
      Work.AllSilent, CallContext.KnowsChannel]
  obtain ⟨spans, hrun, hiff⟩ := handler_one_trace_iff .w3c
    (show (⟨0, 0⟩ : SpanContext).traceId <
      [Span.started [] .internal none ⟨0, 0⟩].length from Nat.one_pos)
    hcaller relay
  exact ⟨spans, hrun, hiff.mpr hlinked⟩

end ViamSdk
