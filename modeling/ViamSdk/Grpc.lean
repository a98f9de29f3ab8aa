import ViamSdk.Cxx

/-!
# Unary calls

The status of a call, and what a unary call leaves with the client.  The
response of the handler travels only with the status OK; in every other case
the client keeps the empty response that it started the call with.
-/

namespace ViamSdk

namespace Grpc

inductive StatusCode where
  | ok
  | cancelled
  | invalidArgument
  | notFound
  | internal
  | other (code : ℕ)
  deriving DecidableEq, Repr

structure Status where
  code : StatusCode
  message : Str
  deriving DecidableEq, Repr

def Status.isOk (status : Status) : Bool := status.code == .ok

/-- A status that reports a failure. -/
structure Failure where
  status : Status
  failed : status.isOk = false

/-- What the connection does to a call: it may lose it, also because the runtime
refuses a message, and it reports a server that went down without an answer. -/
structure Transport where
  lost : Option Failure
  down : Failure

/-- The runtime takes the request and the response, whose strings are UTF-8 and
whose sizes are within its limit, and the connection loses neither. -/
def Transport.TakesEvery (transport : Transport) : Prop := transport.lost = none

/-- A connection that delivers every answer. -/
def directTransport : Transport := ⟨none, ⟨⟨.other 14, []⟩, rfl⟩⟩

theorem directTransport_takesEvery : directTransport.TakesEvery := rfl

/-- The status and the response as the client finds them. -/
def unary {Resp : Type} [Inhabited Resp] (transport : Transport)
    (answer : Cxx (Status × Resp)) : Status × Resp :=
  match transport.lost, answer with
  | some failure, _ => (failure.status, default)
  | none, .error _ => (transport.down.status, default)
  | none, .ok (status, response) =>
      if status.isOk then (status, response) else (status, default)

variable {Resp : Type} [Inhabited Resp] {transport : Transport}
  {answer : Cxx (Status × Resp)}

/-- A call ends with OK exactly if it got through and was answered so. -/
theorem unary_isOk_iff :
    (unary transport answer).1.isOk = true ↔
      transport.lost = none ∧
        ∃ status response, answer = .ok (status, response) ∧
          status.isOk = true := by
  unfold unary
  split
  next failure hlost =>
    simp [hlost, failure.failed]
  next fault hlost =>
    simp [hlost, transport.down.failed]
  next status response hlost =>
    simp only [hlost, true_and, Except.ok.injEq, Prod.mk.injEq]
    constructor
    · intro hok
      refine ⟨status, response, ⟨rfl, rfl⟩, ?_⟩
      split at hok <;> exact hok
    · rintro ⟨status', response', ⟨rfl, rfl⟩, hok⟩
      simp [hok]

/-- Without OK there is no response. -/
theorem unary_of_not_isOk
    (h : (unary transport answer).1.isOk = false) :
    (unary transport answer).2 = default := by
  unfold unary at h ⊢
  split
  next => rfl
  next => rfl
  next status response hlost =>
    rw [hlost] at h
    cases hok : status.isOk with
    | false => simp
    | true => simp [hok] at h

theorem unary_of_isOk
    {status : Status} {response : Resp} (hlost : transport.lost = none)
    (hok : status.isOk = true) :
    unary transport (.ok (status, response)) = (status, response) := by
  unfold unary
  rw [hlost]
  simp [hok]

end Grpc

end ViamSdk
