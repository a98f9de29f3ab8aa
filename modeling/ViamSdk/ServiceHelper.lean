import ViamSdk.Grpc
import ViamSdk.ProtoValue
import ViamSdk.ResourceManager

/-!
# The helpers of the servers and the clients

A handler of a resource server looks its resource up by the name in the
request and runs on it; whatever is thrown becomes a status.  gRPC gives every
handler a context and a request, so the checks for their absence do not show
here.  A method of a resource client fills a request, makes the call, and
reads the response or throws.
-/

namespace ViamSdk

/-! ## The server -/

/-- A `ResourceServer` for the resources that a dynamic cast takes. -/
structure ResourceServer (ρ τ : Type) where
  resourceManager : ResourceManager ρ
  dynamicCast : ρ → Option τ

def ResourceServer.resource {ρ τ : Type} (server : ResourceServer ρ τ)
    (name : Str) : Option τ :=
  (server.resourceManager.resource name).bind server.dynamicCast

/-- What a `const char*` to a string's bytes shows: they end at the first NUL. -/
def cStr (s : Str) : Str := s.takeWhile (· ≠ Char.ofNat 0)

def soleServer {τ : Type} (name : Str) (resource : τ) : ResourceServer τ τ :=
  ⟨⟨UnorderedMap.emplace name (some resource) ∅, ∅⟩, some⟩

theorem resource_soleServer
    {τ : Type} (name : Str) (resource : τ) :
    (soleServer name resource).resource name = some resource := by
  have hlookup := UnorderedMap.lookup_emplace_of_not_mem
    (v := some resource) (AList.notMem_empty name)
  unfold soleServer ResourceServer.resource ResourceManager.resource
  rw [hlookup]
  rfl

namespace ServiceHelper

def fail (method : Str) (code : Grpc.StatusCode) (message : Str) :
    Grpc.Status :=
  ⟨code, "[".toList ++ method ++ "]: ".toList ++ cStr message⟩

def failNoResource (method name : Str) : Grpc.Status :=
  fail method .notFound
    ("Failed to find resource `".toList ++ name ++ "`".toList)

def failStdException (method what : Str) : Grpc.Status :=
  fail method .internal ("Failed with a std::exception: ".toList ++ what)

def failUnknownException (method : Str) : Grpc.Status :=
  fail method .internal "Failed with an unknown exception".toList

def failException (method : Str) (e : Exception) : Grpc.Status :=
  if e.isStd then failStdException method e.what
  else failUnknownException method

section Invoke

variable {τ Resp : Type}

/-- What the handler returns after a callable that has filled the response and
returned a status or thrown.  What it has filled stays. -/
def answer (method : Str) : Cxx Grpc.Status × Resp → Cxx (Grpc.Status × Resp)
  | (.ok status, response) => .ok (status, response)
  | (.error (.thrown e), response) => .ok (failException method e, response)
  | (.error .nullDereference, _) => .error .nullDereference

/-- `operator()`. -/
def invoke {m : Type → Type} [Monad m] [Inhabited Resp] (method name : Str)
    (resource : Option τ) (callable : τ → m (Cxx Grpc.Status × Resp)) :
    m (Cxx (Grpc.Status × Resp)) :=
  match resource with
  | none => return .ok (failNoResource method name, default)
  | some resource => answer method <$> callable resource

end Invoke

def getExtra (o : Arrangement) : Option Struct → ProtoStruct
  | some extra => extra.fromProto o
  | none => .empty

@[simp]
theorem fail_isOk
    (method : Str) (code : Grpc.StatusCode) (message : Str) :
    (fail method code message).isOk = (code == .ok) := rfl

@[simp]
theorem failNoResource_isOk (method name : Str) :
    (failNoResource method name).isOk = false := rfl

@[simp]
theorem failException_isOk (method : Str) (e : Exception) :
    (failException method e).isOk = false := by
  unfold failException
  split <;> rfl

@[simp]
theorem invoke_none_run
    {σ τ Resp : Type} [Inhabited Resp] (method name : Str)
    (callable : τ → StateM σ (Cxx Grpc.Status × Resp)) (state : σ) :
    ((invoke method name none callable).run state).1 =
      .ok (failNoResource method name, default) := rfl

@[simp]
theorem invoke_some_run
    {σ τ Resp : Type} [Inhabited Resp] (method name : Str) (resource : τ)
    (callable : τ → StateM σ (Cxx Grpc.Status × Resp)) (state : σ) :
    ((invoke method name (some resource) callable).run state).1 =
      answer method ((callable resource).run state).1 := rfl

@[simp]
theorem getExtra_some (o : Arrangement) (extra : Struct) :
    getExtra o (some extra) = extra.fromProto o := rfl

end ServiceHelper

/-- The answer of a callable that returns nothing: OK, unless it throws. -/
def ServiceHelper.returnVoid {Resp : Type} [Inhabited Resp] :
    Cxx Resp → Cxx Grpc.Status × Resp
  | .ok response => (.ok ⟨.ok, []⟩, response)
  | .error fault => (.error fault, default)

/-! ## The client -/

/-- `get_unchecked<std::string>`.  Nothing is promised of a value of another
type. -/
def ProtoValue.getUncheckedString : ProtoValue → Option Str
  | .string s => some s
  | _ => none

namespace ClientHelper

def debugMapKey : Str := "com.viam.debug_key_internal".toList

def debugMapValue (extra : ProtoStruct) : Option (Option Str) :=
  match extra.fields.lookup debugMapKey with
  | some value => value.getUncheckedString.map some
  | none => some none

/-- `default_ehc_`, which throws a `GRPCException`. -/
def defaultErrorHandler {α : Type} (status : Grpc.Status) : Cxx α :=
  throwSdk .grpc status.message

/-- The status decides whether the response is read. -/
def finish {Resp α : Type} (result : Grpc.Status × Resp)
    (responseHandler : Resp → Cxx α) : Cxx α :=
  if result.1.isOk then responseHandler result.2
  else defaultErrorHandler result.1

/-- `invoke` without an extra. -/
def invoke {m : Type → Type} [Monad m] {Resp α : Type}
    (stub : m (Grpc.Status × Resp)) (responseHandler : Resp → Cxx α) :
    m (Option (Cxx α)) :=
  (fun result => some (finish result responseHandler)) <$> stub

/-- `with(extra, ...)` and `invoke`.  A debug key that is not empty is sent as
metadata, and gRPC aborts on metadata that it does not let through.  There is
no result where the program aborts or nothing is promised of it. -/
def withExtra {m : Type → Type} [Monad m] {Resp α : Type} (sends : Str → Bool)
    (extra : ProtoStruct) (stub : m (Grpc.Status × Resp))
    (responseHandler : Resp → Cxx α) : m (Option (Cxx α)) :=
  match debugMapValue extra with
  | none => return none
  | some value =>
      let debugKey := value.getD []
      if debugKey ≠ [] ∧ sends debugKey = false then return none
      else (fun result => some (finish result responseHandler)) <$> stub

/-- The debug key of the struct, if it has one, is a string that can be
sent. -/
def DebugKeySent (sends : Str → Bool) (extra : ProtoStruct) : Prop :=
  ∀ value, extra.fields.lookup debugMapKey = some value →
    ∃ s, value = .string s ∧ (s = [] ∨ sends s = true)

theorem debugKeySent_empty
    (sends : Str → Bool) :
    DebugKeySent sends .empty := by
  intro value hlookup
  cases hlookup

theorem withExtra_of_sent
    {m : Type → Type} [Monad m] {Resp α : Type} {sends : Str → Bool}
    {extra : ProtoStruct} (h : DebugKeySent sends extra)
    (stub : m (Grpc.Status × Resp)) (responseHandler : Resp → Cxx α) :
    withExtra sends extra stub responseHandler =
      (fun result => some (finish result responseHandler)) <$> stub := by
  unfold withExtra debugMapValue
  cases hlookup : extra.fields.lookup debugMapKey with
  | none => simp
  | some value =>
      obtain ⟨s, rfl, hs⟩ := h value hlookup
      rcases hs with rfl | hsent
      · simp [ProtoValue.getUncheckedString]
      · simp [ProtoValue.getUncheckedString, hsent]

theorem withExtra_of_not_sent
    {m : Type → Type} [Monad m] {Resp α : Type} {sends : Str → Bool}
    {extra : ProtoStruct} (h : ¬ DebugKeySent sends extra)
    (stub : m (Grpc.Status × Resp)) (responseHandler : Resp → Cxx α) :
    withExtra sends extra stub responseHandler = pure none := by
  simp only [DebugKeySent, not_forall] at h
  obtain ⟨value, hlookup, hvalue⟩ := h
  unfold withExtra debugMapValue
  rw [hlookup]
  cases value with
  | string s =>
      simp only [ProtoValue.string.injEq, exists_eq_left', not_or,
        Bool.not_eq_true] at hvalue
      simp [ProtoValue.getUncheckedString, hvalue]
  | _ => simp [ProtoValue.getUncheckedString]

/-- A call through both helpers: the server's state is what the callable left,
and the client reads what the callable returned. -/
theorem withExtra_invoke_run
    {σ τ Resp α β : Type} [Inhabited Resp] {transport : Grpc.Transport}
    (htakes : transport.TakesEvery) {sends : Str → Bool}
    {extra : ProtoStruct} (hsent : DebugKeySent sends extra) (method name : Str)
    {resource : τ} {query : τ → ExceptT Fault (StateM σ) β} {respond : β → Resp}
    {responseHandler : Resp → Cxx α} {received : β → α}
    (hread : ∀ b, responseHandler (respond b) = .ok (received b)) {s s' : σ}
    {outcome : Cxx β} (hquery : (query resource).run.run s = (outcome, s')) :
    ∃ result : Cxx α,
      (withExtra sends extra
        (Grpc.unary transport <$>
          ServiceHelper.invoke method name (some resource) fun resource =>
            ServiceHelper.returnVoid <$> (respond <$> query resource).run)
        responseHandler).run s = (some result, s') ∧
      ∀ b, outcome = .ok b → result = .ok (received b) := by
  refine ⟨finish (Grpc.unary transport (ServiceHelper.answer method
    (ServiceHelper.returnVoid (outcome.map respond)))) responseHandler, ?_, ?_⟩
  · unfold ServiceHelper.invoke
    simp only [withExtra_of_sent hsent, StateT.run_map, ExceptT.run_map, hquery]
    rfl
  · rintro b rfl
    have hanswer : Grpc.unary transport (ServiceHelper.answer method
        (ServiceHelper.returnVoid (.ok (respond b)))) =
        (⟨.ok, []⟩, respond b) := Grpc.unary_of_isOk htakes rfl
    change finish (Grpc.unary transport (ServiceHelper.answer method
      (ServiceHelper.returnVoid (.ok (respond b))))) responseHandler = _
    rw [hanswer]
    exact hread b

end ClientHelper

end ViamSdk
