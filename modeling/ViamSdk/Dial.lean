import ViamSdk.Cxx
import Mathlib.Data.Rat.Defs

/-!
# Channels and dialling

A channel keeps the address it was dialled with as a bare pointer into a
buffer of the caller.  A pointer that was never set, or whose buffer is gone,
leads nowhere.  What a dial comes to is decided outside the SDK.
-/

namespace ViamSdk

inductive UriPointer where
  | uninitialised
  | buffer (b : ℕ)
  deriving DecidableEq, Repr

/-- What the callers' buffers hold at a moment. -/
abbrev Memory := ℕ → Option Str

def Memory.read (memory : Memory) : UriPointer → Option Str
  | .uninitialised => none
  | .buffer b => memory b

structure Credentials where
  type : Str
  payload : Str
  deriving DecidableEq, Repr

structure DialOptions where
  entity : Option Str := none
  credentials : Option Credentials := none
  allowInsecureDowngrade : Bool := false
  webrtcDisabled : Bool := false
  timeout : ℚ := 20
  initialConnectionAttempts : ℤ := 3
  initialConnectionAttemptTimeout : ℚ := 20
  deriving DecidableEq

/-- The outcome of one dial: whether `viam_dial` finds a path, and the answer
of the authentication service to a direct dial. -/
structure DialEnv where
  path : Bool
  authenticate : Except Exception Unit

structure DialCall where
  target : Option Str
  options : DialOptions

/-- The number stands for the `grpc::Channel`; no two are alike. -/
structure ViamChannel where
  uri : UriPointer
  pimpl : Option ℕ
  deriving DecidableEq, Repr

namespace ViamChannel

def close (channel : ViamChannel) : ViamChannel := { channel with pimpl := none }

def dialCall (memory : Memory) (uri : UriPointer)
    (options : Option DialOptions) : DialCall :=
  ⟨memory.read uri, options.getD {}⟩

def dialDirect (uri : UriPointer) (opts : DialOptions) (env : DialEnv)
    (id : ℕ) : Cxx ViamChannel := do
  let _ ← deref opts.entity
  let _ ← deref opts.credentials
  rethrow env.authenticate
  return ⟨uri, some id⟩

def dial (uri : UriPointer) (options : Option DialOptions) (env : DialEnv)
    (id : ℕ) : Cxx ViamChannel :=
  let opts := options.getD {}
  if opts.webrtcDisabled then dialDirect uri opts env id
  else if env.path then .ok ⟨uri, some id⟩
  else throwSdk .connection "Unable to establish connecting path".toList

/-- The loop of `dial_initial`.  It is still dialling when the outcomes run
out; the exception it ends with is a copy of its base class. -/
def dialInitialLoop (uri : UriPointer) (opts : DialOptions) (id : ℕ) :
    ℤ → List DialEnv → Option (Cxx ViamChannel)
  | _, [] => none
  | remaining, env :: envs =>
      match dial uri (some opts) env id with
      | .ok channel => some (.ok channel)
      | .error (.thrown e) =>
          if e.isStd then
            if remaining - 1 = 0 then
              some (.error (.thrown (.std "std::exception".toList)))
            else dialInitialLoop uri opts id (remaining - 1) envs
          else some (.error (.thrown e))
      | .error .nullDereference => some (.error .nullDereference)

def dialInitial (uri : UriPointer) (options : Option DialOptions)
    (envs : List DialEnv) (id : ℕ) : Option (Cxx ViamChannel) :=
  let opts := options.getD {}
  let attempts := if opts.initialConnectionAttempts = 0 then -1
    else opts.initialConnectionAttempts
  dialInitialLoop uri
    { opts with timeout := opts.initialConnectionAttemptTimeout }
    id attempts envs

theorem eq_of_dial
    {uri : UriPointer} {options : Option DialOptions} {env : DialEnv} {id : ℕ}
    {channel : ViamChannel} (h : dial uri options env id = .ok channel) :
    channel = ⟨uri, some id⟩ := by
  unfold dial dialDirect at h
  simp only at h
  split at h
  next =>
    cases hentity : (options.getD {}).entity with
    | none =>
        rw [hentity] at h
        cases h
    | some entity =>
        cases hcredentials : (options.getD {}).credentials with
        | none =>
            rw [hentity, hcredentials] at h
            cases h
        | some credentials =>
            cases hauth : env.authenticate with
            | error e =>
                rw [hentity, hcredentials, hauth] at h
                cases h
            | ok u =>
                rw [hentity, hcredentials, hauth] at h
                cases h
                rfl
  next =>
    split at h
    next =>
      cases h
      rfl
    next => cases h

theorem eq_of_dialInitialLoop
    {uri : UriPointer} {opts : DialOptions} {id : ℕ} {remaining : ℤ}
    {envs : List DialEnv} {channel : ViamChannel}
    (h : dialInitialLoop uri opts id remaining envs = some (.ok channel)) :
    channel = ⟨uri, some id⟩ := by
  induction envs generalizing remaining with
  | nil => cases h
  | cons env envs ih =>
      unfold dialInitialLoop at h
      split at h
      next dialled hdial =>
        cases h
        exact eq_of_dial hdial
      next e hdial =>
        split at h
        next =>
          split at h
          next => cases h
          next => exact ih h
        next => cases h
      next => cases h

theorem dial_default
    (uri : UriPointer) (env : DialEnv) (id : ℕ) :
    dial uri none env id =
      if env.path then .ok ⟨uri, some id⟩
      else throwSdk .connection "Unable to establish connecting path".toList :=
  rfl

end ViamChannel

end ViamSdk
