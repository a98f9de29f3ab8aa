import Mathlib.Logic.Function.Basic
import ViamSdk.Cxx
import ViamSdk.StepTrace

/-!
# The instance of the SDK

An `Instance` holds the registry, the log manager and the tracer of a program.
Its constructor claims the one place for it with a compare and exchange, and
its destructor leaves a sentinel there.  `current` finds it, and makes a static
one if it is asked to; `get` of the registry and of the log manager keep what
they have found in statics of their own.  The constructor logs a line once the
log manager is ready for it, and for that gets the log manager itself.

Any number of threads do all this at once.  A step is one access to what they
share.
-/

namespace ViamSdk

open StepTrace

/-- A static of a function.  One thread at a time initializes it, and it stays
uninitialized where that throws. -/
inductive LocalStatic (α : Type) where
  | untouched
  | held (thread : ℕ)
  | made (value : α)

namespace Instance

/-! ## The program -/

/-- The static of `current`, or one that the program constructs. -/
inductive Ref where
  | ifNeeded
  | own (n : ℕ)
  deriving DecidableEq, Repr

inductive Creation where
  | openExisting
  | ifNeeded
  deriving DecidableEq, Repr

/-- `current_instance`. -/
inductive Current where
  | null
  | address (i : Ref)
  | sentinel
  deriving DecidableEq, Repr

/-- How far the object has got whose constructor has claimed the place.  It has
an `impl_` from `built` to `closing`; a constructor that has `failed` has taken
it down again. -/
inductive Stage where
  | claimed
  | built
  | complete
  | failed
  | closing
  | destroyed
  deriving DecidableEq, Repr

def Stage.hasImpl : Stage → Bool
  | .built | .complete | .closing => true
  | .claimed | .failed | .destroyed => false

/-- Whether the destructor has begun. -/
def Stage.gone : Stage → Bool
  | .closing | .destroyed => true
  | .claimed | .built | .complete | .failed => false

inductive Part where
  | registry
  | logMgr
  | tracer
  deriving DecidableEq, Repr

/-- Whether `get` keeps the part in a static. -/
def Part.kept : Part → Bool
  | .registry | .logMgr => true
  | .tracer => false

/-- What `current` is called for. -/
inductive Purpose where
  | caller (creation : Creation)
  | part (p : Part)
  deriving DecidableEq, Repr

def Purpose.creation : Purpose → Creation
  | .caller creation => creation
  | .part _ => .openExisting

/-- How far `LogManager::get` has got for the line that the constructor
logs. -/
inductive LineAt where
  | asking
  | loading
  | found (i : Ref)
  deriving DecidableEq, Repr

/-- Where a thread is.  A constructor that runs for the static of `current`
goes on for the purpose of that call. -/
inductive Place where
  | idle
  | asking (purpose : Purpose)
  | entering (purpose : Purpose)
  | claiming (purpose : Purpose)
  | claimed (i : Ref) (purpose : Option Purpose)
  | setup (i : Ref) (purpose : Option Purpose)
  | logging (i : Ref) (purpose : Option Purpose) (line : LineAt)
  | logged (i : Ref) (purpose : Option Purpose)
  | loading (purpose : Purpose)
  | found (i : Ref) (p : Part)
  | destroying
  deriving DecidableEq, Repr

structure Process where
  current : Current
  object : Option (Ref × Stage)
  inst : LocalStatic Unit
  kept : Part → LocalStatic Ref
  threads : ℕ → Place

def Process.start : Process where
  current := .null
  object := none
  inst := .untouched
  kept := fun _ => .untouched
  threads := fun _ => .idle

/-- What a thread begins, or that it goes on; `fails` is an exception in the
constructor once the place is claimed. -/
inductive Act where
  | construct (n : ℕ)
  | destroy
  | current (creation : Creation)
  | get (p : Part)
  | goOn
  | fails (e : Exception)
  deriving DecidableEq, Repr

inductive Outcome where
  | goesOn
  | constructed (i : Ref)
  | destroyed
  | returned (i : Ref)
  | part (p : Part) (i : Ref)
  | threw (e : Exception)
  | nullDereference
  deriving DecidableEq, Repr

def duplicate : Exception :=
  .sdk .general "tried to create duplicate instance".toList

def notCreated : Exception :=
  .sdk .general "Instance has not yet been created".toList

def wasDestroyed : Exception := .sdk .general "instance was destroyed".toList

namespace Process

def goto (s : Process) (t : ℕ) (place : Place) : Process :=
  { s with threads := Function.update s.threads t place }

/-- An exception leaves the initializer of the static of `get`. -/
def leave (s : Process) (purpose : Purpose) : Process :=
  match purpose with
  | .part p =>
      if p.kept then { s with kept := Function.update s.kept p .untouched }
      else s
  | .caller _ => s

/-- An exception leaves the constructor. -/
def leaveConstructor (s : Process) : Option Purpose → Process
  | some purpose => { s.leave purpose with inst := .untouched }
  | none => s

/-- The compare and exchange at the start of the constructor. -/
def claim (s : Process) (t : ℕ) (i : Ref) (purpose : Option Purpose) :
    Outcome × Process :=
  match s.current with
  | .null =>
      (.goesOn, { s with
        current := .address i
        object := some (i, .claimed)
        threads := Function.update s.threads t (.claimed i purpose) })
  | _ => (.threw duplicate, (s.leaveConstructor purpose).goto t .idle)

/-- The constructor throws once the place is claimed. -/
def fail (s : Process) (t : ℕ) (i : Ref) (purpose : Option Purpose)
    (e : Exception) : Outcome × Process :=
  (.threw e, { (s.leaveConstructor purpose).goto t .idle with
    object := some (i, .failed) })

/-- The second load of `current`, which returns what it finds. -/
def load (s : Process) (t : ℕ) (purpose : Purpose) : Outcome × Process :=
  match s.current, purpose with
  | .sentinel, _ => (.threw wasDestroyed, (s.leave purpose).goto t .idle)
  | .null, _ => (.nullDereference, s.goto t .idle)
  | .address i, .caller _ => (.returned i, s.goto t .idle)
  | .address i, .part p => (.goesOn, s.goto t (.found i p))

/-- `impl_->` for a part, which `get` may keep. -/
def take (s : Process) (t : ℕ) (i : Ref) (p : Part) : Outcome × Process :=
  if s.object.any fun object => object.2.hasImpl then
    (.part p i,
      if p.kept then
        { s.goto t .idle with kept := Function.update s.kept p (.made i) }
      else s.goto t .idle)
  else (.nullDereference, s.goto t .idle)

/-- `LogManager::get` throws within the constructor. -/
def failLine (s : Process) (t : ℕ) (i : Ref) (purpose : Option Purpose)
    (e : Exception) : Outcome × Process :=
  (s.leave (.part .logMgr)).fail t i purpose e

/-- `LogManager::get` within the constructor, once it holds the static. -/
def logLine (s : Process) (t : ℕ) (i : Ref) (purpose : Option Purpose) :
    LineAt → Outcome × Process
  | .asking =>
      match s.current with
      | .null => s.failLine t i purpose notCreated
      | _ => (.goesOn, s.goto t (.logging i purpose .loading))
  | .loading =>
      match s.current with
      | .sentinel => s.failLine t i purpose wasDestroyed
      | .null => (.nullDereference, s.goto t .idle)
      | .address j => (.goesOn, s.goto t (.logging i purpose (.found j)))
  | .found j =>
      if s.object.any fun object => object.2.hasImpl then
        (.goesOn, { s.goto t (.logged i purpose) with
          kept := Function.update s.kept .logMgr (.made j) })
      else (.nullDereference, s.goto t .idle)

/-- What a thread does next, where it need not wait for another. -/
def goOn (s : Process) (t : ℕ) : Place → Option (Outcome × Process)
  | .idle => none
  | .asking purpose =>
      match s.current, purpose.creation with
      | .null, .openExisting =>
          some (.threw notCreated, (s.leave purpose).goto t .idle)
      | .null, .ifNeeded => some (.goesOn, s.goto t (.entering purpose))
      | _, _ => some (.goesOn, s.goto t (.loading purpose))
  | .entering purpose =>
      match s.inst with
      | .untouched =>
          some (.goesOn,
            { s.goto t (.claiming purpose) with inst := .held t })
      | .held _ => none
      | .made _ => some (.goesOn, s.goto t (.loading purpose))
  | .claiming purpose => some (s.claim t .ifNeeded (some purpose))
  | .claimed i purpose =>
      some (.goesOn, { s.goto t (.setup i purpose) with
        object := some (i, .built) })
  | .setup i purpose =>
      match s.kept .logMgr with
      | .untouched =>
          some (.goesOn, { s.goto t (.logging i purpose .asking) with
            kept := Function.update s.kept .logMgr (.held t) })
      | .held _ => none
      | .made _ => some (.goesOn, s.goto t (.logged i purpose))
  | .logging i purpose line => some (s.logLine t i purpose line)
  | .logged i none =>
      some (.constructed i, { s.goto t .idle with
        object := some (i, .complete) })
  | .logged i (some purpose) =>
      some (.constructed i, { s.goto t (.loading purpose) with
        object := some (i, .complete)
        inst := .made () })
  | .loading purpose => some (s.load t purpose)
  | .found i p => some (s.take t i p)
  | .destroying =>
      s.object.map fun object =>
        (.destroyed, { s.goto t .idle with
          object := some (object.1, .destroyed) })

def next (s : Process) (t : ℕ) : Act → Option (Outcome × Process)
  | .construct n =>
      match s.threads t with
      | .idle => some (s.claim t (.own n) none)
      | _ => none
  | .destroy =>
      match s.threads t, s.object with
      | .idle, some (i, .complete) =>
          some (.goesOn, { s.goto t .destroying with
            current := .sentinel
            object := some (i, .closing) })
      | _, _ => none
  | .current creation =>
      match s.threads t with
      | .idle => some (.goesOn, s.goto t (.asking (.caller creation)))
      | _ => none
  | .get p =>
      match s.threads t, p.kept, s.kept p with
      | .idle, false, _ => some (.goesOn, s.goto t (.asking (.part p)))
      | .idle, true, .untouched =>
          some (.goesOn, { s.goto t (.asking (.part p)) with
            kept := Function.update s.kept p (.held t) })
      | .idle, true, .made i => some (.part p i, s)
      | _, _, _ => none
  | .goOn => s.goOn t (s.threads t)
  | .fails e =>
      match s.threads t with
      | .claimed i purpose => some (s.fail t i purpose e)
      | .setup i purpose => some (s.fail t i purpose e)
      | .logged i purpose => some (s.fail t i purpose e)
      | _ => none

end Process

/-- Which thread did what, and what came of it. -/
structure Event where
  thread : ℕ
  act : Act
  outcome : Outcome
  deriving DecidableEq, Repr

def Step (s : Process) (e : Event) (s' : Process) : Prop :=
  s.next e.thread e.act = some (e.outcome, s')

/-! ## What holds in every state -/

/-- The work of a thread on the object, by the stage that it stands for. -/
def Place.stage : Place → Option Stage
  | .claimed _ _ => some .claimed
  | .setup _ _ | .logging _ _ _ | .logged _ _ => some .built
  | .destroying => some .closing
  | _ => none

def LineAt.refs : LineAt → List Ref
  | .found i => [i]
  | .asking | .loading => []

def Place.refs : Place → List Ref
  | .claimed i _ | .setup i _ | .logged i _ | .found i _ => [i]
  | .logging i _ line => i :: line.refs
  | _ => []

/-- The object that has claimed the place, from the claim to the sentinel. -/
def Current.Fits : Current → Option (Ref × Stage) → Prop
  | .null, none => True
  | .address i, some (j, stage) => i = j ∧ stage.gone = false
  | .sentinel, some (_, stage) => stage.gone = true
  | _, _ => False

/-- The object is the one. -/
def Process.Has (s : Process) (i : Ref) : Prop :=
  ∃ stage, s.object = some (i, stage)

structure Sound (s : Process) : Prop where
  fits : s.current.Fits s.object
  works : ∀ t stage, (s.threads t).stage = some stage →
    ∃ i, s.object = some (i, stage)
  refs : ∀ t, ∀ i ∈ (s.threads t).refs, s.Has i
  alone : ∀ t t', (s.threads t).stage ≠ none → (s.threads t').stage ≠ none →
    t = t'
  loading : ∀ t purpose, s.threads t = .loading purpose → s.current ≠ .null
  inst : ∀ u, s.inst = .made u → s.current ≠ .null
  kept : ∀ p i, s.kept p = .made i → s.Has i

theorem sound_start : Sound .start where
  fits := trivial
  works := fun _ _ h => by cases h
  refs := fun _ _ h => by cases h
  alone := fun _ _ h => absurd rfl h
  loading := fun _ _ h => by cases h
  inst := fun _ h => by cases h
  kept := fun _ _ h => by cases h

section Steps

variable {s s' : Process} {t : ℕ}

theorem Current.Fits.ne_null
    {current : Current} {object : Ref × Stage}
    (h : current.Fits (some object)) :
    current ≠ .null := by
  rintro rfl
  exact h

theorem Sound.ne_null
    (h : Sound s) {i : Ref} (hhas : s.Has i) : s.current ≠ .null := by
  obtain ⟨stage, hobject⟩ := hhas
  have hfits := h.fits
  rw [hobject] at hfits
  exact hfits.ne_null

theorem Sound.has_of_address
    (h : Sound s) {i : Ref} (haddress : s.current = .address i) : s.Has i := by
  have hfits := h.fits
  rw [haddress] at hfits
  cases hobject : s.object with
  | none =>
      rw [hobject] at hfits
      exact hfits.elim
  | some object =>
      rw [hobject] at hfits
      obtain ⟨rfl, -⟩ := hfits
      exact ⟨object.2, hobject⟩

/-- A thread has gone on to a place where it does not work on the object. -/
structure Aside (s : Process) (t : ℕ) (place : Place) (s' : Process) :
    Prop where
  current : s'.current = s.current
  object : s'.object = s.object
  threads : s'.threads = Function.update s.threads t place
  idle : place.stage = none
  refs : ∀ i ∈ place.refs, s.Has i
  loading : ∀ purpose, place = .loading purpose → s.current ≠ .null
  inst : ∀ u, s'.inst = .made u → s.current ≠ .null
  kept : ∀ p i, s'.kept p = .made i → s.Has i

/-- A thread that works on the object has taken it to another stage. -/
structure Advanced (s : Process) (t : ℕ) (i : Ref) (stage stage' : Stage)
    (place : Place) (s' : Process) : Prop where
  works : (s.threads t).stage = some stage
  before : s.object = some (i, stage)
  after : s'.object = some (i, stage')
  gone : stage'.gone = stage.gone
  current : s'.current = s.current
  threads : s'.threads = Function.update s.threads t place
  stands : ∀ stage'', place.stage = some stage'' → stage'' = stage'
  refs : ∀ j ∈ place.refs, j = i
  kept : ∀ p j, s'.kept p = .made j → s.Has j

theorem Aside.has
    {place : Place} (h : Aside s t place s') {i : Ref} :
    s'.Has i ↔ s.Has i := by
  unfold Process.Has
  rw [h.object]

theorem Aside.sound
    {place : Place} (hs : Sound s) (h : Aside s t place s') : Sound s' := by
  have hplace : ∀ u, s'.threads u = place ∨ s'.threads u = s.threads u := by
    intro u
    rw [h.threads]
    by_cases hu : u = t
    · left
      rw [hu, Function.update_self]
    · right
      rw [Function.update_of_ne hu]
  have hstage : ∀ u, (s'.threads u).stage ≠ none →
      (s.threads u).stage ≠ none := by
    intro u hu
    rcases hplace u with hnew | hold
    · rw [hnew] at hu
      exact absurd h.idle hu
    · rwa [hold] at hu
  constructor
  case fits =>
    rw [h.current, h.object]
    exact hs.fits
  case works =>
    intro u stage hu
    rw [h.object]
    rcases hplace u with hnew | hold
    · rw [hnew, h.idle] at hu
      cases hu
    · rw [hold] at hu
      exact hs.works u stage hu
  case refs =>
    intro u i hu
    rw [h.has]
    rcases hplace u with hnew | hold
    · rw [hnew] at hu
      exact h.refs i hu
    · rw [hold] at hu
      exact hs.refs u i hu
  case alone =>
    exact fun u u' hu hu' => hs.alone u u' (hstage u hu) (hstage u' hu')
  case loading =>
    intro u purpose hu
    rw [h.current]
    rcases hplace u with hnew | hold
    · rw [hnew] at hu
      exact h.loading purpose hu
    · rw [hold] at hu
      exact hs.loading u purpose hu
  case inst =>
    rw [h.current]
    exact h.inst
  case kept =>
    intro p i hkept
    rw [h.has]
    exact h.kept p i hkept

theorem Advanced.has
    {place : Place} {i j : Ref} {stage stage' : Stage}
    (h : Advanced s t i stage stage' place s') (hj : s.Has j) : s'.Has j := by
  obtain ⟨stage'', hj⟩ := hj
  rw [h.before] at hj
  cases hj
  exact ⟨stage', h.after⟩

theorem Advanced.sound
    {place : Place} {i : Ref} {stage stage' : Stage} (hs : Sound s)
    (h : Advanced s t i stage stage' place s') : Sound s' := by
  have hnull := hs.ne_null ⟨stage, h.before⟩
  have hother : ∀ u, u ≠ t → s'.threads u = s.threads u := by
    intro u hu
    rw [h.threads, Function.update_of_ne hu]
  have hself : s'.threads t = place := by
    rw [h.threads, Function.update_self]
  have halone : ∀ u, (s'.threads u).stage ≠ none → u = t := by
    intro u hu
    by_contra hne
    rw [hother u hne] at hu
    exact hne (hs.alone u t hu (by simp [h.works]))
  constructor
  case fits =>
    have hfits := hs.fits
    rw [h.before] at hfits
    rw [h.current, h.after]
    cases hphase : s.current with
    | null => exact absurd hphase hnull
    | address j =>
        rw [hphase] at hfits
        exact ⟨hfits.1, h.gone.trans hfits.2⟩
    | sentinel =>
        rw [hphase] at hfits
        exact h.gone.trans hfits
  case works =>
    intro u stage'' hu
    rw [halone u (by simp [hu]), hself] at hu
    rw [h.stands stage'' hu]
    exact ⟨i, h.after⟩
  case refs =>
    intro u j hu
    by_cases heq : u = t
    · rw [heq, hself] at hu
      rw [h.refs j hu]
      exact ⟨stage', h.after⟩
    · rw [hother u heq] at hu
      exact h.has (hs.refs u j hu)
  case alone =>
    intro u u' hu hu'
    rw [halone u hu, halone u' hu']
  case loading =>
    intro u purpose _
    rw [h.current]
    exact hnull
  case inst =>
    intro u _
    rw [h.current]
    exact hnull
  case kept => exact fun p j hj => h.has (h.kept p j hj)

/-- The place was free, so nobody has anything to do with an object yet. -/
theorem sound_claimed
    (hs : Sound s) (hfree : s.current = .null) (i : Ref)
    (purpose : Option Purpose) :
    Sound { s with
      current := .address i
      object := some (i, .claimed)
      threads := Function.update s.threads t (.claimed i purpose) } := by
  have hnone : s.object = none := by
    have hfits := hs.fits
    rw [hfree] at hfits
    cases hobject : s.object with
    | none => rfl
    | some object =>
        rw [hobject] at hfits
        exact hfits.elim
  have hnobody : ∀ j, ¬ s.Has j := by
    rintro j ⟨stage, hj⟩
    rw [hnone] at hj
    cases hj
  have hidle : ∀ u, (s.threads u).stage = none := by
    intro u
    by_contra hne
    obtain ⟨stage, hstage⟩ := Option.ne_none_iff_exists'.mp hne
    obtain ⟨j, hj⟩ := hs.works u stage hstage
    exact hnobody j ⟨stage, hj⟩
  have halone : ∀ u, (Function.update s.threads t (.claimed i purpose) u).stage
      ≠ none → u = t := by
    intro u hu
    by_contra hne
    rw [Function.update_of_ne hne] at hu
    exact hu (hidle u)
  constructor
  case fits => exact ⟨rfl, rfl⟩
  case works =>
    intro u stage hu
    simp only at hu
    rw [halone u (by simp [hu]), Function.update_self] at hu
    cases hu
    exact ⟨i, rfl⟩
  case refs =>
    intro u j hu
    simp only at hu
    by_cases heq : u = t
    · rw [heq, Function.update_self] at hu
      rw [List.mem_singleton.mp hu]
      exact ⟨.claimed, rfl⟩
    · rw [Function.update_of_ne heq] at hu
      exact absurd (hs.refs u j hu) (hnobody j)
  case alone =>
    intro u u' hu hu'
    rw [halone u hu, halone u' hu']
  case loading => exact fun _ _ _ hnull => by cases hnull
  case inst => exact fun _ _ hnull => by cases hnull
  case kept => exact fun p j hj => absurd (hs.kept p j hj) (hnobody j)

/-- The object is complete, so nobody else works on it. -/
theorem sound_closing
    (hs : Sound s) {i : Ref} (hobject : s.object = some (i, .complete)) :
    Sound { s.goto t .destroying with
      current := .sentinel
      object := some (i, .closing) } := by
  have hidle : ∀ u, (s.threads u).stage = none := by
    intro u
    by_contra hne
    obtain ⟨stage, hstage⟩ := Option.ne_none_iff_exists'.mp hne
    obtain ⟨j, hj⟩ := hs.works u stage hstage
    rw [hobject] at hj
    cases hj
    cases hplace : s.threads u <;> simp [hplace, Place.stage] at hstage
  have hhas : ∀ j, s.Has j → j = i := by
    rintro j ⟨stage, hj⟩
    rw [hobject] at hj
    cases hj
    rfl
  have halone : ∀ u, (Function.update s.threads t .destroying u).stage ≠ none →
      u = t := by
    intro u hu
    by_contra hne
    rw [Function.update_of_ne hne] at hu
    exact hu (hidle u)
  constructor
  case fits => rfl
  case works =>
    intro u stage hu
    simp only [Process.goto] at hu
    rw [halone u (by simp [hu]), Function.update_self] at hu
    cases hu
    exact ⟨i, rfl⟩
  case refs =>
    intro u j hu
    simp only [Process.goto] at hu
    by_cases heq : u = t
    · rw [heq, Function.update_self] at hu
      cases hu
    · rw [Function.update_of_ne heq] at hu
      rw [hhas j (hs.refs u j hu)]
      exact ⟨.closing, rfl⟩
  case alone =>
    intro u u' hu hu'
    rw [halone u hu, halone u' hu']
  case loading => exact fun _ _ _ hnull => by cases hnull
  case inst => exact fun _ _ hnull => by cases hnull
  case kept =>
    intro p j hj
    rw [hhas j (hs.kept p j hj)]
    exact ⟨.closing, rfl⟩

end Steps

end Instance

end ViamSdk
