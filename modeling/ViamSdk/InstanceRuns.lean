import ViamSdk.InstanceLifetime

/-!
# One instance

What a step of a thread can do, and what follows for every run of any number of
threads: they all get hold of one object, and where that goes wrong.
-/

namespace ViamSdk

open StepTrace

namespace Instance

section Steps

variable {s s' : Process} {t : ℕ}

/-! ## What a step does -/

/-- The object that an outcome names. -/
def Outcome.ref : Outcome → Option Ref
  | .constructed i | .returned i | .part _ i => some i
  | .goesOn | .destroyed | .threw _ | .nullDereference => none

/-- The thread goes on or throws. -/
def Outcome.Quiet : Outcome → Prop
  | .goesOn | .threw _ => True
  | _ => False

inductive Move (s : Process) (t : ℕ) : Outcome → Process → Prop
  | aside {place : Place} {outcome : Outcome} {s' : Process}
      (h : Aside s t place s') (hquiet : outcome.Quiet) : Move s t outcome s'
  | returned {i : Ref} {s' : Process} (h : Aside s t .idle s')
      (haddress : s.current = .address i) : Move s t (.returned i) s'
  | kept {p : Part} {i : Ref} (hkept : s.kept p = .made i) :
      Move s t (.part p i) s
  | took {p : Part} {i : Ref} {stage : Stage} {s' : Process}
      (h : Aside s t .idle s') (hobject : s.object = some (i, stage))
      (himpl : stage.hasImpl = true) : Move s t (.part p i) s'
  | missed {p : Part} {i : Ref} {stage : Stage} {s' : Process}
      (h : Aside s t .idle s') (hfound : s.threads t = .found i p)
      (hobject : s.object = some (i, stage))
      (himpl : stage.hasImpl = false) : Move s t .nullDereference s'
  | claimed (i : Ref) (purpose : Option Purpose) (hfree : s.current = .null) :
      Move s t .goesOn { s with
        current := .address i
        object := some (i, .claimed)
        threads := Function.update s.threads t (.claimed i purpose) }
  | advanced {i : Ref} {stage stage' : Stage} {place : Place}
      {outcome : Outcome} {s' : Process}
      (h : Advanced s t i stage stage' place s')
      (houtcome : outcome = .constructed i ∧ stage = .built ∧
          stage' = .complete ∨
        (outcome.Quiet ∨ outcome = .destroyed)) : Move s t outcome s'
  | closing {i : Ref} (hobject : s.object = some (i, .complete)) :
      Move s t .goesOn { s.goto t .destroying with
        current := .sentinel
        object := some (i, .closing) }

namespace Process

@[simp]
theorem leave_current (s : Process) (purpose : Purpose) :
    (s.leave purpose).current = s.current := by
  unfold leave
  split
  next => split <;> rfl
  next => rfl

@[simp]
theorem leave_object (s : Process) (purpose : Purpose) :
    (s.leave purpose).object = s.object := by
  unfold leave
  split
  next => split <;> rfl
  next => rfl

@[simp]
theorem leave_threads (s : Process) (purpose : Purpose) :
    (s.leave purpose).threads = s.threads := by
  unfold leave
  split
  next => split <;> rfl
  next => rfl

@[simp]
theorem leave_inst (s : Process) (purpose : Purpose) :
    (s.leave purpose).inst = s.inst := by
  unfold leave
  split
  next => split <;> rfl
  next => rfl

/-- An update of the statics of `get` that keeps nothing. -/
theorem kept_of_update
    {kept : Part → LocalStatic Ref} {p q : Part} {value : LocalStatic Ref}
    {i : Ref} (hvalue : value ≠ .made i)
    (h : Function.update kept q value p = .made i) :
    kept p = .made i := by
  by_cases hpq : p = q
  · rw [hpq, Function.update_self] at h
    exact absurd h hvalue
  · rwa [Function.update_of_ne hpq] at h

theorem kept_of_leave
    {purpose : Purpose} {p : Part} {i : Ref}
    (h : (s.leave purpose).kept p = .made i) :
    s.kept p = .made i := by
  unfold leave at h
  split at h
  next =>
    split at h
    next => exact kept_of_update (by simp) h
    next => exact h
  next => exact h

theorem leaveConstructor_frame
    (s : Process) (purpose : Option Purpose) :
    (s.leaveConstructor purpose).current = s.current ∧
      (s.leaveConstructor purpose).object = s.object ∧
      (s.leaveConstructor purpose).threads = s.threads := by
  cases purpose with
  | none => exact ⟨rfl, rfl, rfl⟩
  | some purpose => simp [leaveConstructor]

theorem inst_of_leaveConstructor
    {purpose : Option Purpose} {u : Unit}
    (h : (s.leaveConstructor purpose).inst = .made u) :
    s.inst = .made u := by
  cases purpose with
  | none => exact h
  | some purpose => cases h

theorem kept_of_leaveConstructor
    {purpose : Option Purpose} {p : Part} {i : Ref}
    (h : (s.leaveConstructor purpose).kept p = .made i) :
    s.kept p = .made i := by
  cases purpose with
  | none => exact h
  | some purpose => exact kept_of_leave h

end Process

/-- A thread that only goes to another place. -/
theorem Sound.aside_goto
    (hs : Sound s) {place : Place} (hidle : place.stage = none)
    (hrefs : ∀ i ∈ place.refs, s.Has i)
    (hloading : ∀ purpose, place = .loading purpose → s.current ≠ .null) :
    Aside s t place (s.goto t place) where
  current := rfl
  object := rfl
  threads := rfl
  idle := hidle
  refs := hrefs
  loading := hloading
  inst := hs.inst
  kept := hs.kept

theorem Sound.aside_idle (hs : Sound s) : Aside s t .idle (s.goto t .idle) :=
  hs.aside_goto rfl (fun _ h => by cases h) fun _ h => by cases h

theorem Sound.aside_loading
    (hs : Sound s) {purpose : Purpose} (hcurrent : s.current ≠ .null) :
    Aside s t (.loading purpose) (s.goto t (.loading purpose)) :=
  hs.aside_goto rfl (fun _ h => by cases h) fun _ _ => hcurrent

/-- `get` keeps a part of the object. -/
theorem Sound.has_of_keep
    (hs : Sound s) {i j : Ref} {p q : Part} (hhas : s.Has i)
    (hkept : Function.update s.kept p (.made i) q = .made j) :
    s.Has j := by
  by_cases hq : q = p
  · rw [hq, Function.update_self] at hkept
    cases hkept
    exact hhas
  · rw [Function.update_of_ne hq] at hkept
    exact hs.kept q j hkept

theorem Sound.aside_keep
    (hs : Sound s) {i : Ref} (hhas : s.Has i) (p : Part) :
    Aside s t .idle { s.goto t .idle with
      kept := Function.update s.kept p (.made i) } :=
  { hs.aside_idle with kept := fun _ _ h => hs.has_of_keep hhas h }

/-- A call of `current` throws. -/
theorem Sound.aside_leave
    (hs : Sound s) (purpose : Purpose) :
    Aside s t .idle ((s.leave purpose).goto t .idle) where
  current := s.leave_current purpose
  object := s.leave_object purpose
  threads := by rw [Process.goto, Process.leave_threads]
  idle := rfl
  refs := fun _ h => by cases h
  loading := fun _ h => by cases h
  inst := fun u h => hs.inst u (by simpa [Process.goto] using h)
  kept := fun p i h => hs.kept p i (Process.kept_of_leave h)

/-- A constructor throws that has not claimed the place. -/
theorem Sound.aside_leaveConstructor
    (hs : Sound s) (purpose : Option Purpose) :
    Aside s t .idle ((s.leaveConstructor purpose).goto t .idle) := by
  obtain ⟨hcurrent, hobject, hthreads⟩ := s.leaveConstructor_frame purpose
  constructor
  case current => exact hcurrent
  case object => exact hobject
  case threads => rw [Process.goto, hthreads]
  case idle => rfl
  case refs => exact fun _ h => by cases h
  case loading => exact fun _ h => by cases h
  case inst => exact fun u h => hs.inst u (Process.inst_of_leaveConstructor h)
  case kept =>
    exact fun p i h => hs.kept p i (Process.kept_of_leaveConstructor h)

theorem Move.of_some
    {result : Outcome × Process} {outcome : Outcome}
    (hmove : Move s t result.1 result.2)
    (h : some result = some (outcome, s')) :
    Move s t outcome s' := by
  rw [Option.some.inj h] at hmove
  exact hmove

theorem move_of_claim
    (hs : Sound s) (i : Ref) (purpose : Option Purpose) :
    Move s t (s.claim t i purpose).1 (s.claim t i purpose).2 := by
  unfold Process.claim
  split
  next hfree => exact Move.claimed i purpose hfree
  next => exact Move.aside (hs.aside_leaveConstructor purpose) trivial

/-- A thread that works on the object, and what it works on. -/
theorem Sound.object_of_place
    (hs : Sound s) {i : Ref} {stage : Stage} {place : Place}
    (hplace : s.threads t = place) (hstage : place.stage = some stage)
    (href : i ∈ place.refs) :
    s.object = some (i, stage) := by
  obtain ⟨j, hj⟩ := hs.works t stage (by rw [hplace, hstage])
  obtain ⟨stage', hi⟩ := hs.refs t i (by rwa [hplace])
  rw [hj] at hi
  cases hi
  exact hj

/-- The constructor of the object throws. -/
theorem move_of_fail
    (hs : Sound s) {i : Ref} {stage : Stage} {place : Place}
    (hplace : s.threads t = place) (hstage : place.stage = some stage)
    (href : i ∈ place.refs) (hgone : stage.gone = false)
    (purpose : Option Purpose) (e : Exception) :
    Move s t (s.fail t i purpose e).1 (s.fail t i purpose e).2 := by
  obtain ⟨hcurrent, hobject, hthreads⟩ := s.leaveConstructor_frame purpose
  have hworks : (s.threads t).stage = some stage := by rw [hplace, hstage]
  have hbefore := hs.object_of_place hplace hstage href
  have hadvanced : Advanced s t i stage .failed .idle
      (s.fail t i purpose e).2 := by
    constructor
    case works => exact hworks
    case before => exact hbefore
    case after => rfl
    case gone => exact hgone.symm
    case current => exact hcurrent
    case threads =>
      unfold Process.fail Process.goto
      rw [hthreads]
    case stands => exact fun _ h => by cases h
    case refs => exact fun _ h => by cases h
    case kept =>
      exact fun p j h => hs.kept p j (Process.kept_of_leaveConstructor h)
  exact Move.advanced hadvanced (.inr (.inl trivial))

theorem move_of_load
    (hs : Sound s) {purpose : Purpose}
    (hplace : s.threads t = .loading purpose) :
    Move s t (s.load t purpose).1 (s.load t purpose).2 := by
  unfold Process.load
  cases hcurrent : s.current with
  | null => exact absurd hcurrent (hs.loading t purpose hplace)
  | sentinel => exact Move.aside (hs.aside_leave purpose) trivial
  | address i =>
      cases purpose with
      | caller creation => exact Move.returned hs.aside_idle hcurrent
      | part p =>
          have hhas := hs.has_of_address hcurrent
          have haside : Aside s t (.found i p) (s.goto t (.found i p)) :=
            hs.aside_goto rfl (fun _ h => List.mem_singleton.mp h ▸ hhas)
              fun _ h => by cases h
          exact Move.aside haside trivial

theorem move_of_take
    (hs : Sound s) {i : Ref} {p : Part} (hplace : s.threads t = .found i p) :
    Move s t (s.take t i p).1 (s.take t i p).2 := by
  obtain ⟨stage, hobject⟩ := hs.refs t i (by simp [hplace, Place.refs])
  unfold Process.take
  rw [hobject, Option.any_some]
  split
  next himpl =>
    split
    next => exact Move.took (hs.aside_keep ⟨stage, hobject⟩ p) hobject himpl
    next => exact Move.took hs.aside_idle hobject himpl
  next himpl =>
    exact Move.missed hs.aside_idle hplace hobject (by simpa using himpl)

/-- A step of the constructor that leaves the object as it is. -/
theorem Sound.advanced_built
    (hs : Sound s) {i : Ref} {place place' : Place}
    (hplace : s.threads t = place) (hstage : place.stage = some .built)
    (href : i ∈ place.refs) (hstage' : place'.stage = some .built)
    (hrefs : ∀ j ∈ place'.refs, j = i) :
    Advanced s t i .built .built place' (s.goto t place') where
  works := by rw [hplace, hstage]
  before := hs.object_of_place hplace hstage href
  after := hs.object_of_place hplace hstage href
  gone := rfl
  current := rfl
  threads := rfl
  stands := fun _ h => Option.some.inj (h.symm.trans hstage')
  refs := hrefs
  kept := hs.kept

theorem move_of_setup
    (hs : Sound s) {i : Ref} {purpose : Option Purpose} {outcome : Outcome}
    (hplace : s.threads t = .setup i purpose)
    (h : s.goOn t (.setup i purpose) = some (outcome, s')) :
    Move s t outcome s' := by
  simp only [Process.goOn] at h
  split at h
  next =>
    cases h
    have hadvanced : Advanced s t i .built .built (.logging i purpose .asking)
        (s.goto t (.logging i purpose .asking)) :=
      hs.advanced_built hplace rfl List.mem_cons_self rfl
        fun _ h => List.mem_singleton.mp h
    have hheld : Advanced s t i .built .built (.logging i purpose .asking)
        { s.goto t (.logging i purpose .asking) with
          kept := Function.update s.kept .logMgr (.held t) } :=
      { hadvanced with
        kept := fun p j h =>
          hs.kept p j (Process.kept_of_update (by simp) h) }
    exact Move.advanced hheld (.inr (.inl trivial))
  next => cases h
  next =>
    cases h
    have hadvanced : Advanced s t i .built .built (.logged i purpose)
        (s.goto t (.logged i purpose)) :=
      hs.advanced_built hplace rfl List.mem_cons_self rfl
        fun _ h => List.mem_singleton.mp h
    exact Move.advanced hadvanced (.inr (.inl trivial))

/-- The constructor has claimed the place, so the log manager that it gets is
the one of its own object. -/
theorem move_of_logLine
    (hs : Sound s) {i : Ref} {purpose : Option Purpose} {line : LineAt}
    (hplace : s.threads t = .logging i purpose line) :
    Move s t (s.logLine t i purpose line).1
      (s.logLine t i purpose line).2 := by
  have hobject := hs.object_of_place hplace rfl List.mem_cons_self
  have haddress : s.current = .address i := by
    have hfits := hs.fits
    rw [hobject] at hfits
    cases hcurrent : s.current with
    | null =>
        rw [hcurrent] at hfits
        exact hfits.elim
    | address j =>
        rw [hcurrent] at hfits
        rw [hfits.1]
    | sentinel =>
        rw [hcurrent] at hfits
        cases hfits
  have hadvanced (place : Place) (hstage : place.stage = some .built)
      (hrefs : ∀ j ∈ place.refs, j = i) :
      Advanced s t i .built .built place (s.goto t place) :=
    hs.advanced_built hplace rfl List.mem_cons_self hstage hrefs
  cases line with
  | asking =>
      simp only [Process.logLine, haddress]
      have hmoved := hadvanced (.logging i purpose .loading) rfl
        fun _ h => List.mem_singleton.mp h
      exact Move.advanced hmoved (.inr (.inl trivial))
  | loading =>
      simp only [Process.logLine, haddress]
      have hmoved := hadvanced (.logging i purpose (.found i)) rfl
        fun _ h => by simpa [Place.refs, LineAt.refs] using h
      exact Move.advanced hmoved (.inr (.inl trivial))
  | found j =>
      have hhas : s.Has j := hs.refs t j (by simp [hplace, Place.refs,
        LineAt.refs])
      simp only [Process.logLine, hobject, Option.any_some, Stage.hasImpl,
        if_true]
      have hmoved := hadvanced (.logged i purpose) rfl
        fun _ h => List.mem_singleton.mp h
      have hkept : Advanced s t i .built .built (.logged i purpose)
          { s.goto t (.logged i purpose) with
            kept := Function.update s.kept .logMgr (.made j) } :=
        { hmoved with kept := fun _ _ h => hs.has_of_keep hhas h }
      exact Move.advanced hkept (.inr (.inl trivial))

theorem move_of_asking
    (hs : Sound s) {purpose : Purpose} {outcome : Outcome}
    (h : s.goOn t (.asking purpose) = some (outcome, s')) :
    Move s t outcome s' := by
  simp only [Process.goOn] at h
  split at h
  next =>
    cases h
    exact Move.aside (hs.aside_leave purpose) trivial
  next =>
    cases h
    have haside : Aside s t (.entering purpose)
        (s.goto t (.entering purpose)) :=
      hs.aside_goto rfl (fun _ h => by cases h) fun _ h => by cases h
    exact Move.aside haside trivial
  next hopen hneeded =>
    cases h
    have hcurrent : s.current ≠ .null := by
      intro hnull
      cases hcreation : purpose.creation with
      | openExisting => exact hopen hnull hcreation
      | ifNeeded => exact hneeded hnull hcreation
    exact Move.aside (hs.aside_loading hcurrent) trivial

theorem move_of_entering
    (hs : Sound s) {purpose : Purpose} {outcome : Outcome}
    (h : s.goOn t (.entering purpose) = some (outcome, s')) :
    Move s t outcome s' := by
  simp only [Process.goOn] at h
  have haside : Aside s t (.claiming purpose)
      (s.goto t (.claiming purpose)) :=
    hs.aside_goto rfl (fun _ h => by cases h) fun _ h => by cases h
  split at h
  next =>
    cases h
    have hheld : Aside s t (.claiming purpose)
        { s.goto t (.claiming purpose) with inst := .held t } :=
      { haside with inst := fun _ h => by cases h }
    exact Move.aside hheld trivial
  next => cases h
  next u hmade =>
    cases h
    exact Move.aside (hs.aside_loading (hs.inst u hmade)) trivial

theorem move_of_logged
    (hs : Sound s) {i : Ref} {purpose : Option Purpose} {outcome : Outcome}
    (hplace : s.threads t = .logged i purpose)
    (h : s.goOn t (.logged i purpose) = some (outcome, s')) :
    Move s t outcome s' := by
  have hobject := hs.object_of_place hplace rfl List.mem_cons_self
  have hworks : (s.threads t).stage = some .built := by rw [hplace]; rfl
  cases purpose with
  | none =>
      cases h
      have hadvanced : Advanced s t i .built .complete .idle
          { s.goto t .idle with object := some (i, .complete) } :=
        ⟨hworks, hobject, rfl, rfl, rfl, rfl, (fun _ h => by cases h),
          (fun _ h => by cases h), hs.kept⟩
      exact Move.advanced hadvanced (.inl ⟨rfl, rfl, rfl⟩)
  | some purpose =>
      cases h
      have hadvanced : Advanced s t i .built .complete (.loading purpose)
          { s.goto t (.loading purpose) with
            object := some (i, .complete)
            inst := .made () } :=
        ⟨hworks, hobject, rfl, rfl, rfl, rfl, (fun _ h => by cases h),
          (fun _ h => by cases h), hs.kept⟩
      exact Move.advanced hadvanced (.inl ⟨rfl, rfl, rfl⟩)

/-- What a thread does from the place where it is. -/
theorem move_of_goOn
    (hs : Sound s) {outcome : Outcome}
    (h : s.goOn t (s.threads t) = some (outcome, s')) :
    Move s t outcome s' := by
  cases hplace : s.threads t <;> rw [hplace] at h
  case idle => cases h
  case asking purpose => exact move_of_asking hs h
  case entering purpose => exact move_of_entering hs h
  case claiming purpose =>
    exact (move_of_claim hs .ifNeeded (some purpose)).of_some h
  case claimed i purpose =>
    cases h
    have hobject := hs.object_of_place hplace rfl List.mem_cons_self
    have hadvanced : Advanced s t i .claimed .built (.setup i purpose)
        { s.goto t (.setup i purpose) with object := some (i, .built) } :=
      ⟨by rw [hplace]; rfl, hobject, rfl, rfl, rfl, rfl,
        fun _ h => (Option.some.inj h).symm,
        fun _ h => List.mem_singleton.mp h, hs.kept⟩
    exact Move.advanced hadvanced (.inr (.inl trivial))
  case setup i purpose => exact move_of_setup hs hplace h
  case logging i purpose line => exact (move_of_logLine hs hplace).of_some h
  case logged i purpose => exact move_of_logged hs hplace h
  case loading purpose => exact (move_of_load hs hplace).of_some h
  case found i p => exact (move_of_take hs hplace).of_some h
  case destroying =>
    obtain ⟨object, hobject, heq⟩ := Option.map_eq_some_iff.mp h
    cases heq
    have hworks : (s.threads t).stage = some .closing := by rw [hplace]; rfl
    obtain ⟨i, hi⟩ := hs.works t _ hworks
    rw [hobject] at hi
    cases hi
    have hadvanced : Advanced s t i .closing .destroyed .idle
        { s.goto t .idle with object := some (i, .destroyed) } :=
      ⟨hworks, hobject, rfl, rfl, rfl, rfl, (fun _ h => by cases h),
        (fun _ h => by cases h), hs.kept⟩
    exact Move.advanced hadvanced (.inr (.inr rfl))

/-- The step lemma: what a step of a thread can do. -/
theorem move_of_next
    (hs : Sound s) {act : Act} {outcome : Outcome}
    (h : s.next t act = some (outcome, s')) :
    Move s t outcome s' := by
  cases act with
  | construct n =>
      simp only [Process.next] at h
      split at h
      next => exact (move_of_claim hs (.own n) none).of_some h
      next => cases h
  | destroy =>
      simp only [Process.next] at h
      split at h
      next i hidle hobject =>
        cases h
        exact Move.closing hobject
      next => cases h
  | current creation =>
      simp only [Process.next] at h
      split at h
      next =>
        cases h
        have haside : Aside s t (.asking (.caller creation))
            (s.goto t (.asking (.caller creation))) :=
          hs.aside_goto rfl (fun _ h => by cases h) fun _ h => by cases h
        exact Move.aside haside trivial
      next => cases h
  | get p =>
      simp only [Process.next] at h
      have haside : Aside s t (.asking (.part p))
          (s.goto t (.asking (.part p))) :=
        hs.aside_goto rfl (fun _ h => by cases h) fun _ h => by cases h
      split at h
      next =>
        cases h
        exact Move.aside haside trivial
      next =>
        cases h
        have hheld : Aside s t (.asking (.part p))
            { s.goto t (.asking (.part p)) with
              kept := Function.update s.kept p (.held t) } :=
          { haside with
            kept := fun q j h =>
              hs.kept q j (Process.kept_of_update (by simp) h) }
        exact Move.aside hheld trivial
      next i hkept =>
        cases h
        exact Move.kept hkept
      next => cases h
  | goOn => exact move_of_goOn hs h
  | fails e =>
      simp only [Process.next] at h
      split at h
      next i purpose hplace =>
        cases h
        exact move_of_fail hs hplace rfl List.mem_cons_self rfl purpose e
      next i purpose hplace =>
        cases h
        exact move_of_fail hs hplace rfl List.mem_cons_self rfl purpose e
      next i purpose hplace =>
        cases h
        exact move_of_fail hs hplace rfl List.mem_cons_self rfl purpose e
      next => cases h

/-! ## What every step keeps -/

variable {outcome : Outcome}

theorem Move.sound (hs : Sound s) (h : Move s t outcome s') : Sound s' := by
  cases h with
  | aside h hquiet => exact h.sound hs
  | returned h haddress => exact h.sound hs
  | kept hkept => exact hs
  | took h hobject himpl => exact h.sound hs
  | missed h hfound hobject himpl => exact h.sound hs
  | claimed i purpose hfree => exact sound_claimed hs hfree i purpose
  | advanced h houtcome => exact h.sound hs
  | closing hobject => exact sound_closing hs hobject

/-- The object that has claimed the place stays the one. -/
theorem Move.has
    (hs : Sound s) (h : Move s t outcome s') {i : Ref} (hi : s.Has i) :
    s'.Has i := by
  cases h with
  | aside h hquiet => exact h.has.mpr hi
  | returned h haddress => exact h.has.mpr hi
  | kept hkept => exact hi
  | took h hobject himpl => exact h.has.mpr hi
  | missed h hfound hobject himpl => exact h.has.mpr hi
  | claimed j purpose hfree => exact absurd hfree (hs.ne_null hi)
  | advanced h houtcome => exact h.has hi
  | closing hobject =>
      obtain ⟨stage, hi⟩ := hi
      rw [hobject] at hi
      cases hi
      exact ⟨.closing, rfl⟩

/-- Whoever gets hold of an object gets hold of that one. -/
theorem Move.has_of_ref
    (hs : Sound s) (h : Move s t outcome s') {i : Ref}
    (hi : outcome.ref = some i) :
    s'.Has i := by
  cases h with
  | aside h hquiet => cases outcome <;> cases hquiet <;> cases hi
  | returned h haddress =>
      cases hi
      exact h.has.mpr (hs.has_of_address haddress)
  | kept hkept =>
      cases hi
      exact hs.kept _ _ hkept
  | took h hobject himpl =>
      cases hi
      exact h.has.mpr ⟨_, hobject⟩
  | missed h hfound hobject himpl => cases hi
  | claimed j purpose hfree => cases hi
  | advanced h houtcome =>
      rcases houtcome with ⟨rfl, rfl, rfl⟩ | hquiet | rfl
      · cases hi
        exact ⟨.complete, h.after⟩
      · cases outcome <;> cases hquiet <;> cases hi
      · cases hi
  | closing hobject => cases hi

/-- The constructor of the object has returned. -/
def Process.Constructed (s : Process) : Prop :=
  ∃ i stage, s.object = some (i, stage) ∧
    (stage = .complete ∨ stage.gone = true)

theorem Move.constructed_of_outcome
    {i : Ref} (h : Move s t (.constructed i) s') : s'.Constructed := by
  cases h with
  | aside h hquiet => cases hquiet
  | advanced h houtcome =>
      rcases houtcome with ⟨-, -, rfl⟩ | hquiet | hdestroyed
      · exact ⟨_, _, h.after, .inl rfl⟩
      · cases hquiet
      · cases hdestroyed

theorem Place.stage_ne_complete
    (place : Place) :
    place.stage ≠ some .complete := by
  cases place <;> simp [Place.stage]

/-- Once an object has been constructed, none is any more. -/
theorem Move.constructed
    (hs : Sound s) (h : Move s t outcome s') (hbefore : s.Constructed) :
    s'.Constructed ∧ ∀ i, outcome ≠ .constructed i := by
  obtain ⟨i, stage, hobject, hstage⟩ := hbefore
  cases h with
  | aside h hquiet =>
      refine ⟨⟨i, stage, h.object.trans hobject, hstage⟩, ?_⟩
      rintro j rfl
      cases hquiet
  | returned h haddress =>
      exact ⟨⟨i, stage, h.object.trans hobject, hstage⟩, by simp⟩
  | kept hkept => exact ⟨⟨i, stage, hobject, hstage⟩, by simp⟩
  | took h hobject' himpl =>
      exact ⟨⟨i, stage, h.object.trans hobject, hstage⟩, by simp⟩
  | missed h hfound hobject' himpl =>
      exact ⟨⟨i, stage, h.object.trans hobject, hstage⟩, by simp⟩
  | claimed j purpose hfree =>
      exact absurd hfree (hs.ne_null ⟨stage, hobject⟩)
  | advanced h houtcome =>
      have hbefore := h.before
      rw [hobject] at hbefore
      cases hbefore
      have hgone : stage.gone = true := by
        rcases hstage with rfl | hgone
        · exact absurd h.works (Place.stage_ne_complete _)
        · exact hgone
      refine ⟨⟨i, _, h.after, .inr (h.gone.trans hgone)⟩, ?_⟩
      rintro j rfl
      rcases houtcome with ⟨-, rfl, -⟩ | hquiet | hdestroyed
      · cases hgone
      · cases hquiet
      · cases hdestroyed
  | closing hobject' => exact ⟨⟨_, .closing, rfl, .inr rfl⟩, by simp⟩

/-- A thread that has found the object goes on to its part, or to nothing where
the object has none. -/
theorem outcome_of_found
    {i : Ref} {p : Part} {stage : Stage} {act : Act}
    (hplace : s.threads t = .found i p) (hobject : s.object = some (i, stage))
    (himpl : stage.hasImpl = false) (h : s.next t act = some (outcome, s')) :
    outcome = .nullDereference := by
  cases act with
  | goOn =>
      simp only [Process.next, hplace, Process.goOn, Process.take, hobject,
        Option.any_some, himpl, Bool.false_eq_true, if_false,
        Option.some.injEq, Prod.mk.injEq] at h
      exact h.1.symm
  | _ => simp [Process.next, hplace] at h

/-- What a step keeps to: a part that it hands out exists, unless `get` had kept
it; it goes wrong exactly where the part that it goes to does not exist; and
once the destructor has begun, no object is returned any more. -/
structure Lawful (s : Process) (e : Event) (s' : Process) : Prop where
  handedOut : ∀ p i, e.outcome = .part p i → s.kept p = .made i ∨
    ∃ stage, s.object = some (i, stage) ∧ stage.hasImpl = true
  null : e.outcome = .nullDereference ↔
    ∃ i p stage, s.threads e.thread = .found i p ∧
      s.object = some (i, stage) ∧ stage.hasImpl = false
  closed : s.current = .sentinel → s'.current = .sentinel ∧
    ∀ i, e.outcome ≠ .returned i ∧ e.outcome ≠ .constructed i

theorem Move.closed
    (hs : Sound s) (h : Move s t outcome s') (hclosed : s.current = .sentinel) :
    s'.current = .sentinel ∧
      ∀ i, outcome ≠ .returned i ∧ outcome ≠ .constructed i := by
  have hfits := hs.fits
  rw [hclosed] at hfits
  cases h with
  | aside h hquiet =>
      refine ⟨h.current.trans hclosed, ?_⟩
      intro i
      constructor <;> rintro rfl <;> cases hquiet
  | returned h haddress =>
      rw [hclosed] at haddress
      cases haddress
  | kept hkept => exact ⟨hclosed, by simp⟩
  | took h hobject himpl => exact ⟨h.current.trans hclosed, by simp⟩
  | missed h hfound hobject himpl => exact ⟨h.current.trans hclosed, by simp⟩
  | claimed j purpose hfree =>
      rw [hclosed] at hfree
      cases hfree
  | advanced h houtcome =>
      rw [h.before] at hfits
      refine ⟨h.current.trans hclosed, ?_⟩
      intro i
      rcases houtcome with ⟨-, rfl, -⟩ | hquiet | rfl
      · cases hfits
      · constructor <;> rintro rfl <;> cases hquiet
      · simp
  | closing hobject =>
      rw [hobject] at hfits
      cases hfits

theorem lawful_of_step
    (hs : Sound s) {e : Event} (hstep : Step s e s') : Lawful s e s' := by
  obtain ⟨t, act, outcome⟩ := e
  have h := move_of_next hs hstep
  constructor
  case handedOut =>
    rintro p i rfl
    cases h with
    | aside h hquiet => cases hquiet
    | kept hkept => exact .inl hkept
    | took h hobject himpl => exact .inr ⟨_, hobject, himpl⟩
    | advanced h houtcome =>
        rcases houtcome with ⟨houtcome, -⟩ | hquiet | houtcome
        · cases houtcome
        · cases hquiet
        · cases houtcome
  case null =>
    constructor
    · rintro rfl
      cases h with
      | aside h hquiet => cases hquiet
      | missed h hfound hobject himpl =>
          exact ⟨_, _, _, hfound, hobject, himpl⟩
      | advanced h houtcome =>
          rcases houtcome with ⟨houtcome, -⟩ | hquiet | houtcome
          · cases houtcome
          · cases hquiet
          · cases houtcome
    · rintro ⟨i, p, stage, hfound, hobject, himpl⟩
      exact outcome_of_found hfound hobject himpl hstep
  case closed => exact h.closed hs

end Steps

/-! ## Runs -/

variable {s : Process} {run : List (Event × Process)}

theorem has_lastState
    (hrun : IsRun Step s run) (hs : Sound s) {i : Ref} (hi : s.Has i) :
    (lastState s run).Has i := by
  induction hrun with
  | nil => exact hi
  | cons hstep _ ih =>
      have hmove := move_of_next hs hstep
      exact ih (hmove.sound hs) (hmove.has hs hi)

/-- All objects that anybody gets hold of in a run are the one at its end. -/
theorem has_of_mem
    (hrun : IsRun Step s run) (hs : Sound s) {entry : Event × Process}
    (hentry : entry ∈ run) {i : Ref} (hi : entry.1.outcome.ref = some i) :
    (lastState s run).Has i := by
  induction hrun with
  | nil => cases hentry
  | cons hstep hrest ih =>
      have hmove := move_of_next hs hstep
      rcases List.mem_cons.mp hentry with rfl | hentry
      · exact has_lastState hrest (hmove.sound hs) (hmove.has_of_ref hs hi)
      · exact ih (hmove.sound hs) hentry

theorem not_constructed_again
    (hrun : IsRun Step s run) (hs : Sound s) (hbefore : s.Constructed)
    {entry : Event × Process} (hentry : entry ∈ run) (i : Ref) :
    entry.1.outcome ≠ .constructed i := by
  induction hrun with
  | nil => cases hentry
  | cons hstep _ ih =>
      have hmove := move_of_next hs hstep
      obtain ⟨hafter, hnot⟩ := hmove.constructed hs hbefore
      rcases List.mem_cons.mp hentry with rfl | hentry
      · exact hnot i
      · exact ih (hmove.sound hs) hafter hentry

theorem constructed_once
    (hrun : IsRun Step s run) (hs : Sound s) :
    run.Pairwise fun entry later =>
      ∀ i j, entry.1.outcome = .constructed i →
        later.1.outcome ≠ .constructed j := by
  induction hrun with
  | nil => exact List.Pairwise.nil
  | @cons s s' e run hstep hrest ih =>
      have hmove := move_of_next hs hstep
      have hs' := hmove.sound hs
      refine List.Pairwise.cons ?_ (ih hs')
      intro later hlater i j hconstructed
      simp only at hconstructed
      rw [hconstructed] at hmove
      exact not_constructed_again hrest hs' hmove.constructed_of_outcome
        hlater j

/-- The run of threads that act in the given order, up to the first that would
have to wait. -/
def Process.perform : Process → List (ℕ × Act) → List (Event × Process)
  | _, [] => []
  | s, (t, act) :: acts =>
      match s.next t act with
      | some (outcome, s') => (⟨t, act, outcome⟩, s') :: s'.perform acts
      | none => []

theorem isRun_perform
    (s : Process) (acts : List (ℕ × Act)) : IsRun Step s (s.perform acts) := by
  induction acts generalizing s with
  | nil => exact IsRun.nil s
  | cons first acts ih =>
      obtain ⟨t, act⟩ := first
      unfold Process.perform
      cases hnext : s.next t act with
      | none => exact IsRun.nil s
      | some result =>
          obtain ⟨outcome, s'⟩ := result
          exact IsRun.cons hnext (ih s')

/-- A thread asks for the tracer and the registry while another is making the
static instance: the first time too early, the second time in time.  The log
manager has been kept since then, so it is found after the destructor. -/
def early : List (Event × Process) :=
  Process.start.perform
    [(0, .current .ifNeeded), (0, .goOn), (0, .goOn), (0, .goOn),
      (1, .get .tracer), (1, .goOn), (1, .goOn), (1, .goOn),
      (0, .goOn), (1, .get .registry), (1, .goOn), (1, .goOn), (1, .goOn),
      (0, .goOn), (0, .goOn), (0, .goOn), (0, .goOn), (0, .goOn), (0, .goOn),
      (0, .destroy), (0, .goOn), (1, .get .logMgr)]

/-- Whatever threads construct, destroy and look for the instance, there is one
object that all of them get hold of, and every step keeps to the law. -/
theorem one_instance
    {run : List (Event × Process)} (hrun : IsRun Step .start run) :
    (∀ entry ∈ run, ∀ i, entry.1.outcome.ref = some i →
      (lastState .start run).Has i) ∧
    (run.Pairwise fun entry later => ∀ i j, entry.1.outcome = .constructed i →
      later.1.outcome ≠ .constructed j) ∧
    AllSteps Lawful .start run := by
  refine ⟨?_, constructed_once hrun sound_start, ?_⟩
  · intro entry hentry i hi
    exact has_of_mem hrun sound_start hentry hi
  · exact hrun.allSteps_of_invariant
      (fun _ _ _ hs hstep => (move_of_next hs hstep).sound hs)
      (fun _ _ _ hs hstep => lawful_of_step hs hstep) sound_start

theorem one_instance_early :
    early.map (fun entry => entry.1.outcome) =
      List.replicate 7 .goesOn ++ [.nullDereference] ++
        List.replicate 4 .goesOn ++ [.part .registry .ifNeeded] ++
        List.replicate 4 .goesOn ++
        [.constructed .ifNeeded, .returned .ifNeeded, .goesOn, .destroyed,
          .part .logMgr .ifNeeded] ∧
      AllSteps Lawful .start early :=
  ⟨by decide, (one_instance (isRun_perform _ _)).2.2⟩

end Instance

end ViamSdk
