import Mathlib.Tactic.Common

/-!
# A bidirectional stream

One call between a client and a handler.  Each direction is a lane: what has
been sent on it, and how much of that the other side has taken, in order.  A
call dies when the client cancels it or the transport breaks; from then on
either side may be told so at any of its operations.

Every operation is given the answer that its caller sees, and yields nothing
where the stream cannot answer so.  A handler that is told of the end of a
call that is alive has taken everything the client sent.
-/

namespace BidiStream

/-! ## Lanes -/

structure Lane (α : Type*) where
  sent : List α
  taken : ℕ
  taken_le : taken ≤ sent.length

namespace Lane

variable {α : Type*}

def empty : Lane α := ⟨[], 0, Nat.le_refl 0⟩

def received (lane : Lane α) : List α := lane.sent.take lane.taken

def Drained (lane : Lane α) : Prop := lane.taken = lane.sent.length

instance (lane : Lane α) : Decidable lane.Drained :=
  inferInstanceAs (Decidable (_ = _))

def push (lane : Lane α) (a : α) : Lane α where
  sent := lane.sent ++ [a]
  taken := lane.taken
  taken_le := by
    have hle := lane.taken_le
    rw [List.length_append]
    omega

/-- How many are on their way. -/
def pending (lane : Lane α) : ℕ := lane.sent.length - lane.taken

def pop (lane : Lane α) : Option (α × Lane α) :=
  if h : lane.taken < lane.sent.length then
    some (lane.sent[lane.taken], ⟨lane.sent, lane.taken + 1, h⟩)
  else none

@[simp]
theorem received_empty : (empty : Lane α).received = [] := rfl

@[simp]
theorem sent_push
    (lane : Lane α) (a : α) :
    (lane.push a).sent = lane.sent ++ [a] := rfl

@[simp]
theorem received_push
    (lane : Lane α) (a : α) :
    (lane.push a).received = lane.received :=
  List.take_append_of_le_length lane.taken_le

theorem received_of_drained
    {lane : Lane α} (h : lane.Drained) :
    lane.received = lane.sent := by
  unfold received
  rw [h, List.take_length]

theorem received_prefix
    (lane : Lane α) :
    ∃ rest, lane.sent = lane.received ++ rest :=
  ⟨lane.sent.drop lane.taken, (List.take_append_drop _ _).symm⟩

theorem sent_pop
    {lane lane' : Lane α} {a : α} (h : lane.pop = some (a, lane')) :
    lane'.sent = lane.sent := by
  unfold pop at h
  split at h
  next => cases h; rfl
  next => cases h

theorem received_pop
    {lane lane' : Lane α} {a : α} (h : lane.pop = some (a, lane')) :
    lane'.received = lane.received ++ [a] := by
  unfold pop at h
  split at h
  next hlt =>
    cases h
    exact List.take_succ_eq_append_getElem hlt
  next => cases h

theorem not_drained_of_pop
    {lane lane' : Lane α} {a : α} (h : lane.pop = some (a, lane')) :
    ¬ lane.Drained := by
  intro hdrained
  unfold pop at h
  split at h
  next hlt =>
    unfold Drained at hdrained
    omega
  next => cases h

theorem pending_push
    (lane : Lane α) (a : α) : (lane.push a).pending = lane.pending + 1 := by
  have hle := lane.taken_le
  change (lane.sent ++ [a]).length - lane.taken =
    lane.sent.length - lane.taken + 1
  rw [List.length_append, List.length_singleton]
  omega

theorem pending_pop
    {lane lane' : Lane α} {a : α} (h : lane.pop = some (a, lane')) :
    lane'.pending + 1 = lane.pending := by
  unfold pop at h
  split at h
  next hlt =>
    cases h
    unfold pending
    simp only
    omega
  next => cases h

theorem exists_pop
    {lane : Lane α} (h : ¬ lane.Drained) :
    ∃ a lane', lane.pop = some (a, lane') := by
  have hle := lane.taken_le
  have hlt : lane.taken < lane.sent.length := Nat.lt_of_le_of_ne hle h
  unfold pop
  rw [dif_pos hlt]
  exact ⟨_, _, rfl⟩

end Lane

/-! ## Calls -/

/-- `returned` says that the handler has returned, and `terminal` is the
status that then went out to the client, if the call was still alive. -/
structure Call (Req Resp Status : Type*) where
  up : Lane Req
  down : Lane Resp
  halfClosed : Bool
  dead : Bool
  returned : Bool
  terminal : Option Status

namespace Call

variable {Req Resp Status : Type*}

def opened : Call Req Resp Status :=
  ⟨Lane.empty, Lane.empty, false, false, false, none⟩

/-- `Write` by the client.  It fails only when the call is over. -/
def write (c : Call Req Resp Status) (message : Req) (ok : Bool) :
    Option (Call Req Resp Status) :=
  if ok then
    if c.halfClosed then none else some { c with up := c.up.push message }
  else if c.dead || c.returned then some c
  else none

def writesDone (c : Call Req Resp Status) : Call Req Resp Status :=
  { c with halfClosed := true }

/-- The client cancels, or the transport breaks.  A message that the runtime
refuses, for its size or a string that is not UTF-8, breaks it too. -/
def die (c : Call Req Resp Status) : Call Req Resp Status :=
  { c with dead := true }

/-- `Read` by the client, which fails when the call is over. -/
def read (c : Call Req Resp Status) (got : Bool) :
    Option (Option Resp × Call Req Resp Status) :=
  if got then
    c.down.pop.map fun popped => (some popped.1, { c with down := popped.2 })
  else if c.dead || (c.returned && decide c.down.Drained) then some (none, c)
  else none

/-- The statuses that `Finish` can report.  A dead call is reported with its
own status, which is not OK, unless the handler's was there before. -/
def MayFinish (isOk : Status → Bool) (c : Call Req Resp Status)
    (status : Status) : Prop :=
  c.terminal = some status ∨ (c.dead = true ∧ isOk status = false)

instance [DecidableEq Status] (isOk : Status → Bool)
    (c : Call Req Resp Status) (status : Status) :
    Decidable (c.MayFinish isOk status) :=
  inferInstanceAs (Decidable (_ ∨ _))

/-- `Read` by the handler.  It fails when the call is dead, or the client has
closed its side and there is nothing left to take. -/
def serverRead (c : Call Req Resp Status) (got : Bool) :
    Option (Option Req × Call Req Resp Status) :=
  if got then
    c.up.pop.map fun popped => (some popped.1, { c with up := popped.2 })
  else if c.dead || (c.halfClosed && decide c.up.Drained) then some (none, c)
  else none

def serverWrite (c : Call Req Resp Status) (message : Resp) (ok : Bool) :
    Option (Call Req Resp Status) :=
  if ok then some { c with down := c.down.push message }
  else if c.dead then some c
  else none

def answer (c : Call Req Resp Status) (status : Status) :
    Call Req Resp Status :=
  { c with
    returned := true
    terminal := if c.dead then none else some status }

def Ended (c : Call Req Resp Status) : Prop :=
  c.dead = true ∨ (c.halfClosed = true ∧ c.up.Drained)

/-- Where the handler has returned, `Finish` has something to report. -/
def Settled (c : Call Req Resp Status) : Prop :=
  c.returned = true → c.dead = true ∨ ∃ status, c.terminal = some status

/-! ## What the operations do -/

variable {c c' : Call Req Resp Status}

theorem write_cases
    {message : Req} {ok : Bool} (h : c.write message ok = some c') :
    (ok = true ∧ c.halfClosed = false ∧
      c' = { c with up := c.up.push message }) ∨
    (ok = false ∧ (c.dead = true ∨ c.returned = true) ∧ c' = c) := by
  unfold write at h
  cases ok with
  | true =>
      left
      simp only [if_true] at h
      split at h
      next => cases h
      next hopen =>
        cases h
        exact ⟨rfl, Bool.eq_false_iff.mpr hopen, rfl⟩
  | false =>
      right
      simp only [Bool.false_eq_true, if_false] at h
      split at h
      next hover =>
        cases h
        exact ⟨rfl, by simpa using hover, rfl⟩
      next => cases h

theorem write_of_open
    {message : Req} (hopen : c.halfClosed = false) :
    c.write message true = some { c with up := c.up.push message } := by
  simp [write, hopen]

theorem halfClosed_of_write
    {message : Req} {ok : Bool} (h : c.write message ok = some c') :
    c'.halfClosed = c.halfClosed := by
  rcases write_cases h with ⟨-, -, hc'⟩ | ⟨-, -, hc'⟩
  · rw [hc']
  · rw [hc']

theorem read_cases
    {got : Bool} {response : Option Resp}
    (h : c.read got = some (response, c')) :
    (∃ a lane, response = some a ∧ c.down.pop = some (a, lane) ∧
      c' = { c with down := lane }) ∨
    (response = none ∧ c' = c ∧
      (c.dead = true ∨ (c.returned = true ∧ c.down.Drained))) := by
  unfold read at h
  cases got with
  | true =>
      left
      simp only [if_true] at h
      rcases Option.map_eq_some_iff.mp h with ⟨popped, hpop, heq⟩
      cases heq
      exact ⟨_, _, rfl, hpop, rfl⟩
  | false =>
      right
      simp only [Bool.false_eq_true, if_false] at h
      split at h
      next hover =>
        cases h
        exact ⟨rfl, rfl, by simpa using hover⟩
      next => cases h

/-- A read leaves the requests as they are. -/
theorem read_frame
    {got : Bool} {response : Option Resp}
    (h : c.read got = some (response, c')) :
    c'.up = c.up ∧ c'.halfClosed = c.halfClosed := by
  rcases read_cases h with ⟨a, lane, -, -, hc'⟩ | ⟨-, hc', -⟩
  · subst c'
    exact ⟨rfl, rfl⟩
  · subst c'
    exact ⟨rfl, rfl⟩

theorem serverRead_cases
    {got : Bool} {request : Option Req}
    (h : c.serverRead got = some (request, c')) :
    (∃ a lane, request = some a ∧ c.up.pop = some (a, lane) ∧
      c' = { c with up := lane }) ∨
    (request = none ∧ c' = c ∧ c.Ended) := by
  unfold serverRead at h
  cases got with
  | true =>
      left
      simp only [if_true] at h
      rcases Option.map_eq_some_iff.mp h with ⟨popped, hpop, heq⟩
      cases heq
      exact ⟨_, _, rfl, hpop, rfl⟩
  | false =>
      right
      simp only [Bool.false_eq_true, if_false] at h
      split at h
      next hover =>
        cases h
        exact ⟨rfl, rfl, by simpa [Ended] using hover⟩
      next => cases h

/-- A handler that cannot read has taken all that was sent, in a call that is
alive and that the client has not closed. -/
theorem drained_of_no_serverRead
    (hnone : ∀ got, c.serverRead got = none) :
    c.dead = false ∧ c.halfClosed = false ∧ c.up.Drained := by
  have hgot := hnone true
  have hend := hnone false
  unfold serverRead at hgot hend
  simp only [if_true, Option.map_eq_none_iff] at hgot
  have hdrained : c.up.Drained := by
    by_contra h
    rcases Lane.exists_pop h with ⟨a, lane, hpop⟩
    rw [hgot] at hpop
    cases hpop
  simpa [hdrained] using hend

/-- A client that cannot read has taken all that was sent to it, in a call that
is alive and has not been answered. -/
theorem drained_of_no_read
    (hnone : ∀ got, c.read got = none) :
    c.dead = false ∧ c.returned = false ∧ c.down.Drained := by
  have hgot := hnone true
  have hend := hnone false
  unfold read at hgot hend
  simp only [if_true, Option.map_eq_none_iff] at hgot
  have hdrained : c.down.Drained := by
    by_contra h
    rcases Lane.exists_pop h with ⟨a, lane, hpop⟩
    rw [hgot] at hpop
    cases hpop
  simpa [hdrained] using hend

/-- A handler does not wait for a client that has closed its side. -/
theorem exists_serverRead
    (hclosed : c.halfClosed = true) :
    ∃ got request c', c.serverRead got = some (request, c') := by
  by_cases hdrained : c.up.Drained
  · refine ⟨false, none, c, ?_⟩
    unfold serverRead
    simp [hclosed, hdrained]
  · rcases Lane.exists_pop hdrained with ⟨a, lane, hpop⟩
    refine ⟨true, some a, { c with up := lane }, ?_⟩
    unfold serverRead
    simp [hpop]

theorem serverWrite_cases
    {message : Resp} {ok : Bool} (h : c.serverWrite message ok = some c') :
    (ok = true ∧ c' = { c with down := c.down.push message }) ∨
    (ok = false ∧ c.dead = true ∧ c' = c) := by
  unfold serverWrite at h
  cases ok with
  | true =>
      left
      cases h
      exact ⟨rfl, rfl⟩
  | false =>
      right
      simp only [Bool.false_eq_true, if_false] at h
      split at h
      next hdead =>
        cases h
        exact ⟨rfl, hdead, rfl⟩
      next => cases h

theorem exists_mayFinish
    {isOk : Status → Bool} (hover : c.dead = true ∨ c.returned = true)
    (hsettled : c.Settled) {failure : Status}
    (hfailure : isOk failure = false) :
    ∃ status, c.MayFinish isOk status := by
  have hdead : c.dead = true → ∃ status, c.MayFinish isOk status :=
    fun h => ⟨failure, Or.inr ⟨h, hfailure⟩⟩
  rcases hover with h | hreturned
  · exact hdead h
  · rcases hsettled hreturned with h | ⟨status, hterminal⟩
    · exact hdead h
    · exact ⟨status, Or.inl hterminal⟩

theorem ok_of_mayFinish
    {isOk : Status → Bool} {status : Status} (h : c.MayFinish isOk status)
    (hok : isOk status = true) :
    c.terminal = some status := by
  rcases h with hterminal | ⟨-, hnot⟩
  · exact hterminal
  · rw [hok] at hnot
    cases hnot

/-- The end of a call that is alive has seen everything that was sent. -/
theorem Ended.received_eq_sent
    (h : c.Ended) (halive : c.dead = false) :
    c.up.received = c.up.sent := by
  rcases h with hdead | ⟨-, hdrained⟩
  · rw [halive] at hdead
    cases hdead
  · exact Lane.received_of_drained hdrained

theorem Ended.pop
    {a : Req} {lane : Lane Req} (h : c.Ended)
    (hpop : c.up.pop = some (a, lane)) :
    Ended { c with up := lane } := by
  rcases h with hdead | ⟨-, hdrained⟩
  · exact Or.inl hdead
  · exact absurd hdrained (Lane.not_drained_of_pop hpop)

/-- What the client and the transport leave as it is for the handler. -/
structure ClientMove (c c' : Call Req Resp Status) : Prop where
  received : c'.up.received = c.up.received
  sent : ∃ rest, c'.up.sent = c.up.sent ++ rest
  terminal : c'.terminal = c.terminal
  returned : c'.returned = c.returned
  dead : c.dead = true → c'.dead = true
  closed : c.halfClosed = true → c'.halfClosed = true ∧ c'.up = c.up

theorem ClientMove.refl (c : Call Req Resp Status) : ClientMove c c :=
  ⟨rfl, ⟨[], by simp⟩, rfl, rfl, id, fun hclosed => ⟨hclosed, rfl⟩⟩

theorem ClientMove.settled
    (h : ClientMove c c') (hsettled : c.Settled) :
    c'.Settled := by
  intro hreturned
  rw [h.returned] at hreturned
  rw [h.terminal]
  exact (hsettled hreturned).imp_left h.dead

theorem ClientMove.ended (h : ClientMove c c') (hended : c.Ended) : c'.Ended := by
  rcases hended with hdead | ⟨hclosed, hdrained⟩
  · exact Or.inl (h.dead hdead)
  · right
    rcases h.closed hclosed with ⟨hclosed', hup⟩
    rw [hup]
    exact ⟨hclosed', hdrained⟩

theorem clientMove_write
    {message : Req} {ok : Bool} (h : c.write message ok = some c') :
    ClientMove c c' := by
  rcases write_cases h with ⟨-, hopen, hc'⟩ | ⟨-, -, hc'⟩
  · subst c'
    constructor
    · exact Lane.received_push c.up message
    · exact ⟨[message], rfl⟩
    · rfl
    · rfl
    · exact id
    · intro hclosed
      rw [hopen] at hclosed
      cases hclosed
  · subst c'
    exact ClientMove.refl c

theorem clientMove_writesDone
    (c : Call Req Resp Status) :
    ClientMove c c.writesDone :=
  ⟨rfl, ⟨[], by simp [writesDone]⟩, rfl, rfl, id, fun _ => ⟨rfl, rfl⟩⟩

theorem clientMove_die (c : Call Req Resp Status) : ClientMove c c.die :=
  ⟨rfl, ⟨[], by simp [die]⟩, rfl, rfl, fun _ => rfl,
    fun hclosed => ⟨hclosed, rfl⟩⟩

theorem clientMove_read
    {got : Bool} {response : Option Resp}
    (h : c.read got = some (response, c')) :
    ClientMove c c' := by
  rcases read_cases h with ⟨a, lane, -, -, hc'⟩ | ⟨-, hc', -⟩
  · subst c'
    exact ⟨rfl, ⟨[], by simp⟩, rfl, rfl, id, fun hclosed => ⟨hclosed, rfl⟩⟩
  · subst c'
    exact ClientMove.refl c

/-- What the handler leaves as it is for the client. -/
structure ServerMove (c c' : Call Req Resp Status) : Prop where
  sent : c'.up.sent = c.up.sent
  halfClosed : c'.halfClosed = c.halfClosed
  dead : c'.dead = c.dead
  status : (c'.terminal = c.terminal ∧ c'.returned = c.returned) ∨
    (c'.returned = true ∧ (c.dead = true → c'.terminal = none))
  settled : c.Settled → c'.Settled

theorem ServerMove.refl (c : Call Req Resp Status) : ServerMove c c :=
  ⟨rfl, rfl, rfl, Or.inl ⟨rfl, rfl⟩, id⟩

theorem serverMove_serverRead
    {got : Bool} {request : Option Req}
    (h : c.serverRead got = some (request, c')) :
    ServerMove c c' := by
  rcases serverRead_cases h with ⟨a, lane, -, hpop, hc'⟩ | ⟨-, hc', -⟩
  · subst c'
    exact ⟨Lane.sent_pop hpop, rfl, rfl, Or.inl ⟨rfl, rfl⟩, id⟩
  · subst c'
    exact ServerMove.refl c

theorem settled_answer
    (c : Call Req Resp Status) (status : Status) :
    (c.answer status).Settled := by
  intro _
  unfold answer
  cases hdead : c.dead with
  | true => exact Or.inl rfl
  | false => exact Or.inr ⟨status, rfl⟩

theorem ServerMove.answer
    (h : ServerMove c c') (status : Status) :
    ServerMove c (c'.answer status) := by
  refine ⟨h.sent, h.halfClosed, h.dead, Or.inr ⟨rfl, ?_⟩,
    fun _ => settled_answer c' status⟩
  intro hdead
  unfold Call.answer
  rw [h.dead, hdead]
  rfl

end Call

end BidiStream
