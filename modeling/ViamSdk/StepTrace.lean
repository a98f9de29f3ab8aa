import Mathlib.Algebra.Ring.Nat
import Mathlib.Logic.Relation
import Mathlib.Tactic.Common

/-!
# Finite runs of a labelled step relation

A run is the list of its events, each paired with the state it led to.  The
rules below turn a fact about one step into a fact about a whole run: an
invariant is carried along, and two descriptions of the steps that agree
wherever the invariant holds agree on every run.
-/

namespace StepTrace

variable {σ ε : Type*}

inductive IsRun (step : σ → ε → σ → Prop) : σ → List (ε × σ) → Prop
  | nil (s : σ) : IsRun step s []
  | cons {s s' : σ} {e : ε} {run : List (ε × σ)} :
      step s e s' → IsRun step s' run → IsRun step s ((e, s') :: run)

/-- Every step of the run satisfies `Q`, which sees both its end points. -/
def AllSteps (Q : σ → ε → σ → Prop) : σ → List (ε × σ) → Prop
  | _, [] => True
  | s, (e, s') :: run => Q s e s' ∧ AllSteps Q s' run

def lastState : σ → List (ε × σ) → σ
  | s, [] => s
  | _, (_, s') :: run => lastState s' run

/-- The run of the events, up to the first that is not possible. -/
def traceOf (next : σ → ε → Option σ) : σ → List ε → List (ε × σ)
  | _, [] => []
  | s, e :: es =>
      match next s e with
      | some s' => (e, s') :: traceOf next s' es
      | none => []

theorem isRun_traceOf
    (next : σ → ε → Option σ) (s : σ) (es : List ε) :
    IsRun (fun s e s' => next s e = some s') s (traceOf next s es) := by
  induction es generalizing s with
  | nil => exact IsRun.nil s
  | cons e es ih =>
      unfold traceOf
      cases hnext : next s e with
      | some s' => exact IsRun.cons hnext (ih s')
      | none => exact IsRun.nil s

section Rules

variable {step : σ → ε → σ → Prop} {s : σ} {run : List (ε × σ)}

instance decidableAllSteps (Q : σ → ε → σ → Prop)
    [∀ s e s', Decidable (Q s e s')] :
    ∀ (s : σ) (run : List (ε × σ)), Decidable (AllSteps Q s run)
  | _, [] => isTrue trivial
  | s, (e, s') :: run =>
      let _ := decidableAllSteps Q s' run
      inferInstanceAs (Decidable (Q s e s' ∧ AllSteps Q s' run))

theorem AllSteps.and
    {Q R : σ → ε → σ → Prop} (hQ : AllSteps Q s run) (hR : AllSteps R s run) :
    AllSteps (fun s e s' => Q s e s' ∧ R s e s') s run := by
  induction run generalizing s with
  | nil => trivial
  | cons first run ih =>
      exact ⟨⟨hQ.1, hR.1⟩, ih hQ.2 hR.2⟩

theorem AllSteps.mono
    {Q R : σ → ε → σ → Prop} (hQR : ∀ s e s', Q s e s' → R s e s')
    (hQ : AllSteps Q s run) :
    AllSteps R s run := by
  induction run generalizing s with
  | nil => trivial
  | cons first run ih => exact ⟨hQR _ _ _ hQ.1, ih hQ.2⟩

theorem IsRun.allSteps_of_invariant
    {Inv : σ → Prop} {Q : σ → ε → σ → Prop}
    (hinv : ∀ s e s', Inv s → step s e s' → Inv s')
    (hQ : ∀ s e s', Inv s → step s e s' → Q s e s') (hrun : IsRun step s run)
    (hs : Inv s) :
    AllSteps Q s run := by
  induction hrun with
  | nil => trivial
  | cons hstep _ ih => exact ⟨hQ _ _ _ hs hstep, ih (hinv _ _ _ hs hstep)⟩

theorem IsRun.invariant
    {Inv : σ → Prop} (hinv : ∀ s e s', Inv s → step s e s' → Inv s')
    (hrun : IsRun step s run) (hs : Inv s) :
    Inv (lastState s run) := by
  induction hrun with
  | nil => exact hs
  | cons hstep _ ih => exact ih (hinv _ _ _ hs hstep)

theorem IsRun.append
    {rest : List (ε × σ)} (hrun : IsRun step s run)
    (hrest : IsRun step (lastState s run) rest) :
    IsRun step s (run ++ rest) := by
  induction hrun with
  | nil => exact hrest
  | cons hstep _ ih => exact IsRun.cons hstep (ih hrest)

theorem IsRun.split
    {before rest : List (ε × σ)} {e : ε} {s' : σ}
    (hrun : IsRun step s (before ++ (e, s') :: rest)) :
    step (lastState s before) e s' ∧ IsRun step s' rest := by
  induction before generalizing s with
  | nil =>
      cases hrun with
      | cons hstep hrest => exact ⟨hstep, hrest⟩
  | cons first before ih =>
      cases hrun with
      | cons _ hrest => exact ih hrest

/-- Where each step costs, a run is no longer than what there is to spend. -/
theorem IsRun.length_le
    {Inv : σ → Prop} {left : σ → ℕ}
    (hinv : ∀ s e s', Inv s → step s e s' → Inv s')
    (hcost : ∀ s e s', Inv s → step s e s' → left s' < left s)
    (hrun : IsRun step s run) (hs : Inv s) :
    run.length ≤ left s := by
  induction hrun with
  | nil => exact Nat.zero_le _
  | cons hstep _ ih =>
      have hrest := ih (hinv _ _ _ hs hstep)
      have hfirst := hcost _ _ _ hs hstep
      rw [List.length_cons]
      omega

/-- Where each step is paid for by what its event brings in and by what the
state gives up, so is a run. -/
theorem IsRun.cost_le
    (cost income : ε → ℕ) (left : σ → ℕ)
    (hpaid : ∀ s e s', step s e s' →
      cost e + left s' ≤ left s + income e)
    (hrun : IsRun step s run) :
    (run.map fun entry => cost entry.1).sum + left (lastState s run) ≤
      left s + (run.map fun entry => income entry.1).sum := by
  induction hrun with
  | nil => simp [lastState]
  | cons hstep _ ih =>
      have hfirst := hpaid _ _ _ hstep
      simp only [lastState, List.map_cons, List.sum_cons]
      omega

theorem lastState_append
    (s : σ) (run rest : List (ε × σ)) :
    lastState s (run ++ rest) = lastState (lastState s run) rest := by
  induction run generalizing s with
  | nil => rfl
  | cons first run ih => exact ih first.2

/-- What a state has collected grows by what each event puts out. -/
theorem IsRun.accumulates
    {α : Type*} {Inv : σ → Prop} {collected : σ → List α} {out : ε → List α}
    (hinv : ∀ s e s', Inv s → step s e s' → Inv s')
    (hout : ∀ s e s', Inv s → step s e s' →
      collected s' = collected s ++ out e)
    (hrun : IsRun step s run) (hs : Inv s) :
    collected (lastState s run) =
      collected s ++ run.flatMap fun entry => out entry.1 := by
  induction hrun with
  | nil => simp [lastState]
  | cons hstep _ ih =>
      rw [lastState, ih (hinv _ _ _ hs hstep), hout _ _ _ hs hstep,
        List.flatMap_cons, List.append_assoc]

/-- If every step is matched by a run of a coarser machine from the state that
stands for its first end point to one that stands for the second, then so is
every run. -/
theorem IsRun.simulated
    {τ δ : Type*} {coarse : τ → δ → τ → Prop} {stands : σ → τ → Prop}
    {Inv : σ → Prop} (hinv : ∀ s e s', Inv s → step s e s' → Inv s')
    (hmatch : ∀ s e s' t, Inv s → step s e s' → stands s t →
      ∃ moves, IsRun coarse t moves ∧ stands s' (lastState t moves))
    (hrun : IsRun step s run) (hs : Inv s) {t : τ} (hstands : stands s t) :
    ∃ moves, IsRun coarse t moves ∧
      stands (lastState s run) (lastState t moves) := by
  induction hrun generalizing t with
  | nil => exact ⟨[], IsRun.nil t, hstands⟩
  | cons hstep _ ih =>
      rcases hmatch _ _ _ t hs hstep hstands with ⟨moves, hmoves, hstands'⟩
      rcases ih (hinv _ _ _ hs hstep) hstands' with ⟨rest, hrest, hlast⟩
      refine ⟨moves ++ rest, hmoves.append hrest, ?_⟩
      rw [lastState_append]
      exact hlast

/-- If every step is explained by a few moves of another machine from the same
state to the same state, then so is every run, step by step. -/
theorem IsRun.explained
    {δ : Type*} {move : σ → δ → σ → Prop} {Explains : ε → List δ → Prop}
    (hmatch : ∀ s e s', step s e s' →
      ∃ moves, IsRun move s moves ∧ lastState s moves = s' ∧
        Explains e (moves.map Prod.fst))
    (hrun : IsRun step s run) :
    ∃ segments : List (List (δ × σ)),
      IsRun move s segments.flatten ∧
        lastState s segments.flatten = lastState s run ∧
        List.Forall₂ (fun entry moves => Explains entry.1 (moves.map Prod.fst))
          run segments := by
  induction hrun with
  | nil s => exact ⟨[], IsRun.nil s, rfl, List.Forall₂.nil⟩
  | cons hstep _ ih =>
      obtain ⟨moves, hmoves, hlast, hexplains⟩ := hmatch _ _ _ hstep
      obtain ⟨segments, hrest, hend, hall⟩ := ih
      subst hlast
      refine ⟨moves :: segments, hmoves.append hrest, ?_,
        List.Forall₂.cons hexplains hall⟩
      rw [List.flatten_cons, lastState_append, hend]
      rfl

/-- What holds at the end of a run, where a step lets it hold only if it held
before or the step brings it about, has held all along or ever since a step that
brought it about. -/
theorem IsRun.traced_back
    {Inv holds : σ → Prop} {brings : σ → ε → Prop}
    (hinv : ∀ s e s', Inv s → step s e s' → Inv s')
    (hback : ∀ s e s', Inv s → step s e s' → holds s' → holds s ∨ brings s e)
    (hrun : IsRun step s run) (hs : Inv s) (hlast : holds (lastState s run)) :
    (holds s ∧ AllSteps (fun _ _ s' => holds s') s run) ∨
      ∃ before e s' rest, run = before ++ (e, s') :: rest ∧
        brings (lastState s before) e ∧ holds s' ∧
        AllSteps (fun _ _ t => holds t) s' rest := by
  induction hrun with
  | nil => exact .inl ⟨hlast, trivial⟩
  | @cons s s' e run hstep _ ih =>
      rcases ih (hinv _ _ _ hs hstep) hlast with
        ⟨hheld, hall⟩ | ⟨before, e', t, rest, rfl, hbrings, ht, hall⟩
      · rcases hback _ _ _ hs hstep hheld with hbefore | hbrings
        · exact .inl ⟨hbefore, hheld, hall⟩
        · exact .inr ⟨[], e, s', run, rfl, hbrings, hheld, hall⟩
      · exact .inr ⟨(e, s') :: before, e', t, rest, rfl, hbrings, ht, hall⟩

/-- Two descriptions of a step that agree under the invariant agree on runs. -/
theorem IsRun.allSteps_iff
    {Inv : σ → Prop} {Q R : σ → ε → σ → Prop}
    (hinv : ∀ s e s', Inv s → step s e s' → Inv s')
    (hQR : ∀ s e s', Inv s → step s e s' → (Q s e s' ↔ R s e s'))
    (hrun : IsRun step s run) (hs : Inv s) :
    AllSteps Q s run ↔ AllSteps R s run := by
  induction hrun with
  | nil => exact Iff.rfl
  | cons hstep _ ih =>
      exact and_congr (hQR _ _ _ hs hstep) (ih (hinv _ _ _ hs hstep))

/-- Two descriptions of a step that agree under `P` agree on runs, if `P` is
carried along by the steps that meet one of them. -/
theorem IsRun.allSteps_iff_while
    {P : σ → Prop} {Q R : σ → ε → σ → Prop}
    (hQR : ∀ s e s', P s → step s e s' → (Q s e s' ↔ R s e s'))
    (hP : ∀ s e s', P s → step s e s' → R s e s' → P s')
    (hrun : IsRun step s run) (hs : P s) :
    AllSteps Q s run ↔ AllSteps R s run := by
  induction hrun with
  | nil => exact Iff.rfl
  | cons hstep _ ih =>
      have hiff := hQR _ _ _ hs hstep
      constructor
      · intro hboth
        have hR := hiff.mp hboth.1
        exact ⟨hR, (ih (hP _ _ _ hs hstep hR)).mp hboth.2⟩
      · intro hboth
        exact ⟨hiff.mpr hboth.1,
          (ih (hP _ _ _ hs hstep hboth.1)).mpr hboth.2⟩

/-- A state property `P` that survives a step exactly when the step meets
`ok` holds throughout a run exactly when every step of the run meets `ok`. -/
theorem IsRun.everyState_iff_everyStep
    {Inv P : σ → Prop} {ok : σ → ε → Prop}
    (hinv : ∀ s e s', Inv s → step s e s' → Inv s')
    (hexact : ∀ s e s', Inv s → P s → step s e s' → (P s' ↔ ok s e))
    (hrun : IsRun step s run) (hs : Inv s) (hP : P s) :
    AllSteps (fun _ _ s' => P s') s run ↔
      AllSteps (fun s e _ => ok s e) s run := by
  induction hrun with
  | nil => exact Iff.rfl
  | cons hstep _ ih =>
      have hiff := hexact _ _ _ hs hP hstep
      have hs' := hinv _ _ _ hs hstep
      constructor
      · intro hboth
        rcases hboth with ⟨hP', hrest⟩
        exact ⟨hiff.mp hP', (ih hs' hP').mp hrest⟩
      · intro hboth
        rcases hboth with ⟨hok, hrest⟩
        have hP' := hiff.mpr hok
        exact ⟨hP', (ih hs' hP').mpr hrest⟩

end Rules

end StepTrace
