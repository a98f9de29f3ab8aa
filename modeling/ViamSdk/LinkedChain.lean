import ViamSdk.StepTrace

/-!
# Chains of components

A component has a side above and a side below, and does things on its own.  In
a chain, what a component does below is what the next one does above, and both
do it at once.  What the chain does above is what its first component does
above, and what it does below is what its last one does below.

A relation between what a component has done on its two sides, if every step
of the component keeps it, links the two ends of a chain through what was done
between its components.
-/

namespace LinkedChain

open StepTrace

variable {σ α ε : Type*}

structure Component (σ α ε : Type*) where
  above : σ → α → σ → Prop
  below : σ → α → σ → Prop
  inside : σ → ε → σ → Prop

/-- What happens in a chain, wherever in it. -/
inductive Event (α ε : Type*) where
  | above (a : α)
  | below (a : α)
  | between (a : α)
  | inside (e : ε)
  deriving DecidableEq, Repr

namespace Event

def doneAbove : Event α ε → List α
  | .above a => [a]
  | .below _ | .between _ | .inside _ => []

def doneBelow : Event α ε → List α
  | .below a => [a]
  | .above _ | .between _ | .inside _ => []

end Event

def doneAbove (run : List (Event α ε × List σ)) : List α :=
  run.flatMap fun entry => entry.1.doneAbove

def doneBelow (run : List (Event α ε × List σ)) : List α :=
  run.flatMap fun entry => entry.1.doneBelow

inductive Step (c : Component σ α ε) :
    List σ → Event α ε → List σ → Prop
  | first {s s' : σ} {a : α} (rest : List σ) (h : c.above s a s') :
      Step c (s :: rest) (.above a) (s' :: rest)
  | last {s s' : σ} {a : α} (h : c.below s a s') :
      Step c [s] (.below a) [s']
  | between {s s' t t' : σ} {a : α} (rest : List σ) (hbelow : c.below s a s')
      (habove : c.above t a t') :
      Step c (s :: t :: rest) (.between a) (s' :: t' :: rest)
  | inside {s s' : σ} {e : ε} (rest : List σ) (h : c.inside s e s') :
      Step c (s :: rest) (.inside e) (s' :: rest)
  | further (s : σ) {rest rest' : List σ} {e : Event α ε}
      (hquiet : e.doneAbove = []) (h : Step c rest e rest') :
      Step c (s :: rest) e (s :: rest')

/-- What a step of a component does to a relation between the component and
what it has done above and below. -/
structure Component.Keeps (c : Component σ α ε) (allowed : ε → Prop)
    (P : σ → List α → List α → Prop) : Prop where
  above : ∀ {s s' a upper lower}, P s upper lower → c.above s a s' →
    P s' (upper ++ [a]) lower
  below : ∀ {s s' a upper lower}, P s upper lower → c.below s a s' →
    P s' upper (lower ++ [a])
  inside : ∀ {s s' e upper lower}, P s upper lower → allowed e →
    c.inside s e s' → P s' upper lower

/-- The relation holds of every component of a chain, each with what was done
between it and its neighbours. -/
def Linked (P : σ → List α → List α → Prop) :
    List α → List σ → List α → Prop
  | upper, [], lower => upper = lower
  | upper, s :: rest, lower => ∃ middle, P s upper middle ∧
      Linked P middle rest lower

section Rules

variable {c : Component σ α ε} {allowed : ε → Prop}
  {P : σ → List α → List α → Prop} {chain chain' : List σ}
  {upper lower : List α}

theorem linked_of_fresh
    (hfresh : ∀ s ∈ chain, P s [] []) :
    Linked P [] chain [] := by
  induction chain with
  | nil => rfl
  | cons s rest ih =>
      have hrest := ih fun t ht => hfresh t (List.mem_cons_of_mem s ht)
      exact ⟨[], hfresh s List.mem_cons_self, hrest⟩

theorem linked_of_step
    (hkeeps : c.Keeps allowed P) {e : Event α ε}
    (hlinked : Linked P upper chain lower) (hstep : Step c chain e chain')
    (hallowed : ∀ x, e = .inside x → allowed x) :
    Linked P (upper ++ e.doneAbove) chain' (lower ++ e.doneBelow) := by
  induction hstep generalizing upper with
  | first rest h =>
      obtain ⟨middle, hs, hrest⟩ := hlinked
      refine ⟨middle, hkeeps.above hs h, ?_⟩
      rwa [Event.doneBelow, List.append_nil]
  | last h =>
      obtain ⟨middle, hs, rfl⟩ := hlinked
      refine ⟨_, ?_, rfl⟩
      rw [Event.doneAbove, List.append_nil]
      exact hkeeps.below hs h
  | between rest hbelow habove =>
      obtain ⟨middle, hs, middle', ht, hrest⟩ := hlinked
      rw [Event.doneAbove, List.append_nil, Event.doneBelow, List.append_nil]
      exact ⟨_, hkeeps.below hs hbelow, middle', hkeeps.above ht habove, hrest⟩
  | inside rest h =>
      obtain ⟨middle, hs, hrest⟩ := hlinked
      rw [Event.doneAbove, List.append_nil, Event.doneBelow, List.append_nil]
      exact ⟨middle, hkeeps.inside hs (hallowed _ rfl) h, hrest⟩
  | further s hquiet h ih =>
      obtain ⟨middle, hs, hrest⟩ := hlinked
      have hlater := ih hrest hallowed
      rw [hquiet, List.append_nil] at hlater ⊢
      exact ⟨middle, hs, hlater⟩

/-- The run lemma: the two ends of a chain stay linked. -/
theorem linked_of_run
    (hkeeps : c.Keeps allowed P) {run : List (Event α ε × List σ)}
    (hlinked : Linked P upper chain lower) (hrun : IsRun (Step c) chain run)
    (hallowed : ∀ entry ∈ run, ∀ x, entry.1 = .inside x → allowed x) :
    Linked P (upper ++ doneAbove run) (lastState chain run)
      (lower ++ doneBelow run) := by
  induction hrun generalizing upper lower with
  | nil =>
      rw [doneAbove, doneBelow, List.flatMap_nil, List.flatMap_nil,
        List.append_nil, List.append_nil]
      exact hlinked
  | @cons _ chain' e run hstep _ ih =>
      have hnext := linked_of_step hkeeps hlinked hstep
        (hallowed _ List.mem_cons_self)
      have hlast := ih hnext fun entry hentry =>
        hallowed entry (List.mem_cons_of_mem _ hentry)
      rw [doneAbove, doneBelow, List.flatMap_cons, List.flatMap_cons,
        ← List.append_assoc, ← List.append_assoc]
      exact hlast

/-- What the relation says of the two sides of one component holds of the two
ends of a chain, if it composes. -/
theorem ends_of_linked
    {T : List α → List α → Prop}
    (htrans : ∀ {upper middle lower}, T upper middle → T middle lower →
      T upper lower)
    (hends : ∀ {s upper lower}, P s upper lower → T upper lower)
    (hlinked : Linked P upper chain lower) (hchain : chain ≠ []) :
    T upper lower := by
  induction chain generalizing upper with
  | nil => exact absurd rfl hchain
  | cons s rest ih =>
      obtain ⟨middle, hs, hrest⟩ := hlinked
      cases rest with
      | nil =>
          cases hrest
          exact hends hs
      | cons t rest =>
          exact htrans (hends hs) (ih hrest (List.cons_ne_nil t rest))

theorem length_of_step
    {e : Event α ε} (hstep : Step c chain e chain') :
    chain'.length = chain.length := by
  induction hstep with
  | further s hquiet h ih => rw [List.length_cons, ih, List.length_cons]
  | _ => rfl

theorem length_of_run
    {run : List (Event α ε × List σ)} (hrun : IsRun (Step c) chain run) :
    (lastState chain run).length = chain.length := by
  induction hrun with
  | nil => rfl
  | cons hstep _ ih => exact ih.trans (length_of_step hstep)

/-- In every run of a chain of fresh components, its two ends are related as
the two sides of each component are. -/
theorem ends_of_run
    (hkeeps : c.Keeps allowed P) {T : List α → List α → Prop}
    (htrans : ∀ {upper middle lower}, T upper middle → T middle lower →
      T upper lower)
    (hends : ∀ {s upper lower}, P s upper lower → T upper lower)
    (hchain : chain ≠ []) (hfresh : ∀ s ∈ chain, P s [] [])
    {run : List (Event α ε × List σ)} (hrun : IsRun (Step c) chain run)
    (hallowed : ∀ entry ∈ run, ∀ x, entry.1 = .inside x → allowed x) :
    T (doneAbove run) (doneBelow run) := by
  have hlinked := linked_of_run hkeeps (linked_of_fresh hfresh) hrun hallowed
  have hlength := length_of_run hrun
  rw [List.nil_append, List.nil_append] at hlinked
  have hlast : lastState chain run ≠ [] := by
    intro hnil
    rw [hnil] at hlength
    exact hchain (List.length_eq_zero_iff.mp hlength.symm)
  exact ends_of_linked htrans hends hlinked hlast

end Rules

end LinkedChain
