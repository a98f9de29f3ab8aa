import Mathlib.Algebra.Order.Group.Multiset
import Mathlib.Data.Multiset.Range

/-!
# Objects with lifetimes

A program constructs objects, each of some type, and destroys them.  The
record of both numbers the objects in the order of their construction, so that
no two are the same.  An action may also be undefined, and then has no result.

The rules say of an action which objects it takes over and which it leaves
alive; whatever else is alive stays so.
-/

namespace Lifetimes

/-- An object, by its number, of a type. -/
structure Instance (κ : Type) where
  id : ℕ
  type : κ
  deriving DecidableEq, Repr

/-- What has been constructed and what has been destroyed, in order. -/
structure Record (κ : Type) where
  constructed : List (Instance κ)
  destroyed : List (Instance κ)

abbrev Action (κ α : Type) := StateT (Record κ) Option α

section

variable {κ : Type}

def Record.start : Record κ := ⟨[], []⟩

def construct (type : κ) : Action κ ℕ := fun record =>
  let id := record.constructed.length
  some (id, { record with
    constructed := record.constructed ++ [⟨id, type⟩] })

def destroy (id : ℕ) (type : κ) : Action κ Unit := fun record =>
  some ((), { record with destroyed := record.destroyed ++ [⟨id, type⟩] })

/-- Undefined unless the condition holds. -/
def require (p : Prop) [Decidable p] : Action κ Unit :=
  if p then pure () else failure

/-! ## What is alive -/

/-- Every object has its own number, and is alive if it has not been
destroyed. -/
structure Record.Balanced (record : Record κ)
    (alive : Multiset (Instance κ)) : Prop where
  numbered : record.constructed.map Instance.id =
    List.range record.constructed.length
  constructed : (record.constructed : Multiset (Instance κ)) =
    record.destroyed + alive

namespace Record

theorem balanced_start : (start : Record κ).Balanced 0 := ⟨rfl, rfl⟩

variable {record : Record κ} {alive : Multiset (Instance κ)}

/-- Nothing is destroyed twice, or while it is alive. -/
theorem Balanced.nodup_destroyed
    (h : record.Balanced alive) :
    (record.destroyed.map Instance.id).Nodup ∧
      ∀ o ∈ alive, o.id ∉ record.destroyed.map Instance.id := by
  have hnumbers : ((record.constructed : Multiset (Instance κ)).map
      Instance.id).Nodup := by
    rw [Multiset.map_coe, Multiset.coe_nodup, h.numbered]
    exact List.nodup_range
  rw [h.constructed, Multiset.map_add, Multiset.nodup_add,
    Multiset.map_coe] at hnumbers
  rcases hnumbers with ⟨hdestroyed, -, hdisjoint⟩
  refine ⟨Multiset.coe_nodup.mp hdestroyed, ?_⟩
  intro o ho hid
  exact Multiset.disjoint_left.mp hdisjoint (Multiset.mem_coe.mpr hid)
    (Multiset.mem_map_of_mem Instance.id ho)

/-- Where nothing is alive, everything has been destroyed. -/
theorem Balanced.destroyed_perm
    (h : record.Balanced 0) : record.destroyed.Perm record.constructed := by
  have hall := h.constructed
  rw [add_zero] at hall
  exact Multiset.coe_eq_coe.mp hall.symm

end Record

/-! ## Rules -/

section Rules

variable {α β : Type}

/-- Where the objects `before` are alive, the action has a result as `result`
says, and the objects `after` are alive instead. -/
def Runs (action : Action κ α) (before : Multiset (Instance κ))
    (after : α → Multiset (Instance κ)) (result : α → Prop) : Prop :=
  ∀ (record : Record κ) (others : Multiset (Instance κ)),
    record.Balanced (before + others) →
    ∃ a record', action.run record = some (a, record') ∧ result a ∧
      record'.Balanced (after a + others)

theorem runs_pure
    {a : α} {before : Multiset (Instance κ)}
    {after : α → Multiset (Instance κ)} {result : α → Prop}
    (hafter : after a = before) (hresult : result a) :
    Runs (pure a) before after result := by
  intro record others hbalanced
  refine ⟨a, record, rfl, hresult, ?_⟩
  rw [hafter]
  exact hbalanced

theorem runs_construct
    (type : κ) :
    Runs (construct type) 0 (fun id => {⟨id, type⟩}) fun _ => True := by
  intro record others hbalanced
  refine ⟨_, _, rfl, trivial, ?_, ?_⟩
  · simp [hbalanced.numbered, List.range_succ]
  · have hconstructed := hbalanced.constructed
    rw [zero_add] at hconstructed
    rw [← Multiset.coe_add, hconstructed, Multiset.coe_singleton, add_assoc,
      add_comm others]

theorem runs_destroy
    (id : ℕ) (type : κ) :
    Runs (destroy id type) {⟨id, type⟩} (fun _ => 0) fun _ => True := by
  intro record others hbalanced
  refine ⟨_, _, rfl, trivial, hbalanced.numbered, ?_⟩
  rw [← Multiset.coe_add, hbalanced.constructed, Multiset.coe_singleton,
    add_assoc, zero_add]

theorem runs_require
    {p : Prop} [Decidable p] (h : p) :
    Runs (require p : Action κ Unit) 0 (fun _ => 0) fun _ => True := by
  unfold require
  rw [if_pos h]
  exact runs_pure rfl trivial

/-- One action after another.  What the first one does not take over is there
for the second. -/
theorem Runs.bind
    {x : Action κ α} {f : α → Action κ β}
    {before frame whole : Multiset (Instance κ)}
    {mid : α → Multiset (Instance κ)} {after : β → Multiset (Instance κ)}
    {first : α → Prop} {result : β → Prop} (hx : Runs x before mid first)
    (hwhole : whole = before + frame)
    (hf : ∀ a, first a → Runs (f a) (mid a + frame) after result) :
    Runs (x >>= f) whole after result := by
  intro record others hbalanced
  rw [hwhole, add_assoc] at hbalanced
  rcases hx record (frame + others) hbalanced with
    ⟨a, between, hrun, ha, hmid⟩
  rw [← add_assoc] at hmid
  rcases hf a ha between others hmid with ⟨b, record', hlast, hb, hafter⟩
  refine ⟨b, record', ?_, hb, hafter⟩
  rw [StateT.run_bind, hrun]
  exact hlast

theorem Runs.mono
    {x : Action κ α} {before before' : Multiset (Instance κ)}
    {after after' : α → Multiset (Instance κ)} {result result' : α → Prop}
    (hx : Runs x before after result) (hbefore : before' = before)
    (hafter : ∀ a, result a → after a = after' a ∧ result' a) :
    Runs x before' after' result' := by
  intro record others hbalanced
  rw [hbefore] at hbalanced
  rcases hx record others hbalanced with ⟨a, record', hrun, ha, hbalanced'⟩
  rcases hafter a ha with ⟨heq, ha'⟩
  rw [heq] at hbalanced'
  exact ⟨a, record', hrun, ha', hbalanced'⟩

end Rules

end

end Lifetimes
