import Mathlib.Data.List.Chain
import Mathlib.Data.List.Nodup
import Mathlib.Data.List.Perm.Subperm
import Mathlib.Tactic.Common

/-!
# Serial chains in a directed multigraph

The edges of a multigraph are the elements of a list, each with a source and a
target.  A serial chain is an arrangement of edges in which each starts where
the one before it ends, and which never comes back to a vertex.  Its edges are
then told apart by their sources: from every vertex of the chain but the last
exactly one of them leads on.
-/

namespace SerialChain

variable {ε ν : Type*} (source target : ε → ν)

/-- The vertices that a chain passes, from its root to its end. -/
def vertices : List ε → List ν
  | [] => []
  | e :: l => source e :: (e :: l).map target

structure IsSerial (l : List ε) : Prop where
  linked : l.IsChain fun e f => target e = source f
  distinct : (vertices source target l).Nodup

/-- The first edge starts at the vertex, and every other where the one before
it ends. -/
def IsWalk (v : ν) : List ε → Prop
  | [] => True
  | e :: l => source e = v ∧ IsWalk (target e) l

variable {source target} {v : ν} {e : ε} {l joints : List ε}

theorem isWalk_cons_iff :
    IsWalk source target v (e :: l) ↔
      source e = v ∧ (e :: l).IsChain fun e f => target e = source f := by
  induction l generalizing v e with
  | nil => simp [IsWalk]
  | cons f l ih =>
      rw [IsWalk, ih, List.isChain_cons_cons]
      exact and_congr_right fun _ => and_congr_left fun _ => eq_comm

theorem IsWalk.isSerial
    (h : IsWalk source target v l) (hdistinct : (v :: l.map target).Nodup) :
    IsSerial source target l := by
  cases l with
  | nil => exact ⟨List.isChain_nil, List.nodup_nil⟩
  | cons e l =>
      rcases isWalk_cons_iff.mp h with ⟨hsource, hlinked⟩
      refine ⟨hlinked, ?_⟩
      rw [vertices, hsource]
      exact hdistinct

theorem IsSerial.isWalk
    (h : IsSerial source target (e :: l)) :
    IsWalk source target (source e) (e :: l) :=
  isWalk_cons_iff.mpr ⟨rfl, h.linked⟩

theorem IsWalk.sources_sublist
    (h : IsWalk source target v l) :
    (l.map source).Sublist (v :: l.map target) := by
  induction l generalizing v with
  | nil => exact List.nil_sublist _
  | cons e l ih =>
      rw [List.map_cons, h.1]
      exact (ih h.2).cons_cons v

theorem IsWalk.nodup_sources
    (h : IsWalk source target v l) (hdistinct : (v :: l.map target).Nodup) :
    (l.map source).Nodup :=
  hdistinct.sublist h.sources_sublist

theorem IsWalk.nodup
    (h : IsWalk source target v l) (hdistinct : (v :: l.map target).Nodup) :
    l.Nodup :=
  (h.nodup_sources hdistinct).of_map

section Filter

variable [DecidableEq ν]

/-- In a walk that never comes back, its first edge alone leads on from where
it starts. -/
theorem IsWalk.filter_source
    (h : IsWalk source target v (e :: l))
    (hdistinct : (v :: (e :: l).map target).Nodup) :
    (e :: l).filter (fun f => source f = v) = [e] := by
  have hsources := h.nodup_sources hdistinct
  rw [List.map_cons, List.nodup_cons, h.1] at hsources
  have hrest : l.filter (fun f => source f = v) = [] := by
    rw [List.filter_eq_nil_iff]
    intro f hf heq
    rw [decide_eq_true_eq] at heq
    exact hsources.1 (heq ▸ List.mem_map_of_mem hf)
  simp [h.1, hrest]

theorem filter_source_tail
    {w : ν} (hne : source e ≠ w) :
    (e :: l).filter (fun f => source f = w) =
      l.filter fun f => source f = w := by
  simp [hne]

theorem filter_eq_of_perm
    {l' : List ε} (hperm : l.Perm l') {w : ν}
    (hle : (l'.filter fun f => source f = w).length ≤ 1) :
    l.filter (fun f => source f = w) = l'.filter fun f => source f = w := by
  have hfilter := hperm.filter fun f => decide (source f = w)
  cases hl' : l'.filter (fun f => source f = w) with
  | nil =>
      rw [hl'] at hfilter
      exact hfilter.eq_nil
  | cons f rest =>
      cases rest with
      | nil =>
          rw [hl'] at hfilter
          exact hfilter.eq_singleton
      | cons g rest =>
          rw [hl'] at hle
          simp at hle

theorem length_filter_le_one
    (hsources : (l.map source).Nodup) (w : ν) :
    (l.filter fun f => source f = w).length ≤ 1 := by
  induction l with
  | nil => simp
  | cons f l ih =>
      rw [List.map_cons, List.nodup_cons] at hsources
      by_cases hw : source f = w
      · have hrest : l.filter (fun g => source g = w) = [] := by
          rw [List.filter_eq_nil_iff]
          intro g hg heq
          rw [decide_eq_true_eq] at heq
          apply hsources.1
          rw [hw, ← heq]
          exact List.mem_map_of_mem hg
        simp [hw, hrest]
      · rw [filter_source_tail hw]
        exact ih hsources.2

end Filter

theorem perm_of_nodup
    (hnodup : l.Nodup) (hsubset : l ⊆ joints)
    (hlength : l.length = joints.length) :
    l.Perm joints :=
  (List.subperm_of_subset hnodup hsubset).perm_of_length_le hlength.ge

end SerialChain
