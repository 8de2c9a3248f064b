import Mathlib.Algebra.BigOperators.Group.List.Basic
import Mathlib.Tactic.Ring

/-!
# Totals over the goroutines in progress

The goroutines that are in the middle of a call are kept as a list of their
stages.  A step takes one stage out of the list and puts its successors in; a
quantity that is the total of a weight over the list changes by the weights of
these stages only.
-/

namespace Libbinder.Go

open List

variable {α : Type}

/-- The total of a weight over a list of stages. -/
def total (weight : α → Int) (stages : List α) : Int :=
  (stages.map weight).sum

/-- One stage is replaced by its successors. -/
def advanceStage [DecidableEq α] (stages : List α) (old : α)
    (successors : List α) : List α :=
  successors ++ stages.erase old

variable (weight : α → Int)

@[simp]
theorem total_nil : total weight [] = 0 :=
  rfl

@[simp]
theorem total_cons (stage : α) (rest : List α) :
    total weight (stage :: rest) = weight stage + total weight rest :=
  rfl

theorem total_append (front rest : List α) :
    total weight (front ++ rest) = total weight front + total weight rest := by
  unfold total
  rw [map_append, sum_append]

variable {stages : List α}

theorem total_advanceStage [DecidableEq α] {old : α} (successors : List α) (mem : old ∈ stages) :
    total weight (advanceStage stages old successors) =
      total weight stages - weight old + total weight successors := by
  have split : weight old + total weight (stages.erase old) = total weight stages :=
    sum_map_erase weight mem
  unfold advanceStage
  rw [total_append, ← split]
  ring

/-- One stage is replaced in its place. -/
theorem total_set {index : Nat} {old : α} (new : α) (found : stages[index]? = some old) :
    total weight (stages.set index new) = total weight stages - weight old + weight new := by
  induction stages generalizing index with
  | nil => cases found
  | cons head rest ih =>
    cases index with
    | zero =>
      cases found
      rw [set_cons_zero, total_cons, total_cons]
      ring
    | succ before =>
      rw [List.getElem?_cons_succ] at found
      rw [set_cons_succ, total_cons, total_cons, ih found]
      ring

variable {weight : α → Int}

/-- Stages of weight zero have total zero. -/
theorem total_eq_zero (zero : ∀ stage ∈ stages, weight stage = 0) : total weight stages = 0 := by
  induction stages with
  | nil => rfl
  | cons stage rest ih =>
    rw [total_cons, zero stage mem_cons_self,
      ih fun other mem => zero other (mem_cons_of_mem _ mem)]
    rfl

theorem total_nonneg (nonneg : ∀ stage, 0 ≤ weight stage) (stages : List α) :
    0 ≤ total weight stages := by
  induction stages with
  | nil => exact Int.le_refl 0
  | cons stage rest ih =>
    rw [total_cons]
    exact Int.add_nonneg (nonneg stage) ih

/-- A stage of positive weight makes a total of nonnegative weights positive. -/
theorem weight_le_total {stage : α} (nonneg : ∀ other, 0 ≤ weight other) (mem : stage ∈ stages) :
    weight stage ≤ total weight stages := by
  induction stages with
  | nil => cases mem
  | cons head rest ih =>
    rw [total_cons]
    have restNonneg := total_nonneg nonneg rest
    rcases mem_cons.mp mem with same | inRest
    · rw [same]
      omega
    · have below := ih inRest
      have headNonneg := nonneg head
      omega

end Libbinder.Go
