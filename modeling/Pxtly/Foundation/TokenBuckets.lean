/-
This file gives buckets of tokens, which fill at a rate and limit what is taken in every window of time.
-/

import Mathlib.Algebra.Order.Ring.Defs
import Mathlib.Tactic.Linarith

namespace Pxtly.Foundation

/-- The bucket holds at most the tokens of one unit of time. -/
structure TokenBucket (R : Type) where
  rate : R
  tokens : R
  updated : R

namespace TokenBucket

section Operations

variable {R : Type} [Add R] [Sub R] [Mul R] [LT R] [LE R] [DecidableLT R] [DecidableLE R]

def full (rate now : R) : TokenBucket R := ⟨rate, rate, now⟩

def refilled (bucket : TokenBucket R) (now : R) : R :=
  let tokens := bucket.tokens + (now - bucket.updated) * bucket.rate
  if tokens > bucket.rate then bucket.rate else tokens

/-- The bucket is refilled first; then it grants its cost, or nothing. -/
def acquire (cost : R) (bucket : TokenBucket R) (now : R) : Bool × TokenBucket R :=
  let tokens := bucket.refilled now
  if tokens ≥ cost then (true, { bucket with tokens := tokens - cost, updated := now })
  else (false, { bucket with tokens, updated := now })

def after (cost : R) (bucket : TokenBucket R) : List R → TokenBucket R
  | [] => bucket
  | now :: later => ((bucket.acquire cost now).2).after cost later

def results (cost : R) (bucket : TokenBucket R) : List R → List Bool
  | [] => []
  | now :: later => (bucket.acquire cost now).1 :: ((bucket.acquire cost now).2).results cost later

theorem after_append (cost : R) (bucket : TokenBucket R) (first second : List R) :
    bucket.after cost (first ++ second) = (bucket.after cost first).after cost second := by
  induction first generalizing bucket with
  | nil => rfl
  | cons now later inductionHypothesis => exact inductionHypothesis _

theorem results_append (cost : R) (bucket : TokenBucket R) (first second : List R) :
    bucket.results cost (first ++ second) = bucket.results cost first ++ (bucket.after cost first).results cost second := by
  induction first generalizing bucket with
  | nil => rfl
  | cons now later inductionHypothesis => exact congrArg _ (inductionHypothesis _)

@[simp] theorem length_results (cost : R) (bucket : TokenBucket R) (times : List R) :
    (bucket.results cost times).length = times.length := by
  induction times generalizing bucket with
  | nil => rfl
  | cons now later inductionHypothesis => exact congrArg (· + 1) (inductionHypothesis _)

/-- The calls of a window give the results that the bucket gives from the beginning of the window on. -/
theorem results_window (cost : R) (bucket : TokenBucket R) (earlier window later : List R) :
    ((bucket.results cost (earlier ++ window ++ later)).drop earlier.length).take window.length =
      (bucket.after cost earlier).results cost window := by
  rw [List.append_assoc, results_append, results_append, List.drop_left' (length_results cost bucket earlier),
    List.take_left' (length_results cost _ window)]

end Operations

section Bounds

variable {R : Type} [CommRing R] [LinearOrder R] {cost : R} {bucket : TokenBucket R} {now : R}

structure Within (bucket : TokenBucket R) : Prop where
  nonnegative : 0 ≤ bucket.tokens
  capped : bucket.tokens ≤ bucket.rate

theorem Within.rate_nonnegative (within : bucket.Within) : 0 ≤ bucket.rate := within.nonnegative.trans within.capped

theorem refilled_le_rate (bucket : TokenBucket R) (now : R) : bucket.refilled now ≤ bucket.rate := by
  unfold refilled
  dsimp only
  split
  · exact le_rfl
  · rename_i below
    exact not_lt.mp below

theorem refilled_le (bucket : TokenBucket R) (now : R) :
    bucket.refilled now ≤ bucket.tokens + (now - bucket.updated) * bucket.rate := by
  unfold refilled
  dsimp only
  split
  · rename_i above
    exact above.le
  · exact le_rfl

@[simp] theorem acquire_rate (cost : R) (bucket : TokenBucket R) (now : R) :
    (bucket.acquire cost now).2.rate = bucket.rate := by
  unfold acquire
  dsimp only
  split <;> rfl

@[simp] theorem acquire_updated (cost : R) (bucket : TokenBucket R) (now : R) :
    (bucket.acquire cost now).2.updated = now := by
  unfold acquire
  dsimp only
  split <;> rfl

/-- A token that is granted is taken out of the refilled bucket. -/
theorem acquire_tokens (cost : R) (bucket : TokenBucket R) (now : R) :
    (if (bucket.acquire cost now).1 then cost else 0) + (bucket.acquire cost now).2.tokens = bucket.refilled now := by
  unfold acquire
  dsimp only
  split
  · exact add_sub_cancel cost _
  · simp

theorem after_rate (cost : R) (bucket : TokenBucket R) (times : List R) : (bucket.after cost times).rate = bucket.rate := by
  induction times generalizing bucket with
  | nil => rfl
  | cons now later inductionHypothesis => exact (inductionHypothesis _).trans (acquire_rate cost bucket now)

theorem after_updated (bucket : TokenBucket R) (times : List R) :
    (bucket.after cost times).updated = times.getLastD bucket.updated := by
  induction times generalizing bucket with
  | nil => rfl
  | cons now later inductionHypothesis =>
      rw [after, inductionHypothesis, acquire_updated, List.getLastD_cons]

variable [IsStrictOrderedRing R]

theorem refilled_nonnegative (within : bucket.Within) (passed : bucket.updated ≤ now) : 0 ≤ bucket.refilled now := by
  have gained : 0 ≤ (now - bucket.updated) * bucket.rate :=
    mul_nonneg (sub_nonneg.mpr passed) within.rate_nonnegative
  unfold refilled
  dsimp only
  split
  · exact within.rate_nonnegative
  · exact add_nonneg within.nonnegative gained

theorem Within.acquire (positive : 0 ≤ cost) (within : bucket.Within) (passed : bucket.updated ≤ now) :
    (bucket.acquire cost now).2.Within := by
  have nonnegative := refilled_nonnegative within passed
  have capped := refilled_le_rate bucket now
  unfold TokenBucket.acquire
  dsimp only
  split
  · rename_i enough
    exact ⟨sub_nonneg.mpr enough, (sub_le_self _ positive).trans capped⟩
  · exact ⟨nonnegative, capped⟩

/-- What is granted and what is left come from what was there and what has flown in. -/
theorem grants_le (cost : R) (bucket : TokenBucket R) (times : List R) :
    ((bucket.results cost times).count true : R) * cost + (bucket.after cost times).tokens ≤
      bucket.tokens + ((bucket.after cost times).updated - bucket.updated) * bucket.rate := by
  induction times generalizing bucket with
  | nil => simp [results, after]
  | cons now later inductionHypothesis =>
      have rest := inductionHypothesis (bucket.acquire cost now).2
      have first := acquire_tokens cost bucket now
      have bounded := refilled_le bucket now
      rw [acquire_rate, acquire_updated] at rest
      rw [results, after, List.count_cons]
      push_cast
      cases granted : (bucket.acquire cost now).1 with
      | true =>
          rw [granted, if_pos rfl] at first
          simp only [beq_self_eq_true, if_true]
          linarith
      | false =>
          rw [granted, if_neg (by decide)] at first
          simp only [beq_true, Bool.false_eq_true, if_false]
          linarith

theorem Within.after (positive : 0 ≤ cost) (within : bucket.Within) (times : List R)
    (ordered : (bucket.updated :: times).Pairwise (· ≤ ·)) : (bucket.after cost times).Within := by
  induction times generalizing bucket with
  | nil => exact within
  | cons now later inductionHypothesis =>
      obtain ⟨past, rest⟩ := List.pairwise_cons.mp ordered
      refine inductionHypothesis (within.acquire positive (past now List.mem_cons_self)) ?_
      rwa [acquire_updated]

omit [CommRing R] [IsStrictOrderedRing R] in
/-- From the end of a part on, the times stay in their order. -/
theorem ordered_from {start : R} {earlier rest : List R} (ordered : (start :: (earlier ++ rest)).Pairwise (· ≤ ·)) :
    (earlier.getLastD start :: rest).Pairwise (· ≤ ·) := by
  induction earlier generalizing start with
  | nil => exact ordered
  | cons now earlier inductionHypothesis =>
      rw [List.getLastD_cons]
      exact inductionHypothesis (List.pairwise_cons.mp ordered).2

/-- In every window, what is granted is at most a full bucket and what flows in. -/
theorem Within.window_le (within : bucket.Within) (positive : 0 ≤ cost) (first : R) (others : List R)
    (ordered : (bucket.updated :: first :: others).Pairwise (· ≤ ·)) :
    ((bucket.results cost (first :: others)).count true : R) * cost ≤
      bucket.rate + (others.getLastD first - first) * bucket.rate := by
  obtain ⟨past, rest⟩ := List.pairwise_cons.mp ordered
  have entered := within.acquire positive (past first List.mem_cons_self)
  have left := (entered.after positive others (by rwa [acquire_updated])).nonnegative
  have granted := acquire_tokens cost bucket first
  have bounded := refilled_le_rate bucket first
  have flown := grants_le cost (bucket.acquire cost first).2 others
  rw [after_updated, acquire_updated, acquire_rate] at flown
  rw [results, List.count_cons]
  push_cast
  cases taken : (bucket.acquire cost first).1 with
  | true =>
      rw [taken, if_pos rfl] at granted
      simp only [beq_self_eq_true, if_true]
      linarith
  | false =>
      rw [taken, if_neg (by decide)] at granted
      simp only [beq_true, Bool.false_eq_true, if_false]
      linarith

end Bounds

end TokenBucket

end Pxtly.Foundation
