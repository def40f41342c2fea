/-
This file gives how many events the listener accepts in a window of time.
-/

import Mathlib.Algebra.Order.Ring.Rat
import Pxtly.FabricClient.Listener
import Pxtly.Foundation.TokenBuckets

namespace Pxtly.Fabric

open Foundation

/-- The listener keeps this bucket of floats. -/
def FabricEventListener.bucket (listener : FabricEventListener) : TokenBucket Float :=
  ⟨listener.settings.fabricEventsRateLimit, listener.tokens, listener.lastTokenUpdate⟩

theorem create_bucket (settings : EventSettings) (now : Float) :
    (FabricEventListener.create settings now).bucket = .full settings.fabricEventsRateLimit now := rfl

/-- The listener takes its tokens as the bucket gives them. -/
theorem acquire_bucket (listener : FabricEventListener) (now : Float) :
    listener.bucket.acquire 1.0 now =
      ((listener.acquireRateLimitToken now).1, (listener.acquireRateLimitToken now).2.bucket) := by
  unfold TokenBucket.acquire FabricEventListener.acquireRateLimitToken
  dsimp only
  have same : listener.bucket.refilled now = listener.refilled now := rfl
  rw [same]
  by_cases enough : listener.refilled now ≥ 1.0
  · rw [if_pos enough, if_pos enough]
    rfl
  · rw [if_neg enough, if_neg enough]
    rfl

/-- This is the bucket of the listener over exact rationals. -/
abbrev ExactBucket := TokenBucket Rat

def ExactBucket.acquireRateLimitToken (bucket : ExactBucket) (now : Rat) : Bool × ExactBucket := bucket.acquire 1 now

/-- The calls at the times give these results. -/
def tokenResults (rate start : Rat) (times : List Rat) : List Bool := (TokenBucket.full rate start).results 1 times

/-- The calls at the times leave this many tokens. -/
def storedTokens (rate start : Rat) (times : List Rat) : Rat := ((TokenBucket.full rate start).after 1 times).tokens

theorem full_within {rate : Rat} (positive : 0 < rate) (start : Rat) : (TokenBucket.full rate start).Within :=
  ⟨positive.le, le_rfl⟩

/-- The bucket never holds more than its rate, and a window grants at most a full bucket and what flows in. -/
theorem events_rate_limited (rate start : Rat) (positive : 0 < rate) (times : List Rat)
    (ordered : (start :: times).Pairwise (· ≤ ·)) :
    (∀ earlier later, times = earlier ++ later →
      0 ≤ storedTokens rate start earlier ∧ storedTokens rate start earlier ≤ rate) ∧
    ∀ earlier first others later, times = earlier ++ (first :: others) ++ later →
      ((((tokenResults rate start times).drop earlier.length).take (first :: others).length).count true : Rat) ≤
        rate + rate * (others.getLastD first - first) := by
  have full := full_within positive start
  have before : ∀ earlier rest, times = earlier ++ rest → ((TokenBucket.full rate start).after 1 earlier).Within := by
    rintro earlier rest rfl
    exact full.after zero_le_one earlier (ordered.sublist ((List.sublist_append_left earlier rest).cons_cons start))
  have sameRate := TokenBucket.after_rate 1 (.full rate start)
  constructor
  · intro earlier later split
    have within := before earlier later split
    exact ⟨within.nonnegative, within.capped.trans_eq (sameRate earlier)⟩
  · intro earlier first others later split
    have within := before earlier ((first :: others) ++ later) (split.trans (List.append_assoc _ _ _))
    have window : (((TokenBucket.full rate start).after 1 earlier).updated :: first :: others).Pairwise (· ≤ ·) := by
      rw [TokenBucket.after_updated]
      refine TokenBucket.ordered_from (ordered.sublist ?_)
      rw [split]
      exact (List.sublist_append_left _ later).cons_cons start
    have bounded := within.window_le zero_le_one first others window
    rw [mul_one, sameRate] at bounded
    rw [split, tokenResults, TokenBucket.results_window]
    exact bounded.trans_eq (congrArg (rate + ·) (mul_comm _ _))

/-- Two tokens a second allow two of three events at once, and the third one half a second later. -/
theorem events_rate_limited_burst :
    tokenResults 2 0 [0, 0, 0, 1 / 2] = [true, true, false, true] ∧
      ((((tokenResults 2 0 [0, 0, 0, 1 / 2]).drop 1).take 3).count true : Rat) ≤ 2 + 2 * (1 / 2 - 0) := by
  have limited := (events_rate_limited 2 0 (by decide) [0, 0, 0, 1 / 2] (by decide +kernel)).2 [0] 0 [0, 1 / 2] [] rfl
  exact ⟨by decide +kernel, limited⟩

end Pxtly.Fabric
