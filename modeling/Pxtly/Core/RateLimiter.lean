/-
This file gives the limiter of requests, and how many of them it forwards in a window of time.
-/

import Mathlib.Algebra.Order.Ring.Rat
import Mathlib.Data.List.Nodup
import Mathlib.Data.List.Perm.Subperm
import Mathlib.Tactic.Linarith
import Pxtly.Core.ClientIp

namespace Pxtly.Core

open Foundation

def getRateLimit : Nat := 120
def writeRateLimit : Nat := 30
def windowSeconds : Nat := 60

def exemptPrefixes : List String := ["/health", "/metrics"]

section Store

/-- A sorted set scores each member, the text of a reading, by this reading; it expires by the clock of Redis. -/
structure Counter where
  readings : List Rat
  expiresAt : Rat
  distinct : readings.Nodup

abbrev Counters := String → Option Counter

/-- A key that has expired is gone. -/
def Counters.live (counters : Counters) (key : String) (redisTime : Rat) : List Rat :=
  match counters key with
  | none => []
  | some counter => if redisTime < counter.expiresAt then counter.readings else []

/-- The first command of the pipeline removes the readings that are out of the window. -/
def removeRange (readings : List Rat) (lowest highest : Rat) : List Rat :=
  readings.filter fun reading => ¬ (lowest ≤ reading ∧ reading ≤ highest)

/-- A member that the set has already is not added again. -/
def addReading (readings : List Rat) (reading : Rat) : List Rat :=
  if reading ∈ readings then readings else readings ++ [reading]

theorem live_nodup (counters : Counters) (key : String) (redisTime : Rat) : (counters.live key redisTime).Nodup := by
  unfold Counters.live
  cases counters key with
  | none => exact List.nodup_nil
  | some counter =>
      simp only
      split
      · exact counter.distinct
      · exact List.nodup_nil

theorem nodup_addReading {readings : List Rat} (distinct : readings.Nodup) (reading : Rat) :
    (addReading readings reading).Nodup := by
  unfold addReading
  split
  · exact distinct
  · rename_i fresh
    exact List.Nodup.append distinct (List.nodup_singleton reading) (List.disjoint_singleton.mpr fresh)

/-- The four commands of the pipeline are one transaction, and its third one counts the members. -/
def Counters.count (counters : Counters) (key : String) (now redisTime : Rat) : Nat × Counters :=
  let kept := removeRange (counters.live key redisTime) 0 (now - windowSeconds)
  let counter : Counter := {
    readings := addReading kept now
    expiresAt := redisTime + windowSeconds
    distinct := nodup_addReading ((live_nodup counters key redisTime).filter _) now }
  (counter.readings.length, Function.update counters key (some counter))

/-- The pipeline leaves a set that lives for a window. -/
theorem count_stored (counters : Counters) (key : String) (now redisTime : Rat) :
    ∃ counter, (counters.count key now redisTime).2 key = some counter ∧
      counter.readings = addReading (removeRange (counters.live key redisTime) 0 (now - windowSeconds)) now ∧
      counter.expiresAt = redisTime + windowSeconds ∧
      (counters.count key now redisTime).1 = counter.readings.length :=
  ⟨_, Function.update_self .., rfl, rfl, rfl⟩

end Store

section Dispatch

/-- A request brings the readings of the two clocks, and whether Redis answers. -/
structure TimedRequest where
  path : String
  method : String
  ip : String
  now : Rat
  redisTime : Rat
  available : Bool
  deriving DecidableEq

structure JSONResponse where
  statusCode : Nat
  error : String
  message : String
  retryAfter : Option String
  deriving DecidableEq

/-- The application answers a request that is forwarded. -/
inductive Dispatched where
  | forwarded
  | answered (response : JSONResponse)
  deriving DecidableEq

def TimedRequest.exempt (request : TimedRequest) : Bool :=
  exemptPrefixes.any fun head => head.toList.isPrefixOf request.path.toList

def limitOf (method : String) : Nat := if method = "GET" then getRateLimit else writeRateLimit

def tooManyRequests (limit : Nat) : JSONResponse where
  statusCode := 429
  error := "TooManyRequests"
  message := s!"Limite de {limit} requêtes/{windowSeconds}s dépassée."
  retryAfter := toString windowSeconds

def serviceUnavailable : JSONResponse where
  statusCode := 503
  error := "ServiceUnavailable"
  message := "Service temporairement indisponible, veuillez réessayer."
  retryAfter := none

def dispatch (counters : Counters) (request : TimedRequest) : Dispatched × Counters :=
  if request.exempt then (.forwarded, counters)
  else if request.available then
    let counted := counters.count (rateKey request.ip request.method) request.now request.redisTime
    if limitOf request.method < counted.1 then (.answered (tooManyRequests (limitOf request.method)), counted.2)
    else (.forwarded, counted.2)
  else if request.method ∉ ["GET", "HEAD", "OPTIONS"] then (.answered serviceUnavailable, counters)
  else (.forwarded, counters)

/-- A request that Redis does not answer is not counted. -/
theorem dispatch_unavailable (counters : Counters) {request : TimedRequest} (unavailable : request.available = false) :
    (dispatch counters request).2 = counters := by
  rw [dispatch, unavailable, if_neg Bool.false_ne_true]
  split
  · rfl
  · split
    · rfl
    · rfl

/-- These are the readings of the requests that are forwarded. -/
def forwardedReadings : Counters → List TimedRequest → List Rat
  | _, [] => []
  | counters, request :: rest =>
      let dispatched := dispatch counters request
      if dispatched.1 = .forwarded then request.now :: forwardedReadings dispatched.2 rest
      else forwardedReadings dispatched.2 rest

/-- At most so many readings lie in each window. -/
def Limits (limit : Nat) (readings : List Rat) : Prop :=
  ∀ time : Rat, (readings.countP fun reading => time - windowSeconds < reading ∧ reading ≤ time) ≤ limit

end Dispatch

section Windows

variable {readings forwarded : List Rat} {limit : Nat} {now time : Rat}

/-- The forwarded readings of the window are different, and the set has all of them. -/
structure Covers (readings forwarded : List Rat) (now : Rat) : Prop where
  past : ∀ reading ∈ forwarded, reading ≤ now
  kept : ∀ reading ∈ forwarded, now - windowSeconds < reading → reading ∈ readings
  distinct : (forwarded.filter fun reading => now - windowSeconds < reading).Nodup

/-- A later window has no other readings than the window at the last reading. -/
theorem countP_window_le (forwarded : List Rat) (later : now ≤ time) :
    (forwarded.countP fun reading => time - windowSeconds < reading ∧ reading ≤ time) ≤
      (forwarded.filter fun reading => now - windowSeconds < reading).length := by
  rw [← List.countP_eq_length_filter]
  apply List.countP_mono_left
  intro reading _ inside
  rw [decide_eq_true_eq] at inside ⊢
  linarith [inside.1]

/-- A covered window has no more readings than the set. -/
theorem Covers.length_le (covers : Covers readings forwarded now) :
    (forwarded.filter fun reading => now - windowSeconds < reading).length ≤ readings.length := by
  apply (List.subperm_of_subset covers.distinct _).length_le
  intro reading member
  obtain ⟨inside, recent⟩ := List.mem_filter.mp member
  exact covers.kept reading inside (of_decide_eq_true recent)

theorem Covers.of_append {later : List Rat} (covers : Covers readings (forwarded ++ later) now) :
    Covers readings forwarded now where
  past := fun reading member => covers.past reading (List.mem_append_left _ member)
  kept := fun reading member => covers.kept reading (List.mem_append_left _ member)
  distinct := by
    have distinct := covers.distinct
    rw [List.filter_append] at distinct
    exact distinct.sublist (List.sublist_append_left _ _)

/-- A reading that is forwarded keeps the limit where the set that covers it does. -/
theorem Limits.append (limits : Limits limit forwarded) (covers : Covers readings (forwarded ++ [now]) now)
    (room : readings.length ≤ limit) : Limits limit (forwarded ++ [now]) := by
  intro time
  by_cases later : now ≤ time
  · calc (forwarded ++ [now]).countP (fun reading => time - windowSeconds < reading ∧ reading ≤ time)
        ≤ ((forwarded ++ [now]).filter fun reading => now - windowSeconds < reading).length :=
          countP_window_le _ later
      _ ≤ readings.length := covers.length_le
      _ ≤ limit := room
  · have outside : [now].countP (fun reading => time - windowSeconds < reading ∧ reading ≤ time) = 0 := by
      rw [List.countP_eq_zero]
      intro reading member inside
      obtain rfl := List.mem_singleton.mp member
      exact later (of_decide_eq_true inside).2
    rw [List.countP_append, outside, Nat.add_zero]
    exact limits time

/-- The set is ready for a reading that is later than all of its own and covers what is forwarded before it. -/
structure Ready (readings forwarded : List Rat) (now : Rat) : Prop where
  older : ∀ reading ∈ readings, reading < now
  past : ∀ reading ∈ forwarded, reading < now
  kept : ∀ reading ∈ forwarded, now - windowSeconds < reading → reading ∈ readings
  distinct : (forwarded.filter fun reading => now - windowSeconds < reading).Nodup

/-- The set that the pipeline leaves covers the new reading as well. -/
theorem Ready.covers (ready : Ready readings forwarded now) :
    Covers (addReading (removeRange readings 0 (now - windowSeconds)) now) (forwarded ++ [now]) now := by
  have fresh : now ∉ removeRange readings 0 (now - windowSeconds) := fun member =>
    lt_irrefl now (ready.older now (List.mem_of_mem_filter member))
  rw [addReading, if_neg fresh]
  constructor
  · intro reading member
    rcases List.mem_append.mp member with earlier | new
    · exact (ready.past reading earlier).le
    · exact (List.mem_singleton.mp new).le
  · intro reading member recent
    rcases List.mem_append.mp member with earlier | new
    · refine List.mem_append_left _ (List.mem_filter.mpr ⟨ready.kept reading earlier recent, ?_⟩)
      exact decide_eq_true fun removed => absurd recent (not_lt.mpr removed.2)
    · exact List.mem_append_right _ new
  · rw [List.filter_append]
    have single : ([now].filter fun reading => now - windowSeconds < reading).Sublist [now] := List.filter_sublist
    refine List.Nodup.append ready.distinct ((List.nodup_singleton now).sublist single) ?_
    intro reading earlier new
    have same : reading = now := List.mem_singleton.mp (List.mem_of_mem_filter new)
    exact absurd (ready.past reading (List.mem_of_mem_filter earlier)) (same ▸ lt_irrefl _)

theorem older_addReading (ready : Ready readings forwarded now) :
    ∀ reading ∈ addReading (removeRange readings 0 (now - windowSeconds)) now, reading ≤ now := by
  intro reading member
  unfold addReading at member
  split at member
  · exact (ready.older reading (List.mem_of_mem_filter member)).le
  · rcases List.mem_append.mp member with kept | new
    · exact (ready.older reading (List.mem_of_mem_filter kept)).le
    · exact (List.mem_singleton.mp new).le

end Windows

section Runs

variable {ip method : String} {counters : Counters} {forwarded : List Rat}

/-- A request of the client with the method, which Redis answers. -/
structure Counted (ip method : String) (request : TimedRequest) : Prop where
  ip : request.ip = ip
  method : request.method = method
  counted : request.exempt = false
  available : request.available = true

/-- The later request has a greater reading, and the clock of Redis has advanced no more than the readings. -/
structure Apart (earlier later : TimedRequest) : Prop where
  greater : earlier.now < later.now
  clocks : later.redisTime - earlier.redisTime ≤ later.now - earlier.now

theorem dispatch_counted (counters : Counters) {request : TimedRequest} (counted : Counted ip method request) :
    dispatch counters request =
      (if limitOf method < (counters.count (rateKey ip method) request.now request.redisTime).1 then
        .answered (tooManyRequests (limitOf method)) else .forwarded,
        (counters.count (rateKey ip method) request.now request.redisTime).2) := by
  obtain ⟨rfl, rfl, present, available⟩ := counted
  rw [dispatch, present, available]
  simp only [Bool.false_eq_true, if_false, if_true]
  split
  · rfl
  · rfl

/-- A set that covers the window of a request is ready for a later one, also where it expires in between. -/
theorem Covers.ready {counter : Counter} {earlier later : TimedRequest} {key : String}
    (covers : Covers counter.readings forwarded earlier.now)
    (older : ∀ reading ∈ counter.readings, reading ≤ earlier.now)
    (stored : counters key = some counter) (expiry : counter.expiresAt = earlier.redisTime + windowSeconds)
    (apart : Apart earlier later) : Ready (counters.live key later.redisTime) forwarded later.now := by
  have recent : ∀ reading ∈ forwarded, later.now - windowSeconds < reading → earlier.now - windowSeconds < reading :=
    fun reading _ inside => by linarith [apart.greater]
  have live : counters.live key later.redisTime =
      if later.redisTime < counter.expiresAt then counter.readings else [] := by
    rw [Counters.live, stored]
  rw [live]
  constructor
  · intro reading member
    split at member
    · exact (older reading member).trans_lt apart.greater
    · cases member
  · exact fun reading member => (covers.past reading member).trans_lt apart.greater
  · intro reading member inside
    have kept := covers.kept reading member (recent reading member inside)
    rw [if_pos]
    · exact kept
    · -- The reading is younger than the window, so the set has lived for less than the window.
      have young := covers.past reading member
      rw [expiry]
      linarith [apart.clocks]
  · refine List.Nodup.sublist ?_ covers.distinct
    apply List.monotone_filter_right
    intro reading inside
    rw [decide_eq_true_eq] at inside ⊢
    linarith [apart.greater]

/-- One request keeps the limit, and leaves a set that is ready for every later one. -/
theorem dispatch_step {request : TimedRequest} (own : Counted ip method request)
    (ready : Ready (counters.live (rateKey ip method) request.redisTime) forwarded request.now)
    (limits : Limits (limitOf method) forwarded) :
    ∃ more, (∀ rest, forwarded ++ forwardedReadings counters (request :: rest) =
        forwarded ++ more ++ forwardedReadings (dispatch counters request).2 rest) ∧
      Limits (limitOf method) (forwarded ++ more) ∧
      ∀ later, Apart request later →
        Ready ((dispatch counters request).2.live (rateKey ip method) later.redisTime) (forwarded ++ more)
          later.now := by
  obtain ⟨counter, stored, readings, expiry, counted⟩ :=
    count_stored counters (rateKey ip method) request.now request.redisTime
  have covers := ready.covers
  have older := older_addReading ready
  rw [← readings] at covers older
  have served := dispatch_counted counters own
  rw [counted] at served
  -- Only the four facts about the pipeline are used from here on.
  generalize (counters.count (rateKey ip method) request.now request.redisTime).2 = next at stored served
  generalize rateKey ip method = key at stored ⊢
  by_cases many : limitOf method < counter.readings.length
  · rw [if_pos many] at served
    refine ⟨[], fun rest => ?_, ?_, fun later apart => ?_⟩
    · rw [forwardedReadings, served, List.append_nil]
      rfl
    · rwa [List.append_nil]
    · rw [served, List.append_nil]
      exact covers.of_append.ready older stored expiry apart
  · rw [if_neg many] at served
    refine ⟨[request.now], fun rest => ?_, limits.append covers (not_lt.mp many), fun later apart => ?_⟩
    · rw [forwardedReadings, served]
      simp
    · rw [served]
      exact covers.ready older stored expiry apart

/-- A run of such requests keeps the limit from any set that is ready for all of them. -/
theorem limits_forwardedReadings {requests : List TimedRequest}
    (counted : ∀ request ∈ requests, Counted ip method request) (apart : requests.Pairwise Apart)
    (ready : ∀ request ∈ requests,
      Ready (counters.live (rateKey ip method) request.redisTime) forwarded request.now)
    (limits : Limits (limitOf method) forwarded) :
    Limits (limitOf method) (forwarded ++ forwardedReadings counters requests) := by
  induction requests generalizing counters forwarded with
  | nil => rwa [forwardedReadings, List.append_nil]
  | cons request rest inductionHypothesis =>
      obtain ⟨first, others⟩ := List.forall_mem_cons.mp counted
      obtain ⟨before, later⟩ := List.pairwise_cons.mp apart
      obtain ⟨more, same, kept, next⟩ := dispatch_step first (ready request List.mem_cons_self) limits
      rw [same rest]
      exact inductionHypothesis others later (fun other member => next other (before other member)) kept

/-- The limiter keeps its limit in every window where the readings of the client and method differ and the clock of
Redis never advances more than they do. -/
theorem limits_of_apart {requests : List TimedRequest} (unused : counters (rateKey ip method) = none)
    (counted : ∀ request ∈ requests, Counted ip method request) (apart : requests.Pairwise Apart) :
    Limits (limitOf method) (forwardedReadings counters requests) := by
  have ready : ∀ request ∈ requests,
      Ready (counters.live (rateKey ip method) request.redisTime) [] request.now := by
    intro request _
    have empty : counters.live (rateKey ip method) request.redisTime = [] := by rw [Counters.live, unused]
    rw [empty]
    exact ⟨by simp, by simp, by simp, by simp⟩
  have limits := limits_forwardedReadings counted apart ready fun time => Nat.zero_le _
  rwa [List.nil_append] at limits

end Runs

section Samples

def newCounters : Counters := fun _ => none

def postAt (now : Rat) : TimedRequest where
  path := "/api/v1/assets"
  method := "POST"
  ip := "203.0.113.7"
  now := now
  redisTime := now
  available := true

theorem counted_postAt (now : Rat) : Counted "203.0.113.7" "POST" (postAt now) where
  ip := rfl
  method := rfl
  counted := by
    have path : (postAt now).path = "/api/v1/assets" := rfl
    rw [TimedRequest.exempt, path]
    decide
  available := rfl

/-- Two requests follow each other. -/
theorem limits_two_posts : Limits (limitOf "POST") (forwardedReadings newCounters [postAt 1, postAt 2]) := by
  have unused : newCounters (rateKey "203.0.113.7" "POST") = none := rfl
  refine limits_of_apart unused ?_ ?_
  · simp [counted_postAt]
  · simp only [List.pairwise_cons, List.mem_singleton, forall_eq, List.not_mem_nil, false_imp_iff, implies_true,
      List.Pairwise.nil, and_self, and_true]
    constructor
    · decide +kernel
    · exact le_rfl

/-- So many requests come at one reading of the clock. -/
def burst : List TimedRequest := List.replicate 31 (postAt 1767225600)

/-- A burst of more requests than the limit is forwarded. -/
theorem burst_forwarded :
    (∀ request ∈ burst, Counted "203.0.113.7" "POST" request) ∧
      burst.Pairwise (fun earlier later => earlier.now ≤ later.now ∧
        later.redisTime - earlier.redisTime = later.now - earlier.now) ∧
      ¬ Limits (limitOf "POST") (forwardedReadings newCounters burst) := by
  refine ⟨?_, ?_, fun limits => ?_⟩
  · intro request member
    rw [List.eq_of_mem_replicate member]
    exact counted_postAt _
  · exact List.pairwise_replicate.mpr (.inr ⟨le_rfl, rfl⟩)
  · have forwarded : forwardedReadings newCounters burst = List.replicate 31 1767225600 := by decide +kernel
    have few := limits 1767225600
    rw [forwarded] at few
    exact absurd few (by decide +kernel)

end Samples

end Pxtly.Core
