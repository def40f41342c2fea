/-
This file gives the offline cache over its table, and that its commands are those of a store in all interleavings of
threads.
-/

import Pxtly.Foundation.Interleavings
import Pxtly.Foundation.JsonTexts

namespace Pxtly.Cli.Cache

open Foundation Program

section Commands

/-- A row of the table holds a payload as a text. -/
structure Row where
  payload : String
  cachedAt : Float
  ttl : Float

inductive SqliteStep where
  | select (key : String)
  | upsert (key data : String) (ttl : Float)
  | delete (key : String)
  | time

/-- A step of the database that raises an error has failed; a row is written at a time of the clock. -/
abbrev SqliteStep.Answer : SqliteStep → Type
  | .select _ => Option (Option Row)
  | .upsert .. => Option Float
  | .delete _ => Option Unit
  | .time => Float

def sqliteSignature : Signature where
  Operation := SqliteStep
  Answer := SqliteStep.Answer

abbrev SqliteEvent := Program.Event sqliteSignature

inductive CacheFault where
  | sqliteError
  | valueError

abbrev SqliteProgram (A : Type) := Program sqliteSignature CacheFault A

def ask (step : SqliteStep) : SqliteProgram step.Answer := call (S := sqliteSignature) step

variable (floats : FloatTexts)

/-- An integer of too many digits is not written. -/
def set (key : String) (payload : Json) (ttl : Float) : SqliteProgram Unit :=
  if payload.every Json.digitsFit then do
    match ← ask (.upsert key (dumpsSpaced floats payload) ttl) with
    | some _ => return ()
    | none => .raise .sqliteError
  else .raise .valueError

def delete (key : String) : SqliteProgram Unit := do
  match ← ask (.delete key) with
  | some () => return ()
  | none => .raise .sqliteError

def Row.load (row : Row) : SqliteProgram (Option Json) :=
  match loads floats.read row.payload.toList with
  | some payload => return some payload
  | none => .raise .valueError

/-- The row was read before the clock is, and an expired row is deleted after that. -/
def judge (key : String) (row : Row) (now : Float) : SqliteProgram (Option Json) :=
  if row.ttl < now - row.cachedAt then do
    delete key
    return none
  else row.load floats

def inspect (key : String) (row : Row) : SqliteProgram (Option Json) :=
  if 0 < row.ttl then do judge floats key row (← ask .time)
  else row.load floats

def get (key : String) : SqliteProgram (Option Json) := do
  match ← ask (.select key) with
  | none => .raise .sqliteError
  | some none => return none
  | some (some row) => inspect floats key row

/-- A step of the database is taken as a whole, and a failed one has changed nothing. -/
inductive SqliteResponds : (step : SqliteStep) → (String → Option Row) → step.Answer → (String → Option Row) → Prop where
  | selected (key : String) (table : String → Option Row) : SqliteResponds (.select key) table (some (table key)) table
  | unselected (key : String) (table : String → Option Row) : SqliteResponds (.select key) table none table
  | upserted (key data : String) (ttl : Float) (table : String → Option Row) (now : Float) :
      SqliteResponds (.upsert key data ttl) table (some now) (Function.update table key (some ⟨data, now, ttl⟩))
  | notUpserted (key data : String) (ttl : Float) (table : String → Option Row) :
      SqliteResponds (.upsert key data ttl) table none table
  | deleted (key : String) (table : String → Option Row) :
      SqliteResponds (.delete key) table (some ()) (Function.update table key none)
  | notDeleted (key : String) (table : String → Option Row) : SqliteResponds (.delete key) table none table
  | time (table : String → Option Row) (now : Float) : SqliteResponds .time table now table

end Commands

section Store

/-- The store has the payload itself. -/
structure Entry where
  payload : Json
  cachedAt : Float
  ttl : Float

def Entry.Expired (entry : Entry) (now : Float) : Prop := 0 < entry.ttl ∧ entry.ttl < now - entry.cachedAt

/-- The store also knows all entries that it has ever had. -/
structure Store where
  entries : String → Option Entry
  past : List (String × Entry)

def Store.put (store : Store) (key : String) (entry : Entry) : Store where
  entries := Function.update store.entries key (some entry)
  past := (key, entry) :: store.past

def Store.drop (store : Store) (key : String) : Store where
  entries := Function.update store.entries key none
  past := store.past

inductive CacheStep where
  | set (key : String) (payload : Json) (ttl : Float)
  | get (key : String)
  | delete (key : String)

abbrev CacheStep.Result : CacheStep → Type
  | .set .. => Unit
  | .get _ => Option Json
  | .delete _ => Unit

def cacheSignature : Signature where
  Operation := CacheStep
  Answer step := Except CacheFault step.Result

abbrev CacheEvent := Program.Event cacheSignature

abbrev CacheProgram (A : Type) := Program cacheSignature CacheFault A

/-- An entry is found as long as it has not expired. One that is there is lost only to a reading of the same key which has
seen an expired entry. -/
inductive StoreResponds : (step : CacheStep) → Store → Except CacheFault step.Result → Store → Prop where
  | failed (step : CacheStep) (store : Store) (fault : CacheFault) : StoreResponds step store (.error fault) store
  | set (key : String) (payload : Json) (ttl : Float) (store : Store) (now : Float) :
      StoreResponds (.set key payload ttl) store (.ok ()) (store.put key ⟨payload, now, ttl⟩)
  | missing (key : String) (store : Store) (empty : store.entries key = none) :
      StoreResponds (.get key) store (.ok none) store
  | found (key : String) (store : Store) (entry : Entry) (now : Float) (held : store.entries key = some entry)
      (fresh : ¬ entry.Expired now) : StoreResponds (.get key) store (.ok (some entry.payload)) store
  | lost (key : String) (store : Store) (entry : Entry) (now : Float) (seen : (key, entry) ∈ store.past)
      (expired : entry.Expired now) : StoreResponds (.get key) store (.ok none) (store.drop key)
  | deleted (key : String) (store : Store) : StoreResponds (.delete key) store (.ok ()) (store.drop key)

variable (floats : FloatTexts)

/-- A thread carries out a step of the store on the table. -/
def carry : (step : CacheStep) → SqliteProgram (Except CacheFault step.Result)
  | .set key payload ttl => (set floats key payload ttl).attempt
  | .get key => (get floats key).attempt
  | .delete key => (delete key).attempt

/-- JSON can represent the payload. -/
def CacheStep.Writes : CacheStep → Prop
  | .set _ payload _ => payload.every Json.written = true
  | _ => True

/-- The text of the row is read as the payload of the entry. -/
structure Stands (row : Row) (entry : Entry) : Prop where
  payload : loads floats.read row.payload.toList = some entry.payload
  cachedAt : row.cachedAt = entry.cachedAt
  ttl : row.ttl = entry.ttl

def Holds (table : String → Option Row) (store : Store) : Prop :=
  ∀ key, (table key = none ∧ store.entries key = none) ∨
    ∃ row entry, table key = some row ∧ store.entries key = some entry ∧ Stands floats row entry ∧ (key, entry) ∈ store.past

end Store

section Carrying

variable {floats : FloatTexts} {row : Row} {entry : Entry} {key : String}

theorem carry_set {payload : Json} {ttl : Float} (writes : (CacheStep.set key payload ttl).Writes) :
    carry floats (.set key payload ttl) =
      .perform (S := sqliteSignature) (.upsert key (dumpsSpaced floats payload) ttl) fun
        | some _ => .done (.ok ())
        | none => .done (.error .sqliteError) := by
  have both := (Json.every_and Json.digitsFit Json.isNumeric payload).symm.trans writes
  simp only [carry, set, if_pos (Bool.and_eq_true_iff.mp both).1]
  refine congrArg (Program.perform _) (funext fun answer => ?_)
  cases answer <;> rfl

theorem carry_get : carry floats (.get key) =
    .perform (S := sqliteSignature) (.select key) fun
      | none => .done (.error .sqliteError)
      | some none => .done (.ok none)
      | some (some row) => (inspect floats key row).attempt := by
  refine congrArg (Program.perform _) (funext fun answer => ?_)
  match answer with
  | none => rfl
  | some none => rfl
  | some (some row) => rfl

theorem carry_delete : carry floats (.delete key) =
    .perform (S := sqliteSignature) (.delete key) fun
      | some () => .done (.ok ())
      | none => .done (.error .sqliteError) := by
  refine congrArg (Program.perform _) (funext fun answer => ?_)
  cases answer <;> rfl

theorem Stands.load (stands : Stands floats row entry) : row.load floats = .done (some entry.payload) := by
  rw [Row.load, stands.payload]
  rfl

theorem Stands.judge_fresh (stands : Stands floats row entry) (positive : 0 < row.ttl) {now : Float}
    (fresh : ¬ entry.Expired now) : judge floats key row now = .done (some entry.payload) := by
  have inTime : ¬ row.ttl < now - row.cachedAt := by
    intro late
    rw [Entry.Expired, ← stands.ttl, ← stands.cachedAt] at fresh
    exact fresh ⟨positive, late⟩
  rw [judge, if_neg inTime, stands.load]

theorem Stands.judge_expired (stands : Stands floats row entry) {now : Float} (expired : entry.Expired now) :
    judge floats key row now = do
      delete key
      return none := by
  rw [Entry.Expired, ← stands.ttl, ← stands.cachedAt] at expired
  rw [judge, if_pos expired.2]

variable {table : String → Option Row} {store : Store}

theorem Holds.put (holds : Holds floats table store) (stands : Stands floats row entry) :
    Holds floats (Function.update table key (some row)) (store.put key entry) := by
  intro other
  by_cases same : other = key
  · subst same
    exact .inr ⟨row, entry, Function.update_self _ _ _, Function.update_self _ _ _, stands, List.mem_cons_self⟩
  · simp only [Store.put, Function.update_of_ne same]
    rcases holds other with empty | ⟨row, entry, listed, held, stands, seen⟩
    · exact .inl empty
    · exact .inr ⟨row, entry, listed, held, stands, List.mem_cons_of_mem _ seen⟩

theorem Holds.drop (holds : Holds floats table store) (key : String) :
    Holds floats (Function.update table key none) (store.drop key) := by
  intro other
  by_cases same : other = key
  · subst same
    exact .inl ⟨Function.update_self _ _ _, Function.update_self _ _ _⟩
  · simp only [Store.drop, Function.update_of_ne same]
    exact holds other

end Carrying

section Simulation

variable {floats : FloatTexts} {A : Type}

/-- The next step of a thread reads the clock and finds that the entry has not expired. -/
def Spared (entry : Entry) (future : List SqliteEvent) : Prop :=
  ∃ now rest, future = ⟨SqliteStep.time, now⟩ :: rest ∧ ¬ entry.Expired now

variable (floats) in
/-- The thread has read a row that may expire. -/
def inspecting (key : String) (row : Row) (next : Except CacheFault (Option Json) → CacheProgram A) : SqliteProgram A :=
  .perform (S := sqliteSignature) .time fun now =>
    (judge floats key row now).attempt.bind fun answer => (next answer).expand (carry floats)

variable (floats) in
/-- The thread has found its row expired. -/
def removing (key : String) (next : Except CacheFault (Option Json) → CacheProgram A) : SqliteProgram A :=
  .perform (S := sqliteSignature) (.delete key) fun
    | some () => (next (.ok none)).expand (carry floats)
    | none => (next (.error .sqliteError)).expand (carry floats)

theorem removing_eq (key : String) (next : Except CacheFault (Option Json) → CacheProgram A) :
    ((do
      delete key
      return none : SqliteProgram (Option Json)).attempt.bind fun answer => (next answer).expand (carry floats)) =
      removing floats key next := by
  refine congrArg (Program.perform _) (funext fun answer => ?_)
  cases answer <;> rfl

variable (floats) in
/-- A reading that will find its entry has done so when it reads the row, and one that will not is still to come. -/
inductive Stage (future : List SqliteEvent) (past : List (String × Entry)) : SqliteProgram A → CacheProgram A → Prop where
  | between (program : CacheProgram A) : Stage future past (program.expand (carry floats)) program
  | promised (key : String) (row : Row) (entry : Entry) (next : Except CacheFault (Option Json) → CacheProgram A)
      (stands : Stands floats row entry) (positive : 0 < row.ttl) (spared : Spared entry future) :
      Stage future past (inspecting floats key row next) (next (.ok (some entry.payload)))
  | undecided (key : String) (row : Row) (entry : Entry) (next : Except CacheFault (Option Json) → CacheProgram A)
      (stands : Stands floats row entry) (seen : (key, entry) ∈ past) (notSpared : ¬ Spared entry future) :
      Stage future past (inspecting floats key row next) (.perform (S := cacheSignature) (.get key) next)
  | removing (key : String) (entry : Entry) (now : Float) (next : Except CacheFault (Option Json) → CacheProgram A)
      (seen : (key, entry) ∈ past) (expired : entry.Expired now) :
      Stage future past (removing floats key next) (.perform (S := cacheSignature) (.get key) next)

theorem Stage.mono {future : List SqliteEvent} {past later : List (String × Entry)} {lower : SqliteProgram A}
    {upper : CacheProgram A} (stage : Stage floats future past lower upper) (more : past ⊆ later) :
    Stage floats future later lower upper := by
  cases stage with
  | between => exact .between _
  | promised key row entry next stands positive spared => exact .promised key row entry next stands positive spared
  | undecided key row entry next stands seen notSpared => exact .undecided key row entry next stands (more seen) notSpared
  | removing key entry now next seen expired => exact .removing key entry now next (more seen) expired

variable {future : List SqliteEvent} {table world : String → Option Row} {store : Store} {upper : CacheProgram A}
  {operation : SqliteStep} {answer : operation.Answer} {rest : operation.Answer → SqliteProgram A}

variable (floats) in
/-- The store takes no step, or it takes the one that the thread awaits. -/
inductive Matched (future : List SqliteEvent) (store : Store) (upper : CacheProgram A) (world : String → Option Row)
    (lower : SqliteProgram A) : Prop where
  | waits (holds : Holds floats world store) (stage : Stage floats future store.past lower upper)
  | steps (step : CacheStep) (result : Except CacheFault step.Result)
      (next : Except CacheFault step.Result → CacheProgram A) (later : Store)
      (awaits : upper = .perform (S := cacheSignature) step next) (answered : StoreResponds step store result later)
      (holds : Holds floats world later) (more : store.past ⊆ later.past)
      (stage : Stage floats future later.past lower (next result))

theorem Stage.matched_between (upper : CacheProgram A) (writes : upper.Within CacheStep.Writes)
    (awaits : upper.expand (carry floats) = .perform (S := sqliteSignature) operation rest)
    (holds : Holds floats table store) (answered : SqliteResponds operation table answer world) :
    Matched floats future store upper world (rest answer) := by
  cases upper with
  | done value => cases awaits
  | raise fault => cases awaits
  | perform step next =>
      obtain ⟨inside, _⟩ := writes
      replace awaits : (carry floats step).bind (fun result => (next result).expand (carry floats)) =
        .perform (S := sqliteSignature) operation rest := awaits
      cases step with
      | set key payload ttl =>
          rw [carry_set inside] at awaits
          cases awaits
          cases answered with
          | upserted _ _ _ _ now =>
              have stands : Stands floats ⟨dumpsSpaced floats payload, now, ttl⟩ ⟨payload, now, ttl⟩ :=
                ⟨loads_dumpsSpaced inside, rfl, rfl⟩
              exact .steps (.set key payload ttl) (.ok ()) next _ rfl (.set key payload ttl store now) (holds.put stands)
                (List.subset_cons_self _ _) (.between _)
          | notUpserted =>
              exact .steps (.set key payload ttl) (.error .sqliteError) next _ rfl (.failed _ store _) holds
                (List.Subset.refl _) (.between _)
      | get key =>
          rw [carry_get] at awaits
          cases awaits
          cases answered with
          | unselected =>
              exact .steps (.get key) (.error .sqliteError) next _ rfl (.failed _ store _) holds (List.Subset.refl _)
                (.between _)
          | selected =>
              rcases holds key with ⟨unlisted, empty⟩ | ⟨row, entry, listed, held, stands, seen⟩
              · rw [unlisted]
                exact .steps (.get key) (.ok none) next _ rfl (.missing key store empty) holds (List.Subset.refl _)
                  (.between _)
              · rw [listed]
                dsimp only
                by_cases positive : 0 < row.ttl
                · have reads : ((inspect floats key row).attempt.bind fun result => (next result).expand (carry floats)) =
                      inspecting floats key row next := by
                    rw [inspect, if_pos positive]
                    rfl
                  rw [reads]
                  by_cases spared : Spared entry future
                  · obtain ⟨now, others, same, fresh⟩ := spared
                    exact .steps (.get key) (.ok (some entry.payload)) next _ rfl
                      (.found key store entry now held fresh) holds (List.Subset.refl _)
                      (.promised key row entry next stands positive ⟨now, others, same, fresh⟩)
                  · exact .waits holds (.undecided key row entry next stands seen spared)
                · have fresh : ¬ entry.Expired 0 := fun expired => positive (stands.ttl ▸ expired.1)
                  rw [inspect, if_neg positive, stands.load]
                  exact .steps (.get key) (.ok (some entry.payload)) next _ rfl (.found key store entry 0 held fresh) holds
                    (List.Subset.refl _) (.between _)
      | delete key =>
          rw [carry_delete] at awaits
          cases awaits
          cases answered with
          | deleted =>
              exact .steps (.delete key) (.ok ()) next _ rfl (.deleted key store) (holds.drop key) (List.Subset.refl _)
                (.between _)
          | notDeleted =>
              exact .steps (.delete key) (.error .sqliteError) next _ rfl (.failed _ store _) holds
                (List.Subset.refl _) (.between _)

/-- Whatever a thread does next, the store keeps up with it. -/
theorem Stage.matched (stage : Stage floats (⟨operation, answer⟩ :: future) store.past
      (.perform (S := sqliteSignature) operation rest) upper) (writes : upper.Within CacheStep.Writes)
    (holds : Holds floats table store) (answered : SqliteResponds operation table answer world) :
    Matched floats future store upper world (rest answer) := by
  generalize awaits : (Program.perform (S := sqliteSignature) operation rest : SqliteProgram A) = lower at stage
  cases stage with
  | between program => exact Stage.matched_between upper writes awaits.symm holds answered
  | promised key row entry next stands positive spared =>
      cases awaits
      cases answered with
      | time =>
          obtain ⟨now, others, same, fresh⟩ := spared
          cases same
          change Matched floats future store _ _ ((judge floats key row answer).attempt.bind _)
          rw [stands.judge_fresh positive fresh]
          exact .waits holds (.between _)
  | undecided key row entry next stands seen notSpared =>
      cases awaits
      cases answered with
      | time =>
          have expired : entry.Expired answer := by
            by_contra fresh
            exact notSpared ⟨answer, future, rfl, fresh⟩
          change Matched floats future store _ _ ((judge floats key row answer).attempt.bind _)
          rw [stands.judge_expired expired, removing_eq]
          exact .waits holds (.removing key entry answer next seen expired)
  | removing key entry now next seen expired =>
      cases awaits
      cases answered with
      | deleted =>
          exact .steps (.get key) (.ok none) next _ rfl (.lost key store entry now seen expired) (holds.drop key)
            (List.Subset.refl _) (.between _)
      | notDeleted =>
          exact .steps (.get key) (.error .sqliteError) next _ rfl (.failed _ store _) holds (List.Subset.refl _)
            (.between _)

theorem exists_performs {step : CacheStep} (writes : step.Writes)
    (next : Except CacheFault step.Result → CacheProgram A) : ∃ operation rest,
      (Program.perform (S := cacheSignature) step next).expand (carry floats) =
        (.perform (S := sqliteSignature) operation rest : SqliteProgram A) := by
  change ∃ operation rest, (carry floats step).bind _ = _
  cases step with
  | set key payload ttl => exact ⟨_, _, by rw [carry_set writes]; rfl⟩
  | get key => exact ⟨_, _, by rw [carry_get]; rfl⟩
  | delete key => exact ⟨_, _, by rw [carry_delete]; rfl⟩

/-- A thread that has ended is between two steps, and so it has ended over the store as well. -/
theorem Stage.ended {lower : SqliteProgram A} (stage : Stage floats future store.past lower upper)
    (writes : upper.Within CacheStep.Writes)
    (ended : ∀ operation rest, lower ≠ .perform (S := sqliteSignature) operation rest) :
    lower = upper.expand (carry floats) ∧ ∀ step next, upper ≠ .perform (S := cacheSignature) step next := by
  cases stage with
  | between =>
      refine ⟨rfl, fun step next awaits => ?_⟩
      subst awaits
      obtain ⟨operation, rest, performs⟩ := exists_performs writes.1 next
      exact ended operation rest performs
  | promised => exact absurd rfl (ended _ _)
  | undecided => exact absurd rfl (ended _ _)
  | removing => exact absurd rfl (ended _ _)

theorem Stage.of_done {value : A} (stage : Stage floats future store.past (.done value) upper)
    (writes : upper.Within CacheStep.Writes) : upper = .done value := by
  obtain ⟨same, ended⟩ := stage.ended writes nofun
  cases upper with
  | done other =>
      cases same
      rfl
  | raise fault => cases same
  | perform step next => exact absurd rfl (ended step next)

theorem Stage.of_raise {fault : CacheFault} (stage : Stage floats future store.past (.raise fault) upper)
    (writes : upper.Within CacheStep.Writes) : upper = .raise fault := by
  obtain ⟨same, ended⟩ := stage.ended writes nofun
  cases upper with
  | done value => cases same
  | raise other =>
      cases same
      rfl
  | perform step next => exact absurd rfl (ended step next)

end Simulation

section Threads

variable {floats : FloatTexts} {A C : Type} [DecidableEq C]

abbrev Tables (A C : Type) := Pool sqliteSignature CacheFault A (String → Option Row) C

abbrev Stores (A C : Type) := Pool cacheSignature CacheFault A Store C

variable (floats) in
/-- With the events of the threads that are still to come, the store is where the table is. -/
structure Related (future : Pool.Trace sqliteSignature C) (lower : Tables A C) (upper : Stores A C) : Prop where
  holds : Holds floats lower.world upper.world
  writes : ∀ call, (upper.program call).Within CacheStep.Writes
  stage : ∀ call, Stage floats (Pool.eventsOf future call) upper.world.past (lower.program call) (upper.program call)

theorem Related.matched {label : C × SqliteEvent} {future : Pool.Trace sqliteSignature C} {lower next : Tables A C}
    {upper : Stores A C} (taken : Pool.Step SqliteResponds lower label next)
    (related : Related floats (label :: future) lower upper) :
    ∃ others later, Runs (Pool.Step StoreResponds) upper others later ∧ Related floats future next later ∧
      (others.map fun moment => moment.label.1).Sublist [label.1] := by
  cases taken with
  | perform call operation answer rest world awaits answered =>
      have others (other : C) (different : other ≠ call) :
          Pool.eventsOf ((call, (⟨operation, answer⟩ : SqliteEvent)) :: future) other = Pool.eventsOf future other := by
        rw [Pool.eventsOf, List.filter_cons_of_neg (by simpa using different.symm)]
        rfl
      have own : Pool.eventsOf ((call, (⟨operation, answer⟩ : SqliteEvent)) :: future) call =
          ⟨operation, answer⟩ :: Pool.eventsOf future call := by
        rw [Pool.eventsOf, List.filter_cons_of_pos (by simp)]
        rfl
      have stage := related.stage call
      rw [own, awaits] at stage
      rcases stage.matched (related.writes call) related.holds answered with
        ⟨holds, waiting⟩ | ⟨step, result, continues, later, ready, responded, holds, more, reached⟩
      · refine ⟨[], upper, .nil, ⟨holds, related.writes, fun other => ?_⟩, List.nil_sublist _⟩
        by_cases same : other = call
        · subst same
          simpa only [Function.update_self] using waiting
        · simpa only [Function.update_of_ne same, others other same] using related.stage other
      · refine ⟨_, _, .step _ (.perform call step result continues later ready responded) .nil,
          ⟨holds, fun other => ?_, fun other => ?_⟩, List.Sublist.refl _⟩
        · by_cases same : other = call
          · subst same
            have inside := related.writes other
            rw [ready] at inside
            simpa only [Function.update_self] using inside.2 result
          · simpa only [Function.update_of_ne same] using related.writes other
        · by_cases same : other = call
          · subst same
            simpa only [Function.update_self] using reached
          · simpa only [Function.update_of_ne same, others other same] using (related.stage other).mono more

/-- These payloads are under the keys after an event of the store. -/
def payloadsAfter (before : String → Option Json) : CacheEvent → String → Option Json
  | ⟨.set key payload _, .ok _⟩ => Function.update before key (some payload)
  | ⟨.get key, .ok none⟩ => Function.update before key none
  | ⟨.delete key, .ok _⟩ => Function.update before key none
  | _ => before

/-- Under each key stands what was set last, unless it was deleted or missed since. -/
def lastSet (first : String → Option Json) (trace : Pool.Trace cacheSignature C) : String → Option Json :=
  trace.foldl (fun before entry => payloadsAfter before entry.2) first

def Store.payloads (store : Store) (key : String) : Option Json := (store.entries key).map Entry.payload

theorem payloads_responds {step : CacheStep} {store later : Store} {result : Except CacheFault step.Result}
    (answered : StoreResponds step store result later) :
    later.payloads = payloadsAfter store.payloads ⟨step, result⟩ := by
  have put (key : String) (entry : Entry) :
      (store.put key entry).payloads = Function.update store.payloads key (some entry.payload) := by
    funext other
    by_cases same : other = key
    · subst same
      simp [Store.payloads, Store.put]
    · simp [Store.payloads, Store.put, Function.update_of_ne same]
  have drop (key : String) : (store.drop key).payloads = Function.update store.payloads key none := by
    funext other
    by_cases same : other = key
    · subst same
      simp [Store.payloads, Store.drop]
    · simp [Store.payloads, Store.drop, Function.update_of_ne same]
  cases answered with
  | failed step store fault => cases step <;> rfl
  | set key payload ttl store now => exact put key ⟨payload, now, ttl⟩
  | missing key store empty =>
      have nothing : store.payloads key = none := by rw [Store.payloads, empty]; rfl
      exact (Function.update_eq_self_iff.mpr nothing.symm).symm
  | found => rfl
  | lost key store entry now seen expired => exact drop key
  | deleted key store => exact drop key

theorem payloads_found {store later : Store} {key : String} {payload : Json}
    (answered : StoreResponds (.get key) store (.ok (some payload)) later) : store.payloads key = some payload := by
  cases answered with
  | found _ _ entry now held fresh => rw [Store.payloads, held, Option.map_some]

theorem payloads_run {start last : Stores A C} {others : List (Moment (Stores A C) (C × CacheEvent))}
    (run : Runs (Pool.Step StoreResponds) start others last) :
    ∀ earlier moment later, others = earlier ++ moment :: later →
      moment.state.world.payloads = lastSet start.world.payloads (Pool.traceOf earlier) := by
  refine (run.keeps_history (fun trace (pool : Stores A C) =>
    pool.world.payloads = lastSet start.world.payloads trace) ?_ [] rfl).2
  intro trace pool label next taken before
  rw [lastSet, List.foldl_append]
  change next.world.payloads = payloadsAfter (lastSet start.world.payloads trace) label.2
  rw [← before]
  exact payloads_responds taken.answered

/-- Every payload that is returned is the one that was set last. -/
theorem returned_payload {start last : Stores A C} {others : List (Moment (Stores A C) (C × CacheEvent))}
    (run : Runs (Pool.Step StoreResponds) start others last) {earlier later : Pool.Trace cacheSignature C} {call : C}
    {key : String} {payload : Json}
    (split : Pool.traceOf others = earlier ++ (call, ⟨CacheStep.get key, .ok (some payload)⟩) :: later) :
    lastSet start.world.payloads earlier key = some payload := by
  obtain ⟨front, rest, rfl, rfl, behind⟩ := List.map_eq_append_iff.mp split
  obtain ⟨moment, back, rfl, labelled, rfl⟩ := List.map_eq_cons_iff.mp behind
  rw [← payloads_run run front moment back rfl]
  obtain ⟨next, _, taken, _⟩ := run.split
  have answered := taken.answered
  rw [labelled] at answered
  exact payloads_found answered

variable (floats) in
/-- The threads use the table. -/
def onTable (table : String → Option Row) (clients : C → CacheProgram A) : Tables A C where
  world := table
  program call := (clients call).expand (carry floats)

/-- In every interleaving of threads, the cache answers as a store does that takes each reading, writing and deletion as a
whole: what is returned was set last and has not expired, and what is lost is lost to a reading that has seen an expired
entry of the key. -/
theorem cache_store (clients : C → CacheProgram A) (writes : ∀ call, (clients call).Within CacheStep.Writes)
    {table : String → Option Row} {store : Store} (holds : Holds floats table store)
    {moments : List (Moment (Tables A C) (C × SqliteEvent))} {final : Tables A C}
    (run : Runs (Pool.Step SqliteResponds) (onTable floats table clients) moments final) :
    ∃ others last, Runs (Pool.Step StoreResponds) (⟨store, clients⟩ : Stores A C) others last ∧
      ((Pool.traceOf others).map Prod.fst).Sublist ((Pool.traceOf moments).map Prod.fst) ∧
      (∀ call value, final.program call = .done value → last.program call = .done value) ∧
      (∀ call fault, final.program call = .raise fault → last.program call = .raise fault) ∧
      Holds floats final.world last.world ∧
      ∀ earlier call key payload later,
        Pool.traceOf others = earlier ++ (call, ⟨CacheStep.get key, .ok (some payload)⟩) :: later →
          lastSet store.payloads earlier key = some payload := by
  have initial : Related floats (moments.map Moment.label) (onTable floats table clients) (⟨store, clients⟩ : Stores A C) :=
    ⟨holds, writes, fun call => .between _⟩
  obtain ⟨others, last, above, related, callers⟩ :=
    run.simulated (fun label labels state next upper => Related.matched) initial
  refine ⟨others, last, above, ?_, fun call value ended => ?_, fun call fault ended => ?_, related.holds,
    fun earlier call key payload later split => returned_payload above split⟩
  · rw [Pool.traceOf, Pool.traceOf, List.map_map, List.map_map]
    exact callers
  · have stage := related.stage call
    rw [ended] at stage
    exact stage.of_done (related.writes call)
  · have stage := related.stage call
    rw [ended] at stage
    exact stage.of_raise (related.writes call)

end Threads

section Samples

def oldRow : Row := ⟨dumpsSpaced bitTexts (.string "old"), 0, 1⟩

def oldEntry : Entry := ⟨.string "old", 0, 1⟩

def oldTable : String → Option Row := Function.update (fun _ => none) "asset" (some oldRow)

def oldStore : Store := (⟨fun _ => none, []⟩ : Store).put "asset" oldEntry

theorem holds_oldTable : Holds bitTexts oldTable oldStore := by
  have empty : Holds bitTexts (fun _ => none) ⟨fun _ => none, []⟩ := fun _ => .inl ⟨rfl, rfl⟩
  have written : (Json.string "old").every Json.written = true := rfl
  exact empty.put ⟨loads_dumpsSpaced written, rfl, rfl⟩

/-- One thread reads the key, and the other one writes it and then reads it. -/
def readerAndWriter : Bool → CacheProgram (Option Json)
  | true => do
      match ← call (S := cacheSignature) (CacheStep.get "asset") with
      | .ok found => return found
      | .error fault => .raise fault
  | false => do
      let _ ← call (S := cacheSignature) (CacheStep.set "asset" (.string "new") 60)
      match ← call (S := cacheSignature) (CacheStep.get "asset") with
      | .ok found => return found
      | .error fault => .raise fault

theorem writes_readerAndWriter (client : Bool) : (readerAndWriter client).Within CacheStep.Writes := by
  have reads (answer : Except CacheFault (Option Json)) : Program.Within (S := cacheSignature) CacheStep.Writes
      (match answer with
        | .ok found => return found
        | .error fault => .raise fault : CacheProgram (Option Json)) := by
    cases answer <;> trivial
  cases client with
  | true => exact ⟨trivial, reads⟩
  | false => exact ⟨rfl, fun _ => ⟨trivial, reads⟩⟩

/-- No step fails, and the clock stands still. -/
def respond : (step : SqliteStep) → (String → Option Row) → step.Answer × (String → Option Row)
  | .select key, table => (some (table key), table)
  | .upsert key data ttl, table => (some 100, Function.update table key (some ⟨data, 100, ttl⟩))
  | .delete key, table => (some (), Function.update table key none)
  | .time, table => (100, table)

theorem responds_respond (step : SqliteStep) (table : String → Option Row) :
    SqliteResponds step table (respond step table).1 (respond step table).2 := by
  cases step with
  | select key => exact .selected key table
  | upsert key data ttl => exact .upserted key data ttl table 100
  | delete key => exact .deleted key table
  | time => exact .time table 100

/-- The row is written between the reading of the clock and the deletion. -/
@[irreducible] def overlapping : List (Moment (Tables (Option Json) Bool) (Bool × SqliteEvent)) × Tables (Option Json) Bool :=
  Pool.record (S := sqliteSignature) respond (onTable bitTexts oldTable readerAndWriter) [true, true, false, true, false]

example : (overlapping.2.world "asset").isNone = true := by
  rw [overlapping]
  decide +kernel

theorem cache_store_overlapping : ∃ others last,
    Runs (Pool.Step StoreResponds) (⟨oldStore, readerAndWriter⟩ : Stores (Option Json) Bool) others last ∧
      Holds bitTexts overlapping.2.world last.world := by
  have run : Runs (Pool.Step SqliteResponds) (onTable bitTexts oldTable readerAndWriter) overlapping.1 overlapping.2 := by
    rw [overlapping]
    exact Pool.runs_record (S := sqliteSignature) respond responds_respond _ _
  obtain ⟨others, last, above, rest⟩ := cache_store readerAndWriter writes_readerAndWriter holds_oldTable run
  exact ⟨others, last, above, rest.2.2.2.1⟩

end Samples

end Pxtly.Cli.Cache
