/-
This file shows when a streamed answer of the language model is one answer.
-/

import Mathlib.Tactic.Common
import Pxtly.Agent.GroqClient

namespace Pxtly.Agent

section Texts

/-- These are the chunks that an attempt yields before it ends in any way. -/
def Attempt.texts : Attempt → List String
  | .streams contents _ => chunkTexts contents
  | _ => []

def Attempt.error? : Attempt → Option ModelError
  | .refused error => some error
  | .streams _ (.failed error) => some error
  | _ => none

theorem join_eq_empty {texts : List String} : String.join texts = "" ↔ ∀ text ∈ texts, text = "" := by
  induction texts with
  | nil => simp
  | cons text rest inductionHypothesis =>
      rw [String.join_cons, String.append_eq_empty_iff, inductionHypothesis, List.forall_mem_cons]

theorem join_chunkTexts (contents : List (Option String)) :
    String.join (chunkTexts contents) = String.join (contents.map (·.getD "")) := by
  unfold chunkTexts
  induction contents.map (·.getD "") with
  | nil => rfl
  | cons text rest inductionHypothesis =>
      by_cases nothing : text = ""
      · rw [List.filter_cons_of_neg (by simp [nothing]), inductionHypothesis, String.join_cons, nothing, String.empty_append]
      · rw [List.filter_cons_of_pos (by simp [nothing]), String.join_cons, inductionHypothesis, String.join_cons]

/-- No chunk is empty, so an attempt has no text exactly where it has yielded nothing. -/
theorem join_chunkTexts_eq_empty {contents : List (Option String)} :
    String.join (chunkTexts contents) = "" ↔ chunkTexts contents = [] := by
  rw [join_eq_empty, List.eq_nil_iff_forall_not_mem]
  constructor
  · intro every text member
    have some_ := (List.mem_filter.mp member).2
    simp [every text member] at some_
  · exact fun none_ text member => absurd member (none_ text)

theorem join_texts_eq_empty {attempt : Attempt} : String.join attempt.texts = "" ↔ attempt.texts = [] := by
  cases attempt with
  | circuitOpen => exact iff_of_true rfl rfl
  | refused error => exact iff_of_true rfl rfl
  | streams contents ending => exact join_chunkTexts_eq_empty

theorem spoken_append (first second : List Yielded) : spoken (first ++ second) = spoken first ++ spoken second := by
  rw [spoken, List.filter_append, List.map_append, String.join_append]
  rfl

theorem spoken_text (text : String) : spoken [.text text] = text := by
  have single : String.join [text] = text := by rw [String.join_cons, String.join_nil, String.append_empty]
  exact single

theorem spoken_texts (texts : List String) : spoken (texts.map .text) = String.join texts := by
  induction texts with
  | nil => rfl
  | cons text rest inductionHypothesis =>
      rw [List.map_cons, ← List.singleton_append, spoken_append, spoken_text, inductionHypothesis, String.join_cons]

theorem spoken_retrying (wait : Float) (later : List Yielded) : spoken (.retrying wait :: later) = spoken later := rfl

end Texts

section Runs

variable {attempts : Nat → Attempt}

/-- Some attempt completes, and each one before it ends with an error that is tried again. -/
structure Completes (attempts : Nat → Attempt) (last : Nat) (contents : List (Option String)) : Prop where
  within : last ≤ maxRetries
  retried : ∀ attempt < last, ∃ error, (attempts attempt).error? = some error ∧ (isRetryable error).1 = true
  finished : attempts last = .streams contents .finished

variable {attempt : Nat}

/-- A failed attempt is tried again after what it has yielded. -/
theorem streamFrom_retried (left : Nat) {error : ModelError} (failed : (attempts attempt).error? = some error)
    (retryable : (isRetryable error).1 = true) (early : attempt < maxRetries) :
    ∃ wait, streamFrom attempts (left + 1) attempt =
      ⟨(attempts attempt).texts.map .text ++ .retrying wait :: (streamFrom attempts left (attempt + 1)).yielded,
        (streamFrom attempts left (attempt + 1)).raised⟩ := by
  refine ⟨(isRetryable error).2 * Float.ofNat (2 ^ attempt), ?_⟩
  rw [streamFrom]
  cases outcome : attempts attempt with
  | circuitOpen =>
      rw [outcome] at failed
      cases failed
  | refused cause =>
      rw [outcome] at failed
      obtain rfl := Option.some.inj failed
      simp [retryable, early, Attempt.texts]
  | streams contents ending =>
      rw [outcome] at failed
      cases ending with
      | finished => cases failed
      | failed cause =>
          obtain rfl := Option.some.inj failed
          simp [retryable, early, Attempt.texts]

theorem streamFrom_finished (left : Nat) {contents : List (Option String)}
    (finished : attempts attempt = .streams contents .finished) :
    streamFrom attempts (left + 1) attempt =
      ⟨(chunkTexts contents).map .text ++ (if chunkTexts contents = [] then [.noContent] else []), none⟩ := by
  rw [streamFrom, finished]

theorem generateFrom_retried (left : Nat) {error : ModelError} (failed : (attempts attempt).error? = some error)
    (retryable : (isRetryable error).1 = true) (early : attempt < maxRetries) :
    generateFrom (fun index => (attempts index).plain) (left + 1) attempt =
      generateFrom (fun index => (attempts index).plain) left (attempt + 1) := by
  have refused : (attempts attempt).plain = .refused error := by
    cases outcome : attempts attempt with
    | circuitOpen =>
        rw [outcome] at failed
        cases failed
    | refused cause =>
        rw [outcome] at failed
        obtain rfl := Option.some.inj failed
        rfl
    | streams contents ending =>
        rw [outcome] at failed
        cases ending with
        | finished => cases failed
        | failed cause =>
            obtain rfl := Option.some.inj failed
            rfl
  rw [generateFrom, refused]
  exact if_pos ⟨retryable, early⟩

/-- This is the text that failed attempts have yielded from one attempt on. -/
def partialText (attempts : Nat → Attempt) (first count : Nat) : String :=
  String.join ((List.range' first count).map fun attempt => String.join (attempts attempt).texts)

/-- The stream of a completed answer ends with a notice only where the answer is empty. -/
def streamedAnswer (contents : List (Option String)) : String :=
  if chunkTexts contents = [] then streamedNoContentNotice else String.join (chunkTexts contents)

def plainAnswer (contents : List (Option String)) : String :=
  if chunkTexts contents = [] then plainNoContentNotice else String.join (chunkTexts contents)

/-- By induction on the failed attempts: the caller has the text of each of them before the completed answer. -/
theorem spoken_streamFrom {last : Nat} {contents : List (Option String)} (completes : Completes attempts last contents)
    (count first left : Nat) (reaches : first + count = last) (enough : count < left) :
    spoken (streamFrom attempts left first).yielded = partialText attempts first count ++ streamedAnswer contents ∧
      (streamFrom attempts left first).raised = none := by
  induction count generalizing first left with
  | zero =>
      obtain ⟨left, rfl⟩ : ∃ more, left = more + 1 := ⟨left - 1, by omega⟩
      obtain rfl : first = last := reaches
      rw [streamFrom_finished left completes.finished, spoken_append, spoken_texts, partialText, List.range'_zero, List.map_nil,
        String.join_nil, String.empty_append, streamedAnswer]
      refine ⟨?_, rfl⟩
      by_cases nothing : chunkTexts contents = []
      · rw [if_pos nothing, if_pos nothing, nothing]
        rfl
      · rw [if_neg nothing, if_neg nothing]
        exact String.append_empty
  | succ count inductionHypothesis =>
      obtain ⟨left, rfl⟩ : ∃ more, left = more + 1 := ⟨left - 1, by omega⟩
      have within := completes.within
      obtain ⟨error, failed, retryable⟩ := completes.retried first (by omega)
      obtain ⟨wait, step⟩ := streamFrom_retried left failed retryable (by omega)
      obtain ⟨later, raised⟩ := inductionHypothesis (first + 1) left (by omega) (by omega)
      rw [step, spoken_append, spoken_texts, spoken_retrying, later, partialText, partialText, List.range'_succ,
        List.map_cons, String.join_cons, String.append_assoc]
      exact ⟨rfl, raised⟩

theorem generateFrom_completes {last : Nat} {contents : List (Option String)} (completes : Completes attempts last contents)
    (count first left : Nat) (reaches : first + count = last) (enough : count < left) :
    generateFrom (fun index => (attempts index).plain) left first = .ok (plainAnswer contents) := by
  induction count generalizing first left with
  | zero =>
      obtain ⟨left, rfl⟩ : ∃ more, left = more + 1 := ⟨left - 1, by omega⟩
      obtain rfl : first = last := reaches
      have answered : (attempts first).plain = .answered (some (String.join (contents.map (·.getD "")))) := by
        rw [completes.finished]
        rfl
      rw [generateFrom, answered, plainAnswer, ← join_chunkTexts]
      dsimp only [Option.getD_some]
      by_cases nothing : chunkTexts contents = []
      · rw [if_pos nothing, if_neg (not_not.mpr (join_chunkTexts_eq_empty.mpr nothing))]
      · rw [if_neg nothing, if_pos (mt join_chunkTexts_eq_empty.mp nothing)]
  | succ count inductionHypothesis =>
      obtain ⟨left, rfl⟩ : ∃ more, left = more + 1 := ⟨left - 1, by omega⟩
      have within := completes.within
      obtain ⟨error, failed, retryable⟩ := completes.retried first (by omega)
      rw [generateFrom_retried left failed retryable (by omega)]
      exact inductionHypothesis (first + 1) left (by omega) (by omega)

theorem partialText_eq_empty {last : Nat} :
    partialText attempts 0 last = "" ↔ ∀ attempt < last, (attempts attempt).texts = [] := by
  rw [partialText, join_eq_empty]
  constructor
  · intro every attempt earlier
    exact join_texts_eq_empty.mp (every _ (List.mem_map.mpr ⟨attempt, by simpa using earlier, rfl⟩))
  · intro silent text member
    obtain ⟨attempt, inside, rfl⟩ := List.mem_map.mp member
    exact join_texts_eq_empty.mpr (silent attempt (by simpa using inside))

/-- The two services have different notices for an empty answer, and the one of the stream is longer. -/
theorem notices_differ (front : String) : front ++ streamedNoContentNotice ≠ plainNoContentNotice := by
  intro same
  have lengths := congrArg String.length same
  have question : "- Reformulez la question\n".length = 25 := by decide +kernel
  have moment : "- Réessayez dans quelques instants\n".length = 35 := by decide +kernel
  have details : "- Reformulez la question avec plus de détails\n".length = 46 := by decide +kernel
  have knowledge : "- Vérifiez que la base de connaissances est indexée\n".length = 52 := by decide +kernel
  -- The first three lines are the same, and the last ones are counted apart.
  unfold streamedNoContentNotice plainNoContentNotice at lengths
  repeat rw [String.length_append] at lengths
  rw [question, moment, details, knowledge] at lengths
  omega

end Runs

/-- A stream with a completed attempt yields the answer of the plain service, the retry notices left aside, exactly where
no attempt before it has yielded text and the answer is not empty. -/
theorem streamed_answer_iff {attempts : Nat → Attempt} {last : Nat} {contents : List (Option String)}
    (completes : Completes attempts last contents) :
    generate (fun attempt => (attempts attempt).plain) = .ok (spoken (generateStream attempts).yielded) ↔
      (∀ attempt < last, (attempts attempt).texts = []) ∧ (attempts last).texts ≠ [] := by
  have within := completes.within
  obtain ⟨streamed, _⟩ := spoken_streamFrom completes last 0 (maxRetries + 1) (Nat.zero_add last) (by omega)
  have plain := generateFrom_completes completes last 0 (maxRetries + 1) (Nat.zero_add last) (by omega)
  have texts : (attempts last).texts = chunkTexts contents := by
    rw [completes.finished]
    rfl
  rw [generate, plain, generateStream, streamed, Except.ok.injEq, texts, ← partialText_eq_empty, plainAnswer,
    streamedAnswer]
  by_cases nothing : chunkTexts contents = []
  · rw [if_pos nothing, if_pos nothing]
    exact iff_of_false (fun same => notices_differ _ same.symm) (fun both => both.2 nothing)
  · rw [if_neg nothing, if_neg nothing, eq_comm, String.append_eq_right_iff]
    exact (and_iff_left nothing).symm

section Interruptions

/-- The connection breaks off after what the first attempt has yielded, and the second attempt completes. -/
def interrupted (contents : List (Option String)) : Nat → Attempt
  | 0 => .streams contents (.failed ⟨.apiConnection, "Connection error."⟩)
  | _ => .streams [some "Bon", none, some "jour"] .finished

theorem completes_interrupted (contents : List (Option String)) :
    Completes (interrupted contents) 1 [some "Bon", none, some "jour"] where
  within := by decide
  retried attempt earlier := by
    obtain rfl : attempt = 0 := by omega
    exact ⟨⟨.apiConnection, "Connection error."⟩, rfl, by decide +kernel⟩
  finished := rfl

/-- An attempt that breaks off before its first text leaves one answer. -/
theorem silent_interruption :
    generate (fun attempt => (interrupted [none] attempt).plain) =
      .ok (spoken (generateStream (interrupted [none])).yielded) := by
  have silent : ∀ attempt < 1, (interrupted [none] attempt).texts = [] := by
    intro attempt earlier
    obtain rfl : attempt = 0 := by omega
    rfl
  exact (streamed_answer_iff (completes_interrupted [none])).mpr ⟨silent, List.cons_ne_nil _ _⟩

/-- An attempt that breaks off in the middle of a word has this part of the word before the answer. -/
theorem interruption_repeated :
    spoken (generateStream (interrupted [some "Bon"])).yielded = "BonBonjour" ∧
      generate (fun attempt => (interrupted [some "Bon"] attempt).plain) = .ok "Bonjour" := by
  have completes := completes_interrupted [some "Bon"]
  constructor
  · exact (spoken_streamFrom completes 1 0 5 rfl (by decide)).1.trans (by decide +kernel)
  · exact (generateFrom_completes completes 1 0 5 rfl (by decide)).trans (by decide +kernel)

end Interruptions

end Pxtly.Agent
