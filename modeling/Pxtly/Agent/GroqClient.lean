/-
This file gives the client of the language model, with its streamed and its plain answers.
-/

import Pxtly.Core.Redaction
import Pxtly.Foundation.Floats
import Pxtly.Foundation.Python

namespace Pxtly.Agent

open Foundation
open Core.Redaction (foldCase)

section Errors

inductive ErrorType where
  | apiStatus (statusCode : Int)
  | apiConnection
  | other
  deriving DecidableEq

structure ModelError where
  errorType : ErrorType
  message : String
  deriving DecidableEq

def retryableCodes : List Int := [429, 503, 500, 502]
def maxRetries : Nat := 4
def baseDelay : Float := 2.0

/-- This is a search for `first.*second` without regard to case, within one line. -/
def searchesPair (first second : String) (text : List Char) : Bool :=
  (text.map foldCase).tails.any fun rest =>
    first.toList.isPrefixOf rest &&
      ((rest.drop first.length).takeWhile (· ≠ '\n')).tails.any fun later => second.toList.isPrefixOf later

/-- Each of the patterns has two words. -/
def quotaPatterns : List (String × String) :=
  [("rate_limit_exceeded", "day"), ("per", "day"), ("daily", "limit"), ("org", "quota")]

/-- This is a match of `try again in (\d+\.?\d*)s` at the start of a text; `float` reads what it captures. -/
def secondsAt (text : List Char) : Option Float :=
  let words := "try again in "
  if words.toList.isPrefixOf (text.map foldCase) then
    let rest := text.drop words.length
    let whole := rest.takeWhile unicodeDigit
    let pointed := rest.dropWhile unicodeDigit
    let fraction := if pointed.head? = some '.' then (pointed.drop 1).takeWhile unicodeDigit else []
    let unit := if pointed.head? = some '.' then (pointed.drop 1).dropWhile unicodeDigit else pointed
    if whole ≠ [] ∧ unit.head?.map foldCase = some 's' then
      some (Float.ofScientific (Nat.ofDigitChars 10 ((whole ++ fraction).map asciiOf) 0) true fraction.length)
    else none
  else none

/-- An error is transient or not, and a transient one says how long to wait. -/
def isRetryable (error : ModelError) : Bool × Float :=
  let text := error.message.toList
  if quotaPatterns.any fun pattern => searchesPair pattern.1 pattern.2 text then (false, 0)
  else match error.errorType with
    | .apiStatus statusCode =>
        if statusCode ∈ retryableCodes then
          let raw := (text.tails.findSome? secondsAt).getD 0
          let delay := if raw > 0 then raw else baseDelay
          (true, if 60 < delay then 60 else delay)
        else (false, 0)
    | .apiConnection => (true, baseDelay)
    | .other => (false, 0)

end Errors

section Stream

/-- A stream ends or breaks off with an error. -/
inductive Ending where
  | finished
  | failed (error : ModelError)

/-- The circuit breaker or the service may refuse an attempt before its stream opens. -/
inductive Attempt where
  | circuitOpen
  | refused (error : ModelError)
  | streams (contents : List (Option String)) (ending : Ending)

/-- The generator yields text of the model and three kinds of notices. -/
inductive Yielded where
  | text (value : String)
  | unavailable
  | noContent
  | retrying (wait : Float)

def unavailableNotice : String :=
  "## Service indisponible\n\n" ++
    "Le modèle est temporairement injoignable (circuit ouvert). " ++
    "Réessayez dans quelques secondes.\n"

def streamedNoContentNotice : String :=
  "## Réponse indisponible\n\n" ++
    "Le modèle n'a pas produit de contenu pour cette requête.\n\n" ++
    "### Recommandations\n" ++
    "- Reformulez la question avec plus de détails\n" ++
    "- Vérifiez que la base de connaissances est indexée\n" ++
    "- Réessayez dans quelques secondes\n"

def retryNotice (wait : Float) : String :=
  "\n\n*⏳ Modèle surchargé — nouvelle tentative dans " ++ toString (decimalUnits wait 0) ++ "s...*\n\n"

def Yielded.render : Yielded → String
  | .text value => value
  | .unavailable => unavailableNotice
  | .noContent => streamedNoContentNotice
  | .retrying wait => retryNotice wait

/-- The caller receives what was yielded, and then perhaps an error. -/
structure Streamed where
  yielded : List Yielded
  raised : Option ModelError

/-- A chunk without text yields nothing. -/
def chunkTexts (contents : List (Option String)) : List String := (contents.map (·.getD "")).filter (· ≠ "")

/-- What an attempt has yielded before its error stays with the caller. -/
def streamFrom (attempts : Nat → Attempt) : Nat → Nat → Streamed
  | 0, _ => ⟨[], none⟩
  | left + 1, attempt =>
      let retry (error : ModelError) (collected : List Yielded) : Streamed :=
        let (shouldRetry, delay) := isRetryable error
        if shouldRetry ∧ attempt < maxRetries then
          let later := streamFrom attempts left (attempt + 1)
          ⟨collected ++ .retrying (delay * Float.ofNat (2 ^ attempt)) :: later.yielded, later.raised⟩
        else ⟨collected, some error⟩
      match attempts attempt with
      | .circuitOpen => ⟨[.unavailable], none⟩
      | .refused error => retry error []
      | .streams contents ending =>
          let collected := chunkTexts contents
          match ending with
          | .finished => ⟨collected.map .text ++ (if collected = [] then [.noContent] else []), none⟩
          | .failed error => retry error (collected.map .text)

def generateStream (attempts : Nat → Attempt) : Streamed := streamFrom attempts (maxRetries + 1) 0

/-- This is the yielded text without the retry notices. -/
def spoken (yielded : List Yielded) : String :=
  String.join ((yielded.filter fun item => match item with | .retrying _ => false | _ => true).map Yielded.render)

end Stream

section Plain

/-- A plain attempt brings the whole answer or none of it. -/
inductive PlainAttempt where
  | circuitOpen
  | refused (error : ModelError)
  | answered (content : Option String)

def plainNoContentNotice : String :=
  "## Réponse indisponible\n\n" ++
    "Le modèle n'a pas produit de contenu pour cette requête.\n\n" ++
    "### Recommandations\n" ++
    "- Reformulez la question\n" ++
    "- Réessayez dans quelques instants\n"

def generateFrom (attempts : Nat → PlainAttempt) : Nat → Nat → Except ModelError String
  | 0, _ => .ok ""
  | left + 1, attempt =>
      match attempts attempt with
      | .circuitOpen => .ok unavailableNotice
      | .refused error =>
          if (isRetryable error).1 ∧ attempt < maxRetries then generateFrom attempts left (attempt + 1)
          else .error error
      | .answered content =>
          let text := content.getD ""
          .ok (if text ≠ "" then text else plainNoContentNotice)

def generate (attempts : Nat → PlainAttempt) : Except ModelError String := generateFrom attempts (maxRetries + 1) 0

/-- The plain service gives the same answers, each as a whole. -/
def Attempt.plain : Attempt → PlainAttempt
  | .circuitOpen => .circuitOpen
  | .refused error => .refused error
  | .streams contents .finished => .answered (some (String.join (contents.map (·.getD ""))))
  | .streams _ (.failed error) => .refused error

end Plain

end Pxtly.Agent
