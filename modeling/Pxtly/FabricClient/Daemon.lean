/-
This file gives the daemon of the listener, and that each callback hears of the completed operations of the asset
service.
-/

import Pxtly.Assets.Executions
import Pxtly.Events.Router
import Pxtly.FabricClient.EventRate
import Pxtly.Foundation.FormTexts
import Pxtly.Foundation.Interleavings

namespace Pxtly.Fabric

open Foundation Program
open Assets (Service ServiceEvent Operation Reply Task ServiceError)
open Events (MessageData splitMessage)

section Messages

/-- A message has a type and the data that it carries. -/
structure RawMessage where
  type : String
  data : MessageData

/-- This is what a message says of an operation. -/
structure Announcement where
  action : String
  chaincodeAction : String
  assetID : String
  deriving DecidableEq

def actionMap : String → Option String
  | "TOKENIZE" => some "AssetCreated"
  | "TRANSFER" => some "AssetTransferred"
  | "FREEZE" => some "AssetFrozen"
  | "UNFREEZE" => some "AssetUnfrozen"
  | _ => none

def stripped (text : String) : String := String.ofList (strip text.toList)

/-- Both parts are stripped, and a message without a colon or with another action says nothing. -/
def announcementOf (text : String) : Option Announcement := do
  let (action, assetID) ← splitMessage text
  let chaincodeAction ← actionMap (stripped action)
  return ⟨stripped action, chaincodeAction, stripped assetID⟩

/-- Data that is no text raises an error, unless the message is of another type. -/
def readMessage (message : RawMessage) : Option (Option Announcement) :=
  if message.type ≠ "message" then some none
  else match message.data with
    | .bytes content => (String.fromUTF8? ⟨content.toArray⟩).map announcementOf
    | .text value => some (announcementOf value)
    | .other => none

def FabricEventListener.announced (listener : FabricEventListener) (announcement : Announcement) : Json :=
  listener.structuredEvent announcement.chaincodeAction [
    ("action", .string announcement.chaincodeAction),
    ("assetID", .string announcement.assetID),
    ("txID", .string ("redis-event-" ++ announcement.action ++ "-" ++ announcement.assetID)),
    ("channel", .string listener.settings.fabricChannel),
    ("chaincode", .string listener.settings.fabricChaincode)]

end Messages

section Daemon

/-- A callback is called by its place in the list, and it answers with the error that it raises. -/
inductive DaemonStep where
  | monotonic
  | callback (index : Nat) (event : Json)
  | sleep

abbrev DaemonStep.Answer : DaemonStep → Type
  | .monotonic => Float
  | .callback .. => Option String
  | .sleep => Unit

def daemonSignature : Signature where
  Operation := DaemonStep
  Answer := DaemonStep.Answer

abbrev DaemonEvent := Program.Event daemonSignature

/-- No fault leaves the daemon. -/
abbrev Daemon (A : Type) := Program daemonSignature Empty A

def request (step : DaemonStep) : Daemon step.Answer := call (S := daemonSignature) step

/-- The error of a callback is logged, and the next one is called. -/
def callFrom (event : Json) (index : Nat) : Nat → Daemon Unit
  | 0 => return ()
  | remaining + 1 => do
      let _ ← request (.callback index event)
      callFrom event (index + 1) remaining

/-- Without a token, the event is passed over. -/
def announce (announcement : Announcement) : Bool × FabricEventListener → Daemon Unit
  | (true, listener) => callFrom (listener.announced announcement) 0 listener.callbacks.length
  | (false, _) => return ()

/-- The messages of one subscription, up to one that raises an error; the flag says whether there was one. -/
def hearMessages (listener : FabricEventListener) : List RawMessage → Daemon (Bool × FabricEventListener)
  | [] => return (false, listener)
  | message :: rest =>
      match readMessage message with
      | none => return (true, listener)
      | some none => hearMessages listener rest
      | some (some announcement) => do
          let now ← request .monotonic
          announce announcement (listener.acquireRateLimitToken now)
          hearMessages (listener.acquireRateLimitToken now).2 rest

/-- In a round the store is absent, or the subscription is refused, or it brings messages until it may break. -/
inductive Session where
  | absent
  | refused
  | subscribed (messages : List RawMessage) (breaks : Bool)

def pause (failed : Bool) : Daemon Unit := if failed then request .sleep else return ()

/-- These are the rounds until the listener stops; behind an error and without a store the daemon waits. -/
def listeningDaemon (listener : FabricEventListener) : List Session → Daemon FabricEventListener
  | [] => return listener
  | .absent :: rest => do
      request .sleep
      listeningDaemon listener rest
  | .refused :: rest => do
      request .sleep
      listeningDaemon listener rest
  | .subscribed messages breaks :: rest => do
      let (crashed, listener) ← hearMessages listener messages
      pause (crashed || breaks)
      listeningDaemon listener rest

end Daemon

section Publishing

def announcementText : Task → String
  | .tokenize request => "TOKENIZE:" ++ request.assetID
  | .transfer request _ _ => "TRANSFER:" ++ request.assetID
  | .freeze request _ _ => "FREEZE:" ++ request.assetID
  | .unfreezeAsset request _ _ => "UNFREEZE:" ++ request.assetID

def isPublication (event : ServiceEvent) : Bool :=
  match event.operation with
  | .publish .. => true
  | _ => false

/-- A program publishes nothing. -/
def Unheard {A : Type} (program : Service A) : Prop :=
  program.Within fun operation : Operation => ∀ channel message, operation ≠ .publish channel message

/-- An execution publishes the message once if it ends with a value, and nothing if it does not. -/
def PublishesOnce {A : Type} (message : String) (events : List ServiceEvent) : Except ServiceError A → Prop
  | .error _ => events.filter isPublication = []
  | .ok _ => ∃ reply : Reply Unit, events.filter isPublication = [⟨.publish "asset:events" message, reply⟩]

def Announces {A : Type} (message : String) (program : Service A) : Prop :=
  ∀ events outcome, Executes program events outcome → PublishesOnce message events outcome

variable {A B : Type} {message : String}

theorem filter_of_unheard {program : Service A} (unheard : Unheard program) {events : List ServiceEvent}
    {outcome : Except ServiceError A} (executed : Executes program events outcome) :
    events.filter isPublication = [] := by
  rw [List.filter_eq_nil_iff]
  intro event member published
  have other := unheard.events executed event member
  obtain ⟨operation, reply⟩ := event
  cases operation with
  | publish channel message => exact other channel message rfl
  | _ => cases published

theorem unheard_ask {operation : Operation} (other : ∀ channel message, operation ≠ .publish channel message) :
    Unheard (Assets.ask operation) := ⟨other, fun _ => within_lift _ _⟩

theorem unheard_quietly {step : Service Unit} (unheard : Unheard step) : Unheard (Assets.quietly step) :=
  Within.handle unheard fun _ => within_pure _ _

theorem Announces.bind {first : Service A} {next : A → Service B} (unheard : Unheard first)
    (each : ∀ value, Announces message (next value)) : Announces message (first >>= next) := by
  intro events outcome executed
  rcases (executes_bind _ _ _ _).mp executed with
    ⟨fault, rfl, failed⟩ | ⟨before, after, value, rfl, ran, continued⟩
  · exact filter_of_unheard unheard failed
  · have later := each value after outcome continued
    cases outcome with
    | error fault => exact (List.filter_append ..).trans (by rw [filter_of_unheard unheard ran, later]; rfl)
    | ok result =>
        obtain ⟨reply, only⟩ := later
        exact ⟨reply, by rw [List.filter_append, filter_of_unheard unheard ran, only]; rfl⟩

theorem announces_raise (fault : ServiceError) : Announces message (.raise fault : Service A) := by
  rintro events outcome ⟨rfl, rfl⟩
  rfl

theorem announces_publish (message : String) (value : A) : Announces message (do
    Assets.quietly (Assets.ask (.publish "asset:events" message))
    return value) := by
  intro events outcome executed
  rw [Assets.executes_quietly_bind] at executed
  obtain ⟨first, later, result, rfl, ran, rfl, rfl⟩ := executed
  obtain ⟨reply, rfl, rfl⟩ := (Assets.executes_ask _ _ _).mp ran
  exact ⟨reply, rfl⟩

open Assets in
theorem announces_tokenize (request : TokenizeRequest) (identityLabel : String) :
    Announces ("TOKENIZE:" ++ request.assetID) (tokenize request identityLabel) := by
  refine .bind (unheard_ask nofun) fun payload => .bind (within_lift _ _) fun fabric =>
    .bind (unheard_ask nofun) fun found => ?_
  cases found with
  | none => exact announces_raise _
  | some org =>
      refine .bind (unheard_ask nofun) fun user => .bind ?_ fun _ => .bind (unheard_ask nofun) fun row =>
        announces_publish _ _
      exact Within.handle (unheard_ask nofun) fun fault => Within.bind (unheard_ask nofun) fun _ => trivial

open Assets in
theorem announces_transfer (request : TransferRequest) (identityLabel : String) (currentUser : Option User)
    (fresh : Uuid) : Announces ("TRANSFER:" ++ request.assetID) (transfer request identityLabel currentUser fresh) := by
  refine .bind (unheard_ask nofun) fun found => ?_
  cases found with
  | none => exact announces_raise _
  | some asset =>
      dsimp only
      split
      · exact announces_raise _
      refine .bind (unheard_ask nofun) fun known => ?_
      cases known with
      | none => exact announces_raise _
      | some recipient =>
          refine .bind (unheard_ask nofun) fun (isBlocked, reason, blockedBy) => ?_
          dsimp only
          split
          · exact announces_raise _
          refine .bind (unheard_ask nofun) fun payload => .bind (within_lift _ _) fun fabric => .bind ?_ fun _ =>
            .bind (unheard_ask nofun) fun row => .bind ?_ fun _ => announces_publish _ _
          · refine Within.handle (unheard_ask nofun) fun fault => Within.bind (unheard_ask nofun) fun _ => ?_
            cases currentUser with
            | none => trivial
            | some user =>
                dsimp only
                split
                · trivial
                · exact Within.bind (unheard_quietly (Within.bind (unheard_ask nofun) fun _ => trivial)) fun _ =>
                    trivial
          · exact unheard_quietly (Within.bind (unheard_ask nofun) fun _ => unheard_ask nofun)

open Assets in
theorem announces_changeHold (change : HoldChange) (identityLabel : String) (currentUser : Option User)
    (fresh : Uuid) : Announces change.message (changeHold change identityLabel currentUser fresh) := by
  refine .bind (unheard_ask nofun) fun payload => .bind (within_lift _ _) fun fabric =>
    .bind (unheard_ask nofun) fun found => ?_
  cases found with
  | none => exact announces_raise _
  | some asset =>
      refine .bind ?_ fun _ => .bind (unheard_ask nofun) fun row => .bind (unheard_quietly ?_) fun _ =>
        announces_publish _ _
      · refine Within.handle (unheard_ask nofun) fun fault => Within.bind (unheard_ask nofun) fun _ => ?_
        exact Within.bind (unheard_quietly (Within.bind (unheard_ask nofun) fun _ => trivial)) fun _ => trivial
      · split
        · exact Within.bind (unheard_ask nofun) fun _ => unheard_ask nofun
        · trivial

/-- A task that is completed publishes its message once, and one that fails publishes nothing. -/
theorem announces_perform (identityLabel : String) (task : Task) :
    Announces (announcementText task) (Assets.perform identityLabel task) := by
  cases task with
  | tokenize request => exact announces_tokenize request identityLabel
  | transfer request currentUser fresh => exact announces_transfer request identityLabel currentUser fresh
  | freeze request currentUser fresh => exact announces_changeHold _ identityLabel currentUser fresh
  | unfreezeAsset request currentUser fresh => exact announces_changeHold _ identityLabel currentUser fresh

end Publishing

section Hearing

/-- The announcements of a subscription are those up to the first message that raises an error. -/
def announcements : List RawMessage → List Announcement
  | [] => []
  | message :: rest =>
      match readMessage message with
      | none => []
      | some none => announcements rest
      | some (some announcement) => announcement :: announcements rest

def Session.announcements : Session → List Announcement
  | .absent => []
  | .refused => []
  | .subscribed messages _ => Fabric.announcements messages

/-- These are the answers of the clock. -/
def timeOf : DaemonEvent → Option Float
  | ⟨.monotonic, now⟩ => some now
  | _ => none

/-- These are the events that the callback with the index receives. -/
def receivedBy (index : Nat) : DaemonEvent → Option Json
  | ⟨.callback place event, _⟩ => if place = index then some event else none
  | _ => none

/-- An announcement is handed on where the bucket grants it a token. -/
def FabricEventListener.granted (listener : FabricEventListener) (heard : List Announcement) (times : List Float) :
    List Announcement :=
  (heard.zip (listener.bucket.results 1.0 times)).filterMap fun (announcement, token) =>
    if token then some announcement else none

variable {listener final : FabricEventListener} {events : List DaemonEvent}

theorem executes_callFrom {event : Json} {index remaining : Nat} {outcome : Except Empty Unit}
    (executed : Executes (callFrom event index remaining) events outcome) :
    events.filterMap timeOf = [] ∧ ∀ callback, events.filterMap (receivedBy callback) =
      if index ≤ callback ∧ callback < index + remaining then [event] else [] := by
  induction remaining generalizing index events with
  | zero =>
      obtain ⟨rfl, _⟩ := executed
      refine ⟨rfl, fun callback => ?_⟩
      rw [if_neg (by omega)]
      rfl
  | succ remaining inductionHypothesis =>
      obtain ⟨answer, later, rfl, rest⟩ := executed
      obtain ⟨untimed, received⟩ := inductionHypothesis rest
      refine ⟨untimed, fun callback => ?_⟩
      rw [List.filterMap_cons]
      by_cases own : index = callback
      · have first : receivedBy callback ⟨DaemonStep.callback index event, answer⟩ = some event := if_pos own
        rw [first]
        dsimp only
        rw [received, if_neg (by omega), if_pos (by omega)]
      · have first : receivedBy callback ⟨DaemonStep.callback index event, answer⟩ = none := if_neg own
        rw [first]
        dsimp only
        rw [received]
        by_cases inside : index ≤ callback ∧ callback < index + (remaining + 1)
        · rw [if_pos inside, if_pos (by omega)]
        · rw [if_neg inside, if_neg (by omega)]

/-- What the daemon has heard, and when, decides what its callbacks receive. -/
structure Hears (listener : FabricEventListener) (heard : List Announcement) (events : List DaemonEvent)
    (final : FabricEventListener) : Prop where
  timed : (events.filterMap timeOf).length = heard.length
  bucket : final.bucket = listener.bucket.after 1.0 (events.filterMap timeOf)
  settings : final.settings = listener.settings
  callbacks : final.callbacks = listener.callbacks
  received : ∀ callback < listener.callbacks.length, events.filterMap (receivedBy callback) =
    (listener.granted heard (events.filterMap timeOf)).map listener.announced

theorem Hears.silent (silent : events.filterMap timeOf = [])
    (unheard : ∀ callback, events.filterMap (receivedBy callback) = []) : Hears listener [] events listener where
  timed := by rw [silent]; rfl
  bucket := by rw [silent]; rfl
  settings := rfl
  callbacks := rfl
  received callback _ := by rw [unheard]; rfl

theorem Hears.append {middle : FabricEventListener} {first second : List Announcement}
    {earlier later : List DaemonEvent} (front : Hears listener first earlier middle)
    (back : Hears middle second later final) :
    Hears listener (first ++ second) (earlier ++ later) final := by
  have same : middle.announced = listener.announced := by
    funext announcement
    rw [FabricEventListener.announced, FabricEventListener.announced, FabricEventListener.structuredEvent,
      FabricEventListener.structuredEvent, front.settings]
  refine ⟨?_, ?_, back.settings.trans front.settings, back.callbacks.trans front.callbacks, ?_⟩
  · rw [List.filterMap_append, List.length_append, List.length_append, front.timed, back.timed]
  · rw [List.filterMap_append, TokenBucket.after_append, ← front.bucket, back.bucket]
  · intro callback inside
    have split : listener.granted (first ++ second) ((earlier ++ later).filterMap timeOf) =
        listener.granted first (earlier.filterMap timeOf) ++ middle.granted second (later.filterMap timeOf) := by
      rw [FabricEventListener.granted, List.filterMap_append, TokenBucket.results_append,
        List.zip_append (by rw [TokenBucket.length_results, front.timed]), List.filterMap_append, ← front.bucket]
      rfl
    rw [List.filterMap_append, front.received callback inside,
      back.received callback (by rwa [front.callbacks]), split, List.map_append, same]

/-- An announcement takes the time of one token, and the token decides whether the callbacks receive it. -/
theorem Hears.announcement {now : Float} {announcement : Announcement}
    (called : Executes (announce announcement (listener.acquireRateLimitToken now)) events (.ok ())) :
    Hears listener [announcement] (⟨DaemonStep.monotonic, now⟩ :: events)
      (listener.acquireRateLimitToken now).2 := by
  have settings : (listener.acquireRateLimitToken now).2.settings = listener.settings := by
    unfold FabricEventListener.acquireRateLimitToken
    dsimp only
    split <;> rfl
  have same : (listener.acquireRateLimitToken now).2.announced announcement = listener.announced announcement := by
    simp only [FabricEventListener.announced, FabricEventListener.structuredEvent, settings]
  have bucket := acquire_bucket listener now
  have charged : (listener.bucket.acquire 1.0 now).2 = (listener.acquireRateLimitToken now).2.bucket :=
    congrArg Prod.snd bucket
  have token : (listener.bucket.acquire 1.0 now).1 = (listener.acquireRateLimitToken now).1 := congrArg Prod.fst bucket
  have granted : listener.granted [announcement] [now] =
      if (listener.acquireRateLimitToken now).1 then [announcement] else [] := by
    rw [FabricEventListener.granted, TokenBucket.results, token]
    cases (listener.acquireRateLimitToken now).1 <;> rfl
  have heard : events.filterMap timeOf = [] ∧ ∀ callback < listener.callbacks.length,
      events.filterMap (receivedBy callback) =
        if (listener.acquireRateLimitToken now).1 then [listener.announced announcement] else [] := by
    have callbacks := acquireRateLimitToken_callbacks listener now
    revert called same callbacks
    generalize listener.acquireRateLimitToken now = charged
    obtain ⟨available, charged⟩ := charged
    intro called same callbacks
    cases available with
    | true =>
        obtain ⟨untimed, received⟩ := executes_callFrom called
        refine ⟨untimed, fun callback inside => ?_⟩
        dsimp only at callbacks same
        rw [received, callbacks, if_pos ⟨Nat.zero_le _, by omega⟩, same]
        rfl
    | false =>
        obtain ⟨rfl, _⟩ := called
        exact ⟨rfl, fun callback _ => rfl⟩
  have times : (⟨DaemonStep.monotonic, now⟩ :: events : List DaemonEvent).filterMap timeOf = [now] := by
    rw [List.filterMap_cons]
    exact congrArg (now :: ·) heard.1
  refine ⟨by rw [times]; rfl, ?_, settings, acquireRateLimitToken_callbacks listener now, fun callback inside => ?_⟩
  · rw [times]
    exact charged.symm
  · rw [times, granted, List.filterMap_cons]
    change events.filterMap (receivedBy callback) = _
    rw [heard.2 callback inside]
    split <;> rfl

theorem hears_of_executes_hearMessages {messages : List RawMessage} {crashed : Bool}
    (executed : Executes (hearMessages listener messages) events (.ok (crashed, final))) :
    Hears listener (announcements messages) events final := by
  have nothing : Hears listener [] [] listener := .silent rfl fun _ => rfl
  induction messages generalizing listener events with
  | nil =>
      obtain ⟨rfl, same⟩ := executed
      obtain ⟨rfl, rfl⟩ := Prod.mk.inj (Except.ok.inj same)
      exact nothing
  | cons message rest inductionHypothesis =>
      rw [hearMessages] at executed
      rw [announcements]
      cases read : readMessage message with
      | none =>
          rw [read] at executed
          obtain ⟨rfl, same⟩ := executed
          obtain ⟨rfl, rfl⟩ := Prod.mk.inj (Except.ok.inj same)
          exact nothing
      | some said =>
          rw [read] at executed
          cases said with
          | none => exact inductionHypothesis executed (.silent rfl fun _ => rfl)
          | some announcement =>
              obtain ⟨now, later, rfl, continued⟩ := executed
              have parts : Executes (announce announcement (listener.acquireRateLimitToken now) >>= fun _ =>
                  hearMessages (listener.acquireRateLimitToken now).2 rest) later (.ok (crashed, final)) := continued
              obtain ⟨calls, others, _, rfl, called, heard⟩ := executes_bind_ok parts
              have first : Hears listener [announcement] (⟨DaemonStep.monotonic, now⟩ :: calls) _ :=
                .announcement called
              exact first.append (inductionHypothesis heard (.silent rfl fun _ => rfl))

/-- By induction on the rounds: a wait adds nothing to what the daemon hears. -/
theorem hears_of_executes {sessions : List Session}
    (executed : Executes (listeningDaemon listener sessions) events (.ok final)) :
    Hears listener (sessions.flatMap Session.announcements) events final := by
  have waits {listener : FabricEventListener} {rest : List DaemonEvent} {heard : List Announcement}
      {answer : Unit} (hears : Hears listener heard rest final) :
      Hears listener heard (⟨DaemonStep.sleep, answer⟩ :: rest) final := by
    have wait : Hears listener [] [⟨DaemonStep.sleep, answer⟩] listener := .silent rfl fun _ => rfl
    exact wait.append hears
  induction sessions generalizing listener events with
  | nil =>
      obtain ⟨rfl, same⟩ := executed
      obtain rfl := Except.ok.inj same
      exact .silent rfl fun _ => rfl
  | cons session rest inductionHypothesis =>
      cases session with
      | absent =>
          obtain ⟨answer, later, rfl, continued⟩ := executed
          exact waits (inductionHypothesis continued)
      | refused =>
          obtain ⟨answer, later, rfl, continued⟩ := executed
          exact waits (inductionHypothesis continued)
      | subscribed messages breaks =>
          obtain ⟨front, others, ⟨crashed, middle⟩, rfl, ran, continued⟩ := executes_bind_ok executed
          refine (hears_of_executes_hearMessages ran).append ?_
          have parts : Executes (pause (crashed || breaks) >>= fun _ => listeningDaemon middle rest) others
              (.ok final) := continued
          obtain ⟨pausing, later, _, rfl, paused, resumed⟩ := executes_bind_ok parts
          rw [pause] at paused
          split at paused
          · obtain ⟨answer, none, rfl, rfl, _⟩ := paused
            exact waits (inductionHypothesis resumed)
          · obtain ⟨rfl, _⟩ := paused
            exact inductionHypothesis resumed

end Hearing

section Operations

variable {C : Type} [DecidableEq C]

def Task.announcement : Task → Announcement
  | .tokenize request => ⟨"TOKENIZE", "AssetCreated", stripped request.assetID⟩
  | .transfer request _ _ => ⟨"TRANSFER", "AssetTransferred", stripped request.assetID⟩
  | .freeze request _ _ => ⟨"FREEZE", "AssetFrozen", stripped request.assetID⟩
  | .unfreezeAsset request _ _ => ⟨"UNFREEZE", "AssetUnfrozen", stripped request.assetID⟩

/-- The action of a message has no colon, and the asset may have some. -/
theorem splitMessage_append {front action : String} (colon : front.toList = action.toList ++ [':'])
    (plain : ':' ∉ action.toList) (assetID : String) : splitMessage (front ++ assetID) = some (action, assetID) := by
  have other : ∀ c ∈ action.toList, decide (c ≠ ':') = true := by
    intro c member
    rw [decide_eq_true_eq]
    rintro rfl
    exact plain member
  rw [splitMessage, String.toList_append, colon, List.append_assoc, List.dropWhile_append_of_pos other,
    List.takeWhile_append_of_pos other]
  simp

/-- The message of a task says what the task has done. -/
theorem announcementOf_text (task : Task) : announcementOf (announcementText task) = some (Task.announcement task) := by
  have split {front action : String} (colon : front.toList = action.toList ++ [':']) (plain : ':' ∉ action.toList)
      {chaincodeAction : String} (known : actionMap action = some chaincodeAction)
      (same : stripped action = action) (assetID : String) :
      announcementOf (front ++ assetID) = some ⟨action, chaincodeAction, stripped assetID⟩ := by
    rw [announcementOf, splitMessage_append colon plain]
    simp only [Option.bind_eq_bind, Option.bind_some, same, known]
    rfl
  cases task with
  | tokenize request => exact split (by decide) (by decide) (by decide) (by decide) request.assetID
  | transfer request currentUser fresh => exact split (by decide) (by decide) (by decide) (by decide) request.assetID
  | freeze request currentUser fresh => exact split (by decide) (by decide) (by decide) (by decide) request.assetID
  | unfreezeAsset request currentUser fresh =>
      exact split (by decide) (by decide) (by decide) (by decide) request.assetID

/-- A publication that has taken effect is a message of the channel, even where its reply is lost. -/
def messageOf : ServiceEvent → Option String
  | ⟨.publish channel message, reply⟩ =>
      if channel = "asset:events" ∧ reply.applied = true then some message else none
  | _ => none

/-- The published messages stand beside the calls that publish them. -/
def published (trace : Pool.Trace Assets.signature C) : List (C × String) :=
  trace.filterMap fun entry => (messageOf entry.2).map (entry.1, ·)

def RawMessage.isMessage (message : RawMessage) : Bool := message.type == "message"

def RawMessage.ofText (text : String) : RawMessage := ⟨"message", .bytes (encode text)⟩

def Session.messages : Session → List RawMessage
  | .absent => []
  | .refused => []
  | .subscribed messages _ => messages

/-- The subscriptions bring these texts and confirmations of other types. -/
def Brings (sessions : List Session) (texts : List String) : Prop :=
  (sessions.flatMap Session.messages).filter RawMessage.isMessage = texts.map .ofText

theorem readMessage_ofText (text : String) : readMessage (.ofText text) = some (announcementOf text) := by
  rw [readMessage, RawMessage.ofText]
  simp only [ne_eq, not_true_eq_false, if_false, fromUTF8_encode, Option.map_some]

/-- Where no message raises an error, the announcements are what the texts of the channel say. -/
theorem announcements_eq {messages : List RawMessage} {texts : List String}
    (brings : messages.filter RawMessage.isMessage = texts.map .ofText) :
    announcements messages = texts.filterMap announcementOf := by
  induction messages generalizing texts with
  | nil =>
      obtain rfl := List.map_eq_nil_iff.mp brings.symm
      rfl
  | cons message rest inductionHypothesis =>
      by_cases named : message.type = "message"
      · have kept : message.isMessage = true := beq_iff_eq.mpr named
        rw [List.filter_cons_of_pos kept] at brings
        obtain ⟨text, others, rfl, rfl, later⟩ := List.map_eq_cons_iff.mp brings.symm
        rw [announcements, readMessage_ofText, List.filterMap_cons, ← inductionHypothesis later.symm]
        cases announcementOf text <;> rfl
      · have other : ¬ message.isMessage = true := fun same => named (beq_iff_eq.mp same)
        rw [List.filter_cons_of_neg other] at brings
        have silent : readMessage message = some none := if_pos named
        rw [announcements, silent]
        exact inductionHypothesis brings

theorem announcements_of_brings {sessions : List Session} {texts : List String} (brings : Brings sessions texts) :
    sessions.flatMap Session.announcements = texts.filterMap announcementOf := by
  induction sessions generalizing texts with
  | nil =>
      obtain rfl := List.map_eq_nil_iff.mp brings.symm
      rfl
  | cons session rest inductionHypothesis =>
      rw [Brings, List.flatMap_cons, List.filter_append] at brings
      obtain ⟨front, back, rfl, first, later⟩ := List.map_eq_append_iff.mp brings.symm
      rw [List.flatMap_cons, inductionHypothesis later.symm, List.filterMap_append, ← announcements_eq first.symm]
      cases session <;> rfl

variable {W : Type} {responds : (operation : Operation) → W → Reply operation.Result → W → Prop} {world : W}
  {label : C → String} {task : C → Task} {final : Pool Assets.signature ServiceError Assets.AssetResponse W C}
  {moments : List (Moment (Pool Assets.signature ServiceError Assets.AssetResponse W C) (C × ServiceEvent))}

abbrev operations (world : W) (label : C → String) (task : C → Task) :
    Pool Assets.signature ServiceError Assets.AssetResponse W C :=
  ⟨world, fun call => Assets.perform (label call) (task call)⟩

/-- In any run, the publications of a call are those of one of its executions. -/
theorem exists_publishesOnce (run : Runs (Pool.Step responds) (operations world label task) moments final) (call : C) :
    ∃ later outcome, Executes (final.program call) later outcome ∧
      PublishesOnce (announcementText (task call)) (Pool.eventsOf (Pool.traceOf moments) call ++ later) outcome := by
  have inhabited (operation : Operation) : Nonempty (Reply operation.Result) := ⟨.failure .conversion false⟩
  obtain ⟨later, outcome, rest⟩ := Pool.exists_executes (S := Assets.signature) inhabited (final.program call)
  have executed := Pool.executes_of_runs run rest
  exact ⟨later, outcome, rest, announces_perform (label call) (task call) _ _ executed⟩

theorem isPublication_of_messageOf {event : ServiceEvent} {text : String} (said : messageOf event = some text) :
    isPublication event = true := by
  obtain ⟨operation, reply⟩ := event
  cases operation <;> first | rfl | cases said

theorem mem_published {trace : Pool.Trace Assets.signature C} {call : C} {text : String} :
    (call, text) ∈ published trace ↔ ∃ event ∈ Pool.eventsOf trace call, messageOf event = some text := by
  simp only [published, List.mem_filterMap, Option.map_eq_some_iff, Prod.mk.injEq, Prod.exists, Pool.mem_eventsOf]
  constructor
  · rintro ⟨_, event, member, _, said, rfl, rfl⟩
    exact ⟨event, member, said⟩
  · rintro ⟨event, member, said⟩
    exact ⟨call, event, member, text, said, rfl, rfl⟩

theorem count_published (trace : Pool.Trace Assets.signature C) (call : C) :
    ((published trace).map Prod.fst).count call ≤ ((Pool.eventsOf trace call).filter isPublication).length := by
  induction trace with
  | nil => exact Nat.le_refl 0
  | cons entry rest inductionHypothesis =>
      obtain ⟨caller, event⟩ := entry
      have front : Pool.eventsOf ((caller, event) :: rest) call =
          Pool.eventsOf [(caller, event)] call ++ Pool.eventsOf rest call :=
        Pool.eventsOf_append [(caller, event)] rest call
      rw [front, List.filter_append, List.length_append, published, List.filterMap_cons]
      cases said : messageOf event with
      | none => exact inductionHypothesis.trans (Nat.le_add_left _ _)
      | some text =>
          have publication := isPublication_of_messageOf said
          by_cases own : caller = call
          · subst own
            have one : ((Pool.eventsOf [(caller, event)] caller).filter isPublication).length = 1 := by
              simp [Pool.eventsOf, publication]
            simp only [Option.map_some, List.map_cons, List.count_cons_self, one]
            exact (Nat.add_comm _ 1).trans_le (Nat.add_le_add_left inductionHypothesis 1)
          · simp only [Option.map_some, List.map_cons, List.count_cons_of_ne own]
            exact inductionHypothesis.trans (Nat.le_add_left _ _)

theorem said_of_published (run : Runs (Pool.Step responds) (operations world label task) moments final)
    {entry : C × String} (member : entry ∈ published (Pool.traceOf moments)) :
    entry.2 = announcementText (task entry.1) ∧ ∀ fault, final.program entry.1 ≠ .raise fault := by
  obtain ⟨call, text⟩ := entry
  obtain ⟨event, performed, said⟩ := mem_published.mp member
  obtain ⟨later, outcome, rest, once⟩ := exists_publishesOnce run call
  have publication : event ∈ (Pool.eventsOf (Pool.traceOf moments) call ++ later).filter isPublication :=
    List.mem_filter.mpr ⟨List.mem_append_left _ performed, isPublication_of_messageOf said⟩
  cases outcome with
  | error fault =>
      have nothing : (Pool.eventsOf (Pool.traceOf moments) call ++ later).filter isPublication = [] := once
      rw [nothing] at publication
      cases publication
  | ok response =>
      obtain ⟨reply, only⟩ := once
      rw [only, List.mem_singleton] at publication
      subst publication
      simp only [messageOf, true_and, Option.ite_none_right_eq_some, Option.some.injEq] at said
      refine ⟨said.2.symm, fun fault raised => ?_⟩
      dsimp only at raised
      rw [raised] at rest
      cases rest.2

theorem nodup_published (run : Runs (Pool.Step responds) (operations world label task) moments final) :
    ((published (Pool.traceOf moments)).map Prod.fst).Nodup := by
  rw [List.nodup_iff_count_le_one]
  intro call
  obtain ⟨later, outcome, _, once⟩ := exists_publishesOnce run call
  have most : ((Pool.eventsOf (Pool.traceOf moments) call ++ later).filter isPublication).length ≤ 1 := by
    cases outcome with
    | error fault => exact (congrArg List.length once).trans_le (Nat.zero_le 1)
    | ok response =>
        obtain ⟨reply, only⟩ := once
        rw [only, List.length_singleton]
  rw [List.filter_append, List.length_append] at most
  have counted := count_published (Pool.traceOf moments) call
  omega

theorem publication_of_done (run : Runs (Pool.Step responds) (operations world label task) moments final)
    {call : C} {response : Assets.AssetResponse} (done : final.program call = .done response) : ∃ reply : Reply Unit,
      ⟨.publish "asset:events" (announcementText (task call)), reply⟩ ∈ Pool.eventsOf (Pool.traceOf moments) call ∧
      (reply.applied = true → (call, announcementText (task call)) ∈ published (Pool.traceOf moments)) := by
  obtain ⟨later, outcome, rest, once⟩ := exists_publishesOnce run call
  rw [done] at rest
  obtain ⟨rfl, rfl⟩ := rest
  obtain ⟨reply, only⟩ := once
  rw [List.append_nil] at only
  have member : (⟨.publish "asset:events" (announcementText (task call)), reply⟩ : ServiceEvent) ∈
      Pool.eventsOf (Pool.traceOf moments) call := (List.mem_filter.mp (only ▸ List.mem_singleton_self _)).1
  exact ⟨reply, member, fun applied => mem_published.mpr ⟨_, member, if_pos ⟨rfl, applied⟩⟩⟩

/-- In every interleaving of operations, each callback hears of an operation at most once, and of no operation that
fails, in the order of the publications and whatever errors the callbacks raise. -/
theorem operations_heard (run : Runs (Pool.Step responds) (operations world label task) moments final)
    {kept : List (C × String)} (brought : kept.Sublist (published (Pool.traceOf moments))) {sessions : List Session}
    (brings : Brings sessions (kept.map Prod.snd)) {listener last : FabricEventListener} {events : List DaemonEvent}
    (executed : Executes (listeningDaemon listener sessions) events (.ok last)) :
    (kept.map Prod.fst).Nodup ∧
    (∀ entry ∈ kept, ∀ fault, final.program entry.1 ≠ .raise fault) ∧
    (∀ call response, final.program call = .done response → ∃ reply : Reply Unit,
      ⟨.publish "asset:events" (announcementText (task call)), reply⟩ ∈ Pool.eventsOf (Pool.traceOf moments) call ∧
      (reply.applied = true → (call, announcementText (task call)) ∈ published (Pool.traceOf moments))) ∧
    (events.filterMap timeOf).length = kept.length ∧
    ∀ callback < listener.callbacks.length, events.filterMap (receivedBy callback) =
      (kept.zip (listener.bucket.results 1.0 (events.filterMap timeOf))).filterMap fun (entry, token) =>
        if token then some (listener.announced (Task.announcement (task entry.1))) else none := by
  have each (entry : C × String) (member : entry ∈ kept) :
      entry.2 = announcementText (task entry.1) ∧ ∀ fault, final.program entry.1 ≠ .raise fault :=
    said_of_published run (brought.subset member)
  have texts : (kept.map Prod.snd).filterMap announcementOf =
      kept.map fun entry => Task.announcement (task entry.1) := by
    rw [List.filterMap_map, ← List.filterMap_eq_map]
    refine List.filterMap_congr fun entry member => ?_
    rw [Function.comp_apply, (each entry member).1, announcementOf_text]
    rfl
  have hears := hears_of_executes executed
  rw [announcements_of_brings brings, texts] at hears
  refine ⟨?_, fun entry member => (each entry member).2, fun call response done => ?_, ?_, fun callback inside => ?_⟩
  · exact (nodup_published run).sublist (brought.map Prod.fst)
  · exact publication_of_done run done
  · rw [hears.timed, List.length_map]
  · rw [hears.received callback inside, FabricEventListener.granted, List.zip_map_left, List.filterMap_map,
      List.map_filterMap]
    refine List.filterMap_congr fun pair _ => ?_
    obtain ⟨entry, token⟩ := pair
    cases token <;> rfl


end Operations


section Samples

/-- Every operation of the service succeeds. -/
def succeed : (operation : Operation) → Unit → Reply operation.Result × Unit
  | .submitTransaction .., _ => (.success (.object []), ())
  | .selectAsset _, _ => (.success (some Assets.bondRow), ())
  | .selectUserByEmail _, _ => (.success (some Assets.bondUser), ())
  | .selectOrganization _, _ => (.success none, ())
  | .selectUserOfOrganization _, _ => (.success none, ())
  | .fullCheck _, _ => (.success (false, "", ""), ())
  | .commit _, _ => (.success (), ())
  | .rollback, _ => (.success (), ())
  | .refresh _, _ => (.success Assets.bondRow, ())
  | .connectGraph, _ => (.success (), ())
  | .ingestTransaction .., _ => (.success (), ())
  | .ingestFreeze .., _ => (.success (), ())
  | .publish .., _ => (.success (), ())

def freezeAndUnfreeze : Bool → Task
  | true => .freeze Assets.bondFreeze none Assets.bondUuid
  | false => .unfreezeAsset Assets.bondUnfreeze none Assets.bondUuid

/-- The unfreezing starts last and publishes first. -/
def overtaking :=
  Pool.record (S := Assets.signature) succeed (operations () (fun _ : Bool => "bank01") freezeAndUnfreeze)
    [true, true, true, false, false, false, false, false, true, true, true, true]

example : published (Pool.traceOf overtaking.1) =
    [(false, "UNFREEZE:RWA-BANK-BOND-2026-001"), (true, "FREEZE:RWA-BANK-BOND-2026-001")] := by decide +kernel

def twoCallbacks : FabricEventListener := exampleListener.onEvent fun _ => none

/-- The first callback always fails. -/
def failFirst : (step : DaemonStep) → Unit → step.Answer × Unit
  | .monotonic, _ => (1, ())
  | .callback index _, _ => (if index = 0 then some "boom" else none, ())
  | .sleep, _ => ((), ())

/-- The subscription is confirmed first, and it breaks behind the messages. -/
def oneSubscription : List Session :=
  [.subscribed
    (⟨"subscribe", .other⟩ :: (published (Pool.traceOf overtaking.1)).map fun entry => .ofText entry.2) true]

def heardEvents : List DaemonEvent := (listeningDaemon twoCallbacks oneSubscription).transcript failFirst ()

example : (heardEvents.filterMap (receivedBy 1)).length = 2 := by decide +kernel

theorem brings_oneSubscription : Brings oneSubscription ((published (Pool.traceOf overtaking.1)).map Prod.snd) := by
  simp [Brings, oneSubscription, Session.messages, RawMessage.isMessage, RawMessage.ofText, List.filter_map,
    Function.comp_def]

theorem unfreeze_heard : heardEvents.filterMap (receivedBy 1) =
    ((published (Pool.traceOf overtaking.1)).zip
      (twoCallbacks.bucket.results 1.0 (heardEvents.filterMap timeOf))).filterMap fun (entry, token) =>
        if token then some (twoCallbacks.announced (Task.announcement (freezeAndUnfreeze entry.1))) else none := by
  have run : Runs (Pool.Step fun _ _ _ _ => True) (operations () (fun _ => "bank01") freezeAndUnfreeze)
      overtaking.1 overtaking.2 := Pool.runs_record (S := Assets.signature) succeed (fun _ _ => trivial) _ _
  have executed := executes_transcript (S := daemonSignature) failFirst (listeningDaemon twoCallbacks oneSubscription) ()
  cases ended : ((listeningDaemon twoCallbacks oneSubscription).evaluate failFirst ()).1 with
  | error fault => exact fault.elim
  | ok last =>
      rw [ended] at executed
      exact (operations_heard run (List.Sublist.refl _) brings_oneSubscription executed).2.2.2.2 1 (by decide)

end Samples

end Pxtly.Fabric
