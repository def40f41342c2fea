/-
This file shows which operations of the asset service the event stream of the command line tells of.
-/

import Pxtly.Cli.Events
import Pxtly.FabricClient.Daemon

namespace Pxtly.Cli

open Foundation Program
open Assets (Task Operation Reply ServiceError)
open Events (StreamFrame bodyText Round Seconds MessageData splitMessage roundFrames generator)
open Fabric (announcementText operations published)

section Cuts

variable {floats : FloatTexts}

theorem length_splitLinesFrom_le {body : List Char} (unbroken : Unbroken body) (line : List Char) :
    (splitLinesFrom line body).length ≤ 1 := by
  induction body generalizing line with
  | nil =>
      rw [splitLinesFrom]
      split
      · exact Nat.zero_le 1
      · exact le_rfl
  | cons c body inductionHypothesis =>
      have open_ : isLineBreak c = false := unbroken c List.mem_cons_self
      rw [splitLinesFrom, open_, if_neg Bool.false_ne_true]
      · exact inductionHypothesis (fun d member => unbroken d (List.mem_cons_of_mem _ member)) _
      · rintro _ rfl
        exact absurd open_ (by decide)

/-- The first newline behind a line may be there, and the second one is not. -/
theorem length_splitLines_le {line cut : List Char} (unbroken : Unbroken line) (part : cut <+: line ++ ['\n']) :
    (splitLines cut).length ≤ 1 := by
  rcases List.prefix_concat_iff.mp part with rfl | within
  · rw [splitLines, splitLinesFrom_newline unbroken]
    exact le_rfl
  · exact length_splitLinesFrom_le (fun c member => unbroken c (within.subset member)) []

/-- An event takes two lines. -/
theorem readEvents_of_length_le {lines : List StreamLine} (few : lines.length ≤ 1) : readEvents floats {} lines = [] := by
  match lines with
  | [] => rfl
  | [line] =>
      simp only [readEvents, EventParser.feed]
      split
      · next event next fed =>
          split at fed
          · cases fed
            rfl
          · split at fed
            · cases fed
              rfl
            · rw [if_neg fun both => both.2 rfl] at fed
              cases fed
              rfl
      · rfl
  | _ :: _ :: _ => simp at few

theorem splitLines_frame (frame : StreamFrame) (later : List Char) :
    splitLines (frame.text floats ++ later) = frame.line floats :: [] :: splitLines later := by
  have empty : Unbroken [] := nofun
  have second : splitLinesFrom [] ('\n' :: later) = [] :: splitLines later := splitLinesFrom_newline empty [] later
  rw [StreamFrame.text, List.append_assoc, splitLines, List.cons_append, splitLinesFrom_newline frame.unbroken,
    List.singleton_append, second, List.nil_append]

/-- Wherever a body is cut, the frames before the cut are read, and nothing of the frame that it hits. -/
theorem readEvents_cut {frames : List StreamFrame} {cut : List Char} (part : cut <+: bodyText floats frames)
    {lines : List StreamLine} (carried : lines.map StreamLine.text = splitLines cut) :
    ∃ whole, whole <+: frames ∧ (readEvents floats {} lines).map SseEvent.told =
      whole.filterMap fun frame => frame.payload.map fun members => (PyText.text "message", Json.object members) := by
  induction frames generalizing cut lines with
  | nil =>
      obtain rfl := List.prefix_nil.mp part
      obtain rfl := List.map_eq_nil_iff.mp carried
      exact ⟨[], List.prefix_rfl, rfl⟩
  | cons frame frames inductionHypothesis =>
      have body : bodyText floats (frame :: frames) = frame.text floats ++ bodyText floats frames := List.flatMap_cons
      rw [body] at part
      by_cases complete : frame.text floats <+: cut
      · obtain ⟨later, rfl⟩ := complete
        have behind : later <+: bodyText floats frames := (List.prefix_append_right_inj _).mp part
        rw [splitLines_frame] at carried
        obtain ⟨first, others, rfl, text, rest⟩ := List.map_eq_cons_iff.mp carried
        obtain ⟨second, remaining, rfl, empty, final⟩ := List.map_eq_cons_iff.mp rest
        obtain ⟨whole, front, told⟩ := inductionHypothesis behind final
        refine ⟨frame :: whole, List.cons_prefix_cons.mpr ⟨rfl, front⟩, ?_⟩
        rw [readEvents_frame text empty, told, List.filterMap_cons]
        cases frame.payload <;> rfl
      · have within : cut <+: frame.text floats :=
          (List.prefix_or_prefix_of_prefix part (List.prefix_append _ _)).resolve_right complete
        have ended : frame.text floats = (frame.line floats ++ ['\n']) ++ ['\n'] := by
          rw [List.append_assoc]
          rfl
        rw [ended] at within complete
        have shorter : cut <+: frame.line floats ++ ['\n'] :=
          (List.prefix_concat_iff.mp within).resolve_left fun same => complete (same ▸ List.prefix_rfl)
        have few : lines.length ≤ 1 := by
          rw [← List.length_map (f := StreamLine.text), carried]
          exact length_splitLines_le frame.unbroken shorter
        rw [readEvents_of_length_le few]
        exact ⟨[], List.nil_prefix, rfl⟩

end Cuts

section Feeds

/-- The frame of an event names an action and an asset. -/
def assetOfFrame : StreamFrame → Option (String × String)
  | .event _ action assetId _ => some (action, assetId)
  | _ => none

/-- These are the two members of a payload that has both of them as texts. -/
def SseEvent.asset (event : SseEvent) : Option (String × String) :=
  match event.payload with
  | .object members =>
      match dictGet members "type", dictGet members "asset_id" with
      | some (.string action), some (.string assetId) => some (action, assetId)
      | _, _ => none
  | _ => none

def receivedData (round : Round) : Option MessageData :=
  match round.received with
  | .message data => some data
  | _ => none

/-- Behind such a round there is another one. -/
def Continues (round : Round) : Prop := round.isDisconnected = some false ∧ round.received ≠ .failed

variable {floats : FloatTexts} {decode : Bytes → String}

/-- What a reader finds of a frame names its asset. -/
theorem asset_told {frame : StreamFrame} {members : List (String × Json)} (framed : frame.payload = some members)
    {event : SseEvent} (told : event.told = (PyText.text "message", Json.object members)) :
    event.asset = assetOfFrame frame := by
  have payload : event.payload = .object members := congrArg Prod.snd told
  cases frame with
  | heartbeat => cases framed
  | connected ts | event id action assetId ts | interrupted =>
      obtain rfl := Option.some.inj framed
      rw [SseEvent.asset, payload]
      rfl

theorem assets_told {frames : List StreamFrame} {events : List SseEvent} (told : events.map SseEvent.told =
      frames.filterMap fun frame => frame.payload.map fun members => (PyText.text "message", Json.object members)) :
    events.filterMap SseEvent.asset = frames.filterMap assetOfFrame := by
  induction frames generalizing events with
  | nil =>
      obtain rfl := List.map_eq_nil_iff.mp told
      rfl
  | cons frame frames inductionHypothesis =>
      cases framed : frame.payload with
      | none =>
          obtain rfl : frame = .heartbeat := Events.StreamFrame.kind_eq_none.mp (by rw [StreamFrame.kind, framed]; rfl)
          exact inductionHypothesis told
      | some members =>
          rw [List.filterMap_cons, framed] at told
          obtain ⟨event, later, rfl, first, rest⟩ := List.map_eq_cons_iff.mp told
          rw [List.filterMap_cons, List.filterMap_cons, asset_told framed first, inductionHypothesis rest]

/-- What the subscription receives, read as messages of the channel. -/
def toldAssets (decode : Bytes → String) (rounds : List Round) : List (String × String) :=
  (rounds.filterMap receivedData).filterMap fun data => (data.raw decode).bind splitMessage

theorem assets_eventFrame (round : Round) (data : MessageData) :
    (Events.eventFrame decode round data).toList.filterMap assetOfFrame =
      ((data.raw decode).bind splitMessage).toList := by
  rw [Events.eventFrame]
  cases (data.raw decode).bind splitMessage <;> rfl

/-- The loop sends the messages in order, and all of them where no round ends it. -/
theorem assets_roundFrames (lastHb : Float) (rounds : List Round) :
    (roundFrames decode lastHb rounds).filterMap assetOfFrame <+: toldAssets decode rounds ∧
      ((∀ round ∈ rounds, Continues round) →
        (roundFrames decode lastHb rounds).filterMap assetOfFrame = toldAssets decode rounds) := by
  induction rounds generalizing lastHb with
  | nil => exact ⟨List.prefix_rfl, fun _ => rfl⟩
  | cons round rest inductionHypothesis =>
      have ended (stops : ¬ Continues round) {assets : List (String × String)} (nothing : assets = []) :
          assets <+: toldAssets decode (round :: rest) ∧
            ((∀ other ∈ round :: rest, Continues other) → assets = toldAssets decode (round :: rest)) :=
        ⟨nothing ▸ List.nil_prefix, fun all => absurd (all round List.mem_cons_self) stops⟩
      have beat (due : Bool) : (if due then [StreamFrame.heartbeat] else []).filterMap assetOfFrame = [] := by
        cases due <;> rfl
      rw [roundFrames]
      cases connected : round.isDisconnected with
      | none => exact ended (by simp [Continues, connected]) rfl
      | some disconnected =>
          cases disconnected with
          | true => exact ended (by simp [Continues, connected]) rfl
          | false =>
              dsimp only
              cases received : round.received with
              | failed =>
                  refine ended (by simp [Continues, received]) ?_
                  rw [List.filterMap_append, beat]
                  rfl
              | timeout | nothing =>
                  have told : toldAssets decode (round :: rest) = toldAssets decode rest := by
                    rw [toldAssets, List.filterMap_cons, receivedData, received]
                    rfl
                  rw [List.filterMap_append, beat, List.nil_append, told]
                  obtain ⟨front, whole⟩ := inductionHypothesis _
                  exact ⟨front, fun all => whole (List.forall_mem_cons.mp all).2⟩
              | message data =>
                  have told : toldAssets decode (round :: rest) =
                      ((data.raw decode).bind splitMessage).toList ++ toldAssets decode rest := by
                    rw [toldAssets, List.filterMap_cons, receivedData, received]
                    dsimp only
                    rw [List.filterMap_cons]
                    cases (data.raw decode).bind splitMessage <;> rfl
                  rw [List.filterMap_append, List.filterMap_append, beat, List.nil_append, assets_eventFrame, told]
                  obtain ⟨front, whole⟩ := inductionHypothesis _
                  exact ⟨(List.prefix_append_right_inj _).mpr front,
                    fun all => congrArg _ (whole (List.forall_mem_cons.mp all).2)⟩

theorem toldAssets_eq {rounds : List Round} {texts : List String}
    (received : rounds.filterMap receivedData = texts.map MessageData.text) :
    toldAssets decode rounds = texts.filterMap splitMessage := by
  rw [toldAssets, received, List.filterMap_map]
  rfl

variable (floats decode)

/-- A subscription receives these texts, which its connection pool decodes, and the client receives the frames up to any
place of their text. -/
def Feeds (connection : Connection) (texts : List String) : Prop :=
  ∀ lines, connection = .opened 200 lines → ∃ subscribes start ts rounds cut,
    rounds.filterMap receivedData = texts.map MessageData.text ∧
    cut <+: bodyText floats (generator decode subscribes start ts rounds) ∧ lines.map StreamLine.text = splitLines cut

/-- Nothing ends the loop of the server or cuts its text. -/
def FeedsWhole (connection : Connection) (texts : List String) : Prop :=
  ∃ lines start ts rounds, connection = .opened 200 lines ∧
    rounds.filterMap receivedData = texts.map MessageData.text ∧
    (∀ round ∈ rounds, Continues round) ∧
    lines.map StreamLine.text = splitLines (bodyText floats (generator decode true start ts rounds))

variable {floats decode}

theorem assets_generator (subscribes : Bool) (start : Float) (ts : Seconds) (rounds : List Round) :
    (generator decode subscribes start ts rounds).filterMap assetOfFrame <+: toldAssets decode rounds := by
  cases subscribes with
  | false => exact List.nil_prefix
  | true => exact (assets_roundFrames start rounds).1

theorem Feeds.assets {connection : Connection} {texts : List String} (feeds : Feeds floats decode connection texts) :
    (connection.events floats).filterMap SseEvent.asset <+: texts.filterMap splitMessage := by
  cases connection with
  | failed => exact List.nil_prefix
  | opened statusCode lines =>
      rw [Connection.events]
      split
      · exact List.nil_prefix
      · next accepted =>
          obtain rfl := not_not.mp accepted
          obtain ⟨subscribes, start, ts, rounds, cut, received, part, carried⟩ := feeds lines rfl
          obtain ⟨whole, front, told⟩ := readEvents_cut part carried
          rw [assets_told told, ← toldAssets_eq received]
          exact (front.filterMap assetOfFrame).trans (assets_generator subscribes start ts rounds)

theorem FeedsWhole.assets {connection : Connection} {texts : List String} (feeds : FeedsWhole floats decode connection texts) :
    (connection.events floats).filterMap SseEvent.asset = texts.filterMap splitMessage := by
  obtain ⟨lines, start, ts, rounds, rfl, received, continues, carried⟩ := feeds
  have accepted : Connection.events floats (.opened 200 lines) = readEvents floats {} lines := by
    simp [Connection.events]
  rw [accepted, assets_told (readEvents_frames carried), ← toldAssets_eq received]
  exact (assets_roundFrames start rounds).2 continues

end Feeds

section Streams

variable {floats : FloatTexts} {maxEvents : Option Int}

/-- The generator returns early at most, and then behind some event. -/
theorem yieldEvents_prefix (maxEvents : Option Int) (received : Nat) (events : List SseEvent) :
    (yieldEvents maxEvents received events).1 <+: events ∧
      ((yieldEvents maxEvents received events).2 ≠ none → (yieldEvents maxEvents received events).1 = events) := by
  induction events generalizing received with
  | nil => exact ⟨List.prefix_rfl, fun _ => rfl⟩
  | cons event rest inductionHypothesis =>
      rw [yieldEvents]
      split
      · exact ⟨List.cons_prefix_cons.mpr ⟨rfl, List.nil_prefix⟩, fun goes => absurd rfl goes⟩
      · obtain ⟨front, whole⟩ := inductionHypothesis (received + 1)
        exact ⟨List.cons_prefix_cons.mpr ⟨rfl, front⟩, fun goes => congrArg (event :: ·) (whole goes)⟩

/-- Whatever the maximum is, the events come from the connections in their order. -/
theorem streamEvents_prefix (received : Nat) (connections : List Connection) :
    streamEvents floats maxEvents received connections <+: connections.flatMap (Connection.events floats) := by
  induction connections generalizing received with
  | nil => exact List.prefix_rfl
  | cons connection rest inductionHypothesis =>
      obtain ⟨front, whole⟩ := yieldEvents_prefix maxEvents received (connection.events floats)
      rw [streamEvents, List.flatMap_cons]
      cases yielded : yieldEvents maxEvents received (connection.events floats) with
      | mk events count =>
          rw [yielded] at front whole
          cases count with
          | none => exact front.trans (List.prefix_append _ _)
          | some count =>
              obtain rfl := whole (Option.some_ne_none count)
              exact (List.prefix_append_right_inj _).mpr (inductionHypothesis count)

end Streams

section Operations

variable {floats : FloatTexts} {decode : Bytes → String} {C : Type} {connections : List Connection}
  {kept : List (List (C × String))}

theorem assets_of_feeds
    (fed : List.Forall₂ (fun connection told => Feeds floats decode connection (told.map Prod.snd)) connections kept) :
    ((connections.flatMap (Connection.events floats)).filterMap SseEvent.asset).Sublist
      (kept.flatten.filterMap fun entry => splitMessage entry.2) := by
  induction fed with
  | nil => exact List.Sublist.refl _
  | @cons connection told connections kept feeds _ inductionHypothesis =>
      rw [List.flatMap_cons, List.filterMap_append, List.flatten_cons, List.filterMap_append]
      refine List.Sublist.append ?_ inductionHypothesis
      have front := feeds.assets
      rw [List.filterMap_map] at front
      exact front.sublist

theorem assets_of_feedsWhole
    (fed : List.Forall₂ (fun connection told => FeedsWhole floats decode connection (told.map Prod.snd))
      connections kept) :
    (connections.flatMap (Connection.events floats)).filterMap SseEvent.asset =
      kept.flatten.filterMap fun entry => splitMessage entry.2 := by
  induction fed with
  | nil => rfl
  | @cons connection told connections kept feeds _ inductionHypothesis =>
      rw [List.flatMap_cons, List.filterMap_append, List.flatten_cons, List.filterMap_append, inductionHypothesis,
        feeds.assets, List.filterMap_map]
      rfl

variable [DecidableEq C] {W : Type}
  {responds : (operation : Operation) → W → Reply operation.Result → W → Prop} {world : W}
  {label : C → String} {task : C → Task} {final : Pool Assets.signature ServiceError Assets.AssetResponse W C}
  {moments : List (Moment (Pool Assets.signature ServiceError Assets.AssetResponse W C) (C × Assets.ServiceEvent))}

/-- These are the action and the asset that the message of a task names. -/
def announcedAsset : Task → String × String
  | .tokenize request => ("TOKENIZE", request.assetID)
  | .transfer request _ _ => ("TRANSFER", request.assetID)
  | .freeze request _ _ => ("FREEZE", request.assetID)
  | .unfreezeAsset request _ _ => ("UNFREEZE", request.assetID)

theorem splitMessage_text (task : Task) : splitMessage (announcementText task) = some (announcedAsset task) := by
  cases task with
  | tokenize request => exact Fabric.splitMessage_append (by decide) (by decide) request.assetID
  | transfer request currentUser fresh => exact Fabric.splitMessage_append (by decide) (by decide) request.assetID
  | freeze request currentUser fresh => exact Fabric.splitMessage_append (by decide) (by decide) request.assetID
  | unfreezeAsset request currentUser fresh => exact Fabric.splitMessage_append (by decide) (by decide) request.assetID

theorem splitMessage_published (run : Runs (Pool.Step responds) (operations world label task) moments final)
    {entries : List (C × String)} (brought : entries.Sublist (published (Pool.traceOf moments))) :
    entries.filterMap (fun entry => splitMessage entry.2) = entries.map fun entry => announcedAsset (task entry.1) := by
  rw [← List.filterMap_eq_map]
  refine List.filterMap_congr fun entry member => ?_
  rw [(Fabric.said_of_published run (brought.subset member)).1, splitMessage_text]
  rfl

/-- In every interleaving of operations and over any number of connections that break at any place, the stream tells of
completed operations only, of each at most once and in the order of their publications. -/
theorem operations_streamed
    (run : Runs (Pool.Step responds) (operations world label task) moments final)
    (brought : kept.flatten.Sublist (published (Pool.traceOf moments)))
    (fed : List.Forall₂ (fun connection told => Feeds floats decode connection (told.map Prod.snd)) connections kept)
    (maxEvents : Option Int) : ∃ shown : List (C × String),
      shown.Sublist kept.flatten ∧ (shown.map Prod.fst).Nodup ∧
      (∀ entry ∈ shown, ∀ fault, final.program entry.1 ≠ .raise fault) ∧
      (streamEvents floats maxEvents 0 connections).filterMap SseEvent.asset =
        shown.map (fun entry => announcedAsset (task entry.1)) ∧
      (maxEvents = none →
        List.Forall₂ (fun connection told => FeedsWhole floats decode connection (told.map Prod.snd)) connections kept →
        shown = kept.flatten) := by
  have opening : streamEvents floats maxEvents 0 connections <+: connections.flatMap (Connection.events floats) :=
    streamEvents_prefix 0 connections
  have streamed : ((streamEvents floats maxEvents 0 connections).filterMap SseEvent.asset).Sublist
      (kept.flatten.filterMap fun entry => splitMessage entry.2) :=
    (opening.filterMap SseEvent.asset).sublist.trans (assets_of_feeds fed)
  obtain ⟨shown, within, same⟩ := List.sublist_filterMap_iff.mp streamed
  have entries := within.trans brought
  rw [splitMessage_published run entries] at same
  refine ⟨shown, within, (Fabric.nodup_published run).sublist (entries.map Prod.fst),
    fun entry member => (Fabric.said_of_published run (entries.subset member)).2, same, ?_⟩
  rintro rfl whole
  refine within.eq_of_length ?_
  rw [streamEvents_none, assets_of_feedsWhole whole, splitMessage_published run brought] at same
  have lengths := congrArg List.length same
  rw [List.length_map, List.length_map] at lengths
  exact lengths.symm

end Operations

section Sample

/-- Every message is a text here. -/
def decodeNone (_ : Bytes) : String := ""

theorem digitsFit_sample : (Json.integer 1750000000).digitsFit = true := by decide

def sampleSeconds : Seconds := ⟨1750000000, digitsFit_sample⟩

def publicationRound (entry : Bool × String) : Round :=
  ⟨some false, 1, .message (.text entry.2), "6f1c1f0e-3c66-4f5e-9a53-0c2f6d1a7b21", sampleSeconds⟩

/-- The connection breaks off inside the last frame. -/
def cutText (entries : List (Bool × String)) : List Char :=
  (bodyText bitTexts (generator decodeNone true 0 sampleSeconds (entries.map publicationRound))).dropLast

def cutLines (entries : List (Bool × String)) : List StreamLine := (splitLines (cutText entries)).map (StreamLine.mk 0)

theorem feeds_cutLines (entries : List (Bool × String)) :
    Feeds bitTexts decodeNone (.opened 200 (cutLines entries)) (entries.map Prod.snd) := by
  intro lines opened
  obtain ⟨_, rfl⟩ := Connection.opened.inj opened
  refine ⟨true, 0, sampleSeconds, entries.map publicationRound, cutText entries, ?_, List.dropLast_prefix _, ?_⟩
  · rw [List.filterMap_map, List.map_map, ← List.filterMap_eq_map]
    rfl
  · rw [cutLines, List.map_map]
    exact List.map_id _

/-- The connection is refused before it breaks off, and one event is asked for. -/
theorem unfreeze_streamed : ∃ shown : List (Bool × String),
    shown.Sublist (published (Pool.traceOf Fabric.overtaking.1)) ∧
    (streamEvents bitTexts (some 1) 0
      [.opened 503 [], .opened 200 (cutLines (published (Pool.traceOf Fabric.overtaking.1)))]).filterMap SseEvent.asset =
        shown.map fun entry => announcedAsset (Fabric.freezeAndUnfreeze entry.1) := by
  have run : Runs (Pool.Step fun _ _ _ _ => True) (operations () (fun _ => "bank01") Fabric.freezeAndUnfreeze)
      Fabric.overtaking.1 Fabric.overtaking.2 :=
    Pool.runs_record (S := Assets.signature) Fabric.succeed (fun _ _ => trivial) _ _
  have refused : Feeds bitTexts decodeNone (.opened 503 []) (([] : List (Bool × String)).map Prod.snd) :=
    fun lines opened => absurd (Connection.opened.inj opened).1 (by decide)
  have all (entries : List (Bool × String)) : [[], entries].flatten = entries := by
    rw [List.flatten_cons, List.flatten_singleton, List.nil_append]
  have brought : [[], published (Pool.traceOf Fabric.overtaking.1)].flatten.Sublist
      (published (Pool.traceOf Fabric.overtaking.1)) := by rw [all]
  obtain ⟨shown, within, _, _, same, _⟩ := operations_streamed run brought
    (.cons refused (.cons (feeds_cutLines _) .nil)) (some 1)
  exact ⟨shown, within.trans brought, same⟩

end Sample

end Pxtly.Cli
