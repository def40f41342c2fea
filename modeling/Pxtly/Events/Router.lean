/-
This file gives the frames that the event stream of the server sends.
-/

import Pxtly.Foundation.Lines

namespace Pxtly.Events

open Foundation

section Frames

/-- The seconds of a clock have few enough digits to be written. -/
abbrev Seconds := {value : Int // (Json.integer value).digitsFit = true}

inductive StreamFrame where
  | connected (ts : Seconds)
  | heartbeat
  | event (id action assetId : String) (ts : Seconds)
  | interrupted

/-- A heartbeat is a comment, and any other frame has a dictionary. -/
def StreamFrame.payload : StreamFrame → Option (List (String × Json))
  | .connected ts => some [("type", .string "CONNECTED"), ("ts", .integer ts.val)]
  | .heartbeat => none
  | .event id action assetId ts =>
      some [("id", .string id), ("type", .string action), ("asset_id", .string assetId), ("ts", .integer ts.val)]
  | .interrupted => some [("type", .string "ERROR"), ("message", .string "Stream interrupted")]

/-- This is the `type` member of the dictionary. -/
def StreamFrame.kind (frame : StreamFrame) : Option Json := frame.payload.bind fun members => dictGet members "type"

variable (floats : FloatTexts)

def StreamFrame.line (frame : StreamFrame) : List Char :=
  match frame.payload with
  | some members => "data: ".toList ++ (dumpsSpaced floats (.object members)).toList
  | none => ": heartbeat".toList

/-- An empty line closes a frame. -/
def StreamFrame.text (frame : StreamFrame) : List Char := frame.line floats ++ ['\n', '\n']

def bodyText (frames : List StreamFrame) : List Char := frames.flatMap (StreamFrame.text floats)

end Frames

section Generator

inductive MessageData where
  | bytes (content : Bytes)
  | text (value : String)
  | other

/-- Waiting for a message ends after a second, and it may also end with an error. -/
inductive Received where
  | timeout
  | nothing
  | message (data : MessageData)
  | failed

/-- These are what one round of the loop reads, where no answer about the connection stands for an error. -/
structure Round where
  isDisconnected : Option Bool
  now : Float
  received : Received
  id : String
  ts : Seconds

def heartbeatInterval : Float := 15

/-- The text behind the first colon is the asset, whatever colons are in it. -/
def splitMessage (raw : String) : Option (String × String) :=
  match raw.toList.dropWhile (· ≠ ':') with
  | [] => none
  | _ :: assetId => some (String.ofList (raw.toList.takeWhile (· ≠ ':')), String.ofList assetId)

variable (decode : Bytes → String)

def MessageData.raw : MessageData → Option String
  | .bytes content => some (decode content)
  | .text value => some value
  | .other => none

def eventFrame (round : Round) (data : MessageData) : Option StreamFrame :=
  ((data.raw decode).bind splitMessage).map fun parts => .event round.id parts.1 parts.2 round.ts

/-- The rounds are those so far, and an error ends them with a frame of its own. -/
def roundFrames (lastHb : Float) : List Round → List StreamFrame
  | [] => []
  | round :: rest =>
      match round.isDisconnected with
      | none => [.interrupted]
      | some true => []
      | some false =>
          let due : Bool := heartbeatInterval ≤ round.now - lastHb
          let beat := if due then [StreamFrame.heartbeat] else []
          let lastHb := if due then round.now else lastHb
          match round.received with
          | .timeout => beat ++ roundFrames lastHb rest
          | .nothing => beat ++ roundFrames lastHb rest
          | .message data => beat ++ (eventFrame decode round data).toList ++ roundFrames lastHb rest
          | .failed => beat ++ [.interrupted]

/-- No frame is sent where the subscription fails. -/
def generator (subscribes : Bool) (start : Float) (ts : Seconds) (rounds : List Round) : List StreamFrame :=
  if subscribes then .connected ts :: roundFrames decode start rounds else []

end Generator

section Texts

variable {floats : FloatTexts} {frame : StreamFrame} {members : List (String × Json)}

theorem StreamFrame.written (framed : frame.payload = some members) : (Json.object members).every Json.written = true := by
  have seconds (ts : Seconds) : (Json.integer ts.val).every Json.written = true :=
    Bool.and_eq_true_iff.mpr ⟨ts.property, rfl⟩
  cases frame with
  | connected ts =>
      obtain rfl := Option.some.inj framed
      simp only [Json.every, everyMember, Bool.and_eq_true]
      exact ⟨rfl, seconds ts, trivial⟩
  | heartbeat => cases framed
  | event id action assetId ts =>
      obtain rfl := Option.some.inj framed
      simp only [Json.every, everyMember, Bool.and_eq_true]
      exact ⟨rfl, rfl, rfl, seconds ts, trivial⟩
  | interrupted =>
      obtain rfl := Option.some.inj framed
      rfl

/-- Whatever texts an event has, its frame is one line. -/
theorem StreamFrame.unbroken (frame : StreamFrame) : Unbroken (frame.line floats) := by
  unfold StreamFrame.line
  split
  · next members framed =>
      intro c member
      rcases List.mem_append.mp member with mark | text
      · exact unbroken_of_all (by decide) c mark
      · exact (plain_dumpsSpaced _ (frame.written framed)).unbroken c text
  · exact unbroken_of_all (by decide)

/-- The reader of lines finds each frame and the empty line behind it. -/
theorem splitLines_bodyText (frames : List StreamFrame) :
    splitLines (bodyText floats frames) = frames.flatMap fun frame => [frame.line floats, []] := by
  have ended : bodyText floats frames =
      (frames.flatMap fun frame => [frame.line floats, []]).flatMap fun line => line ++ ['\n'] := by
    rw [bodyText, List.flatMap_assoc]
    refine List.flatMap_congr fun frame _ => ?_
    simp [StreamFrame.text]
  rw [ended]
  apply splitLines_lines
  intro line member
  obtain ⟨frame, _, inside⟩ := List.mem_flatMap.mp member
  rcases List.mem_pair.mp inside with rfl | rfl
  · exact frame.unbroken
  · exact nofun

/-- Every frame but a heartbeat has a type. -/
theorem StreamFrame.kind_eq_none : frame.kind = none ↔ frame = .heartbeat := by
  cases frame <;> simp [StreamFrame.kind, StreamFrame.payload, dictGet]

end Texts

end Pxtly.Events
