/-
This file gives the two readers of the event stream and what they deliver of its frames.
-/

import Pxtly.Events.Router

namespace Pxtly.Cli

open Foundation
open Events (StreamFrame bodyText)

section Parsing

structure SseEvent where
  ts : Float
  eventType : PyText
  payload : Json := .object []
  raw : String := ""

/-- A line is handled at a time of the clock. -/
structure StreamLine where
  ts : Float
  text : List Char

structure EventParser where
  eventType : List Char := "message".toList
  dataLines : List (List Char) := []

/-- The type of the payload counts only behind an empty one, and a payload without members then is an error. -/
def eventTypeOf (eventType : List Char) (payload : Json) : Option PyText :=
  if eventType ≠ [] then some (.text (String.ofList eventType))
  else match payload with
    | .object members => some (pyStr ((dictGet members "type").getD (.string "message")))
    | _ => none

variable (floats : FloatTexts)

/-- An empty line closes the event; an error that is not one of JSON leaves the reader. -/
def EventParser.close (parser : EventParser) (ts : Float) : Option SseEvent :=
  let raw := ['\n'].intercalate parser.dataLines
  match loads floats.read raw with
  | some payload =>
      (eventTypeOf parser.eventType payload).map fun eventType => ⟨ts, eventType, payload, String.ofList raw⟩
  | none =>
      if refusesDigits floats.read {} raw then none
      else some ⟨ts, .text (String.ofList parser.eventType), .object [], String.ofList raw⟩

/-- Any other line is passed over. -/
def EventParser.feed (parser : EventParser) (line : StreamLine) : Option (Option SseEvent × EventParser) :=
  let text := strip line.text
  if "event:".toList.isPrefixOf text then
    let named := strip (text.drop 6)
    some (none, { parser with eventType := if named = [] then "message".toList else named })
  else if "data:".toList.isPrefixOf text then
    some (none, { parser with dataLines := parser.dataLines ++ [strip (text.drop 5)] })
  else if text = [] ∧ parser.dataLines ≠ [] then (parser.close floats line.ts).map fun event => (some event, {})
  else some (none, parser)

/-- These are the events up to the end of the lines or the first error. -/
def readEvents (parser : EventParser) : List StreamLine → List SseEvent
  | [] => []
  | line :: rest =>
      match parser.feed floats line with
      | some (event, next) => event.toList ++ readEvents next rest
      | none => []

end Parsing

section Streaming

/-- A connection fails or is opened with a status. -/
inductive Connection where
  | failed
  | opened (statusCode : Int) (lines : List StreamLine)

variable (floats : FloatTexts)

def Connection.events : Connection → List SseEvent
  | .failed => []
  | .opened statusCode lines => if statusCode ≠ 200 then [] else readEvents floats {} lines

/-- A maximum of zero is none. -/
def reached (maxEvents : Option Int) (received : Nat) : Bool :=
  match maxEvents with
  | none => false
  | some maximum => maximum ≠ 0 && maximum ≤ received

/-- The generator returns behind the last event, and otherwise it has a new count. -/
def yieldEvents (maxEvents : Option Int) (received : Nat) : List SseEvent → List SseEvent × Option Nat
  | [] => ([], some received)
  | event :: rest =>
      if reached maxEvents (received + 1) then ([event], none)
      else
        let (later, count) := yieldEvents maxEvents (received + 1) rest
        (event :: later, count)

/-- The generator connects again however a connection ends. -/
def streamEvents (maxEvents : Option Int) (received : Nat) : List Connection → List SseEvent
  | [] => []
  | connection :: rest =>
      match yieldEvents maxEvents received (connection.events floats) with
      | (events, some count) => events ++ streamEvents maxEvents count rest
      | (events, none) => events

end Streaming

section Client

/-- A plain `for` takes the items of a plain generator only. -/
inductive PyGenerator where
  | plain (events : List SseEvent)
  | asynchronous (events : List SseEvent)

def PyGenerator.iterate : PyGenerator → Option (List SseEvent)
  | .plain events => some events
  | .asynchronous _ => none

def maxQueue : Nat := 500

structure SseClient where
  connected : Bool := false
  totalReceived : Nat := 0
  queue : List SseEvent := []

/-- A full queue loses its oldest event. -/
def SseClient.receive (client : SseClient) (event : SseEvent) : SseClient :=
  { client with
    totalReceived := client.totalReceived + 1
    queue := (if maxQueue ≤ client.queue.length then client.queue.tail else client.queue) ++ [event] }

variable (floats : FloatTexts)

def parseEventStream (lines : List StreamLine) : PyGenerator := .asynchronous (readEvents floats {} lines)

/-- The second part tells whether an error left the connection. -/
def SseClient.connectAndRead (client : SseClient) : Connection → SseClient × Bool
  | .failed => (client, true)
  | .opened statusCode lines =>
      if statusCode ≠ 200 then (client, true)
      else
        let opened := { client with connected := true }
        match (parseEventStream floats lines).iterate with
        | some events => (events.foldl SseClient.receive opened, false)
        | none => (opened, true)

inductive ClientStep where
  | connect (connection : Connection)
  | getEvent
  | stop

/-- The dashboard takes the events one by one while the loop runs. -/
def SseClient.step (client : SseClient) : ClientStep → SseClient × Option SseEvent
  | .connect connection =>
      let (after, raised) := client.connectAndRead floats connection
      (if raised then { after with connected := false } else after, none)
  | .getEvent => ({ client with queue := client.queue.tail }, client.queue.head?)
  | .stop => ({ client with connected := false, queue := [] }, none)

def SseClient.run (client : SseClient) : List ClientStep → SseClient × List SseEvent
  | [] => (client, [])
  | step :: rest =>
      let (next, event) := client.step floats step
      let (last, events) := next.run rest
      (last, event.toList ++ events)

end Client

section Delivery

/-- What a frame says is its type and its dictionary. -/
def expected (frames : List StreamFrame) : List (PyText × Json) :=
  frames.filterMap fun frame => frame.payload.bind fun members =>
    (dictGet members "type").map fun kind => (pyStr kind, .object members)

def SseEvent.told (event : SseEvent) : PyText × Json := (event.eventType, event.payload)

/-- These items are left where a bound makes the oldest ones go. -/
def newest {A : Type} (bound : Nat) (items : List A) : List A := items.drop (items.length - bound)

variable (floats : FloatTexts)

/-- Both readers deliver the frames in order, and the one with a queue delivers what its queue holds. -/
structure RoundTrip (frames : List StreamFrame) (lines : List StreamLine) : Prop where
  streamed : (streamEvents floats none 0 [.opened 200 lines]).map SseEvent.told = expected frames
  received : (SseClient.step floats {} (.connect (.opened 200 lines))).1.totalReceived = (expected frames).length
  queued : (SseClient.step floats {} (.connect (.opened 200 lines))).1.queue.map SseEvent.told =
    newest maxQueue (expected frames)

end Delivery

section Lines

variable {floats : FloatTexts} {frame : StreamFrame} {members : List (String × Json)}

theorem toList_dumpsSpaced (members : List (String × Json)) : (dumpsSpaced floats (.object members)).toList =
    '\x7b' :: ((", ".intercalate (spacedMembers floats members)).toList ++ ['\x7d']) := by
  simp only [dumpsSpaced, String.toList_append]
  rfl

/-- A dictionary is written between braces, so no space is stripped from it. -/
theorem strip_dumpsSpaced (members : List (String × Json)) :
    strip (dumpsSpaced floats (.object members)).toList = (dumpsSpaced floats (.object members)).toList := by
  rw [toList_dumpsSpaced]
  exact strip_of_ends (by decide) (by decide) _

theorem strip_line (frame : StreamFrame) : strip (frame.line floats) = frame.line floats := by
  unfold StreamFrame.line
  split
  · next members _ =>
      rw [toList_dumpsSpaced]
      exact strip_of_ends (by decide) (by decide) ("ata: \x7b".toList ++ (", ".intercalate (spacedMembers floats members)).toList)
  · decide

/-- A line with data is kept without its mark. -/
theorem feed_data (framed : frame.payload = some members) (ts : Float) :
    EventParser.feed floats {} ⟨ts, frame.line floats⟩ =
      some (none, { dataLines := [(dumpsSpaced floats (.object members)).toList] }) := by
  have line : frame.line floats = "data: ".toList ++ (dumpsSpaced floats (.object members)).toList := by
    rw [StreamFrame.line, framed]
  have space : strip (' ' :: (dumpsSpaced floats (.object members)).toList) =
      (dumpsSpaced floats (.object members)).toList :=
    (strip_cons_space (by decide) _).trans (strip_dumpsSpaced members)
  have other : "event:".toList.isPrefixOf (frame.line floats) = false := by rw [line]; rfl
  have data : "data:".toList.isPrefixOf (frame.line floats) = true := by rw [line]; rfl
  have rest : (frame.line floats).drop 5 = ' ' :: (dumpsSpaced floats (.object members)).toList := by rw [line]; rfl
  simp only [EventParser.feed, strip_line, other, data, rest, space, Bool.false_eq_true, if_false, if_true,
    List.nil_append]

/-- The payload is the dictionary of the frame, and the type is that of a line which no frame has. -/
theorem feed_empty (framed : frame.payload = some members) (ts : Float) :
    EventParser.feed floats { dataLines := [(dumpsSpaced floats (.object members)).toList] } ⟨ts, []⟩ =
      some (some ⟨ts, .text "message", .object members, dumpsSpaced floats (.object members)⟩, {}) := by
  have read : loads floats.read (dumpsSpaced floats (.object members)).toList = some (.object members) :=
    loads_dumpsSpaced (frame.written framed)
  have named : eventTypeOf "message".toList (.object members) = some (.text "message") := by
    rw [eventTypeOf, if_pos (by decide), String.ofList_toList]
  have closed : EventParser.close floats { dataLines := [(dumpsSpaced floats (.object members)).toList] } ts =
      some ⟨ts, .text "message", .object members, dumpsSpaced floats (.object members)⟩ := by
    simp only [EventParser.close, read, named, Option.map_some, List.intercalate_singleton, String.ofList_toList]
  have nothing : strip [] = [] := rfl
  have noEvent : "event:".toList.isPrefixOf [] = false := rfl
  have noData : "data:".toList.isPrefixOf [] = false := rfl
  simp only [EventParser.feed, nothing, noEvent, noData, closed, Bool.false_eq_true, if_false, Option.map_some]
  exact if_pos ⟨trivial, List.cons_ne_nil _ _⟩

theorem feed_heartbeat (ts : Float) :
    EventParser.feed floats {} ⟨ts, StreamFrame.heartbeat.line floats⟩ = some (none, {}) := rfl

/-- A frame is read from its two lines, and the reader is then as before it. -/
theorem readEvents_frame {frame : StreamFrame} {first second : StreamLine} (text : first.text = frame.line floats)
    (empty : second.text = []) (rest : List StreamLine) :
    (readEvents floats {} (first :: second :: rest)).map SseEvent.told =
      (frame.payload.map fun members => (PyText.text "message", Json.object members)).toList ++
        (readEvents floats {} rest).map SseEvent.told := by
  obtain ⟨firstTs, firstText⟩ := first
  obtain ⟨secondTs, secondText⟩ := second
  obtain rfl : firstText = frame.line floats := text
  obtain rfl : secondText = [] := empty
  cases framed : frame.payload with
  | none =>
      obtain rfl : frame = .heartbeat := StreamFrame.kind_eq_none.mp (by rw [StreamFrame.kind, framed]; rfl)
      rfl
  | some members =>
      rw [readEvents, feed_data framed]
      dsimp only
      rw [readEvents, feed_empty framed]
      rfl

/-- Every frame but a heartbeat is read in its order, with its own dictionary, as a message. -/
theorem readEvents_frames {frames : List StreamFrame} {lines : List StreamLine}
    (carried : lines.map StreamLine.text = splitLines (bodyText floats frames)) :
    (readEvents floats {} lines).map SseEvent.told =
      frames.filterMap fun frame => frame.payload.map fun members => (PyText.text "message", Json.object members) := by
  rw [Events.splitLines_bodyText] at carried
  induction frames generalizing lines with
  | nil =>
      obtain rfl := List.map_eq_nil_iff.mp carried
      rfl
  | cons frame frames inductionHypothesis =>
      obtain ⟨first, others, rfl, text, behind⟩ := List.map_eq_cons_iff.mp carried
      obtain ⟨second, rest, rfl, empty, later⟩ := List.map_eq_cons_iff.mp behind
      rw [readEvents_frame text empty, inductionHypothesis later, List.filterMap_cons]
      cases frame.payload <;> rfl

end Lines

section Limits

variable {floats : FloatTexts}

theorem yieldEvents_none (received : Nat) (events : List SseEvent) :
    yieldEvents none received events = (events, some (received + events.length)) := by
  induction events generalizing received with
  | nil => rfl
  | cons event rest inductionHypothesis =>
      rw [yieldEvents, reached, if_neg Bool.false_ne_true, inductionHypothesis, List.length_cons, Nat.add_assoc,
        Nat.add_comm 1]

/-- Without a maximum, the events of all connections are delivered. -/
theorem streamEvents_none (received : Nat) (connections : List Connection) :
    streamEvents floats none received connections = connections.flatMap (Connection.events floats) := by
  induction connections generalizing received with
  | nil => rfl
  | cons connection rest inductionHypothesis =>
      rw [streamEvents, yieldEvents_none, List.flatMap_cons, ← inductionHypothesis]

theorem reached_some {maximum received : Nat} (positive : 0 < maximum) :
    reached (some (maximum : Int)) received = decide (maximum ≤ received) := by
  have nonzero : decide ((maximum : Int) ≠ 0) = true := decide_eq_true (by omega)
  rw [reached, nonzero, Bool.true_and]
  exact decide_eq_decide.mpr Int.ofNat_le

theorem yieldEvents_some {maximum received : Nat} (under : received < maximum) (events : List SseEvent) :
    yieldEvents (some (maximum : Int)) received events =
      (events.take (maximum - received),
        if received + events.length < maximum then some (received + events.length) else none) := by
  induction events generalizing received with
  | nil => simp [yieldEvents, under]
  | cons event rest inductionHypothesis =>
      rw [yieldEvents, reached_some (by omega)]
      by_cases last : maximum ≤ received + 1
      · have one : maximum - received = 1 := by omega
        simp [last, one, show ¬ received + (rest.length + 1) < maximum by omega]
      · have more : maximum - received = maximum - (received + 1) + 1 := by omega
        simp only [last, decide_false, Bool.false_eq_true, if_false, inductionHypothesis (by omega : received + 1 < maximum),
          more, List.take_succ_cons, List.length_cons, Nat.add_assoc, Nat.add_comm 1]

/-- With a maximum, the generator returns behind that many events, however many connections they come from. -/
theorem streamEvents_some {maximum received : Nat} (under : received < maximum) (connections : List Connection) :
    streamEvents floats (some (maximum : Int)) received connections =
      (connections.flatMap (Connection.events floats)).take (maximum - received) := by
  induction connections generalizing received with
  | nil => rw [streamEvents, List.flatMap_nil, List.take_nil]
  | cons connection rest inductionHypothesis =>
      rw [streamEvents, yieldEvents_some under, List.flatMap_cons]
      by_cases more : received + (connection.events floats).length < maximum
      · have whole : (connection.events floats).take (maximum - received) = connection.events floats :=
          List.take_of_length_le (by omega)
        rw [if_pos more, whole, List.take_append, whole, ← Nat.sub_add_eq, ← inductionHypothesis more]
      · have enough : maximum - received ≤ (connection.events floats).length := by omega
        rw [if_neg more, List.take_append_of_le_length enough]

end Limits

section Queue

variable {floats : FloatTexts} {client : SseClient}

theorem length_newest_le {A : Type} (bound : Nat) (items : List A) : (newest bound items).length ≤ bound := by
  rw [newest, List.length_drop]
  omega

/-- The oldest items may go early. -/
theorem newest_newest_append {A : Type} (bound : Nat) (items later : List A) :
    newest bound (newest bound items ++ later) = newest bound (items ++ later) := by
  have within : items.length - bound ≤ items.length := Nat.sub_le _ _
  rw [newest, newest, newest, ← List.drop_append_of_le_length within, List.drop_drop, List.length_drop,
    List.length_append]
  congr 1
  omega

theorem receive_eq (bounded : client.queue.length ≤ maxQueue) (event : SseEvent) :
    client.receive event =
      { client with
        totalReceived := client.totalReceived + 1
        queue := newest maxQueue (client.queue ++ [event]) } := by
  have positive : 0 < maxQueue := by decide
  rw [SseClient.receive, newest, List.length_append, List.length_singleton]
  by_cases full : maxQueue ≤ client.queue.length
  · have one : client.queue.length + 1 - maxQueue = 1 := by omega
    rw [if_pos full, one, List.drop_append_of_le_length (by omega), List.drop_one]
  · have none_ : client.queue.length + 1 - maxQueue = 0 := by omega
    rw [if_neg full, none_, List.drop_zero]

/-- The body of the loop would keep the newest events. -/
theorem foldl_receive (bounded : client.queue.length ≤ maxQueue) (events : List SseEvent) :
    events.foldl SseClient.receive client =
      { client with
        totalReceived := client.totalReceived + events.length
        queue := newest maxQueue (client.queue ++ events) } := by
  induction events generalizing client with
  | nil =>
      have kept : newest maxQueue client.queue = client.queue := by
        rw [newest, Nat.sub_eq_zero_of_le bounded, List.drop_zero]
      rw [List.append_nil, kept]
      rfl
  | cons event rest inductionHypothesis =>
      rw [List.foldl_cons, receive_eq bounded, inductionHypothesis (length_newest_le _ _)]
      simp only [newest_newest_append, List.append_assoc, List.singleton_append, List.length_cons, Nat.add_assoc,
        Nat.add_comm 1]

/-- The first step of the loop is an error, so no connection changes what was received. -/
theorem step_connect (connection : Connection) :
    client.step floats (.connect connection) = ({ client with connected := false }, none) := by
  cases connection with
  | failed => rfl
  | opened statusCode lines =>
      by_cases refused : statusCode ≠ 200
      · simp [SseClient.step, SseClient.connectAndRead, refused]
      · simp [SseClient.step, SseClient.connectAndRead, refused, parseEventStream, PyGenerator.iterate]

/-- No run of the client delivers an event. -/
theorem run_idle (steps : List ClientStep) : SseClient.run floats {} steps = ({}, []) := by
  induction steps with
  | nil => rfl
  | cons step rest inductionHypothesis =>
      have idle : SseClient.step floats {} step = ({}, none) := by
        cases step with
        | connect connection => exact step_connect connection
        | getEvent => rfl
        | stop => rfl
      rw [SseClient.run, idle]
      dsimp only
      rw [inductionHypothesis]
      rfl

end Queue

section Agreement

variable {floats : FloatTexts} {frames : List StreamFrame} {lines : List StreamLine}

/-- A frame promises its type and its dictionary, and only a heartbeat promises nothing. -/
theorem promise_eq (frame : StreamFrame) :
    (frame.payload.bind fun members => (dictGet members "type").map fun kind => (pyStr kind, Json.object members)) =
      frame.payload.map fun members => (pyStr (frame.kind.getD .null), Json.object members) := by
  cases frame <;> rfl

theorem expected_eq_nil : expected frames = [] ↔ ∀ frame ∈ frames, frame = .heartbeat := by
  rw [expected, List.filterMap_eq_nil_iff]
  refine forall₂_congr fun frame _ => ?_
  rw [promise_eq, Option.map_eq_none_iff]
  cases frame <;> simp [StreamFrame.payload]

theorem streamEvents_opened (lines : List StreamLine) :
    streamEvents floats none 0 [.opened 200 lines] = readEvents floats {} lines := by
  have accepted : Connection.events floats (.opened 200 lines) = readEvents floats {} lines := by simp [Connection.events]
  rw [streamEvents_none, List.flatMap_singleton, accepted]

/-- The type that is delivered is the text of an unnamed event. -/
theorem pyStr_kind {frame : StreamFrame} {members : List (String × Json)} (framed : frame.payload = some members) :
    PyText.text "message" = pyStr (frame.kind.getD .null) ↔ frame.kind = some (.string "message") := by
  cases frame with
  | heartbeat => cases framed
  | connected ts => simp [StreamFrame.kind, StreamFrame.payload, dictGet, pyStr]
  | event id action assetId ts => simp [StreamFrame.kind, StreamFrame.payload, dictGet, pyStr, eq_comm]
  | interrupted => simp [StreamFrame.kind, StreamFrame.payload, dictGet, pyStr]

/-- The plain reader delivers each frame with its own type exactly where this type is that of an unnamed event. -/
theorem streamEvents_iff (carried : lines.map StreamLine.text = splitLines (bodyText floats frames)) :
    (streamEvents floats none 0 [.opened 200 lines]).map SseEvent.told = expected frames ↔
      ∀ frame ∈ frames, frame.payload ≠ none → frame.kind = some (.string "message") := by
  rw [streamEvents_opened, readEvents_frames carried]
  clear carried
  simp only [expected, promise_eq]
  induction frames with
  | nil => simp
  | cons frame frames inductionHypothesis =>
      rw [List.forall_mem_cons, ← inductionHypothesis]
      cases framed : frame.payload with
      | none => simp [framed]
      | some members => simp [framed, pyStr_kind framed]

/-- Both readers deliver the frames as they are only where there is nothing to deliver. -/
theorem event_stream_iff (carried : lines.map StreamLine.text = splitLines (bodyText floats frames)) :
    RoundTrip floats frames lines ↔ ∀ frame ∈ frames, frame = .heartbeat := by
  constructor
  · intro delivered
    have received := delivered.received
    rw [step_connect] at received
    exact expected_eq_nil.mp (List.length_eq_zero_iff.mp received.symm)
  · intro silent
    have nothing := expected_eq_nil.mpr silent
    have named : ∀ frame ∈ frames, frame.payload ≠ none → frame.kind = some (.string "message") := by
      intro frame member framed
      rw [silent frame member] at framed
      exact absurd rfl framed
    refine ⟨(streamEvents_iff carried).mpr named, ?_, ?_⟩
    · rw [step_connect, nothing]
      rfl
    · rw [step_connect, nothing]
      rfl

/-- No frames that the server has sent so far are delivered as they are once it has sent one. -/
theorem no_roundTrip_generator {decode : Bytes → String} {subscribes : Bool} {start : Float} {ts : Events.Seconds}
    {rounds : List Events.Round} (sent : frames <+: Events.generator decode subscribes start ts rounds)
    (begun : frames ≠ []) (carried : lines.map StreamLine.text = splitLines (bodyText floats frames)) :
    ¬ RoundTrip floats frames lines := by
  rw [event_stream_iff carried]
  intro silent
  cases subscribes with
  | false => exact begun (List.prefix_nil.mp sent)
  | true =>
      obtain ⟨frame, rest, rfl⟩ := List.exists_cons_of_ne_nil begun
      obtain ⟨rfl, _⟩ := List.cons_prefix_cons.mp sent
      cases silent _ List.mem_cons_self

end Agreement

section Example

/-- The server has sent its first frame and a heartbeat. -/
def firstFrames : List StreamFrame := [.connected ⟨1750000000, by decide⟩, .heartbeat]

def firstLines : List StreamLine := (splitLines (bodyText bitTexts firstFrames)).map (StreamLine.mk 0)

theorem carried_firstLines : firstLines.map StreamLine.text = splitLines (bodyText bitTexts firstFrames) := by
  rw [firstLines, List.map_map]
  exact List.map_id _

theorem event_stream_of_firstFrames :
    RoundTrip bitTexts firstFrames firstLines ↔ ∀ frame ∈ firstFrames, frame = .heartbeat :=
  event_stream_iff carried_firstLines

/-- The connection frame is delivered as a message by one reader and not at all by the other. -/
theorem connection_frame_lost : firstLines.map StreamLine.text = splitLines (bodyText bitTexts firstFrames) ∧
    ¬ RoundTrip bitTexts firstFrames firstLines := by
  refine ⟨carried_firstLines, fun delivered => ?_⟩
  have received := delivered.received
  rw [step_connect] at received
  cases received

end Example

end Pxtly.Cli
