import DsBench.Foundation.Crew
import DsBench.Foundation.FramedChannel
import DsBench.Foundation.LogCursor
import DsBench.Workloads.LongPollReaders
import DsBench.Workloads.RecordGroups
import Mathlib.Algebra.BigOperators.Fin
import Mathlib.Tactic.Linarith
import Mathlib.Tactic.Ring

/-! # Event stream readers that connect again

Readers subscribe at the ends of their streams. What a server sends them arrives in pieces
of any length, and a connection may end anywhere, within an event too. A reader then
subscribes again, at the end of its stream as it is by then.
-/

namespace DsBench.Workloads.SseReaders

open LongPollReaders (streamOf)

/-- The program never asks for records below forty-eight bytes. -/
structure Args where
  measureStart : Nat
  deadline : Nat
  recordBytes : Nat
  large : 48 ≤ recordBytes

structure Record where
  seq : UInt64
  sentNs : BitVec 128
deriving DecidableEq

def concat (size : Nat) (records : List Record) : Bytes :=
  (records.map fun record => buildPayload record.seq record.sentNs size).flatten

/-- What a server sends: records that were stored one after another, as they are on one data
line or in base64 over any data lines, or an event without a send time. -/
inductive Event (decode : Bytes → Option Bytes) (size : Nat) where
  | data (records : List Record) (nonempty : records ≠ []) (frame : EventFrame)
      (whole : IsEvent frame.text)
      (carries : frame.contents = [concat size records] ∨
        frame.contents.flatten = Base64.encode (concat size records))
  | other (text : Bytes) (whole : IsEvent text) (unstamped : stampOf decode text = none)

namespace Event

variable {decode : Bytes → Option Bytes} {size : Nat}

def text : Event decode size → Bytes
  | .data _ _ frame _ _ => frame.text
  | .other text _ _ => text

def records : Event decode size → List Record
  | .data records _ _ _ _ => records
  | .other _ _ _ => []

theorem framed : FramedChannel.Framed eventFraming (text : Event decode size → Bytes) := by
  intro event rest
  cases event with
  | data records nonempty frame whole carries => exact frameEnd_event whole rest
  | other text whole unstamped => exact frameEnd_event whole rest

theorem mem_concat (large : 48 ≤ size) {records : List Record} {byte : UInt8}
    (member : byte ∈ concat size records) :
    (∃ digit < 16, byte = hexByte digit) ∨ byte = 32 ∨ byte = 46 := by
  rcases List.mem_flatten.mp member with ⟨bytes, inside, inBytes⟩
  rcases List.mem_map.mp inside with ⟨record, _, same⟩
  rw [← same] at inBytes
  exact mem_buildPayload large inBytes

theorem stamp_eq (inverts : ∀ bytes, decode (Base64.encode bytes) = some bytes)
    (large : 48 ≤ size) (event : Event decode size) :
    stampOf decode event.text = event.records.head?.map fun record => record.sentNs.toNat := by
  cases event with
  | other text whole unstamped => exact unstamped
  | data records nonempty frame whole carries =>
      cases records with
      | nil => exact (nonempty rfl).elim
      | cons record records =>
          have shape : concat size (record :: records) =
              buildPayload record.seq record.sentNs size ++ concat size records := rfl
          rw [text, Event.records, List.head?_cons, Option.map_some, stampOf]
          rcases carries with raw | encoded
          · apply timestamp_raw decode record.seq record.sentNs large passedOver_nil
            rw [List.nil_append, ← shape]
            exact raw
          · have stamp := extractSendNs_payload record.seq record.sentNs large passedOver_nil
              (concat size records)
            rw [List.nil_append, ← shape] at stamp
            have some_bytes : concat size (record :: records) ≠ [] := by
              intro empty
              rw [empty] at stamp
              cases stamp
            rw [extract_base64 inverts some_bytes (fun _ => mem_concat large) encoded, stamp]

end Event

/-- Instants are nanoseconds of a clock that goes on; the wall clock may be set. The
histogram is the list of its samples. -/
structure Shared where
  now : Nat
  wall : Nat
  streams : Nat → List Record
  ok : Nat
  err : Nat
  bytesTotal : Nat
  hist : List Nat

inductive Effect where
  | addOk
  | addBytes
  | addErr
deriving DecidableEq, Repr

/-- Where a reader is. `since` is how long the stream was when a subscription was sent. -/
inductive Control where
  | head
  | connecting (since : Nat)
  | refused
  | listening
  | waiting
  | draining
  | stamped (sentNs : Nat)
  | timing (sentNs instant : Nat)
  | counting (effects : List Effect) (after : Control)
  | leaving
  | finished

/-- A subscription: what the server sent on it, and how much of the stream lies before what
it sends next. -/
structure Connection (decode : Bytes → Option Bytes) (size : Nat) where
  channel : FramedChannel UInt8 (Event decode size)
  place : Nat

/-- The reader's own histogram is `samples`. The cursor notes the records that were counted,
with the readings of the clocks for them. `counted` keeps all samples ever taken, and
`turnedAway` the instants at which it was seen that a subscription had failed; the program
has none of the three. -/
structure Reader (decode : Bytes → Option Bytes) (size : Nat) where
  control : Control
  connection : Option (Connection decode size)
  samples : List Nat
  cursor : LogCursor Reading
  counted : List Nat
  turnedAway : List Nat

/-- What the world does next where a reader is: the reader goes on, its subscription fails
or begins at a place in the stream; the server sends an event, so many bytes arrive, or the
wait for bytes ends without any; the clocks move; or the server stores a record. -/
inductive Happening (decode : Bytes → Option Bytes) (size : Nat) where
  | go
  | refused
  | opened (place : Nat)
  | sent (event : Event decode size)
  | chunk (count : Nat)
  | ended
  | tick (later wall : Nat)
  | stored (stream : Nat) (record : Record)

section

variable {decode : Bytes → Option Bytes} (args : Args)

def Effect.carryOut (shared : Shared) : Effect → Shared
  | .addOk => { shared with ok := shared.ok + 1 }
  | .addBytes => { shared with bytesTotal := shared.bytesTotal + args.recordBytes }
  | .addErr => { shared with err := shared.err + 1 }

def refusal (measureStart now : Nat) : List Effect :=
  if measureStart ≤ now then [.addErr] else []

def Connection.ahead {size : Nat} (connection : Connection decode size) : Nat :=
  match connection.channel.queued with
  | [] => 0
  | event :: _ => event.records.length

def Connection.split {size : Nat} (connection : Connection decode size) (length : Nat) :
    Connection decode size :=
  { connection with channel := connection.channel.split length }

def Connection.settle {size : Nat} (connection : Connection decode size) :
    Connection decode size :=
  { connection with channel := connection.channel.settle }

def Connection.arrive {size : Nat} (connection : Connection decode size) (count : Nat) :
    Connection decode size :=
  { connection with channel := connection.channel.arrive count }

def Connection.send {size : Nat} (connection : Connection decode size)
    (event : Event decode size) : Connection decode size :=
  ⟨connection.channel.send Event.text event, connection.place + event.records.length⟩

def Reader.skip {size : Nat} (reader : Reader decode size)
    (connection : Connection decode size) : Reader decode size :=
  { reader with
    control := .draining
    connection := some connection.settle
    cursor := reader.cursor.pass (reader.cursor.position + connection.ahead) }

def Reader.record {size : Nat} (reader : Reader decode size)
    (connection : Connection decode size) (reading : Reading) (sample : Nat) :
    Reader decode size :=
  { reader with
    control := .counting [.addOk, .addBytes] .draining
    connection := some connection.settle
    samples := reader.samples ++ [sample]
    cursor := (reader.cursor.take (reader.cursor.position + 1) reading).pass
      (reader.cursor.position + connection.ahead)
    counted := reader.counted ++ [sample] }

/-- `run_sse_reader` going on by itself. `follows` is the reader's stream. -/
def goOn (follows : Nat) (shared : Shared) (reader : Reader decode args.recordBytes) :
    Option (Shared × Reader decode args.recordBytes) :=
  match reader.control with
  | .head =>
      if shared.now < args.deadline then
        some (shared, { reader with
          control := .connecting (shared.streams follows).length })
      else some (shared, { reader with control := .leaving })
  | .refused =>
      some (shared, { reader with
        control := .counting (refusal args.measureStart shared.now) .head
        turnedAway := reader.turnedAway ++ [shared.now] })
  | .listening =>
      if args.deadline ≤ shared.now then
        some (shared, { reader with control := .head, connection := none })
      else some (shared, { reader with control := .waiting })
  | .draining =>
      reader.connection.bind fun connection =>
        match findEventEnd connection.channel.buffer with
        | none => some (shared, { reader with control := .listening })
        | some idx =>
            let raw := connection.channel.buffer.take (idx + 2)
            let rest := connection.split (idx + 2)
            match stampOf decode raw with
            | none => some (shared, reader.skip rest)
            | some sentNs =>
                some (shared, { reader with
                  control := .stamped sentNs, connection := some rest })
  | .stamped sentNs =>
      reader.connection.bind fun connection =>
        if shared.now < args.measureStart then some (shared, reader.skip connection)
        else some (shared, { reader with control := .timing sentNs shared.now })
  | .timing sentNs instant =>
      reader.connection.bind fun connection =>
        some (shared, reader.record connection ⟨instant, shared.wall⟩
          (MultiFanout.latencyMicros shared.wall sentNs))
  | .counting [] after => some (shared, { reader with control := after })
  | .counting (effect :: effects) after =>
      some (effect.carryOut args shared, { reader with control := .counting effects after })
  | .leaving =>
      some ({ shared with hist := shared.hist ++ reader.samples },
        { reader with control := .finished, samples := [] })
  | _ => none

/-- A reader, the clocks, the writers or the server acts. A subscription begins at the end
that the stream has between the request and the answer. The server sends the records from
there on, in the order in which they are stored. -/
def act (follows : Nat) (shared : Shared) (reader : Reader decode args.recordBytes) :
    Happening decode args.recordBytes → Option (Shared × Reader decode args.recordBytes)
  | .go => goOn args follows shared reader
  | .refused =>
      match reader.control with
      | .connecting _ => some (shared, { reader with control := .refused })
      | _ => none
  | .opened place =>
      match reader.control with
      | .connecting since =>
          if since ≤ place ∧ place ≤ (shared.streams follows).length then
            some (shared, { reader with
              control := .listening
              connection := some ⟨.opened, place⟩
              cursor := reader.cursor.pass place })
          else none
      | _ => none
  | .sent event =>
      reader.connection.bind fun connection =>
        if event.records.isPrefixOf ((shared.streams follows).drop connection.place) then
          some (shared, { reader with connection := some (connection.send event) })
        else none
  | .chunk count =>
      match reader.control with
      | .waiting =>
          reader.connection.bind fun connection =>
            some (shared, { reader with
              control := .draining, connection := some (connection.arrive count) })
      | _ => none
  | .ended =>
      match reader.control with
      | .waiting => some (shared, { reader with control := .head, connection := none })
      | _ => none
  | .tick later wall =>
      if shared.now ≤ later then some ({ shared with now := later, wall := wall }, reader)
      else none
  | .stored stream record =>
      some ({ shared with
        streams := Function.update shared.streams stream
          (shared.streams stream ++ [record]) }, reader)

def startReader (decode : Bytes → Option Bytes) (size : Nat) : Reader decode size :=
  ⟨.head, none, [], ⟨0, []⟩, [], []⟩

/-- `connections` readers on `streams` streams that are as they were when the readers are
spawned, at the readings `spawned` of the clocks. -/
def readers (decode : Bytes → Option Bytes) (streams connections : Nat)
    (resident : Nat → List Record) (spawned : Reading) :
    TransitionSystem (Shared × (Fin connections → Reader decode args.recordBytes)) :=
  crew (fun idx => act args (streamOf streams idx))
    (⟨spawned.instant, spawned.wall, resident, 0, 0, 0, []⟩,
      fun _ => startReader decode args.recordBytes)

/-! ## What a step can be -/

inductive Moves (follows : Nat) (shared : Shared) (reader : Reader decode args.recordBytes) :
    Shared × Reader decode args.recordBytes → Prop where
  | ask : reader.control = .head →
      Moves follows shared reader (shared, { reader with
        control := .connecting (shared.streams follows).length })
  | leave : reader.control = .head →
      Moves follows shared reader (shared, { reader with control := .leaving })
  | turnedAway : reader.control = .refused →
      Moves follows shared reader (shared, { reader with
        control := .counting (refusal args.measureStart shared.now) .head
        turnedAway := reader.turnedAway ++ [shared.now] })
  | close : reader.control = .listening ∨ reader.control = .waiting →
      Moves follows shared reader
        (shared, { reader with control := .head, connection := none })
  | wait : reader.control = .listening →
      Moves follows shared reader (shared, { reader with control := .waiting })
  | drained : reader.control = .draining →
      Moves follows shared reader (shared, { reader with control := .listening })
  | unstamped (connection : Connection decode args.recordBytes) (idx : Nat) :
      reader.control = .draining → reader.connection = some connection →
      findEventEnd connection.channel.buffer = some idx →
      stampOf decode (connection.channel.buffer.take (idx + 2)) = none →
      Moves follows shared reader (shared, reader.skip (connection.split (idx + 2)))
  | stamp (connection : Connection decode args.recordBytes) (idx sentNs : Nat) :
      reader.control = .draining → reader.connection = some connection →
      findEventEnd connection.channel.buffer = some idx →
      stampOf decode (connection.channel.buffer.take (idx + 2)) = some sentNs →
      Moves follows shared reader (shared, { reader with
        control := .stamped sentNs, connection := some (connection.split (idx + 2)) })
  | early (connection : Connection decode args.recordBytes) (sentNs : Nat) :
      reader.control = .stamped sentNs → reader.connection = some connection →
      Moves follows shared reader (shared, reader.skip connection)
  | measured (sentNs : Nat) : reader.control = .stamped sentNs →
      args.measureStart ≤ shared.now →
      Moves follows shared reader
        (shared, { reader with control := .timing sentNs shared.now })
  | record (connection : Connection decode args.recordBytes) (sentNs instant : Nat) :
      reader.control = .timing sentNs instant → reader.connection = some connection →
      Moves follows shared reader (shared, reader.record connection ⟨instant, shared.wall⟩
        (MultiFanout.latencyMicros shared.wall sentNs))
  | counted (after : Control) : reader.control = .counting [] after →
      Moves follows shared reader (shared, { reader with control := after })
  | carry (effect : Effect) (effects : List Effect) (after : Control) :
      reader.control = .counting (effect :: effects) after →
      Moves follows shared reader (effect.carryOut args shared,
        { reader with control := .counting effects after })
  | merge : reader.control = .leaving →
      Moves follows shared reader ({ shared with hist := shared.hist ++ reader.samples },
        { reader with control := .finished, samples := [] })
  | refused (since : Nat) : reader.control = .connecting since →
      Moves follows shared reader (shared, { reader with control := .refused })
  | opened (since place : Nat) : reader.control = .connecting since →
      since ≤ place → place ≤ (shared.streams follows).length →
      Moves follows shared reader (shared, { reader with
        control := .listening
        connection := some ⟨.opened, place⟩
        cursor := reader.cursor.pass place })
  | sent (connection : Connection decode args.recordBytes)
      (event : Event decode args.recordBytes) : reader.connection = some connection →
      event.records <+: (shared.streams follows).drop connection.place →
      Moves follows shared reader
        (shared, { reader with connection := some (connection.send event) })
  | chunk (connection : Connection decode args.recordBytes) (count : Nat) :
      reader.control = .waiting → reader.connection = some connection →
      Moves follows shared reader (shared, { reader with
        control := .draining, connection := some (connection.arrive count) })
  | tick (later wall : Nat) : shared.now ≤ later →
      Moves follows shared reader ({ shared with now := later, wall := wall }, reader)
  | stored (stream : Nat) (record : Record) :
      Moves follows shared reader
        ({ shared with
          streams := Function.update shared.streams stream
            (shared.streams stream ++ [record]) }, reader)

variable {args} {follows : Nat} {shared : Shared} {reader : Reader decode args.recordBytes}
  {next : Shared × Reader decode args.recordBytes}

theorem goOn_moves (acted : goOn args follows shared reader = some next) :
    Moves args follows shared reader next := by
  rw [goOn] at acted
  split at acted
  · rename_i place
    split at acted
    · cases acted
      exact .ask place
    · cases acted
      exact .leave place
  · rename_i place
    cases acted
    exact .turnedAway place
  · rename_i place
    split at acted
    · cases acted
      exact .close (.inl place)
    · cases acted
      exact .wait place
  · rename_i place
    rcases Option.bind_eq_some_iff.mp acted with ⟨connection, connected, went⟩
    split at went
    · cases went
      exact .drained place
    · rename_i idx found
      dsimp only at went
      split at went
      · rename_i none_
        cases went
        exact .unstamped connection idx place connected found none_
      · rename_i sentNs stamp
        cases went
        exact .stamp connection idx sentNs place connected found stamp
  · rename_i sentNs place
    rcases Option.bind_eq_some_iff.mp acted with ⟨connection, connected, went⟩
    split at went
    · cases went
      exact .early connection sentNs place connected
    · rename_i measured
      cases went
      exact .measured sentNs place (Nat.le_of_not_lt measured)
  · rename_i sentNs instant place
    rcases Option.bind_eq_some_iff.mp acted with ⟨connection, connected, went⟩
    cases went
    exact .record connection sentNs instant place connected
  · rename_i after place
    cases acted
    exact .counted after place
  · rename_i effect effects after place
    cases acted
    exact .carry effect effects after place
  · rename_i place
    cases acted
    exact .merge place
  · cases acted

theorem act_moves {happening : Happening decode args.recordBytes}
    (acted : act args follows shared reader happening = some next) :
    Moves args follows shared reader next := by
  cases happening with
  | go => exact goOn_moves acted
  | refused =>
      simp only [act] at acted
      split at acted
      · rename_i since place
        cases acted
        exact .refused since place
      · cases acted
  | opened start =>
      simp only [act] at acted
      split at acted
      · rename_i since place
        split at acted
        · rename_i inside
          cases acted
          exact .opened since start place inside.1 inside.2
        · cases acted
      · cases acted
  | sent event =>
      rcases Option.bind_eq_some_iff.mp acted with ⟨connection, connected, went⟩
      split at went
      · rename_i stored
        cases went
        exact .sent connection event connected (List.isPrefixOf_iff_prefix.mp stored)
      · cases went
  | chunk count =>
      simp only [act] at acted
      split at acted
      · rename_i place
        rcases Option.bind_eq_some_iff.mp acted with ⟨connection, connected, went⟩
        cases went
        exact .chunk connection count place connected
      · cases acted
  | ended =>
      simp only [act] at acted
      split at acted
      · rename_i place
        cases acted
        exact .close (.inr place)
      · cases acted
  | tick later wall =>
      rw [act] at acted
      split at acted
      · rename_i inOrder
        cases acted
        exact .tick later wall inOrder
      · cases acted
  | stored stream record =>
      cases acted
      exact .stored stream record

/-! ## The counters -/

def Effect.weight (args : Args) : Effect → Nat
  | .addBytes => args.recordBytes
  | _ => 1

def Shared.counter (shared : Shared) : Effect → Nat
  | .addOk => shared.ok
  | .addBytes => shared.bytesTotal
  | .addErr => shared.err

def owed (effect : Effect) : Control → Nat
  | .counting effects after => effects.count effect + owed effect after
  | _ => 0

def Reader.due (measureStart : Nat) {size : Nat} (reader : Reader decode size) : Effect → Nat
  | .addErr => reader.turnedAway.countP fun instant => decide (measureStart ≤ instant)
  | _ => reader.counted.length

def Reader.debt (args : Args) (effect : Effect) (reader : Reader decode args.recordBytes) : ℤ :=
  effect.weight args * (owed effect reader.control - reader.due args.measureStart effect)

theorem counter_carryOut (shared : Shared) (effect done : Effect) :
    (done.carryOut args shared).counter effect =
      shared.counter effect + effect.weight args * [done].count effect := by
  cases effect with
  | addOk => cases done <;> simp [Effect.carryOut, Shared.counter, Effect.weight]
  | addBytes => cases done <;> simp [Effect.carryOut, Shared.counter, Effect.weight]
  | addErr => cases done <;> simp [Effect.carryOut, Shared.counter, Effect.weight]

theorem count_refusal (effect : Effect) (now : Nat) :
    (refusal args.measureStart now).count effect =
      if effect = .addErr ∧ args.measureStart ≤ now then 1 else 0 := by
  rw [refusal]
  split
  · cases effect <;> simp [*]
  · cases effect <;> simp [*]

theorem debt_eq {effect : Effect} {after : Reader decode args.recordBytes}
    (owes : owed effect after.control = owed effect reader.control)
    (counted : after.counted = reader.counted)
    (turnedAway : after.turnedAway = reader.turnedAway) :
    after.debt args effect = reader.debt args effect := by
  have due : after.due args.measureStart effect = reader.due args.measureStart effect := by
    cases effect with
    | addErr => rw [Reader.due, Reader.due, turnedAway]
    | _ => simp only [Reader.due, counted]
  rw [Reader.debt, Reader.debt, owes, due]

theorem balance_eq {effect : Effect} {after : Shared × Reader decode args.recordBytes}
    (counter : after.1.counter effect = shared.counter effect)
    (owes : owed effect after.2.control = owed effect reader.control)
    (counted : after.2.counted = reader.counted)
    (turnedAway : after.2.turnedAway = reader.turnedAway) :
    (after.1.counter effect : ℤ) + after.2.debt args effect =
      shared.counter effect + reader.debt args effect := by
  rw [counter, debt_eq owes counted turnedAway]

theorem moves_counter (effect : Effect) (moved : Moves args follows shared reader next) :
    (next.1.counter effect : ℤ) + next.2.debt args effect =
      shared.counter effect + reader.debt args effect := by
  cases moved with
  | turnedAway place =>
      rw [Reader.debt, Reader.debt, place]
      simp only [owed, count_refusal]
      cases effect with
      | addErr =>
          simp only [Reader.due, List.countP_append, List.countP_singleton, true_and,
            decide_eq_true_eq]
          push_cast
          ring
      | _ => simp [Reader.due]
  | record connection sentNs instant place connected =>
      rw [Reader.debt, Reader.debt, place]
      simp only [Reader.record, owed]
      cases effect with
      | addErr => simp [Reader.due]
      | _ => simp [Reader.due]
  | carry done effects after place =>
      rw [counter_carryOut, Reader.debt, Reader.debt, place]
      have due : Reader.due args.measureStart
          { reader with control := .counting effects after } effect =
            reader.due args.measureStart effect := by
        cases effect <;> rfl
      have more : (done :: effects).count effect =
          [done].count effect + effects.count effect := by
        rw [← List.count_append]
        rfl
      simp only [owed, due, more]
      push_cast
      ring
  | merge place => exact balance_eq (by cases effect <;> rfl) (by rw [place]; rfl) rfl rfl
  | tick later wall inOrder => exact balance_eq (by cases effect <;> rfl) rfl rfl rfl
  | stored stream record => exact balance_eq (by cases effect <;> rfl) rfl rfl rfl
  | counted after place => exact balance_eq rfl (by simp [place, owed]) rfl rfl
  | close place =>
      refine balance_eq rfl ?_ rfl rfl
      rcases place with listening | waiting
      · rw [listening]
        rfl
      · rw [waiting]
        rfl
  | sent connection event connected stored => exact balance_eq rfl rfl rfl rfl
  | ask place => exact balance_eq rfl (by rw [place]; rfl) rfl rfl
  | leave place => exact balance_eq rfl (by rw [place]; rfl) rfl rfl
  | wait place => exact balance_eq rfl (by rw [place]; rfl) rfl rfl
  | drained place => exact balance_eq rfl (by rw [place]; rfl) rfl rfl
  | unstamped connection idx place connected found none_ =>
      exact balance_eq rfl (by rw [place]; rfl) rfl rfl
  | stamp connection idx sentNs place connected found stamp =>
      exact balance_eq rfl (by rw [place]; rfl) rfl rfl
  | early connection sentNs place connected =>
      exact balance_eq rfl (by rw [place]; rfl) rfl rfl
  | measured sentNs place measured => exact balance_eq rfl (by rw [place]; rfl) rfl rfl
  | refused since place => exact balance_eq rfl (by rw [place]; rfl) rfl rfl
  | opened since start place later inside =>
      exact balance_eq rfl (by rw [place]; rfl) rfl rfl
  | chunk connection count place connected =>
      exact balance_eq rfl (by rw [place]; rfl) rfl rfl

/-- How often a value is in the histogram, and how often a reader has yet to put it there,
beyond how often it took it. -/
def Shared.inHist (value : Nat) (shared : Shared) : ℤ := shared.hist.count value

def Reader.histDebt (value : Nat) {size : Nat} (reader : Reader decode size) : ℤ :=
  reader.samples.count value - reader.counted.count value

theorem moves_hist (value : Nat) (moved : Moves args follows shared reader next) :
    next.1.inHist value + next.2.histDebt value =
      shared.inHist value + reader.histDebt value := by
  cases moved with
  | record connection sentNs instant place connected =>
      simp only [Shared.inHist, Reader.histDebt, Reader.record, List.count_append]
      push_cast
      ring
  | carry effect effects after place => cases effect <;> rfl
  | merge place =>
      simp only [Shared.inHist, Reader.histDebt, List.count_append, List.count_nil]
      push_cast
      ring
  | _ => rfl

/-! ## The places of the readers -/

/-- A subscription agrees with the stream: the events that the reader is not done with hold
the records from its place on to the server's. -/
structure Aligned {size : Nat} (base : Nat) (stream : List Record) (position : Nat)
    (connection : Connection decode size) : Prop where
  since : base ≤ position
  inside : position ≤ stream.length
  place : connection.place =
    position + (connection.channel.queued.flatMap Event.records).length
  listed : connection.channel.queued.flatMap Event.records <+: stream.drop position

/-- What is under way at a place agrees with the stream. -/
def Fits (args : Args) (base : Nat) (stream : List Record) (position : Nat)
    (connection : Option (Connection decode args.recordBytes)) : Control → Prop
  | .connecting since =>
      connection = none ∧ position ≤ since ∧ base ≤ since ∧ since ≤ stream.length
  | .listening => Carrying
  | .waiting => Carrying
  | .draining => Carrying
  | .stamped sentNs => Holding sentNs
  | .timing sentNs instant => args.measureStart ≤ instant ∧ Holding sentNs
  | .counting _ after => after = .head ∧ connection = none ∨ after = .draining ∧ Carrying
  | _ => connection = none
where
  /-- All that was sent is still to be dealt with. -/
  Carrying : Prop :=
    ∃ link, connection = some link ∧ Aligned base stream position link ∧
      link.channel.Carries Event.text
  /-- The event at the place is split off, and this is the send time of its first record. -/
  Holding (sentNs : Nat) : Prop :=
    ∃ link event record, connection = some link ∧ Aligned base stream position link ∧
      link.channel.CarriesBehind Event.text event ∧ event.records.head? = some record ∧
      record.sentNs.toNat = sentNs

def sampleOf (record : Record) (reading : Reading) : List Nat :=
  [MultiFanout.latencyMicros reading.wall record.sentNs.toNat]

/-- What every state keeps of a reader. -/
structure Kept (args : Args) (base : Nat) (stream : List Record)
    (reader : Reader decode args.recordBytes) : Prop where
  orderly : reader.cursor.Orderly
  behind : reader.cursor.position ≤ stream.length
  fits : Fits args base stream reader.cursor.position reader.connection reader.control
  sampled : reader.counted = reader.cursor.taken.flatMap (LogCursor.readAt sampleOf stream)
  timed : ∀ entry ∈ reader.cursor.taken, args.measureStart ≤ entry.2.instant ∧ base ≤ entry.1
  settled : reader.control = .finished → reader.samples = []

section

variable {size base position : Nat} {stream grown : List Record}
  {connection : Connection decode size}

theorem Aligned.grow (longer : stream <+: grown)
    (aligned : Aligned base stream position connection) :
    Aligned base grown position connection := by
  rcases longer with ⟨more, grew⟩
  refine ⟨aligned.since, ?_, aligned.place, ?_⟩
  · rw [← grew, List.length_append]
    exact aligned.inside.trans (Nat.le_add_right _ _)
  · rw [← grew, List.drop_append_of_le_length aligned.inside]
    exact aligned.listed.trans (List.prefix_append _ _)

theorem aligned_opened (since : base ≤ position) (inside : position ≤ stream.length) :
    Aligned base stream position (⟨.opened, position⟩ : Connection decode size) :=
  ⟨since, inside, rfl, List.nil_prefix⟩

theorem Aligned.send (aligned : Aligned base stream position connection)
    {event : Event decode size} (stored : event.records <+: stream.drop connection.place) :
    Aligned base stream position (connection.send event) := by
  have queued : (connection.send event).channel.queued.flatMap Event.records =
      connection.channel.queued.flatMap Event.records ++ event.records := by
    rw [Connection.send]
    simp [FramedChannel.send]
  refine ⟨aligned.since, aligned.inside, ?_, ?_⟩
  · rw [queued, List.length_append, ← Nat.add_assoc, ← aligned.place]
    rfl
  · rw [queued]
    rcases aligned.listed with ⟨more, shape⟩
    have behind : stream.drop connection.place = more := by
      rw [aligned.place, ← List.drop_drop, ← shape, List.drop_left]
    rw [behind] at stored
    rw [← shape]
    exact (List.prefix_append_right_inj _).mpr stored

theorem Aligned.settle (aligned : Aligned base stream position connection)
    {event : Event decode size} {rest : List (Event decode size)}
    (queued : connection.channel.queued = event :: rest) :
    Aligned base stream (position + event.records.length) connection.settle := by
  have place := aligned.place
  have listed := aligned.listed
  rw [queued, List.flatMap_cons] at place listed
  have remaining : connection.settle.channel.queued = rest := by
    rw [Connection.settle, FramedChannel.settle]
    dsimp only
    rw [queued, List.tail_cons]
  have fewer := listed.length_le
  rw [List.length_append, List.length_drop] at fewer
  have inside := aligned.inside
  refine ⟨aligned.since.trans (Nat.le_add_right _ _), by omega, ?_, ?_⟩
  · rw [remaining, Nat.add_assoc, ← List.length_append]
    exact place
  · rcases listed with ⟨more, shape⟩
    rw [remaining, ← List.drop_drop, ← shape, List.append_assoc, List.drop_left]
    exact List.prefix_append _ _

theorem Aligned.getElem? (aligned : Aligned base stream position connection)
    {event : Event decode size} {rest : List (Event decode size)}
    (queued : connection.channel.queued = event :: rest) {record : Record}
    (first : event.records.head? = some record) : stream[position]? = some record := by
  have listed := aligned.listed
  rw [queued, List.flatMap_cons] at listed
  rcases listed with ⟨more, shape⟩
  have front : (stream.drop position).head? = some record := by
    rw [← shape, List.append_assoc, List.head?_append, first]
    rfl
  rwa [List.head?_drop] at front

theorem ahead_eq {event : Event decode size} {rest : List (Event decode size)}
    (queued : connection.channel.queued = event :: rest) :
    connection.ahead = event.records.length := by
  rw [Connection.ahead, queued]

end

theorem Fits.grow {base position : Nat} {stream grown : List Record} (longer : stream <+: grown)
    {connection : Option (Connection decode args.recordBytes)} {control : Control}
    (fits : Fits args base stream position connection control) :
    Fits args base grown position connection control := by
  have carrying : Fits.Carrying args base stream position connection →
      Fits.Carrying args base grown position connection := by
    intro holds
    rcases holds with ⟨link, connected, aligned, carries⟩
    exact ⟨link, connected, aligned.grow longer, carries⟩
  have holding : ∀ sentNs, Fits.Holding args base stream position connection sentNs →
      Fits.Holding args base grown position connection sentNs := by
    intro sentNs holds
    rcases holds with ⟨link, event, record, connected, aligned, carries⟩
    exact ⟨link, event, record, connected, aligned.grow longer, carries⟩
  cases control with
  | connecting since =>
      rcases fits with ⟨unconnected, ahead, started, inside⟩
      exact ⟨unconnected, ahead, started, inside.trans longer.length_le⟩
  | listening => exact carrying fits
  | waiting => exact carrying fits
  | draining => exact carrying fits
  | stamped sentNs => exact holding sentNs fits
  | timing sentNs instant => exact ⟨fits.1, holding sentNs fits.2⟩
  | counting effects after =>
      rcases fits with head | draining
      · exact .inl head
      · exact .inr ⟨draining.1, carrying draining.2⟩
  | _ => exact fits

theorem Fits.send {base position : Nat} {stream : List Record}
    {connection : Connection decode args.recordBytes} {control : Control}
    (fits : Fits args base stream position (some connection) control)
    {event : Event decode args.recordBytes}
    (stored : event.records <+: stream.drop connection.place) :
    Fits args base stream position (some (connection.send event)) control := by
  have carrying : Fits.Carrying args base stream position (some connection) →
      Fits.Carrying args base stream position (some (connection.send event)) := by
    intro holds
    rcases holds with ⟨link, connected, aligned, carries⟩
    cases connected
    exact ⟨_, rfl, aligned.send stored, carries.send event⟩
  have holding : ∀ sentNs, Fits.Holding args base stream position (some connection) sentNs →
      Fits.Holding args base stream position (some (connection.send event)) sentNs := by
    intro sentNs holds
    rcases holds with ⟨link, first, record, connected, aligned, carries, found⟩
    cases connected
    exact ⟨_, first, record, rfl, aligned.send stored, carries.send event, found⟩
  cases control with
  | connecting since => cases fits.1
  | listening => exact carrying fits
  | waiting => exact carrying fits
  | draining => exact carrying fits
  | stamped sentNs => exact holding sentNs fits
  | timing sentNs instant => exact ⟨fits.1, holding sentNs fits.2⟩
  | counting effects after =>
      rcases fits with head | draining
      · cases head.2
      · exact .inr ⟨draining.1, carrying draining.2⟩
  | _ => cases fits

theorem Kept.grow {base : Nat} {stream grown : List Record} (longer : stream <+: grown)
    (kept : Kept args base stream reader) : Kept args base grown reader := by
  refine ⟨kept.orderly, kept.behind.trans longer.length_le, kept.fits.grow longer, ?_,
    kept.timed, kept.settled⟩
  rcases longer with ⟨more, grew⟩
  rw [kept.sampled, ← grew]
  apply List.flatMap_congr
  intro entry member
  have inside := (kept.orderly.lt member).trans_le kept.behind
  exact (LogCursor.readAt_append sampleOf inside more).symm

/-! ## What a step keeps of a reader -/

def Grows (before after : Shared) : Prop :=
  ∀ stream, before.streams stream <+: after.streams stream

theorem moves_grows (moved : Moves args follows shared reader next) : Grows shared next.1 := by
  intro other
  cases moved with
  | carry effect effects after place => cases effect <;> exact List.prefix_rfl
  | stored stream record =>
      dsimp only
      by_cases same : other = stream
      · rw [same, Function.update_self]
        exact List.prefix_append _ _
      · rw [Function.update_of_ne same]
  | _ => exact List.prefix_rfl

section

variable {base : Nat} {stream : List Record} {connection : Connection decode args.recordBytes}
  {event : Event decode args.recordBytes}

theorem Kept.skip (kept : Kept args base stream reader)
    (aligned : Aligned base stream reader.cursor.position connection)
    (carries : connection.channel.CarriesBehind Event.text event) :
    Kept args base stream (reader.skip connection) := by
  rcases carries with ⟨rest, queued, under⟩
  have settled := aligned.settle queued
  rw [← ahead_eq queued] at settled
  exact ⟨kept.orderly.pass (Nat.le_add_right _ _), settled.inside,
    ⟨connection.settle, rfl, settled, FramedChannel.CarriesBehind.settle ⟨rest, queued, under⟩⟩,
    kept.sampled, kept.timed, by simp [Reader.skip]⟩

theorem Kept.record (kept : Kept args base stream reader)
    (aligned : Aligned base stream reader.cursor.position connection)
    (carries : connection.channel.CarriesBehind Event.text event) {record : Record}
    (first : event.records.head? = some record) (reading : Reading)
    (measured : args.measureStart ≤ reading.instant) :
    Kept args base stream (reader.record connection reading
      (MultiFanout.latencyMicros reading.wall record.sentNs.toNat)) := by
  rcases carries with ⟨rest, queued, under⟩
  have settled := aligned.settle queued
  rw [← ahead_eq queued] at settled
  have here := aligned.getElem? queued first
  have some_ : 1 ≤ connection.ahead := by
    rw [ahead_eq queued]
    cases shape : event.records with
    | nil =>
        rw [shape] at first
        cases first
    | cons other others => exact Nat.succ_le_succ (Nat.zero_le _)
  have taken := kept.orderly.take (Nat.le_succ reader.cursor.position) reading
  have further : (reader.cursor.take (reader.cursor.position + 1) reading).position ≤
      reader.cursor.position + connection.ahead := Nat.add_le_add_left some_ _
  have window : LogCursor.window reader.cursor.position (reader.cursor.position + 1) reading =
      [(reader.cursor.position, reading)] := by
    rw [LogCursor.window, Nat.add_sub_cancel_left]
    rfl
  refine ⟨taken.pass further, settled.inside,
    .inr ⟨rfl, connection.settle, rfl, settled,
      FramedChannel.CarriesBehind.settle ⟨rest, queued, under⟩⟩, ?_, ?_, by
      simp [Reader.record]⟩
  · rw [Reader.record]
    simp only [LogCursor.pass, LogCursor.take, window, List.flatMap_append, ← kept.sampled,
      List.flatMap_singleton, LogCursor.readAt, here]
    rfl
  · intro entry member
    simp only [Reader.record, LogCursor.pass, LogCursor.take, window] at member
    rcases List.mem_append.mp member with old | new
    · exact kept.timed entry old
    · rw [List.mem_singleton.mp new]
      exact ⟨measured, aligned.since⟩

theorem Fits.split (inverts : ∀ bytes, decode (Base64.encode bytes) = some bytes)
    {position idx : Nat}
    (fits : Fits.Carrying args base stream position (some connection))
    (found : findEventEnd connection.channel.buffer = some idx) :
    ∃ event : Event decode args.recordBytes,
      stampOf decode (connection.channel.buffer.take (idx + 2)) =
        event.records.head?.map (fun record => record.sentNs.toNat) ∧
      Aligned base stream position (connection.split (idx + 2)) ∧
      (connection.split (idx + 2)).channel.CarriesBehind Event.text event := by
  rcases fits with ⟨link, connected, aligned, carries⟩
  cases connected
  have ended : eventFraming.frameEnd connection.channel.buffer = some (idx + 2) :=
    Option.map_eq_some_iff.mpr ⟨idx, found, rfl⟩
  rcases carries.split Event.framed ended with ⟨event, raw, behind⟩
  refine ⟨event, ?_, ⟨aligned.since, aligned.inside, aligned.place, aligned.listed⟩, behind⟩
  rw [raw, event.stamp_eq inverts args.large]

end

theorem Kept.moved (inverts : ∀ bytes, decode (Base64.encode bytes) = some bytes)
    {base : Nat} (begins : base ≤ (shared.streams follows).length)
    (kept : Kept args base (shared.streams follows) reader)
    (moved : Moves args follows shared reader next) :
    Kept args base (next.1.streams follows) next.2 := by
  have fits := kept.fits
  have longer := moves_grows moved follows
  have grown := kept.grow longer
  cases moved with
  | ask place =>
      rw [place] at fits
      exact ⟨kept.orderly, kept.behind, ⟨fits, kept.behind, begins, le_rfl⟩, kept.sampled,
        kept.timed, by simp⟩
  | leave place =>
      rw [place] at fits
      exact ⟨kept.orderly, kept.behind, fits, kept.sampled, kept.timed, by simp⟩
  | turnedAway place =>
      rw [place] at fits
      exact ⟨kept.orderly, kept.behind, .inl ⟨rfl, fits⟩, kept.sampled, kept.timed, by simp⟩
  | close place =>
      exact ⟨kept.orderly, kept.behind, rfl, kept.sampled, kept.timed, by simp⟩
  | wait place =>
      rw [place] at fits
      exact ⟨kept.orderly, kept.behind, fits, kept.sampled, kept.timed, by simp⟩
  | drained place =>
      rw [place] at fits
      exact ⟨kept.orderly, kept.behind, fits, kept.sampled, kept.timed, by simp⟩
  | unstamped connection idx place connected found none_ =>
      rw [place, connected] at fits
      rcases Fits.split inverts fits found with ⟨event, _, aligned, carries⟩
      exact kept.skip aligned carries
  | stamp connection idx sentNs place connected found stamp =>
      rw [place, connected] at fits
      rcases Fits.split inverts fits found with ⟨event, read, aligned, carries⟩
      rw [stamp] at read
      rcases Option.map_eq_some_iff.mp read.symm with ⟨record, first, same⟩
      exact ⟨kept.orderly, kept.behind,
        ⟨connection.split (idx + 2), event, record, rfl, aligned, carries, first, same⟩,
        kept.sampled, kept.timed, by simp⟩
  | early connection sentNs place connected =>
      rw [place, connected] at fits
      rcases fits with ⟨link, event, record, same, aligned, carries, _⟩
      cases same
      exact kept.skip aligned carries
  | measured sentNs place measured =>
      rw [place] at fits
      exact ⟨kept.orderly, kept.behind, ⟨measured, fits⟩, kept.sampled, kept.timed, by simp⟩
  | record connection sentNs instant place connected =>
      rw [place, connected] at fits
      rcases fits with ⟨measured, link, event, record, same, aligned, carries, first, stamp⟩
      cases same
      rw [← stamp]
      exact kept.record aligned carries first ⟨instant, shared.wall⟩ measured
  | counted after place =>
      rw [place] at fits
      rcases fits with ⟨head, unconnected⟩ | ⟨draining, carrying⟩
      · subst head
        exact ⟨kept.orderly, kept.behind, unconnected, kept.sampled, kept.timed, by simp⟩
      · subst draining
        exact ⟨kept.orderly, kept.behind, carrying, kept.sampled, kept.timed, by simp⟩
  | carry effect effects after place =>
      rw [place] at fits
      exact ⟨kept.orderly, grown.behind, fits.grow longer, grown.sampled, kept.timed, by simp⟩
  | merge place =>
      rw [place] at fits
      exact ⟨kept.orderly, kept.behind, fits, kept.sampled, kept.timed, fun _ => rfl⟩
  | refused since place =>
      rw [place] at fits
      exact ⟨kept.orderly, kept.behind, fits.1, kept.sampled, kept.timed, by simp⟩
  | opened since start place later inside =>
      rw [place] at fits
      rcases fits with ⟨_, ahead, started, _⟩
      have further := ahead.trans later
      exact ⟨kept.orderly.pass further, inside,
        ⟨⟨.opened, start⟩, rfl, aligned_opened (started.trans later) inside,
          FramedChannel.carries_opened⟩, kept.sampled, kept.timed, by simp⟩
  | sent connection event connected stored =>
      rw [connected] at fits
      exact ⟨kept.orderly, kept.behind, fits.send stored, kept.sampled, kept.timed,
        kept.settled⟩
  | chunk connection count place connected =>
      rw [place, connected] at fits
      rcases fits with ⟨link, same, aligned, carries⟩
      cases same
      exact ⟨kept.orderly, kept.behind,
        ⟨connection.arrive count, rfl,
          ⟨aligned.since, aligned.inside, aligned.place, aligned.listed⟩, carries.arrive count⟩,
        kept.sampled, kept.timed, by simp⟩
  | tick later wall inOrder => exact kept
  | stored stream record => exact grown

end

/-! ## The whole run -/

section

variable {decode : Bytes → Option Bytes} {args : Args} {streams connections : Nat}
  {resident : Nat → List Record} {spawned : Reading}
  {state : Shared × (Fin connections → Reader decode args.recordBytes)}

theorem readers_kept (inverts : ∀ bytes, decode (Base64.encode bytes) = some bytes)
    (reachable : (readers args decode streams connections resident spawned).Reachable state) :
    ∀ idx : Fin connections,
      Kept args (resident (streamOf streams idx)).length
        (state.1.streams (streamOf streams idx)) (state.2 idx) := by
  have begins : ∀ idx : Fin connections,
      Kept args (resident (streamOf streams idx)).length (resident (streamOf streams idx))
        (startReader decode args.recordBytes) := by
    intro idx
    refine ⟨List.Sublist.refl _, Nat.zero_le _, rfl, rfl, ?_, fun _ => rfl⟩
    intro entry member
    cases member
  have kept : ∀ (idx : Fin connections) (shared : Shared)
      (reader : Reader decode args.recordBytes)
      (happening : Happening decode args.recordBytes)
      (next : Shared × Reader decode args.recordBytes),
      (∀ stream, resident stream <+: shared.streams stream) →
      Kept args (resident (streamOf streams idx)).length
        (shared.streams (streamOf streams idx)) reader →
      act args (streamOf streams idx) shared reader happening = some next →
      Grows shared next.1 ∧ (∀ stream, resident stream <+: next.1.streams stream) ∧
        Kept args (resident (streamOf streams idx)).length
          (next.1.streams (streamOf streams idx)) next.2 := by
    intro idx shared reader happening next begun kept acted
    have moved := act_moves acted
    have grows := moves_grows moved
    exact ⟨grows, fun stream => (begun stream).trans (grows stream),
      kept.moved inverts (begun _).length_le moved⟩
  have stable : ∀ (idx : Fin connections) (before after : Shared)
      (reader : Reader decode args.recordBytes), Grows before after →
      Kept args (resident (streamOf streams idx)).length
        (before.streams (streamOf streams idx)) reader →
      Kept args (resident (streamOf streams idx)).length
        (after.streams (streamOf streams idx)) reader :=
    fun _ _ _ _ grows kept => kept.grow (grows _)
  have all : (∀ stream, resident stream <+: state.1.streams stream) ∧
      ∀ idx : Fin connections, Kept args (resident (streamOf streams idx)).length
        (state.1.streams (streamOf streams idx)) (state.2 idx) :=
    crew_relies ⟨fun _ => List.prefix_rfl, begins⟩ kept stable reachable
  exact all.2

def delivered (streams : Nat)
    (state : Shared × (Fin connections → Reader decode args.recordBytes))
    (idx : Fin connections) : List Nat :=
  (state.2 idx).cursor.taken.flatMap
    (LogCursor.readAt sampleOf (state.1.streams (streamOf streams idx)))

/-- Every reader is done. -/
def Finished (state : Shared × (Fin connections → Reader decode args.recordBytes)) : Prop :=
  ∀ idx, (state.2 idx).control = .finished

theorem counter_of_finished
    (reachable : (readers args decode streams connections resident spawned).Reachable state)
    (finished : Finished state) (effect : Effect) :
    state.1.counter effect =
      effect.weight args * ∑ idx, (state.2 idx).due args.measureStart effect := by
  have conserved := crew_balances (fun shared : Shared => (shared.counter effect : ℤ))
    (fun _ reader => reader.debt args effect)
    (fun _ _ _ _ _ acted => moves_counter effect (act_moves acted)) reachable
  have none_owed : ∀ idx, (state.2 idx).debt args effect =
      -(effect.weight args * ((state.2 idx).due args.measureStart effect : ℤ)) := by
    intro idx
    rw [Reader.debt, finished idx]
    simp [owed]
  have nothing : (startReader decode args.recordBytes).debt args effect = 0 := by
    cases effect <;> simp [Reader.debt, startReader, owed, Reader.due]
  have zero : (⟨spawned.instant, spawned.wall, resident, 0, 0, 0, []⟩ : Shared).counter
      effect = 0 := by
    cases effect <;> rfl
  simp only [none_owed, nothing, zero, Finset.sum_neg_distrib, ← Finset.mul_sum,
    Finset.sum_const_zero, Nat.cast_zero, add_zero] at conserved
  have same : (state.1.counter effect : ℤ) =
      effect.weight args * ∑ idx, ((state.2 idx).due args.measureStart effect : ℤ) := by
    linarith
  exact_mod_cast same

theorem hist_of_finished (inverts : ∀ bytes, decode (Base64.encode bytes) = some bytes)
    (reachable : (readers args decode streams connections resident spawned).Reachable state)
    (finished : Finished state) :
    state.1.hist.Perm ((List.finRange connections).flatMap (delivered streams state)) := by
  rw [List.perm_iff_count]
  intro value
  have kept := readers_kept inverts reachable
  have conserved := crew_balances (Shared.inHist value) (fun _ reader => reader.histDebt value)
    (fun _ _ _ _ _ acted => moves_hist value (act_moves acted)) reachable
  have merged : ∀ idx, (state.2 idx).histDebt value =
      -((delivered streams state idx).count value : ℤ) := by
    intro idx
    rw [Reader.histDebt, (kept idx).settled (finished idx), (kept idx).sampled, delivered]
    simp
  have nothing : (startReader decode args.recordBytes).histDebt value = 0 := rfl
  simp only [merged, nothing, Shared.inHist, Finset.sum_neg_distrib, Finset.sum_const_zero,
    List.count_nil, Nat.cast_zero, add_zero] at conserved
  rw [List.count_flatMap, ← Fin.sum_univ_def]
  have same : (state.1.hist.count value : ℤ) =
      ∑ idx, ((delivered streams state idx).count value : ℤ) := by
    linarith
  exact_mod_cast same

/-- A reader counts every record that it took once. -/
theorem counted_eq_taken (inverts : ∀ bytes, decode (Base64.encode bytes) = some bytes)
    (reachable : (readers args decode streams connections resident spawned).Reachable state)
    (idx : Fin connections) :
    (state.2 idx).counted.length = (state.2 idx).cursor.taken.length := by
  have kept := readers_kept inverts reachable idx
  rw [kept.sampled]
  apply LogCursor.length_flatMap_readAt
  · intro entry member
    exact (kept.orderly.lt member).trans_le kept.behind
  · intro record reading
    rfl

/-- In every run of writers, server and readers, however their steps fall, however the bytes
are cut and wherever subscriptions end, each reader counts a record at most once, in the
order of its stream, only of those stored since the readers were spawned and none before the
measure window starts; what a subscription brings after the deadline is counted too. The
histogram holds the delivery times of these records, with one count and the bytes of one
record for each, and an error is counted for each subscription that failed since the window
started. -/
theorem sse_counts_once (inverts : ∀ bytes, decode (Base64.encode bytes) = some bytes)
    (reachable : (readers args decode streams connections resident spawned).Reachable state)
    (finished : Finished state) :
    (∀ idx, ((state.2 idx).cursor.taken.map Prod.fst).Sublist
        (List.range (state.1.streams (streamOf streams idx)).length) ∧
      ∀ entry ∈ (state.2 idx).cursor.taken, args.measureStart ≤ entry.2.instant ∧
        (resident (streamOf streams idx)).length ≤ entry.1) ∧
    state.1.hist.Perm ((List.finRange connections).flatMap (delivered streams state)) ∧
    state.1.ok = ∑ idx, (state.2 idx).cursor.taken.length ∧
    state.1.hist.length = state.1.ok ∧
    state.1.bytesTotal = args.recordBytes * state.1.ok ∧
    state.1.err = ∑ idx, (state.2 idx).turnedAway.countP
      (fun instant => decide (args.measureStart ≤ instant)) ∧
    state.1.ok ≤ ∑ idx : Fin connections,
      ((state.1.streams (streamOf streams idx)).length -
        (resident (streamOf streams idx)).length) := by
  have kept := readers_kept inverts reachable
  have hist := hist_of_finished inverts reachable finished
  have oks := counter_of_finished reachable finished .addOk
  have bytes := counter_of_finished reachable finished .addBytes
  have errs := counter_of_finished reachable finished .addErr
  have once : ∀ idx, (state.2 idx).counted.length = (state.2 idx).cursor.taken.length :=
    counted_eq_taken inverts reachable
  simp only [Shared.counter, Effect.weight, Reader.due, once, one_mul] at oks bytes errs
  have size : state.1.hist.length = state.1.ok := by
    rw [hist.length_eq, List.length_flatMap, ← Fin.sum_univ_def, oks]
    apply Finset.sum_congr rfl
    intro idx _
    rw [← once idx, (kept idx).sampled]
    rfl
  refine ⟨?_, hist, oks, size, ?_, errs, ?_⟩
  · intro idx
    exact ⟨(kept idx).orderly.trans (List.range_sublist.mpr (kept idx).behind),
      (kept idx).timed⟩
  · rw [oks]
    exact bytes
  · rw [oks]
    apply Finset.sum_le_sum
    intro idx _
    exact (kept idx).orderly.taken_le_since (kept idx).behind
      fun entry member => ((kept idx).timed entry member).2

end

/-! ## Two readers -/

def shortest : Args := ⟨100, 1000, 48, Nat.le_refl 48⟩

def loneRecord : List Record := [⟨0, 1700000000000000000⟩]

def laterRecords : List Record := [⟨1, 1700000000500000000⟩, ⟨2, 1700000000600000000⟩]

def loneText : EventFrame where
  lines := [.data true (concat 48 loneRecord)]
  oneLine := by decide +kernel

def laterText : EventFrame where
  lines :=
    [.other (ascii "event: data") eventName_noData, .data true (concat 48 laterRecords)]
  oneLine := by decide +kernel

def loneEvent : Event Base64.decode 48 :=
  .data loneRecord (List.cons_ne_nil _ _) loneText
    ⟨loneText.text.dropLast.dropLast, by decide +kernel, by decide +kernel⟩ (.inl rfl)

def laterEvent : Event Base64.decode 48 :=
  .data laterRecords (List.cons_ne_nil _ _) laterText
    ⟨laterText.text.dropLast.dropLast, by decide +kernel, by decide +kernel⟩ (.inl rfl)

def firstReader : Fin 2 := ⟨0, Nat.two_pos⟩

def secondReader : Fin 2 := ⟨1, Nat.one_lt_two⟩

def going (reader : Fin 2) (steps : Nat) : List (Fin 2 × Happening Base64.decode 48) :=
  List.replicate steps (reader, .go)

/-- The first reader gets one event in two pieces, and is cut off within the next one; it is
refused once before it subscribes again. The second reader gets both, the later one with two
records in it. -/
def cutOff : List (Fin 2 × Happening Base64.decode 48) :=
  [(firstReader, .go), (secondReader, .go), (firstReader, .opened 0),
    (secondReader, .opened 0), (firstReader, .tick 150 1700000003000000000),
    (firstReader, .stored 0 ⟨0, 1700000000000000000⟩), (firstReader, .sent loneEvent),
    (secondReader, .sent loneEvent), (firstReader, .go), (firstReader, .chunk 20)] ++
  going firstReader 2 ++ [(firstReader, .chunk 100)] ++ going firstReader 7 ++
  [(firstReader, .stored 0 ⟨1, 1700000000500000000⟩),
    (firstReader, .stored 0 ⟨2, 1700000000600000000⟩), (firstReader, .sent laterEvent),
    (secondReader, .sent laterEvent), (firstReader, .go), (firstReader, .chunk 30)] ++
  going firstReader 2 ++ [(firstReader, .ended), (firstReader, .go), (firstReader, .refused)] ++
  going firstReader 4 ++ [(firstReader, .opened 3), (secondReader, .go),
    (secondReader, .chunk 1000)] ++
  going secondReader 13 ++ [(firstReader, .tick 1000 1700000004000000000)] ++
  going firstReader 3 ++ going secondReader 3

def afterCutOff : Option (Shared × (Fin 2 → Reader Base64.decode shortest.recordBytes)) :=
  TransitionSystem.perform (fun _ _ => true)
    (crewAct fun idx => act shortest (streamOf 1 idx))
    (⟨10, 0, fun _ => [], 0, 0, 0, []⟩, fun _ => startReader Base64.decode 48) cutOff

theorem sse_counts_once_of_cutOff :
    ∃ state : Shared × (Fin 2 → Reader Base64.decode shortest.recordBytes),
      (readers shortest Base64.decode 1 2 (fun _ => []) ⟨10, 0⟩).Reachable state ∧
      Finished state ∧ state.1.ok = 3 ∧ state.1.err = 1 ∧ state.1.hist.length = state.1.ok ∧
      state.1.bytesTotal = shortest.recordBytes * state.1.ok := by
  have run : afterCutOff.map (fun state =>
      (state.1.ok, state.1.err, decide ((state.2 0).control matches .finished),
        decide ((state.2 1).control matches .finished))) = some (3, 1, true, true) := by
    decide +kernel
  rw [Option.map_eq_some_iff] at run
  rcases run with ⟨state, performed, facts⟩
  simp only [Prod.mk.injEq, decide_eq_true_eq] at facts
  rcases facts with ⟨ok, err, first, second⟩
  have reachable : (readers shortest Base64.decode 1 2 (fun _ => []) ⟨10, 0⟩).Reachable
      state :=
    TransitionSystem.reachable_of_perform (.initial rfl) performed
  have finished : Finished state := by
    rw [Finished, Fin.forall_fin_two]
    constructor
    · split at first
      · assumption
      · cases first
    · split at second
      · assumption
      · cases second
  have counts := sse_counts_once Base64.decode_encode reachable finished
  exact ⟨state, reachable, finished, ok, err, counts.2.2.2.1, counts.2.2.2.2.1⟩

end DsBench.Workloads.SseReaders
