import DsBench.Foundation.Crew
import DsBench.Foundation.LogCursor
import DsBench.Workloads.HttpReply
import DsBench.Workloads.LongPoll
import Mathlib.Algebra.BigOperators.Fin
import Mathlib.Tactic.Linarith
import Mathlib.Tactic.Ring

/-! # Long-poll readers on live streams

Writers stamp records and append them to streams, and readers wait at the ends of the
streams for what comes. A reader that has a poll refused looks for the end of its stream
again. All of them run in one process, on one clock.
-/

namespace DsBench.Workloads.LongPollReaders

open LongPoll

variable {step : UInt64}

/-- What a reader asks for: the end of the stream when the request arrives, or an offset
the server has named, here by the records before it. -/
inductive Offset where
  | now
  | at (records : Nat)
deriving DecidableEq, Repr

structure Args (step : UInt64) where
  measureStart : Nat
  deadline : Nat
  large : 8 ≤ step
  fits : step.toNat + 8 < 2 ^ 64

/-- Instants are nanoseconds since `base`. The histogram is the list of its samples. -/
structure Shared (step : UInt64) where
  now : Nat
  streams : Nat → List (Record step)
  ok : Nat
  bp : Nat
  err : Nat
  bytesTotal : Nat
  hist : List Nat

inductive Effect where
  | addOk
  | addBytes
  | addBp
  | addErr
deriving DecidableEq, Repr

/-- Where a reader is. `since` is how long the stream was when a poll was sent. -/
inductive Control where
  | probing
  | head (offset : Offset)
  | polling (offset : Offset) (since : Nat)
  | answered (body : Bytes) (next : Offset)
  | decoding (body : Bytes) (next : Offset)
  | refused (message : Text) (offset : Offset)
  | reprobing (offset : Offset)
  | counting (effects : List Effect) (after : Control)
  | panicked
  | leaving
  | finished

/-- The reader's own histogram is `samples`. The cursor notes when records were decoded,
and `counted` keeps all samples ever taken; the program has neither. -/
structure Reader where
  control : Control
  samples : List Nat
  cursor : LogCursor Nat
  counted : List Nat

/-- What the world does next where a reader is: the reader goes on, is told the end of its
stream, or has a poll answered with the records from `start` to `stop` or refused; the clock
moves; or the server stores a record. -/
inductive Happening (step : UInt64) where
  | go
  | probed (named : Option Bool)
  | polled (reply : Except Text (Nat × Nat))
  | tick (later : Nat)
  | stored (stream : Nat) (record : Record step)

/-- `lat_us.clamp(local.low(), local.high())`. -/
def clamp (latency : Nat) : Nat := max (min latency 60000000) 1

def Effect.carryOut (shared : Shared step) : Effect → Shared step
  | .addOk => { shared with ok := shared.ok + 1 }
  | .addBytes => { shared with bytesTotal := shared.bytesTotal + step.toNat }
  | .addBp => { shared with bp := shared.bp + 1 }
  | .addErr => { shared with err := shared.err + 1 }

def refusal (measureStart now : Nat) (message : Text) : List Effect :=
  let counting := decide (measureStart ≤ now)
  if contains "503".toList message || contains "429".toList message then
    if counting then [.addBp] else []
  else if counting then [.addErr]
  else []

def deliveryEffects (latencies : List UInt64) : List Effect :=
  latencies.flatMap fun _ => [.addOk, .addBytes]

variable (args : Args step)

/-- `run_reader_longpoll` going on by itself. `follows` is the reader's stream. -/
def goOn (follows : Nat) (shared : Shared step) (reader : Reader) :
    Option (Shared step × Reader) :=
  match reader.control with
  | .head offset =>
      if shared.now < args.deadline then
        some (shared, { reader with
          control := .polling offset (shared.streams follows).length })
      else some (shared, { reader with control := .leaving })
  | .answered body next =>
      if body.isEmpty then some (shared, { reader with control := .head next })
      else if args.measureStart ≤ shared.now then
        some (shared, { reader with control := .decoding body next })
      else
        -- What came too early is not decoded.
        some (shared, { reader with
          control := .head next
          cursor := reader.cursor.pass (reader.cursor.position + body.length / step.toNat) })
  | .decoding body next =>
      match decodeLongpollLatencies body step shared.now.toUInt64 with
      | .returned latencies =>
          let samples := latencies.map fun latency => clamp latency.toNat
          some (shared, {
            control := .counting (deliveryEffects latencies) (.head next)
            samples := reader.samples ++ samples
            cursor := reader.cursor.take
              (reader.cursor.position + body.length / step.toNat) shared.now
            counted := reader.counted ++ samples })
      | _ => some (shared, { reader with control := .panicked })
  | .refused message offset =>
      some (shared, { reader with
        control := .counting (refusal args.measureStart shared.now message)
          (.reprobing offset) })
  | .counting [] after => some (shared, { reader with control := after })
  | .counting (effect :: effects) after =>
      some (effect.carryOut shared, { reader with control := .counting effects after })
  | .leaving =>
      some ({ shared with hist := shared.hist ++ reader.samples },
        { reader with control := .finished, samples := [] })
  | _ => none

/-- `tail_offset(..).await.unwrap_or("now")` and what becomes of it after a refusal: an
answer that names no offset leaves `now`, and without an answer the offset stays. -/
def afterProbe (before : Offset) (tail : Nat) : Option Bool → Offset
  | none => before
  | some named => if named then .at tail else .now

/-- `long_poll_once`, whose answer names the next offset or leaves it as it was. -/
def afterPoll (offset : Offset) (body : Bytes) (header : Option Offset) : Control :=
  .answered body (header.getD offset)

def windowOf (stream : List (Record step)) (start stop : Nat) : List (Record step) :=
  (stream.drop start).take (stop - start)

def beginsAt (offset : Offset) (since start : Nat) : Bool :=
  match offset with
  | .now => decide (since ≤ start)
  | .at records => start == records

/-- A reader, the clock, the writers or the server acts. The server answers a poll with
records of the stream as it stands, from the offset asked for, and names the offset after
them. A record bears a stamp of the past. -/
def act (follows : Nat) (shared : Shared step) (reader : Reader) :
    Happening step → Option (Shared step × Reader)
  | .go => goOn args follows shared reader
  | .probed named =>
      let tail := (shared.streams follows).length
      let cursor := if named = some true then reader.cursor.pass tail else reader.cursor
      match reader.control with
      | .probing => some (shared, { reader with
          control := .head (afterProbe .now tail named), cursor := cursor })
      | .reprobing offset => some (shared, { reader with
          control := .head (afterProbe offset tail named), cursor := cursor })
      | _ => none
  | .polled reply =>
      match reader.control, reply with
      | .polling offset since, .ok (start, stop) =>
          let body := Record.body (windowOf (shared.streams follows) start stop)
          if beginsAt offset since start ∧ start ≤ stop ∧
              stop ≤ (shared.streams follows).length ∧ IsSlice body then
            some (shared, { reader with
              control := afterPoll offset body (some (.at stop))
              cursor := reader.cursor.pass start })
          else none
      | .polling offset _, .error message =>
          some (shared, { reader with control := .refused message offset })
      | _, _ => none
  | .tick later =>
      if shared.now ≤ later ∧ later < 2 ^ 64 then
        some ({ shared with now := later }, reader)
      else none
  | .stored stream record =>
      if record.stamp.toNat ≤ shared.now then
        some ({ shared with
          streams := Function.update shared.streams stream
            (shared.streams stream ++ [record]) }, reader)
      else none

/-- The stream of a reader, of `streams` in turn. -/
def streamOf (streams idx : Nat) : Nat := idx % max streams 1

def startReader : Reader := ⟨.probing, [], ⟨0, []⟩, []⟩

/-- `connections` readers on `streams` streams that start as they were when the readers
are spawned. -/
def readers (streams connections : Nat) (resident : Nat → List (Record step)) (spawned : Nat) :
    TransitionSystem (Shared step × (Fin connections → Reader)) :=
  crew (fun idx => act args (streamOf streams idx))
    (⟨spawned, resident, 0, 0, 0, 0, []⟩, fun _ => startReader)

/-! ## What a step can be -/

inductive Moves (follows : Nat) (shared : Shared step) :
    Reader → Shared step × Reader → Prop where
  | ask (offset : Offset) (samples counted : List Nat) (cursor : LogCursor Nat) :
      Moves follows shared ⟨.head offset, samples, cursor, counted⟩
        (shared, ⟨.polling offset (shared.streams follows).length, samples, cursor, counted⟩)
  | leave (offset : Offset) (samples counted : List Nat) (cursor : LogCursor Nat) :
      Moves follows shared ⟨.head offset, samples, cursor, counted⟩
        (shared, ⟨.leaving, samples, cursor, counted⟩)
  | idle (next : Offset) (samples counted : List Nat) (cursor : LogCursor Nat) :
      Moves follows shared ⟨.answered [] next, samples, cursor, counted⟩
        (shared, ⟨.head next, samples, cursor, counted⟩)
  | early (body : Bytes) (next : Offset) (samples counted : List Nat)
      (cursor : LogCursor Nat) :
      Moves follows shared ⟨.answered body next, samples, cursor, counted⟩
        (shared, ⟨.head next, samples,
          cursor.pass (cursor.position + body.length / step.toNat), counted⟩)
  | begin (body : Bytes) (next : Offset) (samples counted : List Nat)
      (cursor : LogCursor Nat) : args.measureStart ≤ shared.now →
      Moves follows shared ⟨.answered body next, samples, cursor, counted⟩
        (shared, ⟨.decoding body next, samples, cursor, counted⟩)
  | decode (body : Bytes) (next : Offset) (latencies : List UInt64)
      (samples counted : List Nat) (cursor : LogCursor Nat) :
      decodeLongpollLatencies body step shared.now.toUInt64 = .returned latencies →
      Moves follows shared ⟨.decoding body next, samples, cursor, counted⟩
        (shared, ⟨.counting (deliveryEffects latencies) (.head next),
          samples ++ latencies.map fun latency => clamp latency.toNat,
          cursor.take (cursor.position + body.length / step.toNat) shared.now,
          counted ++ latencies.map fun latency => clamp latency.toNat⟩)
  | panic (body : Bytes) (next : Offset) (samples counted : List Nat)
      (cursor : LogCursor Nat) :
      (∀ latencies, decodeLongpollLatencies body step shared.now.toUInt64 ≠
        .returned latencies) →
      Moves follows shared ⟨.decoding body next, samples, cursor, counted⟩
        (shared, ⟨.panicked, samples, cursor, counted⟩)
  | refuse (message : Text) (offset : Offset) (samples counted : List Nat)
      (cursor : LogCursor Nat) :
      Moves follows shared ⟨.refused message offset, samples, cursor, counted⟩
        (shared, ⟨.counting (refusal args.measureStart shared.now message)
          (.reprobing offset), samples, cursor, counted⟩)
  | counted (after : Control) (samples counted : List Nat) (cursor : LogCursor Nat) :
      Moves follows shared ⟨.counting [] after, samples, cursor, counted⟩
        (shared, ⟨after, samples, cursor, counted⟩)
  | carry (effect : Effect) (effects : List Effect) (after : Control)
      (samples counted : List Nat) (cursor : LogCursor Nat) :
      Moves follows shared ⟨.counting (effect :: effects) after, samples, cursor, counted⟩
        (effect.carryOut shared, ⟨.counting effects after, samples, cursor, counted⟩)
  | merge (samples counted : List Nat) (cursor : LogCursor Nat) :
      Moves follows shared ⟨.leaving, samples, cursor, counted⟩
        ({ shared with hist := shared.hist ++ samples }, ⟨.finished, [], cursor, counted⟩)
  | probed (before : Control) (offset : Offset) (named : Option Bool)
      (samples counted : List Nat) (cursor : LogCursor Nat) :
      (before = .probing ∧ offset = .now) ∨ before = .reprobing offset →
      Moves follows shared ⟨before, samples, cursor, counted⟩
        (shared, ⟨.head (afterProbe offset (shared.streams follows).length named), samples,
          if named = some true then cursor.pass (shared.streams follows).length else cursor,
          counted⟩)
  | polled (offset : Offset) (since start stop : Nat) (samples counted : List Nat)
      (cursor : LogCursor Nat) :
      beginsAt offset since start = true → start ≤ stop →
      stop ≤ (shared.streams follows).length →
      IsSlice (Record.body (windowOf (shared.streams follows) start stop)) →
      Moves follows shared ⟨.polling offset since, samples, cursor, counted⟩
        (shared, ⟨.answered (Record.body (windowOf (shared.streams follows) start stop))
          (.at stop), samples, cursor.pass start, counted⟩)
  | refused (offset : Offset) (since : Nat) (message : Text) (samples counted : List Nat)
      (cursor : LogCursor Nat) :
      Moves follows shared ⟨.polling offset since, samples, cursor, counted⟩
        (shared, ⟨.refused message offset, samples, cursor, counted⟩)
  | tick (later : Nat) (reader : Reader) : shared.now ≤ later → later < 2 ^ 64 →
      Moves follows shared reader ({ shared with now := later }, reader)
  | stored (stream : Nat) (record : Record step) (reader : Reader) :
      record.stamp.toNat ≤ shared.now →
      Moves follows shared reader
        ({ shared with
          streams := Function.update shared.streams stream
            (shared.streams stream ++ [record]) }, reader)

theorem goOn_moves {follows : Nat} {shared : Shared step} {reader : Reader}
    {next : Shared step × Reader} (acted : goOn args follows shared reader = some next) :
    Moves args follows shared reader next := by
  rcases reader with ⟨control, samples, cursor, counted⟩
  cases control with
  | head offset =>
      simp only [goOn] at acted
      split at acted
      · cases acted
        exact .ask offset samples counted cursor
      · cases acted
        exact .leave offset samples counted cursor
  | answered body following =>
      simp only [goOn] at acted
      split at acted
      · rename_i empty
        rw [List.isEmpty_iff] at empty
        cases empty
        cases acted
        exact .idle following samples counted cursor
      · split at acted
        · rename_i measured
          cases acted
          exact .begin body following samples counted cursor measured
        · cases acted
          exact .early body following samples counted cursor
  | decoding body following =>
      simp only [goOn] at acted
      split at acted
      · rename_i latencies decoded
        cases acted
        exact .decode body following latencies samples counted cursor decoded
      · rename_i other
        cases acted
        exact .panic body following samples counted cursor other
  | refused message offset =>
      cases acted
      exact .refuse message offset samples counted cursor
  | counting effects after =>
      cases effects with
      | nil =>
          cases acted
          exact .counted after samples counted cursor
      | cons effect effects =>
          cases acted
          exact .carry effect effects after samples counted cursor
  | leaving =>
      cases acted
      exact .merge samples counted cursor
  | _ => cases acted

theorem act_moves {follows : Nat} {shared : Shared step} {reader : Reader}
    {happening : Happening step} {next : Shared step × Reader}
    (acted : act args follows shared reader happening = some next) :
    Moves args follows shared reader next := by
  cases happening with
  | go => exact goOn_moves args acted
  | probed named =>
      rcases reader with ⟨control, samples, cursor, counted⟩
      cases control with
      | probing =>
          cases acted
          exact .probed .probing .now named samples counted cursor (.inl ⟨rfl, rfl⟩)
      | reprobing offset =>
          cases acted
          exact .probed (.reprobing offset) offset named samples counted cursor (.inr rfl)
      | _ => cases acted
  | polled reply =>
      rcases reader with ⟨control, samples, cursor, counted⟩
      cases control with
      | polling offset since =>
          cases reply with
          | ok window =>
              rcases window with ⟨start, stop⟩
              simp only [act] at acted
              split at acted
              · rename_i served
                rcases served with ⟨begins, ordered, inside, slice⟩
                cases acted
                exact .polled offset since start stop samples counted cursor begins ordered
                  inside slice
              · cases acted
          | error message =>
              cases acted
              exact .refused offset since message samples counted cursor
      | _ => cases acted
  | tick later =>
      rw [act] at acted
      split at acted
      · rename_i inOrder
        cases acted
        exact .tick later reader inOrder.1 inOrder.2
      · cases acted
  | stored stream record =>
      rw [act] at acted
      split at acted
      · rename_i past
        cases acted
        exact .stored stream record reader past
      · cases acted

/-! ## The counters -/

def owed (effect : Effect) : Control → Nat
  | .counting effects after => effects.count effect + owed effect after
  | _ => 0

theorem count_deliveryEffects (latencies : List UInt64) :
    (deliveryEffects latencies).count .addOk = latencies.length ∧
      (deliveryEffects latencies).count .addBytes = latencies.length := by
  induction latencies with
  | nil => exact ⟨rfl, rfl⟩
  | cons latency latencies induction =>
      have first : deliveryEffects (latency :: latencies) =
          .addOk :: .addBytes :: deliveryEffects latencies := rfl
      rw [first]
      simp [induction.1, induction.2]

theorem count_refusal (measureStart now : Nat) (message : Text) :
    (refusal measureStart now message).count .addOk = 0 ∧
      (refusal measureStart now message).count .addBytes = 0 := by
  rw [refusal]
  split
  · split
    · exact ⟨rfl, rfl⟩
    · exact ⟨rfl, rfl⟩
  · split
    · exact ⟨rfl, rfl⟩
    · exact ⟨rfl, rfl⟩

def Shared.okExcess (shared : Shared step) : ℤ := shared.ok

def Reader.okDebt (reader : Reader) : ℤ :=
  owed .addOk reader.control - reader.counted.length

def Shared.bytesExcess (shared : Shared step) : ℤ := shared.bytesTotal

def Reader.bytesDebt (size : ℤ) (reader : Reader) : ℤ :=
  size * (owed .addBytes reader.control - reader.counted.length)

def Shared.inHist (value : Nat) (shared : Shared step) : ℤ := shared.hist.count value

def Reader.histDebt (value : Nat) (reader : Reader) : ℤ :=
  reader.samples.count value - reader.counted.count value

section

variable {args} {follows : Nat} {shared : Shared step} {reader : Reader}
  {next : Shared step × Reader}

theorem moves_ok (moved : Moves args follows shared reader next) :
    next.1.okExcess + next.2.okDebt = shared.okExcess + reader.okDebt := by
  cases moved with
  | decode body following latencies samples counted cursor decoded =>
      simp only [Shared.okExcess, Reader.okDebt, owed, (count_deliveryEffects latencies).1,
        List.length_append, List.length_map]
      push_cast
      ring
  | refuse message offset samples counted cursor =>
      simp only [Shared.okExcess, Reader.okDebt, owed,
        (count_refusal args.measureStart shared.now message).1]
  | counted after samples counted cursor =>
      simp [Shared.okExcess, Reader.okDebt, owed]
  | carry effect effects after samples counted cursor =>
      cases effect with
      | addOk =>
          simp [Shared.okExcess, Reader.okDebt, owed, Effect.carryOut]
          ring
      | _ => simp [Shared.okExcess, Reader.okDebt, owed, Effect.carryOut]
  | probed before offset named samples counted cursor place =>
      rcases place with ⟨same, _⟩ | same
      · rw [same]
        rfl
      · rw [same]
        rfl
  | _ => rfl

theorem moves_bytes (moved : Moves args follows shared reader next) :
    next.1.bytesExcess + next.2.bytesDebt step.toNat =
      shared.bytesExcess + reader.bytesDebt step.toNat := by
  cases moved with
  | decode body following latencies samples counted cursor decoded =>
      simp only [Shared.bytesExcess, Reader.bytesDebt, owed,
        (count_deliveryEffects latencies).2, List.length_append, List.length_map]
      push_cast
      ring
  | refuse message offset samples counted cursor =>
      simp only [Shared.bytesExcess, Reader.bytesDebt, owed,
        (count_refusal args.measureStart shared.now message).2]
  | counted after samples counted cursor =>
      simp [Shared.bytesExcess, Reader.bytesDebt, owed]
  | carry effect effects after samples counted cursor =>
      cases effect with
      | addBytes =>
          simp [Shared.bytesExcess, Reader.bytesDebt, owed, Effect.carryOut]
          ring
      | _ => simp [Shared.bytesExcess, Reader.bytesDebt, owed, Effect.carryOut]
  | probed before offset named samples counted cursor place =>
      rcases place with ⟨same, _⟩ | same
      · rw [same]
        rfl
      · rw [same]
        rfl
  | _ => rfl

theorem moves_hist (value : Nat) (moved : Moves args follows shared reader next) :
    next.1.inHist value + next.2.histDebt value =
      shared.inHist value + reader.histDebt value := by
  cases moved with
  | decode body following latencies samples counted cursor decoded =>
      simp only [Shared.inHist, Reader.histDebt, List.count_append]
      push_cast
      ring
  | carry effect effects after samples counted cursor =>
      cases effect <;> rfl
  | merge samples counted cursor =>
      simp only [Shared.inHist, Reader.histDebt, List.count_append, List.count_nil]
      push_cast
      ring
  | _ => rfl

/-! ## The places of the readers -/

/-- An offset a reader may hold at a place, `base` being what the stream began with. -/
def Aligned (base position : Nat) (offset : Offset) : Prop :=
  offset = .now ∨ offset = .at position ∧ base ≤ position

/-- What is under way at a place agrees with the stream. -/
def Fits (base : Nat) (stream : List (Record step)) (position : Nat) : Control → Prop
  | .head offset => Aligned base position offset
  | .refused _ offset => Aligned base position offset
  | .reprobing offset => Aligned base position offset
  | .polling offset since =>
      Aligned base position offset ∧ position ≤ since ∧ base ≤ since ∧ since ≤ stream.length
  | .answered body next => Answered body next
  | .decoding body next => Answered body next
  | .counting _ after =>
      ∃ offset, (after = .head offset ∨ after = .reprobing offset) ∧
        Aligned base position offset
  | .panicked => False
  | _ => True
where
  /-- The body holds the records from the place on to where the next offset points. -/
  Answered (body : Bytes) (next : Offset) : Prop :=
    ∃ stop, next = .at stop ∧ base ≤ position ∧ position ≤ stop ∧ stop ≤ stream.length ∧
      body = Record.body (windowOf stream position stop) ∧ IsSlice body

def sampleOf (record : Record step) (received : Nat) : List Nat :=
  if record.stamp = 0 then [] else [clamp ((received - record.stamp.toNat) / 1000)]

/-- What every state keeps of a reader. -/
structure Kept (args : Args step) (base follows : Nat) (shared : Shared step)
    (reader : Reader) : Prop where
  orderly : reader.cursor.Orderly
  behind : reader.cursor.position ≤ (shared.streams follows).length
  fits : Fits base (shared.streams follows) reader.cursor.position reader.control
  begun : ∀ body next, reader.control = .decoding body next → args.measureStart ≤ shared.now
  sampled : reader.counted =
    reader.cursor.taken.flatMap (LogCursor.readAt sampleOf (shared.streams follows))
  timed : ∀ entry ∈ reader.cursor.taken, args.measureStart ≤ entry.2 ∧ base ≤ entry.1
  settled : reader.control = .finished → reader.samples = []

/-- The streams still begin with what they held at first, and what came since bears stamps
of the past. -/
structure Recent (resident : Nat → List (Record step)) (shared : Shared step) : Prop where
  clock : shared.now < 2 ^ 64
  begins : ∀ stream, resident stream <+: shared.streams stream
  stamped : ∀ (stream index : Nat) (record : Record step),
    (resident stream).length ≤ index → (shared.streams stream)[index]? = some record →
      record.stamp.toNat ≤ shared.now

structure Grows (before after : Shared step) : Prop where
  clock : before.now ≤ after.now
  streams : ∀ stream, before.streams stream <+: after.streams stream

theorem Grows.refl (shared : Shared step) : Grows shared shared :=
  ⟨le_rfl, fun _ => List.prefix_rfl⟩

theorem moves_grows (moved : Moves args follows shared reader next) :
    Grows shared next.1 := by
  cases moved with
  | carry effect effects after samples counted cursor =>
      cases effect <;> exact ⟨le_rfl, fun _ => List.prefix_rfl⟩
  | merge samples counted cursor => exact ⟨le_rfl, fun _ => List.prefix_rfl⟩
  | tick later reader inOrder => exact ⟨inOrder, fun _ => List.prefix_rfl⟩
  | stored stream record reader past =>
      refine ⟨le_rfl, ?_⟩
      intro other
      dsimp only
      by_cases same : other = stream
      · rw [same, Function.update_self]
        exact List.prefix_append _ _
      · rw [Function.update_of_ne same]
  | _ => exact .refl shared

theorem moves_recent {resident : Nat → List (Record step)}
    (recent : Recent resident shared) (moved : Moves args follows shared reader next) :
    Recent resident next.1 := by
  cases moved with
  | carry effect effects after samples counted cursor =>
      cases effect <;> exact ⟨recent.clock, recent.begins, recent.stamped⟩
  | merge samples counted cursor => exact ⟨recent.clock, recent.begins, recent.stamped⟩
  | tick later reader inOrder small =>
      refine ⟨small, recent.begins, ?_⟩
      intro stream index record later found
      exact (recent.stamped stream index record later found).trans inOrder
  | stored stream record reader past =>
      refine ⟨recent.clock, ?_, ?_⟩
      · intro other
        dsimp only
        by_cases same : other = stream
        · rw [same, Function.update_self]
          exact (recent.begins stream).trans (List.prefix_append _ _)
        · rw [Function.update_of_ne same]
          exact recent.begins other
      · intro other index found since listed
        dsimp only at listed ⊢
        by_cases same : other = stream
        · rw [same, Function.update_self] at listed
          rw [same] at since
          rcases Nat.lt_or_ge index (shared.streams stream).length with old | new
          · rw [List.getElem?_append_left old] at listed
            exact recent.stamped stream index found since listed
          · rw [List.getElem?_append_right new] at listed
            have last := List.mem_of_getElem? listed
            rw [List.mem_singleton] at last
            rw [last]
            exact past
        · rw [Function.update_of_ne same] at listed
          exact recent.stamped other index found since listed
  | _ => exact recent

/-! ## Windows -/

theorem windowOf_append {stream : List (Record step)} {start stop : Nat}
    (inside : stop ≤ stream.length) (more : List (Record step)) :
    windowOf (stream ++ more) start stop = windowOf stream start stop := by
  rw [windowOf, windowOf]
  rcases Nat.le_total start stop with ordered | backwards
  · rw [List.drop_append_of_le_length (ordered.trans inside),
      List.take_append_of_le_length (by rw [List.length_drop]; omega)]
  · rw [Nat.sub_eq_zero_of_le backwards, List.take_zero, List.take_zero]

theorem length_windowOf {stream : List (Record step)} {start stop : Nat}
    (inside : stop ≤ stream.length) : (windowOf stream start stop).length = stop - start := by
  rw [windowOf, List.length_take, List.length_drop]
  omega

theorem length_body (records : List (Record step)) :
    (Record.body records).length = records.length * step.toNat := by
  induction records with
  | nil => simp [Record.body]
  | cons record records induction =>
      have first : Record.body (record :: records) = record.bytes ++ Record.body records :=
        rfl
      rw [first, List.length_append, record.length_bytes, induction, List.length_cons,
        Nat.succ_mul, Nat.add_comm]

theorem records_of_body (args : Args step) {stream : List (Record step)} {start stop : Nat}
    (inside : stop ≤ stream.length) :
    (Record.body (windowOf stream start stop)).length / step.toNat = stop - start := by
  have large : 8 ≤ step.toNat := UInt64.le_iff_toNat_le.mp args.large
  rw [length_body, length_windowOf inside]
  exact Nat.mul_div_cancel _ (by omega)

theorem Fits.grow {base position : Nat} {stream grown : List (Record step)}
    {control : Control} (longer : stream <+: grown) (fits : Fits base stream position control) :
    Fits base grown position control := by
  have answered : ∀ body next, Fits.Answered base stream position body next →
      Fits.Answered base grown position body next := by
    intro body next holds
    rcases holds with ⟨stop, named, started, ordered, inside, same, slice⟩
    rcases longer with ⟨more, grew⟩
    refine ⟨stop, named, started, ordered, ?_, ?_, slice⟩
    · rw [← grew, List.length_append]
      omega
    · rw [same, ← grew, windowOf_append inside]
  cases control with
  | polling offset since =>
      rcases fits with ⟨aligned, ahead, started, inside⟩
      exact ⟨aligned, ahead, started, inside.trans longer.length_le⟩
  | answered body next => exact answered body next fits
  | decoding body next => exact answered body next fits
  | _ => exact fits

theorem Kept.grow {base : Nat} {after : Shared step} (grows : Grows shared after)
    (kept : Kept args base follows shared reader) : Kept args base follows after reader := by
  have longer := grows.streams follows
  refine ⟨kept.orderly, kept.behind.trans longer.length_le, kept.fits.grow longer, ?_, ?_,
    kept.timed, kept.settled⟩
  · intro body next decoding
    exact (kept.begun body next decoding).trans grows.clock
  · rcases longer with ⟨more, grew⟩
    rw [kept.sampled, ← grew]
    apply List.flatMap_congr
    intro entry member
    have inside := (kept.orderly.lt member).trans_le kept.behind
    exact (LogCursor.readAt_append sampleOf inside more).symm

/-! ## What a step keeps of a reader -/

theorem deliveries_clamped {window : List (Record step)} {now : Nat} (clock : now < 2 ^ 64)
    (past : ∀ record ∈ window, record.stamp.toNat ≤ now) :
    (deliveries now.toUInt64 (window.map Record.stamp)).map clamp =
      window.flatMap fun record => sampleOf record now := by
  have reading : now.toUInt64.toNat = now := Nat.mod_eq_of_lt clock
  induction window with
  | nil => rfl
  | cons record window induction =>
      have mine := past record List.mem_cons_self
      have theirs := induction fun other member => past other (List.mem_cons_of_mem _ member)
      have earlier : record.stamp ≤ now.toUInt64 := by
        rw [UInt64.le_iff_toNat_le, reading]
        exact mine
      rw [List.map_cons, deliveries_cons, List.map_append, List.flatMap_cons, theirs]
      congr 1
      by_cases zero : record.stamp = 0
      · simp [pushLatency, sampleOf, zero]
      · simp only [pushLatency, sampleOf, if_neg zero, if_pos (And.intro zero earlier)]
        simp [UInt64.toNat_sub_of_le _ _ earlier, reading]

theorem decoded_samples (args : Args step) {resident : Nat → List (Record step)}
    (recent : Recent resident shared) {position stop : Nat}
    (started : (resident follows).length ≤ position)
    (slice : IsSlice (Record.body (windowOf (shared.streams follows) position stop)))
    {latencies : List UInt64}
    (decoded : decodeLongpollLatencies
      (Record.body (windowOf (shared.streams follows) position stop)) step
        shared.now.toUInt64 = .returned latencies) :
    (latencies.map fun latency => clamp latency.toNat) =
      (windowOf (shared.streams follows) position stop).flatMap
        fun record => sampleOf record shared.now := by
  have decodes := (decodes_iff step shared.now.toUInt64 args.large).mpr args.fits
  have whole := decodes.records (windowOf (shared.streams follows) position stop) []
    (by decide) (by rwa [List.append_nil])
  rw [List.append_nil] at whole
  rcases whole with ⟨out, returned, delivered⟩
  rw [decoded, Decoded.returned.injEq] at returned
  cases returned
  have past : ∀ record ∈ windowOf (shared.streams follows) position stop,
      record.stamp.toNat ≤ shared.now := by
    intro record member
    rcases List.mem_iff_getElem?.mp (List.mem_of_mem_take member) with ⟨index, found⟩
    rw [List.getElem?_drop] at found
    exact recent.stamped follows (position + index) record (by omega) found
  rw [← deliveries_clamped recent.clock past, ← delivered, List.map_map]
  rfl

/-- The decoder never leaves its loop by a panic on what a poll returns. -/
theorem decodes_slice (args : Args step) (now : UInt64) {body : Bytes} (slice : IsSlice body) :
    ∃ latencies, decodeLongpollLatencies body step now = .returned latencies := by
  rcases decode_returns now args.large args.fits slice with ⟨out, returned, _⟩
  exact ⟨out, returned⟩

theorem Kept.moved {resident : Nat → List (Record step)} (recent : Recent resident shared)
    (kept : Kept args (resident follows).length follows shared reader)
    (moved : Moves args follows shared reader next) :
    Kept args (resident follows).length follows next.1 next.2 := by
  have resting := (recent.begins follows).length_le
  have grown := kept.grow (moves_grows moved)
  cases moved with
  | ask offset samples counted cursor =>
      exact ⟨kept.orderly, kept.behind, ⟨kept.fits, kept.behind, resting, le_rfl⟩, by simp,
        kept.sampled, kept.timed, by simp⟩
  | leave offset samples counted cursor =>
      exact ⟨kept.orderly, kept.behind, trivial, by simp, kept.sampled, kept.timed, by simp⟩
  | idle following samples counted cursor =>
      rcases kept.fits with ⟨stop, named, started, ordered, inside, same, _⟩
      dsimp only at named started ordered inside same
      have size := length_body (windowOf (shared.streams follows) cursor.position stop)
      rw [← same, length_windowOf inside, List.length_nil] at size
      have large : 8 ≤ step.toNat := UInt64.le_iff_toNat_le.mp args.large
      have nothing : stop = cursor.position := by
        rcases Nat.mul_eq_zero.mp size.symm with gap | none
        · omega
        · omega
      exact ⟨kept.orderly, kept.behind, .inr ⟨by rw [named, nothing], started⟩, by simp,
        kept.sampled, kept.timed, by simp⟩
  | early body following samples counted cursor =>
      rcases kept.fits with ⟨stop, named, started, ordered, inside, same, _⟩
      dsimp only at named started ordered inside same
      have landed : cursor.position + body.length / step.toNat = stop := by
        rw [same, records_of_body args inside]
        omega
      rw [landed]
      exact ⟨kept.orderly.pass ordered, inside, .inr ⟨named, started.trans ordered⟩, by simp,
        kept.sampled, kept.timed, by simp⟩
  | begin body following samples counted cursor measured =>
      exact ⟨kept.orderly, kept.behind, kept.fits, fun _ _ _ => measured, kept.sampled,
        kept.timed, by simp⟩
  | decode body following latencies samples counted cursor decoded =>
      rcases kept.fits with ⟨stop, named, started, ordered, inside, same, slice⟩
      have measured := kept.begun body following rfl
      dsimp only at named started ordered inside same
      have landed : cursor.position + body.length / step.toNat = stop := by
        rw [same, records_of_body args inside]
        omega
      rw [same] at decoded slice
      have read := decoded_samples args recent started slice decoded
      rw [landed]
      refine ⟨kept.orderly.take ordered shared.now, inside,
        ⟨following, .inl rfl, .inr ⟨named, started.trans ordered⟩⟩, by simp, ?_, ?_, by simp⟩
      · have before := kept.sampled
        dsimp only at before ⊢
        rw [LogCursor.take, List.flatMap_append, ← before, read,
          LogCursor.flatMap_window sampleOf inside]
        rfl
      · intro entry member
        rcases List.mem_append.mp member with old | new
        · exact kept.timed entry old
        · rcases List.mem_map.mp new with ⟨index, listed, made⟩
          rw [List.mem_range'_1] at listed
          cases made
          exact ⟨measured, started.trans listed.1⟩
  | panic body following samples counted cursor never =>
      rcases kept.fits with ⟨stop, _, _, _, _, _, slice⟩
      rcases decodes_slice args shared.now.toUInt64 slice with ⟨latencies, decoded⟩
      exact absurd decoded (never latencies)
  | refuse message offset samples counted cursor =>
      exact ⟨kept.orderly, kept.behind, ⟨offset, .inr rfl, kept.fits⟩, by simp, kept.sampled,
        kept.timed, by simp⟩
  | counted after samples counted cursor =>
      rcases kept.fits with ⟨offset, place, aligned⟩
      rcases place with head | reprobing
      · subst head
        exact ⟨kept.orderly, kept.behind, aligned, by simp, kept.sampled, kept.timed, by simp⟩
      · subst reprobing
        exact ⟨kept.orderly, kept.behind, aligned, by simp, kept.sampled, kept.timed, by simp⟩
  | carry effect effects after samples counted cursor =>
      exact ⟨kept.orderly, grown.behind, grown.fits, by simp, grown.sampled, kept.timed, by simp⟩
  | merge samples counted cursor =>
      exact ⟨kept.orderly, kept.behind, trivial, by simp, kept.sampled, kept.timed,
        fun _ => rfl⟩
  | probed before offset named samples counted cursor place =>
      have aligned : Aligned (resident follows).length cursor.position offset := by
        rcases place with ⟨_, now⟩ | reprobing
        · exact .inl now
        · subst reprobing
          exact kept.fits
      cases named with
      | none =>
          exact ⟨kept.orderly, kept.behind, aligned, by simp, kept.sampled, kept.timed, by simp⟩
      | some named =>
          cases named with
          | true =>
              exact ⟨kept.orderly.pass kept.behind, le_rfl, .inr ⟨rfl, resting⟩, by simp,
                kept.sampled, kept.timed, by simp⟩
          | false =>
              exact ⟨kept.orderly, kept.behind, .inl rfl, by simp, kept.sampled, kept.timed,
                by simp⟩
  | polled offset since start stop samples counted cursor begins ordered inside slice =>
      rcases kept.fits with ⟨aligned, ahead, started, listed⟩
      dsimp only at aligned ahead
      have place : cursor.position ≤ start ∧ (resident follows).length ≤ start := by
        cases offset with
        | now =>
            have later := of_decide_eq_true begins
            omega
        | «at» records =>
            have same := beq_iff_eq.mp begins
            rcases aligned with now | exact_
            · cases now
            · rcases exact_ with ⟨here, based⟩
              cases here
              omega
      exact ⟨kept.orderly.pass place.1, ordered.trans inside,
        ⟨stop, rfl, place.2, ordered, inside, rfl, slice⟩, by simp, kept.sampled, kept.timed,
        by simp⟩
  | refused offset since message samples counted cursor =>
      exact ⟨kept.orderly, kept.behind, kept.fits.1, by simp, kept.sampled, kept.timed, by simp⟩
  | tick later reader inOrder small => exact grown
  | stored stream record reader past => exact grown

end

/-! ## The whole run -/

section

variable {args} {streams connections : Nat} {resident : Nat → List (Record step)}
  {spawned : Nat} {state : Shared step × (Fin connections → Reader)}

theorem readers_kept (clock : spawned < 2 ^ 64)
    (reachable : (readers args streams connections resident spawned).Reachable state) :
    Recent resident state.1 ∧ ∀ idx : Fin connections,
      Kept args (resident (streamOf streams idx)).length (streamOf streams idx) state.1
        (state.2 idx) := by
  have recent : Recent resident (⟨spawned, resident, 0, 0, 0, 0, []⟩ : Shared step) := by
    refine ⟨clock, fun _ => List.prefix_rfl, ?_⟩
    intro stream index record beyond found
    rw [List.getElem?_eq_none beyond] at found
    cases found
  have begins : ∀ idx : Fin connections,
      Kept args (resident (streamOf streams idx)).length (streamOf streams idx)
        (⟨spawned, resident, 0, 0, 0, 0, []⟩ : Shared step) startReader := by
    intro idx
    refine ⟨List.Sublist.refl _, Nat.zero_le _, trivial, by simp [startReader], rfl, ?_,
      fun _ => rfl⟩
    intro entry member
    cases member
  have kept : ∀ (idx : Fin connections) (shared : Shared step) (reader : Reader)
      (happening : Happening step) (next : Shared step × Reader), Recent resident shared →
      Kept args (resident (streamOf streams idx)).length (streamOf streams idx) shared
        reader → act args (streamOf streams idx) shared reader happening = some next →
      Grows shared next.1 ∧ Recent resident next.1 ∧
        Kept args (resident (streamOf streams idx)).length (streamOf streams idx) next.1
          next.2 := by
    intro idx shared reader happening next recent kept acted
    have moved := act_moves args acted
    exact ⟨moves_grows moved, moves_recent recent moved, kept.moved recent moved⟩
  have stable : ∀ (idx : Fin connections) (before after : Shared step) (reader : Reader),
      Grows before after →
      Kept args (resident (streamOf streams idx)).length (streamOf streams idx) before
        reader →
      Kept args (resident (streamOf streams idx)).length (streamOf streams idx) after
        reader := fun _ _ _ _ grows kept => kept.grow grows
  exact crew_relies ⟨recent, begins⟩ kept stable reachable

def delivered (streams : Nat) (state : Shared step × (Fin connections → Reader))
    (idx : Fin connections) : List Nat :=
  (state.2 idx).cursor.taken.flatMap
    (LogCursor.readAt sampleOf (state.1.streams (streamOf streams idx)))

theorem length_delivered_le (streams : Nat)
    (state : Shared step × (Fin connections → Reader)) (idx : Fin connections) :
    (delivered streams state idx).length ≤ (state.2 idx).cursor.taken.length := by
  rw [delivered]
  generalize (state.2 idx).cursor.taken = taken
  induction taken with
  | nil => exact le_rfl
  | cons entry taken induction =>
      have single : (LogCursor.readAt sampleOf (state.1.streams (streamOf streams idx))
          entry).length ≤ 1 := by
        rw [LogCursor.readAt]
        split
        · rw [sampleOf]
          split
          · exact Nat.zero_le _
          · exact le_rfl
        · exact Nat.zero_le _
      rw [List.flatMap_cons, List.length_append, List.length_cons]
      omega

/-- Every reader is done. -/
def Finished (state : Shared step × (Fin connections → Reader)) : Prop :=
  ∀ idx, (state.2 idx).control = .finished

theorem sum_owed (finished : Finished state) (effect : Effect) :
    ∑ idx, (owed effect (state.2 idx).control : ℤ) = 0 := by
  apply Finset.sum_eq_zero
  intro idx _
  rw [finished idx]
  rfl

theorem counters_of_finished
    (reachable : (readers args streams connections resident spawned).Reachable state)
    (finished : Finished state) :
    state.1.ok = ∑ idx, (state.2 idx).counted.length ∧
      state.1.bytesTotal = step.toNat * ∑ idx, (state.2 idx).counted.length := by
  have oks := crew_conserves
    (fun _ _ _ _ _ acted => moves_ok (act_moves args acted)) reachable
  have bytes := crew_conserves
    (fun _ _ _ _ _ acted => moves_bytes (act_moves args acted)) reachable
  simp only [total, Shared.okExcess, Reader.okDebt, Finset.sum_sub_distrib,
    sum_owed finished, startReader, owed] at oks
  simp only [total, Shared.bytesExcess, Reader.bytesDebt, ← Finset.mul_sum,
    Finset.sum_sub_distrib, sum_owed finished, startReader, owed] at bytes
  simp at oks bytes
  constructor
  · have same := sub_eq_zero.mp (by linarith : (state.1.ok : ℤ) -
      ∑ idx, ((state.2 idx).counted.length : ℤ) = 0)
    exact_mod_cast same
  · have same := sub_eq_zero.mp (by linarith : (state.1.bytesTotal : ℤ) -
      step.toNat * ∑ idx, ((state.2 idx).counted.length : ℤ) = 0)
    exact_mod_cast same

theorem length_flatMap_finRange {Value : Type} (values : Fin connections → List Value) :
    ((List.finRange connections).flatMap values).length = ∑ idx, (values idx).length := by
  rw [List.length_flatMap, Fin.sum_univ_def]

theorem hist_of_finished (clock : spawned < 2 ^ 64)
    (reachable : (readers args streams connections resident spawned).Reachable state)
    (finished : Finished state) :
    state.1.hist.Perm
      ((List.finRange connections).flatMap fun idx => (state.2 idx).counted) := by
  rw [List.perm_iff_count]
  intro value
  have kept := (readers_kept clock reachable).2
  have conserved := crew_conserves
    (fun _ _ _ _ _ acted => moves_hist value (act_moves args acted)) reachable
  have merged : ∀ idx, (state.2 idx).samples = [] := fun idx =>
    (kept idx).settled (finished idx)
  simp only [total, Shared.inHist, Reader.histDebt, merged, startReader] at conserved
  simp at conserved
  rw [List.count_flatMap, ← Fin.sum_univ_def]
  have same := sub_eq_zero.mp (by linarith : (state.1.hist.count value : ℤ) -
    ∑ idx, ((state.2 idx).counted.count value : ℤ) = 0)
  exact_mod_cast same

/-- A reader takes records that were stored while it ran, from the start of the measure window
on, in their order and none twice. -/
theorem taken_of_reachable (clock : spawned < 2 ^ 64)
    (reachable : (readers args streams connections resident spawned).Reachable state)
    (idx : Fin connections) :
    ((state.2 idx).cursor.taken.map Prod.fst).Sublist
        (List.range (state.1.streams (streamOf streams idx)).length) ∧
      ∀ entry ∈ (state.2 idx).cursor.taken, args.measureStart ≤ entry.2 ∧
        (resident (streamOf streams idx)).length ≤ entry.1 := by
  have kept := (readers_kept clock reachable).2 idx
  exact ⟨kept.orderly.trans (List.range_sublist.mpr kept.behind), kept.timed⟩

theorem taken_le_stored (clock : spawned < 2 ^ 64)
    (reachable : (readers args streams connections resident spawned).Reachable state)
    (idx : Fin connections) :
    (state.2 idx).cursor.taken.length ≤
      (state.1.streams (streamOf streams idx)).length -
        (resident (streamOf streams idx)).length := by
  have kept := (readers_kept clock reachable).2 idx
  exact kept.orderly.taken_le_since kept.behind fun entry member => (kept.timed entry member).2

/-- In every run of writers, server and readers, however their steps fall, each reader
counts a record at most once, and none before the measure window starts. The deadline is
looked at before a poll, not behind it, so that what the last poll brings is counted however
late it comes. Together they count exactly the stamped records they took: the histogram holds
the delivery times of these, the bytes are so many times the record size, and there are no
more of them than records stored since the readers were spawned, for each reader. -/
theorem longpoll_counts_once (clock : spawned < 2 ^ 64)
    (reachable : (readers args streams connections resident spawned).Reachable state)
    (finished : Finished state) :
    (∀ idx, ((state.2 idx).cursor.taken.map Prod.fst).Sublist
        (List.range (state.1.streams (streamOf streams idx)).length) ∧
      ∀ entry ∈ (state.2 idx).cursor.taken, args.measureStart ≤ entry.2 ∧
        (resident (streamOf streams idx)).length ≤ entry.1) ∧
    state.1.hist.Perm ((List.finRange connections).flatMap (delivered streams state)) ∧
    state.1.ok = state.1.hist.length ∧
    state.1.bytesTotal = step.toNat * state.1.ok ∧
    state.1.ok ≤ ∑ idx : Fin connections,
      ((state.1.streams (streamOf streams idx)).length -
        (resident (streamOf streams idx)).length) := by
  have kept := (readers_kept clock reachable).2
  have counters := counters_of_finished reachable finished
  have hist := hist_of_finished clock reachable finished
  have sampled : (fun idx => (state.2 idx).counted) = delivered streams state := by
    funext idx
    exact (kept idx).sampled
  have size : state.1.hist.length = ∑ idx, (state.2 idx).counted.length := by
    rw [hist.length_eq, length_flatMap_finRange]
  refine ⟨taken_of_reachable clock reachable, by rwa [← sampled], ?_, ?_, ?_⟩
  · rw [size]
    exact counters.1
  · rw [counters.1]
    exact counters.2
  · rw [counters.1]
    apply Finset.sum_le_sum
    intro idx _
    rw [(kept idx).sampled]
    exact (length_delivered_le streams state idx).trans
      (taken_le_stored clock reachable idx)

end

/-! ## Two readers -/

def eightBytes : Args 8 := ⟨100, 1000, by decide, by decide⟩

def stamped (stamp : UInt64) : Record 8 := ⟨stamp, [], rfl⟩

def firstReader : Fin 2 := ⟨0, Nat.two_pos⟩

def secondReader : Fin 2 := ⟨1, Nat.one_lt_two⟩

/-- The first reader takes two records and has its next poll refused, the second one does
not find the end of its stream at first. -/
def refusedOnce : List (Fin 2 × Happening 8) :=
  [(firstReader, .probed (some true)), (secondReader, .probed none),
    (firstReader, .go), (secondReader, .go), (firstReader, .tick 60),
    (firstReader, .stored 0 (stamped 50)), (firstReader, .tick 120),
    (firstReader, .stored 0 (stamped 110)),
    (firstReader, .polled (.ok (0, 2))), (secondReader, .polled (.ok (1, 2))),
    (firstReader, .go), (firstReader, .go), (secondReader, .go), (secondReader, .go),
    (firstReader, .go), (firstReader, .go), (firstReader, .go), (firstReader, .go),
    (firstReader, .go), (secondReader, .go), (secondReader, .go), (secondReader, .go),
    (firstReader, .go), (firstReader, .polled (.error "long-poll status 503".toList)),
    (firstReader, .go), (firstReader, .go), (firstReader, .go),
    (firstReader, .probed (some true)), (firstReader, .tick 1000), (firstReader, .go),
    (secondReader, .go), (firstReader, .go), (secondReader, .go)]

def afterRefusedOnce : Option (Shared 8 × (Fin 2 → Reader)) :=
  TransitionSystem.perform (fun _ _ => true)
    (crewAct fun idx => act eightBytes (streamOf 1 idx))
    (⟨10, fun _ => [], 0, 0, 0, 0, []⟩, fun _ => startReader) refusedOnce

theorem longpoll_counts_once_of_refusedOnce :
    ∃ state : Shared 8 × (Fin 2 → Reader),
      (readers eightBytes 1 2 (fun _ => []) 10).Reachable state ∧ Finished state ∧
      state.1.ok = 3 ∧ state.1.bp = 1 ∧ state.1.ok = state.1.hist.length ∧
      state.1.bytesTotal = (8 : UInt64).toNat * state.1.ok := by
  have run : afterRefusedOnce.map (fun state =>
      (state.1.ok, state.1.bp, decide ((state.2 0).control matches .finished),
        decide ((state.2 1).control matches .finished))) = some (3, 1, true, true) := by
    decide +kernel
  rw [Option.map_eq_some_iff] at run
  rcases run with ⟨state, performed, facts⟩
  simp only [Prod.mk.injEq, decide_eq_true_eq] at facts
  rcases facts with ⟨ok, bp, first, second⟩
  have reachable : (readers eightBytes 1 2 (fun _ => []) 10).Reachable state :=
    TransitionSystem.reachable_of_perform (.initial rfl) performed
  have finished : Finished state := by
    rw [Finished, Fin.forall_fin_two]
    constructor
    · split at first
      · assumption
      · cases first
    · split at second
      · assumption
      · cases second
  have counts := longpoll_counts_once (by decide) reachable finished
  exact ⟨state, reachable, finished, ok, bp, counts.2.2.1, counts.2.2.2.1⟩

end DsBench.Workloads.LongPollReaders
