import DsBench.Workloads.DeliveryCount
import Mathlib.Algebra.Order.BigOperators.Group.List
import Mathlib.Data.List.Forall2

/-! # Records that share an event

A server may put several records that were appended one after another into one event. The
mixed and the reads loop count an event once, and take the send time of its first record.
-/

namespace DsBench.Workloads

/-! ## The reads loop -/

namespace Reads

structure Tally where
  ok : Nat
  err : Nat
  bytesTotal : Nat
  samples : List Nat
deriving DecidableEq, Repr

structure ReaderArgs where
  measureStart : Nat
  deadline : Nat
  recordBytes : Nat

/-- What a request for the stream comes to: a refusal, with the instant it is seen, or a
connection that the loop listens to. -/
inductive Connection where
  | refused (now : Nat)
  | opened (passes : List Pass)

/-- A turn of the outer loop, and the instant at its head. -/
structure Attempt where
  head : Nat
  connection : Connection

def Connection.passes : Connection → List Pass
  | .refused _ => []
  | .opened passes => passes

section

variable (args : ReaderArgs) (decode : Bytes → Option Bytes)

/-- The body of the inner loop of `run_sse_reader`. -/
def dealWith (tally : Tally) (event : Received) : Tally :=
  match parseSseData event.frame with
  | none => tally
  | some payload =>
      match extractSendNsMaybeB64 decode payload with
      | none => tally
      | some sentNs =>
          if event.reading.instant < args.measureStart then tally
          else
            { tally with
              ok := tally.ok + 1
              bytesTotal := tally.bytesTotal + args.recordBytes
              samples :=
                tally.samples ++ [MultiFanout.latencyMicros event.reading.wall sentNs] }

def listen (tally : Tally) (attempt : Attempt) : Tally :=
  match attempt.connection with
  | .refused now =>
      if args.measureStart ≤ now then { tally with err := tally.err + 1 } else tally
  | .opened passes =>
      ((readerRules args.deadline).received passes).foldl (dealWith args decode) tally

def made (attempts : List Attempt) : List Attempt :=
  attempts.takeWhile fun attempt => decide (attempt.head < args.deadline)

/-- `run_sse_reader`. -/
def runSseReader (attempts : List Attempt) : Tally :=
  (made args attempts).foldl (listen args decode) ⟨0, 0, 0, []⟩

def events (attempts : List Attempt) : List Received :=
  (made args attempts).flatMap fun attempt =>
    (readerRules args.deadline).received attempt.connection.passes

def measured (event : Received) : Bool := decide (args.measureStart ≤ event.reading.instant)

end

end Reads

/-! ## What the loops take from an event -/

def latencies (decode : Bytes → Option Bytes) (counted : Received → Bool)
    (events : List Received) : List Nat :=
  (events.filter counted).filterMap fun event =>
    (stampOf decode event.frame).map (MultiFanout.latencyMicros event.reading.wall)

section

variable {decode : Bytes → Option Bytes}

theorem latencies_append (counted : Received → Bool) (events more : List Received) :
    latencies decode counted (events ++ more) =
      latencies decode counted events ++ latencies decode counted more := by
  rw [latencies, List.filter_append, List.filterMap_append]
  rfl

theorem latencies_cons (counted : Received → Bool) (event : Received)
    (events : List Received) :
    latencies decode counted (event :: events) =
      latencies decode counted [event] ++ latencies decode counted events :=
  latencies_append counted [event] events

theorem Mixed.foldl_dealWith (decode : Bytes → Option Bytes) (events : List Received)
    (tally : Mixed.Tally) :
    (events.foldl (Mixed.dealWith decode) tally).received =
        tally.received + (latencies decode (fun _ => true) events).length ∧
      (events.foldl (Mixed.dealWith decode) tally).samples =
        tally.samples ++ latencies decode (fun _ => true) events := by
  induction events generalizing tally with
  | nil => exact ⟨rfl, (List.append_nil _).symm⟩
  | cons event events induction =>
      rcases induction (Mixed.dealWith decode tally event) with ⟨counted, recorded⟩
      rw [List.foldl_cons, counted, recorded, latencies_cons, List.length_append,
        Mixed.dealWith]
      cases stamp : stampOf decode event.frame with
      | none =>
          have passes : latencies decode (fun _ => true) [event] = [] := by
            simp [latencies, stamp]
          rw [passes]
          simp only
          split
          · simp
          · simp
      | some sentNs =>
          have taken : latencies decode (fun _ => true) [event] =
              [MultiFanout.latencyMicros event.reading.wall sentNs] := by
            simp [latencies, stamp]
          rw [taken]
          simp [Nat.add_assoc]

theorem Reads.dealWith_spec (args : Reads.ReaderArgs) (decode : Bytes → Option Bytes)
    (tally : Reads.Tally) (event : Received) :
    (Reads.dealWith args decode tally event).ok =
        tally.ok + (latencies decode (Reads.measured args) [event]).length ∧
      (Reads.dealWith args decode tally event).samples =
        tally.samples ++ latencies decode (Reads.measured args) [event] := by
  rw [Reads.dealWith, latencies]
  by_cases early : event.reading.instant < args.measureStart
  · have uncounted : Reads.measured args event = false := by
      rw [Reads.measured, decide_eq_false_iff_not]
      omega
    simp only [List.filter_cons, uncounted, if_pos early]
    cases parsed : parseSseData event.frame with
    | none => simp
    | some payload =>
        cases stamp : extractSendNsMaybeB64 decode payload with
        | none => simp [stamp]
        | some sentNs => simp [stamp]
  · have counted : Reads.measured args event = true := by
      rw [Reads.measured, decide_eq_true_iff]
      omega
    simp only [List.filter_cons, counted, if_neg early]
    cases parsed : parseSseData event.frame with
    | none => simp [stampOf, parsed]
    | some payload =>
        cases stamp : extractSendNsMaybeB64 decode payload with
        | none => simp [stampOf, parsed, stamp]
        | some sentNs => simp [stampOf, parsed, stamp]

theorem Reads.foldl_dealWith (args : Reads.ReaderArgs) (decode : Bytes → Option Bytes)
    (events : List Received) (tally : Reads.Tally) :
    (events.foldl (Reads.dealWith args decode) tally).ok =
        tally.ok + (latencies decode (Reads.measured args) events).length ∧
      (events.foldl (Reads.dealWith args decode) tally).samples =
        tally.samples ++ latencies decode (Reads.measured args) events := by
  induction events generalizing tally with
  | nil => exact ⟨rfl, (List.append_nil _).symm⟩
  | cons event events induction =>
      rcases Reads.dealWith_spec args decode tally event with ⟨one, sample⟩
      rcases induction (Reads.dealWith args decode tally event) with ⟨counted, recorded⟩
      rw [List.foldl_cons, counted, recorded, one, sample, latencies_cons _ event events,
        List.length_append, Nat.add_assoc, List.append_assoc]
      exact ⟨rfl, rfl⟩

theorem Reads.runSseReader_eq (args : Reads.ReaderArgs) (decode : Bytes → Option Bytes)
    (attempts : List Reads.Attempt) :
    (Reads.runSseReader args decode attempts).ok =
        (latencies decode (Reads.measured args) (Reads.events args attempts)).length ∧
      (Reads.runSseReader args decode attempts).samples =
        latencies decode (Reads.measured args) (Reads.events args attempts) := by
  have onwards : ∀ (made : List Reads.Attempt) (tally : Reads.Tally),
      (made.foldl (Reads.listen args decode) tally).ok =
          tally.ok + (latencies decode (Reads.measured args) (made.flatMap fun attempt =>
            (readerRules args.deadline).received attempt.connection.passes)).length ∧
        (made.foldl (Reads.listen args decode) tally).samples =
          tally.samples ++ latencies decode (Reads.measured args) (made.flatMap fun attempt =>
            (readerRules args.deadline).received attempt.connection.passes) := by
    intro made
    induction made with
    | nil =>
        intro tally
        exact ⟨rfl, (List.append_nil _).symm⟩
    | cons attempt made induction =>
        intro tally
        rcases induction (Reads.listen args decode tally attempt) with ⟨counted, recorded⟩
        rw [List.foldl_cons, counted, recorded, List.flatMap_cons, latencies_append,
          List.length_append, ← Nat.add_assoc, ← List.append_assoc, Reads.listen]
        cases attempt.connection with
        | refused now =>
            simp only
            split
            · simp [Reads.Connection.passes, LoopRules.received, LoopRules.chunks,
                receivedAfter, latencies]
            · simp [Reads.Connection.passes, LoopRules.received, LoopRules.chunks,
                receivedAfter, latencies]
        | opened passes =>
            rcases Reads.foldl_dealWith args decode
              ((readerRules args.deadline).received passes) tally with ⟨counts, records⟩
            simp only
            rw [counts, records]
            exact ⟨rfl, rfl⟩
  have all := onwards (Reads.made args attempts) ⟨0, 0, 0, []⟩
  rw [Nat.zero_add, List.nil_append] at all
  exact all

end

/-! ## What a server sends -/

structure StampedRecord where
  seq : UInt64
  sentNs : BitVec 128
  size : Nat
  large : 49 ≤ size

namespace StampedRecord

def payload (record : StampedRecord) : Bytes :=
  buildPayload record.seq record.sentNs record.size

def concat (records : List StampedRecord) : Bytes := (records.map payload).flatten

theorem concat_cons (record : StampedRecord) (records : List StampedRecord) :
    concat (record :: records) = record.payload ++ concat records := rfl

theorem mem_concat {records : List StampedRecord} {byte : UInt8}
    (member : byte ∈ concat records) :
    (∃ digit < 16, byte = hexByte digit) ∨ byte = 32 ∨ byte = 46 := by
  rcases List.mem_flatten.mp member with ⟨bytes, inside, inBytes⟩
  rcases List.mem_map.mp inside with ⟨record, _, same⟩
  rw [← same] at inBytes
  exact mem_buildPayload (Nat.le_of_succ_le record.large) inBytes

theorem extractSendNs_concat (record : StampedRecord) (records : List StampedRecord) :
    extractSendNs (concat (record :: records)) = some record.sentNs.toNat := by
  have found := extractSendNs_payload record.seq record.sentNs
    (Nat.le_of_succ_le record.large) passedOver_nil (concat records)
  rw [List.nil_append] at found
  rw [concat_cons, payload, found]

end StampedRecord

/-- An event that carries records that were appended one after another: as they are on one
data line, or in base64 over any data lines. -/
structure DataFrame where
  records : List StampedRecord
  nonempty : records ≠ []
  event : EventFrame
  whole : IsEvent event.text
  carries : event.contents = [StampedRecord.concat records] ∨
    event.contents.flatten = Base64.encode (StampedRecord.concat records)

/-- What a server sends: records, or an event without a send time. -/
inductive Sent (decode : Bytes → Option Bytes) where
  | data (frame : DataFrame)
  | other (text : Bytes) (whole : IsEvent text)
      (unstamped : stampOf decode text = none)

namespace Sent

variable {decode : Bytes → Option Bytes}

def text : Sent decode → Bytes
  | .data frame => frame.event.text
  | .other text _ _ => text

def records : Sent decode → List StampedRecord
  | .data frame => frame.records
  | .other _ _ _ => []

theorem isEvent_text (sent : Sent decode) : IsEvent sent.text := by
  cases sent with
  | data frame => exact frame.whole
  | other text whole unstamped => exact whole

theorem stamp_eq (inverts : ∀ bytes, decode (Base64.encode bytes) = some bytes)
    (sent : Sent decode) :
    stampOf decode sent.text = sent.records.head?.map fun record => record.sentNs.toNat := by
  cases sent with
  | other text whole unstamped => exact unstamped
  | data frame =>
      cases shape : frame.records with
      | nil => exact (frame.nonempty shape).elim
      | cons record records =>
          have carries := frame.carries
          rw [shape] at carries
          have here : (Sent.data frame : Sent decode).records = record :: records := shape
          rw [here, List.head?_cons, Option.map_some, text, stampOf]
          rcases carries with raw | encoded
          · apply timestamp_raw decode record.seq record.sentNs
              (Nat.le_of_succ_le record.large) passedOver_nil
            rw [List.nil_append]
            exact raw
          · have stamp := StampedRecord.extractSendNs_concat record records
            have some_bytes : StampedRecord.concat (record :: records) ≠ [] := by
              intro empty
              rw [empty] at stamp
              cases stamp
            rw [extract_base64 inverts some_bytes (fun _ => StampedRecord.mem_concat) encoded,
              stamp]

end Sent

/-- A loop takes in these events whole, and at most the beginning of one more. -/
def LoopRules.TakesIn {decode : Bytes → Option Bytes} (rules : LoopRules)
    (passes : List Pass) (sent : List (Sent decode)) : Prop :=
  ∃ cut, ¬ blankLine <:+: cut ∧
    rules.bytes passes = (sent.map Sent.text).flatten ++ cut

def recordLatencies {decode : Bytes → Option Bytes} (counted : Received → Bool)
    (deliveries : List (Received × Sent decode)) : List Nat :=
  (deliveries.filter fun delivery => counted delivery.1).flatMap fun delivery =>
    delivery.2.records.map fun record =>
      MultiFanout.latencyMicros delivery.1.reading.wall record.sentNs.toNat

/-- Every event that is counted carries one record, if it carries any. -/
def OneEach {decode : Bytes → Option Bytes} (counted : Received → Bool)
    (deliveries : List (Received × Sent decode)) : Prop :=
  ∀ delivery ∈ deliveries, counted delivery.1 = true → ∀ frame, delivery.2 = .data frame →
    frame.records.length = 1

section

variable {decode : Bytes → Option Bytes}

theorem LoopRules.TakesIn.received {rules : LoopRules} {passes : List Pass}
    {sent : List (Sent decode)} (takesIn : rules.TakesIn passes sent) :
    List.Forall₂ (fun event sent => event.frame = sent.text) (rules.received passes) sent := by
  rcases takesIn with ⟨cut, unfinished, arrives⟩
  have frames : (rules.received passes).map Received.frame = sent.map Sent.text := by
    apply LoopRules.received_events _ unfinished arrives
    intro frame member
    rcases List.mem_map.mp member with ⟨source, _, same⟩
    rw [← same]
    exact source.isEvent_text
  have same : List.Forall₂ (fun frame text => frame = text)
      ((rules.received passes).map Received.frame) (sent.map Sent.text) := by
    rw [frames]
    exact List.forall₂_refl _
  exact List.forall₂_map_right_iff.mp (List.forall₂_map_left_iff.mp same)

theorem latencies_zip (inverts : ∀ bytes, decode (Base64.encode bytes) = some bytes)
    (counted : Received → Bool) {events : List Received} {sent : List (Sent decode)}
    (arrived : List.Forall₂ (fun event sent => event.frame = sent.text) events sent) :
    latencies decode counted events =
      ((events.zip sent).filter fun delivery => counted delivery.1).flatMap fun delivery =>
        (delivery.2.records.map fun record =>
          MultiFanout.latencyMicros delivery.1.reading.wall record.sentNs.toNat).take 1 := by
  induction arrived with
  | nil => rfl
  | @cons event sent events rest same _ induction =>
      rw [latencies_cons, induction, List.zip_cons_cons, List.filter_cons]
      have stamp := sent.stamp_eq inverts
      rw [← same] at stamp
      cases counts : counted event with
      | false => simp [latencies, counts]
      | true =>
          rw [if_pos rfl, List.flatMap_cons]
          congr 1
          cases shape : sent.records with
          | nil =>
              rw [shape] at stamp
              simp [latencies, counts, stamp]
          | cons record records =>
              rw [shape] at stamp
              simp [latencies, counts, stamp]

theorem length_flatMap_take_iff {Source Item : Type} (items : Source → List Item)
    (sources : List Source) :
    (sources.flatMap fun source => (items source).take 1).length =
        (sources.flatMap items).length ↔
      ∀ source ∈ sources, (items source).length ≤ 1 := by
  induction sources with
  | nil => simp
  | cons source sources induction =>
      have fewer : (sources.flatMap fun source => (items source).take 1).length ≤
          (sources.flatMap items).length := by
        rw [List.length_flatMap, List.length_flatMap]
        apply List.sum_le_sum
        intro other _
        exact List.length_take_le' 1 (items other)
      rw [List.forall_mem_cons, ← induction, List.flatMap_cons, List.flatMap_cons,
        List.length_append, List.length_append, List.length_take]
      omega

/-- The loops count and time every record just when no event that is counted carries
two. -/
theorem complete_iff (inverts : ∀ bytes, decode (Base64.encode bytes) = some bytes)
    (counted : Received → Bool) {events : List Received} {sent : List (Sent decode)}
    (arrived : List.Forall₂ (fun event sent => event.frame = sent.text) events sent) :
    ((latencies decode counted events).length =
          (recordLatencies counted (events.zip sent)).length ∧
        latencies decode counted events = recordLatencies counted (events.zip sent)) ↔
      OneEach counted (events.zip sent) := by
  have single : OneEach counted (events.zip sent) ↔
      ∀ delivery ∈ (events.zip sent).filter fun delivery => counted delivery.1,
        (delivery.2.records.map fun record => MultiFanout.latencyMicros
          delivery.1.reading.wall record.sentNs.toNat).length ≤ 1 := by
    constructor
    · intro one delivery member
      rcases List.mem_filter.mp member with ⟨inside, counts⟩
      rw [List.length_map]
      cases same : delivery.2 with
      | data frame => exact Nat.le_of_eq (one delivery inside counts frame same)
      | other text whole unstamped => exact Nat.zero_le 1
    · intro short delivery inside counts frame same
      have few := short delivery (List.mem_filter.mpr ⟨inside, counts⟩)
      have positive := List.length_pos_of_ne_nil frame.nonempty
      rw [List.length_map, same] at few
      exact Nat.le_antisymm few positive
  rw [single, latencies_zip inverts counted arrived, recordLatencies,
    ← length_flatMap_take_iff]
  constructor
  · intro both
    exact both.1
  · intro lengths
    refine ⟨lengths, ?_⟩
    apply List.flatMap_congr
    intro delivery member
    have short := (length_flatMap_take_iff _ _).mp lengths delivery member
    exact List.take_of_length_le short

def deliveredRecords (counted : Received → Bool)
    (deliveries : List (Received × Sent decode)) : List StampedRecord :=
  (deliveries.filter fun delivery => counted delivery.1).flatMap fun delivery =>
    delivery.2.records

theorem length_deliveredRecords (counted : Received → Bool)
    (deliveries : List (Received × Sent decode)) :
    (deliveredRecords counted deliveries).length =
      (recordLatencies counted deliveries).length := by
  rw [deliveredRecords, recordLatencies, List.length_flatMap, List.length_flatMap]
  simp only [List.length_map]

theorem deliveredRecords_all {events : List Received} {sent : List (Sent decode)}
    (arrived : List.Forall₂ (fun event sent => event.frame = sent.text) events sent) :
    deliveredRecords (fun _ => true) (events.zip sent) = sent.flatMap Sent.records := by
  have all : (events.zip sent).map Prod.snd = sent :=
    List.map_snd_zip (Nat.le_of_eq arrived.length_eq.symm)
  rw [deliveredRecords, List.filter_true, ← List.flatMap_map, all]

theorem oneEach_all {events : List Received} {sent : List (Sent decode)}
    (arrived : List.Forall₂ (fun event sent => event.frame = sent.text) events sent) :
    OneEach (fun _ => true) (events.zip sent) ↔
      ∀ frame, Sent.data frame ∈ sent → frame.records.length = 1 := by
  have all : (events.zip sent).map Prod.snd = sent :=
    List.map_snd_zip (Nat.le_of_eq arrived.length_eq.symm)
  constructor
  · intro one frame member
    rw [← all] at member
    rcases List.mem_map.mp member with ⟨delivery, inside, same⟩
    exact one delivery inside rfl frame same
  · intro one delivery inside _ frame same
    apply one frame
    rw [← same, ← all]
    exact List.mem_map_of_mem inside

theorem Reads.events_arrived {args : Reads.ReaderArgs} {attempts : List Reads.Attempt}
    {sent : List (List (Sent decode))}
    (takesIn : List.Forall₂ (fun attempt sent =>
      (readerRules args.deadline).TakesIn attempt.connection.passes sent)
        (Reads.made args attempts) sent) :
    List.Forall₂ (fun event sent => event.frame = sent.text)
      (Reads.events args attempts) sent.flatten := by
  rw [Reads.events]
  generalize Reads.made args attempts = made at takesIn
  induction takesIn with
  | nil => exact .nil
  | cons here _ induction =>
      rw [List.flatMap_cons, List.flatten_cons]
      exact List.rel_append here.received induction

/-- The mixed loop counts and times every record just when no event carries two; the reads
loop, every record from the start of the measure window on, just when no event from there
on does. -/
theorem counts_every_record_iff (decode : Bytes → Option Bytes)
    (inverts : ∀ bytes, decode (Base64.encode bytes) = some bytes) :
    (∀ (idle : Nat) (passes : List Pass) (sent : List (Sent decode)),
      (subscriberRules idle).TakesIn passes sent →
        ((Mixed.runSubscriberTask idle decode passes).received =
              (sent.flatMap Sent.records).length ∧
            (Mixed.runSubscriberTask idle decode passes).samples =
              recordLatencies (fun _ => true)
                (((subscriberRules idle).received passes).zip sent) ↔
          ∀ frame, Sent.data frame ∈ sent → frame.records.length = 1)) ∧
      ∀ (args : Reads.ReaderArgs) (attempts : List Reads.Attempt)
          (sent : List (List (Sent decode))),
        List.Forall₂ (fun attempt sent =>
          (readerRules args.deadline).TakesIn attempt.connection.passes sent)
            (Reads.made args attempts) sent →
          ((Reads.runSseReader args decode attempts).ok =
                (deliveredRecords (Reads.measured args)
                  ((Reads.events args attempts).zip sent.flatten)).length ∧
              (Reads.runSseReader args decode attempts).samples =
                recordLatencies (Reads.measured args)
                  ((Reads.events args attempts).zip sent.flatten) ↔
            OneEach (Reads.measured args)
              ((Reads.events args attempts).zip sent.flatten)) := by
  constructor
  · intro idle passes sent takesIn
    have arrived := takesIn.received
    rcases Mixed.foldl_dealWith decode ((subscriberRules idle).received passes)
      ⟨0, 0, []⟩ with ⟨counted, recorded⟩
    rw [Nat.zero_add] at counted
    rw [List.nil_append] at recorded
    rw [Mixed.runSubscriberTask, counted, recorded, ← deliveredRecords_all arrived,
      length_deliveredRecords, complete_iff inverts _ arrived, oneEach_all arrived]
  · intro args attempts sent takesIn
    rcases Reads.runSseReader_eq args decode attempts with ⟨counted, recorded⟩
    rw [counted, recorded, length_deliveredRecords,
      complete_iff inverts _ (Reads.events_arrived takesIn)]

end

/-! ## Two records in an event -/

def loneFrame : DataFrame where
  records := [⟨7, 1700000000000000000, 64, by decide⟩]
  nonempty := List.cons_ne_nil _ _
  event := splitFrame
  whole := ⟨splitFrame.text.dropLast.dropLast, by decide +kernel, by decide +kernel⟩
  carries := .inr (by decide +kernel)

def loneRun : List Pass :=
  [⟨none, 0, .chunk (splitFrame.text.take 30) fun _ => ⟨0, 0⟩⟩,
    ⟨none, 0, .chunk (splitFrame.text.drop 30) fun _ => ⟨1, 1700000003000000000⟩⟩]

def thirtySeconds : Reads.ReaderArgs := ⟨0, MultiFanout.seconds 30, 64⟩

theorem loneFrame_counted :
    (Mixed.runSubscriberTask 10 Base64.decode loneRun).received = 1 ∧
      (Reads.runSseReader thirtySeconds Base64.decode [⟨0, .opened loneRun⟩]).samples =
        [3000000] := by
  rcases counts_every_record_iff Base64.decode Base64.decode_encode with ⟨mixed, reads⟩
  constructor
  · have takesIn : (subscriberRules 10).TakesIn loneRun
        [(.data loneFrame : Sent Base64.decode)] :=
      ⟨[], by decide, by decide +kernel⟩
    have one : ∀ frame, (Sent.data frame : Sent Base64.decode) ∈ [.data loneFrame] →
        frame.records.length = 1 := by
      intro frame member
      cases List.mem_singleton.mp member
      rfl
    exact ((mixed 10 loneRun _ takesIn).mpr one).1
  · have takesIn : List.Forall₂ (fun (attempt : Reads.Attempt) sent =>
        (readerRules thirtySeconds.deadline).TakesIn attempt.connection.passes sent)
          (Reads.made thirtySeconds [⟨0, .opened loneRun⟩])
          [[(.data loneFrame : Sent Base64.decode)]] :=
      .cons ⟨[], by decide, by decide +kernel⟩ .nil
    have one : OneEach (Reads.measured thirtySeconds)
        ((Reads.events thirtySeconds [⟨0, .opened loneRun⟩]).zip
          [[(.data loneFrame : Sent Base64.decode)]].flatten) := by
      intro delivery member _ frame same
      have inside := (List.of_mem_zip member).2
      rw [same] at inside
      cases List.mem_singleton.mp inside
      rfl
    have recorded := ((reads thirtySeconds [⟨0, .opened loneRun⟩] _ takesIn).mpr one).2
    rw [recorded]
    decide +kernel

def pairRecords : List StampedRecord :=
  [⟨7, 1700000000000000000, 49, by decide⟩, ⟨8, 1700000000500000000, 49, by decide⟩]

theorem eventName_noData : (ascii "data:").isPrefixOf (ascii "event: data") = false := rfl

def pairEvent : EventFrame where
  lines :=
    [.other (ascii "event: data") eventName_noData,
      .data true (StampedRecord.concat pairRecords)]
  oneLine := by decide +kernel

def pairFrame : DataFrame where
  records := pairRecords
  nonempty := List.cons_ne_nil _ _
  event := pairEvent
  whole := ⟨pairEvent.text.dropLast.dropLast, by decide +kernel, by decide +kernel⟩
  carries := .inl rfl

def pairRun : List Pass :=
  [⟨none, 0, .chunk pairFrame.event.text fun _ => ⟨1, 1700000003000000000⟩⟩]

/-- Both loops count one delivery for the two records. -/
theorem pairFrame_counted_once :
    pairFrame.records.length = 2 ∧
      (Mixed.runSubscriberTask 10 Base64.decode pairRun).received ≠ 2 ∧
      (Reads.runSseReader thirtySeconds Base64.decode [⟨0, .opened pairRun⟩]).ok ≠ 2 := by
  decide +kernel

end DsBench.Workloads
