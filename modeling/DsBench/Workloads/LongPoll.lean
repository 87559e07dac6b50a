import DsBench.Foundation.LittleEndian
import DsBench.Foundation.Strides
import Mathlib.Data.List.Forall2

/-! # Long-poll reads

A long-poll reader takes the latencies of the records that a body brings out of the send
stamps at the record size's stride. Indices are machine words: where one wraps, the next
slice has its end before its start.
-/

namespace DsBench.Workloads.LongPoll

inductive Decoded where
  | returned (latencies : List UInt64)
  | panicked
  | looping
deriving DecidableEq, Repr

/-- `u64::from_le_bytes`. -/
def fromLeBytes (bytes : Bytes) : UInt64 := (leNumber bytes).toUInt64

def pushLatency (nowNs : UInt64) (out : List UInt64) (ts : UInt64) : List UInt64 :=
  if ts ≠ 0 ∧ ts ≤ nowNs then out ++ [(nowNs - ts) / 1000] else out

/-- The loop of `decode_longpoll_latencies` at index `i`, for a number of turns. -/
def decodeLoop (body : Bytes) (step nowNs : UInt64) :
    (turns : Nat) → (i : UInt64) → (out : List UInt64) → Decoded
  | 0, _, _ => .looping
  | turns + 1, i, out =>
      if (i + 8).toNat ≤ body.length then
        if i ≤ i + 8 then
          let ts := fromLeBytes ((body.drop i.toNat).take 8)
          decodeLoop body step nowNs turns (i + step) (pushLatency nowNs out ts)
        else .panicked
      else .returned out

/-- `decode_longpoll_latencies`. It takes at most one turn more than there are bytes. -/
def decodeLongpollLatencies (body : Bytes) (step nowNs : UInt64) : Decoded :=
  decodeLoop body (max step 8) nowNs (body.length + 1) 0 []

/-! ## What a body holds -/

def IsSlice (body : Bytes) : Prop := body.length < 2 ^ 63

instance (body : Bytes) : Decidable (IsSlice body) := inferInstanceAs (Decidable (_ < _))

/-- The latencies of the stamps that are plausible past instants, in whole
microseconds. -/
def deliveries (nowNs : UInt64) (stamps : List UInt64) : List Nat :=
  (stamps.filter fun ts => 0 < ts ∧ ts ≤ nowNs).map fun ts =>
    (nowNs.toNat - ts.toNat) / 1000

/-- The call returns these latencies. -/
def Decoded.Returns (decoded : Decoded) (latencies : List Nat) : Prop :=
  ∃ out, decoded = .returned out ∧ out.map UInt64.toNat = latencies

structure Record (step : UInt64) where
  stamp : UInt64
  rest : Bytes
  full : 8 + rest.length = step.toNat

namespace Record

variable {step : UInt64}

def bytes (record : Record step) : Bytes := leBytes 8 record.stamp.toNat ++ record.rest

def body (records : List (Record step)) : Bytes := (records.map bytes).flatten

theorem length_bytes (record : Record step) : record.bytes.length = step.toNat := by
  rw [bytes, List.length_append, length_leBytes, record.full]

theorem fromLeBytes_bytes (record : Record step) :
    fromLeBytes (record.bytes.take 8) = record.stamp := by
  have field : record.bytes.take 8 = leBytes 8 record.stamp.toNat := by
    rw [bytes, List.take_append_of_le_length (by simp)]
    exact List.take_of_length_le (by simp)
  have small := record.stamp.toNat_lt
  rw [fromLeBytes, field, leNumber_leBytes, Nat.mod_eq_of_lt (by omega)]
  simp

end Record

def layout (step : UInt64) (large : 8 ≤ step) : RecordLayout :=
  ⟨step.toNat, 8, by decide, UInt64.le_iff_toNat_le.mp large⟩

def stamps (step : UInt64) (large : 8 ≤ step) (body : Bytes) : List UInt64 :=
  ((layout step large).windows body).map fromLeBytes

section

variable {step : UInt64} (large : 8 ≤ step)

theorem stamps_records (records : List (Record step)) (tail : Bytes)
    (short : tail.length < 8) :
    stamps step large (Record.body records ++ tail) = records.map Record.stamp := by
  have full : ∀ record ∈ records.map Record.bytes,
      record.length = (layout step large).stride := by
    intro bytes member
    rcases List.mem_map.mp member with ⟨record, _, same⟩
    rw [← same]
    exact record.length_bytes
  rw [stamps, Record.body, RecordLayout.windows_records _ _ _ full,
    RecordLayout.windows_short _ short, List.append_nil, List.map_map, List.map_map]
  apply List.map_congr_left
  intro record _
  exact record.fromLeBytes_bytes

end

/-! ## The loop -/

theorem deliveries_cons (nowNs ts : UInt64) (stamps : List UInt64) :
    deliveries nowNs (ts :: stamps) =
      (pushLatency nowNs [] ts).map UInt64.toNat ++ deliveries nowNs stamps := by
  have positive : 0 < ts ↔ ts ≠ 0 := UInt64.pos_iff_ne_zero
  by_cases past : ts ≠ 0 ∧ ts ≤ nowNs
  · simp [deliveries, pushLatency, positive, past, UInt64.toNat_sub_of_le]
  · simp [deliveries, pushLatency, positive, past]

theorem pushLatency_eq (nowNs : UInt64) (out : List UInt64) (ts : UInt64) :
    pushLatency nowNs out ts = out ++ pushLatency nowNs [] ts := by
  rw [pushLatency, pushLatency]
  split <;> simp

structure InRange (step i : UInt64) : Prop where
  room : i.toNat + 8 < 2 ^ 64
  first : i = 0 ∨ step ≤ i

theorem InRange.window {step i : UInt64} (range : InRange step i) :
    (i + 8).toNat = i.toNat + 8 := by
  rw [UInt64.toNat_add]
  exact Nat.mod_eq_of_lt range.room

theorem InRange.next {body : Bytes} {step i : UInt64} (slice : IsSlice body)
    (fits : step.toNat + 8 < 2 ^ 64) (range : InRange step i)
    (inside : i.toNat + 8 ≤ body.length) :
    (i + step).toNat = i.toNat + step.toNat ∧ InRange step (i + step) := by
  rw [IsSlice] at slice
  have below : i.toNat + step.toNat + 8 < 2 ^ 64 := by
    rcases range.first with start | later
    · subst start
      simpa using fits
    · have least := UInt64.le_iff_toNat_le.mp later
      omega
  have sum : (i + step).toNat = i.toNat + step.toNat := by
    rw [UInt64.toNat_add]
    exact Nat.mod_eq_of_lt (by omega)
  refine ⟨sum, by omega, .inr ?_⟩
  rw [UInt64.le_iff_toNat_le]
  omega

theorem decodeLoop_stops {body : Bytes} {step i : UInt64} (nowNs : UInt64)
    (large : 8 ≤ step) (range : InRange step i) (outside : ¬ i.toNat + 8 ≤ body.length)
    (turns : Nat) (out : List UInt64) :
    decodeLoop body step nowNs (turns + 1) i out = .returned out ∧
      stamps step large (body.drop i.toNat) = [] := by
  constructor
  · rw [decodeLoop, range.window, if_neg outside]
  · have short : (body.drop i.toNat).length < (layout step large).width := by
      rw [List.length_drop]
      have width : (layout step large).width = 8 := rfl
      omega
    rw [stamps, RecordLayout.windows_short _ short, List.map_nil]

theorem decodeLoop_returns {body : Bytes} {step : UInt64} (nowNs : UInt64)
    (slice : IsSlice body) (large : 8 ≤ step) (fits : step.toNat + 8 < 2 ^ 64)
    {i : UInt64} (range : InRange step i) {turns : Nat}
    (enough : body.length ≤ i.toNat + turns) (out : List UInt64) :
    ∃ more, decodeLoop body step nowNs (turns + 1) i out = .returned (out ++ more) ∧
      more.map UInt64.toNat =
        deliveries nowNs (stamps step large (body.drop i.toNat)) := by
  induction turns generalizing i out with
  | zero =>
      have outside : ¬ i.toNat + 8 ≤ body.length := by omega
      have stops := decodeLoop_stops nowNs large range outside 0 out
      refine ⟨[], by rw [stops.1, List.append_nil], ?_⟩
      rw [stops.2]
      rfl
  | succ turns induction =>
      by_cases inside : i.toNat + 8 ≤ body.length
      · have ordered : i ≤ i + 8 := by
          rw [UInt64.le_iff_toNat_le, range.window]
          omega
        rcases range.next slice fits inside with ⟨sum, following⟩
        have least : 8 ≤ step.toNat := UInt64.le_iff_toNat_le.mp large
        let ts := fromLeBytes ((body.drop i.toNat).take 8)
        rcases induction following (by omega) (pushLatency nowNs out ts) with
          ⟨more, returned, delivered⟩
        refine ⟨pushLatency nowNs [] ts ++ more, ?_, ?_⟩
        · rw [decodeLoop, range.window, if_pos inside, if_pos ordered, returned,
            pushLatency_eq, List.append_assoc]
        · have long : (layout step large).width ≤ (body.drop i.toNat).length := by
            rw [List.length_drop]
            exact Nat.le_sub_of_add_le' inside
          rw [List.map_append, delivered, stamps, stamps,
            RecordLayout.windows_long _ long, List.map_cons, deliveries_cons, sum,
            List.drop_drop]
          rfl
      · have stops := decodeLoop_stops nowNs large range inside (turns + 1) out
        refine ⟨[], by rw [stops.1, List.append_nil], ?_⟩
        rw [stops.2]
        rfl

/-! ## Every body -/

theorem max_eight {step : UInt64} (large : 8 ≤ step) : max step 8 = step := by
  show (if step ≤ 8 then 8 else step) = step
  split
  · rename_i small
    exact UInt64.le_antisymm large small
  · rfl

/-- A record size that leaves room for a window after it keeps the loop inside every
body. -/
theorem decode_returns {step : UInt64} (nowNs : UInt64) (large : 8 ≤ step)
    (fits : step.toNat + 8 < 2 ^ 64) {body : Bytes} (slice : IsSlice body) :
    (decodeLongpollLatencies body step nowNs).Returns
      (deliveries nowNs (stamps step large body)) := by
  have range : InRange step 0 := ⟨by decide, .inl rfl⟩
  have enough : body.length ≤ (0 : UInt64).toNat + body.length := by simp
  rcases decodeLoop_returns nowNs slice large fits range enough [] with
    ⟨out, returned, delivered⟩
  rw [decodeLongpollLatencies, max_eight large]
  exact ⟨out, returned, delivered⟩

theorem decode_panics {step : UInt64} (nowNs : UInt64) (large : 8 ≤ step)
    (wide : 2 ^ 64 ≤ step.toNat + 8) {body : Bytes} (window : 8 ≤ body.length) :
    decodeLongpollLatencies body step nowNs = .panicked := by
  have wraps : (0 + step + 8).toNat = step.toNat + 8 - 2 ^ 64 := by
    have small := step.toNat_lt
    rw [UInt64.zero_add, UInt64.toNat_add]
    show (step.toNat + 8) % 2 ^ 64 = _
    omega
  have before : ¬ 0 + step ≤ 0 + step + 8 := by
    have small := step.toNat_lt
    rw [UInt64.le_iff_toNat_le, wraps, UInt64.zero_add]
    omega
  have reads : (0 + step + 8).toNat ≤ body.length := by
    have small := step.toNat_lt
    omega
  rcases Nat.exists_eq_add_of_le window with ⟨more, size⟩
  have turns : body.length + 1 = (more + 7) + 2 := by omega
  have first : ((0 : UInt64) + 8).toNat ≤ body.length := window
  rw [decodeLongpollLatencies, max_eight large, turns, decodeLoop, if_pos first,
    if_pos (by decide), decodeLoop, if_pos reads, if_neg before]

/-- What a reader may rely on for one record size and one clock reading. -/
structure Decodes (step nowNs : UInt64) (large : 8 ≤ step) : Prop where
  anyBytes : ∀ body, IsSlice body →
    (decodeLongpollLatencies body step nowNs).Returns
      (deliveries nowNs (stamps step large body))
  records : ∀ (records : List (Record step)) (tail : Bytes), tail.length < 8 →
    IsSlice (Record.body records ++ tail) →
    (decodeLongpollLatencies (Record.body records ++ tail) step nowNs).Returns
      (deliveries nowNs (records.map Record.stamp))
  splits : ∀ bodies : List (List (Record step)), IsSlice (Record.body bodies.flatten) →
    ∃ parts, List.Forall₂ (fun records part =>
        (decodeLongpollLatencies (Record.body records) step nowNs).Returns part)
        bodies parts ∧
      (decodeLongpollLatencies (Record.body bodies.flatten) step nowNs).Returns
        parts.flatten

theorem deliveries_flatten (nowNs : UInt64) (stamps : List (List UInt64)) :
    deliveries nowNs stamps.flatten = (stamps.map (deliveries nowNs)).flatten := by
  rw [deliveries, List.filter_flatten, List.map_flatten, List.map_map]
  rfl

namespace Record

variable {step : UInt64}

theorem body_flatten (bodies : List (List (Record step))) :
    body bodies.flatten = (bodies.map body).flatten := by
  rw [body, List.map_flatten, List.flatten_flatten, List.map_map]
  rfl

theorem isSlice_of_mem {bodies : List (List (Record step))}
    (slice : IsSlice (body bodies.flatten)) {records : List (Record step)}
    (member : records ∈ bodies) : IsSlice (body records) := by
  have inside : (body records).Sublist (body bodies.flatten) := by
    rw [body_flatten]
    exact List.sublist_flatten_of_mem (List.mem_map_of_mem member)
  exact inside.length_le.trans_lt slice

end Record

/-- The decoder returns the stamped latencies of every body exactly when a window fits
between the record size and the end of the address space. -/
theorem decodes_iff (step nowNs : UInt64) (large : 8 ≤ step) :
    Decodes step nowNs large ↔ step.toNat + 8 < 2 ^ 64 := by
  constructor
  · intro decodes
    by_contra wide
    have slice : IsSlice (List.replicate 8 0) := by decide
    rcases decodes.anyBytes _ slice with ⟨out, returned, _⟩
    rw [decode_panics nowNs large (Nat.le_of_not_lt wide) (by simp)] at returned
    cases returned
  · intro fits
    have whole : ∀ (records : List (Record step)) (tail : Bytes), tail.length < 8 →
        IsSlice (Record.body records ++ tail) →
        (decodeLongpollLatencies (Record.body records ++ tail) step nowNs).Returns
          (deliveries nowNs (records.map Record.stamp)) := by
      intro records tail short slice
      rw [← stamps_records large records tail short]
      exact decode_returns nowNs large fits slice
    refine ⟨fun body slice => decode_returns nowNs large fits slice, whole, ?_⟩
    intro bodies slice
    have alone : ∀ records : List (Record step), IsSlice (Record.body records) →
        (decodeLongpollLatencies (Record.body records) step nowNs).Returns
          (deliveries nowNs (records.map Record.stamp)) := by
      intro records slice
      have parts := whole records [] (by decide) (by rwa [List.append_nil])
      rwa [List.append_nil] at parts
    refine ⟨bodies.map fun records => deliveries nowNs (records.map Record.stamp), ?_, ?_⟩
    · rw [List.forall₂_map_right_iff, List.forall₂_same]
      intro records member
      exact alone records (Record.isSlice_of_mem slice member)
    · have undivided := alone bodies.flatten slice
      rw [List.map_flatten, deliveries_flatten, List.map_map] at undivided
      exact undivided

/-- Two records of ten bytes, the second stamped with the time of the call, and a rest
of three bytes. -/
theorem decodes_iff_ten :
    (decodeLongpollLatencies
      (leBytes 8 1000000 ++ [7, 7] ++ (leBytes 8 5000000 ++ [7, 7]) ++ [1, 2, 3])
      10 5000000).Returns [4000, 0] := by
  have decodes := (decodes_iff 10 5000000 (by decide)).mpr (by decide)
  exact decodes.records [⟨1000000, [7, 7], rfl⟩, ⟨5000000, [7, 7], rfl⟩] [1, 2, 3]
    (by decide) (by decide)

/-- The largest record size, on a body of eight bytes. -/
theorem largest_step_panics :
    decodeLongpollLatencies (List.replicate 8 0) 18446744073709551615 5000000 =
        .panicked ∧
      ¬ Decodes 18446744073709551615 5000000 (by decide) := by
  have panics : decodeLongpollLatencies (List.replicate 8 0) 18446744073709551615
      5000000 = .panicked := decode_panics 5000000 (by decide) (by decide) (by decide)
  refine ⟨panics, ?_⟩
  intro decodes
  rcases decodes.anyBytes (List.replicate 8 0) (by decide) with ⟨out, returned, _⟩
  rw [panics] at returned
  cases returned

end DsBench.Workloads.LongPoll
