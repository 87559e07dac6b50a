import Mathlib.Data.List.Perm.Subperm
import Mathlib.Data.List.Range

/-! # Readers of a growing log

A reader goes through a log from some place on. Each time it moves on it takes what it
passes, with a note about each record, or lets it go by.
-/

namespace DsBench

structure LogCursor (Note : Type u) where
  position : Nat
  taken : List (Nat × Note)

namespace LogCursor

variable {Note : Type u}

def window (start stop : Nat) (note : Note) : List (Nat × Note) :=
  (List.range' start (stop - start)).map fun index => (index, note)

/-- Go on to `stop` and take what lies between. -/
def take (cursor : LogCursor Note) (stop : Nat) (note : Note) : LogCursor Note :=
  ⟨stop, cursor.taken ++ window cursor.position stop note⟩

/-- Go on to `stop` and take nothing. -/
def pass (cursor : LogCursor Note) (stop : Nat) : LogCursor Note := ⟨stop, cursor.taken⟩

/-- The reader took records in the order of the log, and none twice. -/
def Orderly (cursor : LogCursor Note) : Prop :=
  (cursor.taken.map Prod.fst).Sublist (List.range cursor.position)

variable {cursor : LogCursor Note} {stop : Nat}

theorem range_split {start stop : Nat} (ahead : start ≤ stop) :
    List.range stop = List.range start ++ List.range' start (stop - start) := by
  have joined : List.range' 0 start ++ List.range' (0 + start) (stop - start) =
      List.range' 0 (start + (stop - start)) := List.range'_append_1
  rw [Nat.zero_add, Nat.add_sub_of_le ahead] at joined
  rw [List.range_eq_range', List.range_eq_range', joined]

theorem window_fst (start stop : Nat) (note : Note) :
    (window start stop note).map Prod.fst = List.range' start (stop - start) := by
  rw [window, List.map_map]
  exact List.map_id _

theorem Orderly.pass (orderly : cursor.Orderly) (ahead : cursor.position ≤ stop) :
    (cursor.pass stop).Orderly :=
  orderly.trans (List.range_sublist.mpr ahead)

theorem Orderly.take (orderly : cursor.Orderly) (ahead : cursor.position ≤ stop)
    (note : Note) : (cursor.take stop note).Orderly := by
  rw [Orderly, LogCursor.take]
  dsimp only
  rw [List.map_append, window_fst, range_split ahead]
  exact orderly.append_right _

theorem Orderly.lt (orderly : cursor.Orderly) {index : Nat} {note : Note}
    (member : (index, note) ∈ cursor.taken) : index < cursor.position := by
  have listed := orderly.subset (List.mem_map_of_mem member)
  rwa [List.mem_range] at listed

theorem Orderly.taken_le (orderly : cursor.Orderly) :
    cursor.taken.length ≤ cursor.position := by
  have shorter := List.Sublist.length_le orderly
  rwa [List.length_map, List.length_range] at shorter

theorem Orderly.nodup (orderly : cursor.Orderly) : (cursor.taken.map Prod.fst).Nodup :=
  List.Nodup.sublist orderly List.nodup_range

theorem Orderly.taken_le_since (orderly : cursor.Orderly) {length : Nat}
    (behind : cursor.position ≤ length) {base : Nat}
    (since : ∀ entry ∈ cursor.taken, base ≤ entry.1) :
    cursor.taken.length ≤ length - base := by
  have inside : cursor.taken.map Prod.fst ⊆ List.range' base (length - base) := by
    intro index member
    have below := List.mem_range.mp (orderly.subset member)
    rcases List.mem_map.mp member with ⟨entry, listed, same⟩
    have above := since entry listed
    rw [same] at above
    rw [List.mem_range'_1]
    omega
  have fewer := (List.subperm_of_subset orderly.nodup inside).length_le
  rwa [List.length_map, List.length_range'] at fewer

/-! ## What is read -/

section

variable {Record : Type v} {Output : Type w} (read : Record → Note → List Output)

def readAt (log : List Record) (entry : Nat × Note) : List Output :=
  match log[entry.1]? with
  | some record => read record entry.2
  | none => []

theorem readAt_append {log : List Record} {entry : Nat × Note} (inside : entry.1 < log.length)
    (more : List Record) : readAt read (log ++ more) entry = readAt read log entry := by
  rw [readAt, readAt, List.getElem?_append_left inside]

/-- Every record taken is read once, if reading it gives one thing. -/
theorem length_flatMap_readAt {log : List Record} {taken : List (Nat × Note)}
    (inside : ∀ entry ∈ taken, entry.1 < log.length)
    (single : ∀ record note, (read record note).length = 1) :
    (taken.flatMap (readAt read log)).length = taken.length := by
  induction taken with
  | nil => rfl
  | cons entry taken induction =>
      have here := inside entry List.mem_cons_self
      have others := induction fun other member => inside other (List.mem_cons_of_mem _ member)
      rw [List.flatMap_cons, List.length_append, others, readAt, List.getElem?_eq_getElem here]
      simp only [single, List.length_cons]
      omega

theorem flatMap_window {log : List Record} {start stop : Nat} (inside : stop ≤ log.length)
    (note : Note) :
    (window start stop note).flatMap (readAt read log) =
      ((log.drop start).take (stop - start)).flatMap fun record => read record note := by
  rw [window]
  generalize size : stop - start = count
  have bounded : count = 0 ∨ start + count ≤ log.length := by omega
  clear size inside
  induction count generalizing start with
  | zero => rfl
  | succ count induction =>
      have here : start < log.length := by omega
      rw [List.range'_succ, List.map_cons, List.flatMap_cons, induction (by omega),
        List.drop_eq_getElem_cons here, List.take_succ_cons, List.flatMap_cons, readAt]
      simp only [List.getElem?_eq_getElem here]

end

end LogCursor

end DsBench
