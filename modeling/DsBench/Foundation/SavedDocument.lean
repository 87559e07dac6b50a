import DsBench.Foundation.Json
import DsBench.Foundation.TransitionSystem

/-! # Documents saved by replacement

A program reads a whole document, works out the next one, writes it to a temporary file and
puts that file in the place of the old one. It may be killed at any time.
-/

namespace DsBench

/-- What becomes of a call: it raises, it leaves the document as it is, or it saves another
one. -/
inductive Outcome (Doc : Type u) where
  | raised
  | kept
  | saved (doc : Doc)

/-- Documents as text, what stands for a file that does not exist, and the calls. -/
structure SavedDocument (Doc : Type u) (Op : Type v) where
  absent : Doc
  dump : Doc → Text
  load : Text → Option Doc
  load_dump : ∀ doc, load (dump doc) = some doc
  apply : Op → Doc → Outcome Doc

namespace SavedDocument

/-- Where a call is once the document is read: so much of the text is still to be written, or
the new file is in place. -/
inductive Call (Op : Type v) where
  | writing (op : Op) (left : Text)
  | replaced (op : Op)

/-- The files and the call under way. The calls that were begun, those that had their effect
and those that returned are kept in order. -/
structure Disk (Op : Type v) where
  file : Option Text
  temp : Option Text
  call : Option (Call Op)
  begun : List Op
  settled : List Op
  returned : List Op

section

variable {Doc : Type u} {Op : Type v} (store : SavedDocument Doc Op)

def read : Option Text → Option Doc
  | none => some store.absent
  | some text => store.load text

/-- Nothing is on the disk but what an earlier call may have left of its temporary file. -/
inductive Initial : Disk Op → Prop where
  | mk (temp : Option Text) : Initial ⟨none, temp, none, [], [], []⟩

inductive Step : Disk Op → Disk Op → Prop where
  | raise {file temp begun settled returned} (op : Op)
      (raises : ∀ doc, store.read file = some doc → store.apply op doc = .raised) :
      Step ⟨file, temp, none, begun, settled, returned⟩
        ⟨file, temp, none, begun ++ [op], settled, returned⟩
  | keep {file temp begun settled returned} (op : Op) {doc : Doc}
      (found : store.read file = some doc) (keeps : store.apply op doc = .kept) :
      Step ⟨file, temp, none, begun, settled, returned⟩
        ⟨file, temp, none, begun ++ [op], settled ++ [op], returned ++ [op]⟩
  | openTemp {file temp begun settled returned} (op : Op) {doc next : Doc}
      (found : store.read file = some doc) (saves : store.apply op doc = .saved next) :
      Step ⟨file, temp, none, begun, settled, returned⟩
        ⟨file, some [], some (.writing op (store.dump next)), begun ++ [op], settled, returned⟩
  | write {file written begun settled returned} (op : Op) (chunk left : Text) :
      Step ⟨file, some written, some (.writing op (chunk ++ left)), begun, settled, returned⟩
        ⟨file, some (written ++ chunk), some (.writing op left), begun, settled, returned⟩
  | replace {file written begun settled returned} (op : Op) :
      Step ⟨file, some written, some (.writing op []), begun, settled, returned⟩
        ⟨some written, none, some (.replaced op), begun, settled ++ [op], returned⟩
  | giveBack {file temp begun settled returned} (op : Op) :
      Step ⟨file, temp, some (.replaced op), begun, settled, returned⟩
        ⟨file, temp, none, begun, settled, returned ++ [op]⟩
  | kill {file temp begun settled returned} (call : Call Op) :
      Step ⟨file, temp, some call, begun, settled, returned⟩
        ⟨file, temp, none, begun, settled, returned⟩

def system : TransitionSystem (Disk Op) where
  Initial := Initial
  Step := store.Step

def replay (ops : List Op) : Doc :=
  ops.foldl (fun doc op =>
    match store.apply op doc with
    | .saved next => next
    | _ => doc) store.absent

theorem replay_append (ops : List Op) (op : Op) :
    store.replay (ops ++ [op]) =
      match store.apply op (store.replay ops) with
      | .saved next => next
      | _ => store.replay ops := by
  rw [replay, List.foldl_append]
  rfl

theorem replay_saved {ops : List Op} {op : Op} {next : Doc}
    (saved : store.apply op (store.replay ops) = .saved next) :
    store.replay (ops ++ [op]) = next := by
  rw [replay_append, saved]

inductive CallKept (disk : Disk Op) : Option (Call Op) → Prop where
  | idle (inOrder : disk.settled.Sublist disk.begun)
      (returned : disk.returned.Sublist disk.settled) : CallKept disk none
  | writing {op : Op} {written left : Text} {next : Doc} (temp : disk.temp = some written)
      (saves : store.apply op (store.replay disk.settled) = .saved next)
      (whole : written ++ left = store.dump next)
      (inOrder : (disk.settled ++ [op]).Sublist disk.begun)
      (returned : disk.returned.Sublist disk.settled) :
      CallKept disk (some (.writing op left))
  | replaced {op : Op} (inOrder : disk.settled.Sublist disk.begun)
      (returned : (disk.returned ++ [op]).Sublist disk.settled) :
      CallKept disk (some (.replaced op))

/-- The file is whole: it has what the settled calls made. -/
structure Kept (disk : Disk Op) : Prop where
  file : store.read disk.file = some (store.replay disk.settled)
  call : store.CallKept disk disk.call

variable {store}

theorem CallKept.settled {disk : Disk Op} {call : Option (Call Op)}
    (kept : store.CallKept disk call) : disk.settled.Sublist disk.begun := by
  cases kept with
  | idle inOrder _ => exact inOrder
  | writing _ _ _ inOrder _ => exact (List.sublist_append_left _ _).trans inOrder
  | replaced inOrder _ => exact inOrder

theorem CallKept.returned {disk : Disk Op} {call : Option (Call Op)}
    (kept : store.CallKept disk call) : disk.returned.Sublist disk.settled := by
  cases kept with
  | idle _ returned => exact returned
  | writing _ _ _ _ returned => exact returned
  | replaced _ returned => exact (List.sublist_append_left _ _).trans returned

/-- No step, and no kill, tears the file. -/
theorem Kept.step {before after : Disk Op} (kept : store.Kept before)
    (step : store.Step before after) : store.Kept after := by
  have held := kept.file
  have settled := kept.call.settled
  have returned := kept.call.returned
  cases step with
  | raise op raises =>
      exact ⟨held, .idle (settled.trans (List.sublist_append_left _ _)) returned⟩
  | keep op found keeps =>
      rw [held] at found
      cases found
      have same : ∀ {ops : List Op}, store.apply op (store.replay ops) = .kept →
          store.replay (ops ++ [op]) = store.replay ops := by
        intro ops kept
        rw [replay_append, kept]
      refine ⟨held.trans ?_, .idle (settled.append (List.Sublist.refl _))
        (returned.append (List.Sublist.refl _))⟩
      rw [same keeps]
  | openTemp op found saves =>
      rw [held] at found
      cases found
      exact ⟨held, .writing rfl saves (List.nil_append _)
        (settled.append (List.Sublist.refl _)) returned⟩
  | write op chunk left =>
      cases kept.call with
      | writing temp saves whole inOrder _ =>
          cases temp
          exact ⟨held, .writing rfl saves ((List.append_assoc _ _ _).trans whole) inOrder
            returned⟩
  | replace op =>
      cases kept.call with
      | writing temp saves whole inOrder _ =>
          cases temp
          rw [List.append_nil] at whole
          refine ⟨?_, .replaced inOrder (returned.append (List.Sublist.refl _))⟩
          rw [read, whole, store.load_dump, store.replay_saved saves]
  | giveBack op =>
      cases kept.call with
      | replaced inOrder last => exact ⟨held, .idle inOrder last⟩
  | kill call => exact ⟨held, .idle settled returned⟩

theorem system_kept : store.system.Invariant store.Kept where
  initially := by
    intro disk initial
    cases initial
    exact ⟨rfl, .idle (List.Sublist.refl _) (List.Sublist.refl _)⟩
  preserved := fun _ _ kept step => kept.step step

/-- At any time the file reads as what the settled calls made, one after another. Calls
that returned are settled, and settled calls were begun. -/
theorem read_file {disk : Disk Op} (reachable : store.system.Reachable disk) :
    store.read disk.file = some (store.replay disk.settled) ∧
      disk.returned.Sublist disk.settled ∧ disk.settled.Sublist disk.begun := by
  have kept := system_kept.of_reachable reachable
  exact ⟨kept.file, kept.call.returned, kept.call.settled⟩

theorem saving_run {file temp : Option Text} {begun settled returned : List Op} {op : Op}
    {doc next : Doc} (found : store.read file = some doc)
    (saves : store.apply op doc = .saved next) :
    store.system.Run ⟨file, temp, none, begun, settled, returned⟩
      ⟨some (store.dump next), none, none, begun ++ [op], settled ++ [op],
        returned ++ [op]⟩ := by
  have opened : store.system.Run ⟨file, temp, none, begun, settled, returned⟩
      ⟨file, some [], some (.writing op (store.dump next ++ [])), begun ++ [op], settled,
        returned⟩ := by
    rw [List.append_nil]
    exact .single (Step.openTemp op found saves)
  have written := opened.tail (Step.write op (store.dump next) [])
  have replaced := written.tail (Step.replace op)
  exact replaced.tail (Step.giveBack op)

/-! ## What a document stands for -/

/-- Documents stand for values, and a call does to a document what it does to the value. -/
structure Represents {Value : Type w} (store : SavedDocument Doc Op)
    (holds : Doc → Value → Prop) (start : Value) (act : Op → Value → Value) : Prop where
  absent : holds store.absent start
  raises : ∀ op doc value, holds doc value → store.apply op doc ≠ .raised
  keeps : ∀ op doc value, holds doc value → store.apply op doc = .kept →
    holds doc (act op value)
  saves : ∀ op doc value next, holds doc value → store.apply op doc = .saved next →
    holds next (act op value)

def valueAfter {Value : Type w} (start : Value) (act : Op → Value → Value) (ops : List Op) :
    Value :=
  ops.foldl (fun value op => act op value) start

section

variable {Value : Type w} {holds : Doc → Value → Prop} {start : Value}
  {act : Op → Value → Value} {disk : Disk Op}

theorem Represents.replay (represents : store.Represents holds start act) (ops : List Op) :
    holds (store.replay ops) (valueAfter start act ops) := by
  induction ops using List.reverseRecOn with
  | nil => exact represents.absent
  | append_singleton ops op induction =>
      rw [replay_append, valueAfter, List.foldl_append]
      cases made : store.apply op (store.replay ops) with
      | raised => exact (represents.raises op _ _ induction made).elim
      | kept => exact represents.keeps op _ _ induction made
      | saved next => exact represents.saves op _ _ next induction made

theorem Represents.read_file (represents : store.Represents holds start act)
    (reachable : store.system.Reachable disk) :
    ∃ doc, store.read disk.file = some doc ∧
      holds doc (valueAfter start act disk.settled) ∧
      disk.returned.Sublist disk.settled ∧ disk.settled.Sublist disk.begun := by
  rcases SavedDocument.read_file reachable with ⟨found, returned, settled⟩
  exact ⟨_, found, represents.replay disk.settled, returned, settled⟩

/-- Between calls, and after a kill, every call can be made, and is settled when it returns. -/
theorem Represents.returns (represents : store.Represents holds start act)
    (reachable : store.system.Reachable disk) (idle : disk.call = none) (op : Op) :
    ∃ after, store.system.Run disk after ∧ after.call = none ∧
      after.settled = disk.settled ++ [op] ∧ after.returned = disk.returned ++ [op] := by
  rcases represents.read_file reachable with ⟨doc, found, held, -⟩
  rcases disk with ⟨file, temp, call, begun, settled, returned⟩
  cases idle
  cases made : store.apply op doc with
  | raised => exact (represents.raises op doc _ held made).elim
  | kept => exact ⟨_, .single (Step.keep op found made), rfl, rfl, rfl⟩
  | saved next => exact ⟨_, saving_run found made, rfl, rfl, rfl⟩

end

end

end SavedDocument

end DsBench
