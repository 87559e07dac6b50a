import DsBench.Foundation.ProducerSession
import Mathlib.Algebra.BigOperators.Group.Finset.Basic
import Mathlib.Algebra.BigOperators.Group.Finset.Piecewise

/-! # Senders that number what they append

A sender puts a sequence number on each append, waits for the answer, and takes the next
number only when it is told of a success. What it sends may be lost or come late, after it
gave up or sent again; what it is answered may be lost or spoilt on the way.
-/

namespace DsBench

structure Posted where
  attempt : Nat
  seq : Nat
deriving DecidableEq, Repr

structure Answered where
  attempt : Nat
  status : Nat
deriving DecidableEq, Repr

/-- `waiting` is the attempt whose answer the sender waits for. -/
structure NumberedSender where
  attempts : Nat
  seq : Nat
  waiting : Option Nat
  posted : List Posted
  answered : List Answered
deriving DecidableEq, Repr

inductive Trouble where
  | lose (append : Posted)
  | shed (append : Posted) (status : Nat)
  | forget (answer : Answered)
  | spoil (answer : Answered) (status : Nat)
deriving DecidableEq, Repr

namespace NumberedSender

def fresh : NumberedSender := ⟨0, 0, none, [], []⟩

def post (sender : NumberedSender) : NumberedSender :=
  { sender with
    attempts := sender.attempts + 1
    waiting := some sender.attempts
    posted := ⟨sender.attempts, sender.seq⟩ :: sender.posted }

def take (sender : NumberedSender) (append : Posted) (status : Nat) : NumberedSender :=
  { sender with
    posted := sender.posted.erase append
    answered := ⟨append.attempt, status⟩ :: sender.answered }

def hear (sender : NumberedSender) (answer : Answered) (success : Bool) : NumberedSender :=
  { sender with
    seq := if success then sender.seq + 1 else sender.seq
    waiting := none
    answered := sender.answered.erase answer }

def giveUp (sender : NumberedSender) : NumberedSender := { sender with waiting := none }

section

variable (good : Nat → Bool)

/-- An append that is shed is answered with a failure, and a spoilt answer becomes one. -/
def suffer (sender : NumberedSender) : Trouble → Option NumberedSender
  | .lose append => some { sender with posted := sender.posted.erase append }
  | .shed append status =>
      if append ∈ sender.posted ∧ good status = false then
        some (sender.take append status)
      else none
  | .forget answer => some { sender with answered := sender.answered.erase answer }
  | .spoil answer status =>
      if answer ∈ sender.answered ∧ good status = false then
        some { sender with
          answered := ⟨answer.attempt, status⟩ :: sender.answered.erase answer }
      else none

theorem suffer_same {good : Nat → Bool} {sender next : NumberedSender} {trouble : Trouble}
    (suffered : sender.suffer good trouble = some next) :
    next.attempts = sender.attempts ∧ next.seq = sender.seq := by
  cases trouble with
  | lose append =>
      cases suffered
      exact ⟨rfl, rfl⟩
  | shed append status =>
      rw [suffer, Option.ite_none_right_eq_some] at suffered
      cases suffered.2
      exact ⟨rfl, rfl⟩
  | forget answer =>
      cases suffered
      exact ⟨rfl, rfl⟩
  | spoil answer status =>
      rw [suffer, Option.ite_none_right_eq_some] at suffered
      cases suffered.2
      exact ⟨rfl, rfl⟩

/-! ## Against a log with sessions -/

/-- The session is level with the sender or one append ahead, and ahead whenever a success
is on its way to it. -/
structure Abreast (session : Session) (sender : NumberedSender) : Prop where
  behind : sender.seq ≤ session.expected
  close : session.expected ≤ sender.seq + 1
  posted : ∀ append ∈ sender.posted,
    append.seq ≤ sender.seq ∧ append.attempt < sender.attempts
  answered : ∀ answer ∈ sender.answered, answer.attempt < sender.attempts
  waiting : ∀ attempt, sender.waiting = some attempt → attempt < sender.attempts
  current : ∀ append ∈ sender.posted, sender.waiting = some append.attempt →
    append.seq = sender.seq
  ahead : ∀ answer ∈ sender.answered, sender.waiting = some answer.attempt →
    good answer.status = true → sender.seq < session.expected

variable {good} {session : Session} {sender next : NumberedSender}

theorem abreast_fresh : Abreast good Session.empty fresh where
  behind := Nat.le_refl _
  close := Nat.le_succ _
  posted _ member := absurd member List.not_mem_nil
  answered _ member := absurd member List.not_mem_nil
  waiting attempt same := by cases same
  current _ member := absurd member List.not_mem_nil
  ahead _ member := absurd member List.not_mem_nil

namespace Abreast

theorem fewer (abreast : Abreast good session sender) {posted : List Posted}
    {answered : List Answered} (fewerPosted : ∀ append ∈ posted, append ∈ sender.posted)
    (fewerAnswered : ∀ answer ∈ answered, answer ∈ sender.answered ∨
      good answer.status = false ∧ answer.attempt < sender.attempts) :
    Abreast good session { sender with posted := posted, answered := answered } where
  behind := abreast.behind
  close := abreast.close
  posted append member := abreast.posted append (fewerPosted append member)
  answered answer member := by
    rcases fewerAnswered answer member with kept | spoilt
    · exact abreast.answered answer kept
    · exact spoilt.2
  waiting := abreast.waiting
  current append member := abreast.current append (fewerPosted append member)
  ahead answer member awaited success := by
    rcases fewerAnswered answer member with kept | spoilt
    · exact abreast.ahead answer kept awaited success
    · rw [spoilt.1] at success
      cases success

theorem suffer (abreast : Abreast good session sender) {trouble : Trouble}
    (suffered : sender.suffer good trouble = some next) : Abreast good session next := by
  cases trouble with
  | lose append =>
      cases suffered
      exact abreast.fewer (fun _ => List.mem_of_mem_erase) (fun _ => .inl)
  | shed append status =>
      rw [NumberedSender.suffer, Option.ite_none_right_eq_some] at suffered
      rcases suffered with ⟨⟨member, failure⟩, same⟩
      cases same
      apply abreast.fewer (fun _ => List.mem_of_mem_erase)
      intro answer listed
      rcases List.mem_cons.mp listed with new | old
      · rw [new]
        exact .inr ⟨failure, (abreast.posted append member).2⟩
      · exact .inl old
  | forget answer =>
      cases suffered
      exact abreast.fewer (fun _ member => member)
        (fun _ member => .inl (List.mem_of_mem_erase member))
  | spoil answer status =>
      rw [NumberedSender.suffer, Option.ite_none_right_eq_some] at suffered
      rcases suffered with ⟨⟨member, failure⟩, same⟩
      cases same
      apply abreast.fewer (fun _ member => member)
      intro other listed
      rcases List.mem_cons.mp listed with new | old
      · rw [new]
        exact .inr ⟨failure, abreast.answered answer member⟩
      · exact .inl (List.mem_of_mem_erase old)

theorem post (abreast : Abreast good session sender) : Abreast good session sender.post where
  behind := abreast.behind
  close := abreast.close
  posted append member := by
    rcases List.mem_cons.mp member with new | old
    · rw [new]
      exact ⟨Nat.le_refl _, Nat.lt_succ_self _⟩
    · have earlier := abreast.posted append old
      exact ⟨earlier.1, Nat.lt_succ_of_lt earlier.2⟩
  answered answer member := Nat.lt_succ_of_lt (abreast.answered answer member)
  waiting attempt same := by
    cases same
    exact Nat.lt_succ_self _
  current append member same := by
    rcases List.mem_cons.mp member with new | old
    · rw [new]
      rfl
    · have earlier := (abreast.posted append old).2
      rw [NumberedSender.post, Option.some.injEq] at same
      omega
  ahead answer member same _ := by
    have earlier := abreast.answered answer member
    rw [NumberedSender.post, Option.some.injEq] at same
    omega

/-- A session never rejects an append of its sender. -/
theorem no_gap (abreast : Abreast good session sender) {append : Posted}
    (member : append ∈ sender.posted) : (session.receive append.seq).1 ≠ .gap := by
  have behind := abreast.behind
  have earlier := (abreast.posted append member).1
  rcases session.receive_cases append.seq with ⟨_, same⟩ | ⟨_, same⟩ | ⟨early, _⟩
  · rw [same]
    exact Verdict.noConfusion
  · rw [same]
    exact Verdict.noConfusion
  · omega

theorem receive (abreast : Abreast good session sender) {append : Posted}
    (member : append ∈ sender.posted) :
    session.expected ≤ (session.receive append.seq).2.expected ∧
      (session.receive append.seq).2.expected ≤ sender.seq + 1 ∧
      append.seq < (session.receive append.seq).2.expected := by
  have behind := abreast.behind
  have close := abreast.close
  have earlier := (abreast.posted append member).1
  rcases session.receive_cases append.seq with ⟨due, same⟩ | ⟨old, same⟩ | ⟨early, _⟩
  · rw [same]
    dsimp only
    omega
  · rw [same]
    exact ⟨Nat.le_refl _, close, old⟩
  · omega

theorem take (abreast : Abreast good session sender) {append : Posted}
    (member : append ∈ sender.posted) (status : Nat) :
    Abreast good (session.receive append.seq).2 (sender.take append status) := by
  rcases abreast.receive member with ⟨grows, close, past⟩
  exact {
    behind := Nat.le_trans abreast.behind grows
    close := close
    posted := fun other listed => abreast.posted other (List.mem_of_mem_erase listed)
    answered := by
      intro answer listed
      rcases List.mem_cons.mp listed with new | old
      · rw [new]
        exact (abreast.posted append member).2
      · exact abreast.answered answer old
    waiting := abreast.waiting
    current := fun other listed => abreast.current other (List.mem_of_mem_erase listed)
    ahead := by
      intro answer listed awaited success
      rcases List.mem_cons.mp listed with new | old
      · rw [new] at awaited
        have own := abreast.current append member awaited
        change sender.seq < _
        rw [← own]
        exact past
      · exact Nat.lt_of_lt_of_le (abreast.ahead answer old awaited success) grows }

theorem idle (abreast : Abreast good session sender) {seq : Nat} {answered : List Answered}
    (behind : seq ≤ session.expected) (close : session.expected ≤ seq + 1)
    (onward : sender.seq ≤ seq)
    (fewer : ∀ answer ∈ answered, answer ∈ sender.answered) :
    Abreast good session
      { sender with seq := seq, waiting := none, answered := answered } where
  behind := behind
  close := close
  posted append member := by
    have earlier := abreast.posted append member
    exact ⟨Nat.le_trans earlier.1 onward, earlier.2⟩
  answered answer member := abreast.answered answer (fewer answer member)
  waiting attempt same := by cases same
  current append member same := by cases same
  ahead answer member same _ := by cases same

theorem giveUp (abreast : Abreast good session sender) :
    Abreast good session sender.giveUp :=
  abreast.idle abreast.behind abreast.close (Nat.le_refl _) (fun _ member => member)

theorem hear (abreast : Abreast good session sender) {answer : Answered}
    (member : answer ∈ sender.answered) (awaited : sender.waiting = some answer.attempt) :
    Abreast good session (sender.hear answer (good answer.status)) := by
  have fewer : ∀ other ∈ sender.answered.erase answer, other ∈ sender.answered :=
    fun _ => List.mem_of_mem_erase
  rw [NumberedSender.hear]
  split
  · rename_i success
    have ahead := abreast.ahead answer member awaited success
    have close := abreast.close
    exact abreast.idle ahead (by omega) (Nat.le_succ _) fewer
  · exact abreast.idle abreast.behind abreast.close (Nat.le_refl _) fewer

end Abreast

/-! ## Against a log without sessions -/

variable {stored : Nat}

/-- A log that takes in whatever comes holds at most one record for each attempt, and at
least one for each success the sender heard of or will. -/
structure Covered (good : Nat → Bool) (stored : Nat) (sender : NumberedSender) :
    Prop where
  room : stored + sender.posted.length ≤ sender.attempts
  backed : sender.seq + sender.answered.countP (fun answer => good answer.status) ≤ stored

theorem covered_fresh : Covered good 0 fresh := ⟨Nat.le_refl _, Nat.le_refl _⟩

theorem countP_erase (good : Nat → Bool) {answer : Answered} {answered : List Answered}
    (member : answer ∈ answered) :
    (answered.erase answer).countP (fun other => good other.status) +
        (if good answer.status then 1 else 0) =
      answered.countP fun other => good other.status := by
  have whole := (List.perm_cons_erase member).countP_eq fun other => good other.status
  rw [List.countP_cons] at whole
  exact whole.symm

namespace Covered

theorem suffer (covered : Covered good stored sender) {trouble : Trouble}
    (suffered : sender.suffer good trouble = some next) : Covered good stored next := by
  have room := covered.room
  have backed := covered.backed
  cases trouble with
  | lose append =>
      cases suffered
      have fewer := List.length_erase_le (a := append) (l := sender.posted)
      exact ⟨by dsimp only; omega, backed⟩
  | shed append status =>
      rw [NumberedSender.suffer, Option.ite_none_right_eq_some] at suffered
      rcases suffered with ⟨⟨_, failure⟩, same⟩
      cases same
      have fewer := List.length_erase_le (a := append) (l := sender.posted)
      refine ⟨by simp only [NumberedSender.take]; omega, ?_⟩
      simp only [NumberedSender.take, List.countP_cons, failure]
      exact backed
  | forget answer =>
      cases suffered
      have fewer := (List.erase_sublist (a := answer) (l := sender.answered)).countP_le
        (p := fun other => good other.status)
      exact ⟨room, by dsimp only; omega⟩
  | spoil answer status =>
      rw [NumberedSender.suffer, Option.ite_none_right_eq_some] at suffered
      rcases suffered with ⟨⟨_, failure⟩, same⟩
      cases same
      have fewer := (List.erase_sublist (a := answer) (l := sender.answered)).countP_le
        (p := fun other => good other.status)
      refine ⟨room, ?_⟩
      simp only [List.countP_cons, failure]
      simp only [Bool.false_eq_true, if_false]
      omega

theorem post (covered : Covered good stored sender) : Covered good stored sender.post := by
  have room := covered.room
  refine ⟨?_, covered.backed⟩
  simp only [NumberedSender.post, List.length_cons]
  omega

theorem take (covered : Covered good stored sender) {append : Posted}
    (member : append ∈ sender.posted) (status : Nat) :
    Covered good (stored + 1) (sender.take append status) := by
  have room := covered.room
  have backed := covered.backed
  have fewer := List.length_erase_of_mem member
  have some_ := List.length_pos_of_mem member
  constructor
  · simp only [NumberedSender.take]
    omega
  · simp only [NumberedSender.take, List.countP_cons]
    split <;> omega

theorem giveUp (covered : Covered good stored sender) :
    Covered good stored sender.giveUp := ⟨covered.room, covered.backed⟩

theorem hear (covered : Covered good stored sender) {answer : Answered}
    (member : answer ∈ sender.answered) :
    Covered good stored (sender.hear answer (good answer.status)) := by
  have backed := covered.backed
  have whole := countP_erase good member
  refine ⟨covered.room, ?_⟩
  simp only [NumberedSender.hear]
  cases success : good answer.status <;> simp [success] at whole ⊢ <;> omega

end Covered

end

end NumberedSender

/-! ## The records of a log by their senders -/

section

variable {Sender : Type*} [DecidableEq Sender]

def numbersOf (records : List (SenderRequest Sender)) (sender : Sender) : List Nat :=
  (records.filter fun record => record.sender = sender).map SenderRequest.seq

@[simp] theorem numbersOf_concat (records : List (SenderRequest Sender)) (sender : Sender)
    (seq : Nat) :
    numbersOf (records ++ [⟨sender, seq⟩]) sender = numbersOf records sender ++ [seq] := by
  simp [numbersOf]

theorem numbersOf_concat_of_ne (records : List (SenderRequest Sender))
    {sender other : Sender} (different : sender ≠ other) (seq : Nat) :
    numbersOf (records ++ [⟨other, seq⟩]) sender = numbersOf records sender := by
  simp [numbersOf, different.symm]

theorem length_eq_sum_numbersOf [Fintype Sender] (records : List (SenderRequest Sender)) :
    records.length = ∑ sender, (numbersOf records sender).length := by
  induction records using List.reverseRecOn with
  | nil => simp [numbersOf]
  | append_singleton records record induction =>
      have grown : ∀ sender, (numbersOf (records ++ [record]) sender).length =
          (numbersOf records sender).length + if sender = record.sender then 1 else 0 := by
        intro sender
        split
        · rename_i own
          subst own
          rw [numbersOf_concat, List.length_append]
          rfl
        · rename_i foreign
          rw [numbersOf_concat_of_ne records foreign]
          rfl
      simp only [grown]
      rw [Finset.sum_add_distrib, ← induction, Finset.sum_ite_eq' Finset.univ record.sender,
        if_pos (Finset.mem_univ _), List.length_append]
      rfl

end

end DsBench
