import Mathlib.Logic.Function.Basic
import Mathlib.Data.List.Basic

/-! # Idempotent producer sessions

A log server that keeps, for each producer session, the next sequence number it
expects. Requests come from senders; `key` says which session a sender uses. A
sender is undisturbed when what it is answered never depends on the others.
-/

namespace DsBench

/-- What the server keeps for one session, and how many records it appended. -/
structure Session where
  expected : Nat
  records : Nat
deriving DecidableEq, Repr

inductive Verdict where
  | appended
  | duplicate
  | gap
deriving DecidableEq, Repr

namespace Session

def empty : Session := ⟨0, 0⟩

/-- Append exactly the expected sequence number, acknowledge an earlier one without
appending, reject a later one. -/
def receive (session : Session) (seq : Nat) : Verdict × Session :=
  if seq = session.expected then
    (.appended, ⟨session.expected + 1, session.records + 1⟩)
  else if seq < session.expected then (.duplicate, session)
  else (.gap, session)

theorem receive_cases (session : Session) (seq : Nat) :
    (seq = session.expected ∧ session.receive seq =
      (.appended, ⟨session.expected + 1, session.records + 1⟩)) ∨
    (seq < session.expected ∧ session.receive seq = (.duplicate, session)) ∨
    (session.expected < seq ∧ session.receive seq = (.gap, session)) := by
  rw [receive]
  rcases Nat.lt_trichotomy seq session.expected with below | equal | above
  · exact .inr (.inl ⟨below, by rw [if_neg (by omega), if_pos below]⟩)
  · exact .inl ⟨equal, by rw [if_pos equal]⟩
  · exact .inr (.inr ⟨above, by rw [if_neg (by omega), if_neg (by omega)]⟩)

end Session

/-! ## Many senders on one server -/

section

variable {Sender Key : Type*} [DecidableEq Sender] [DecidableEq Key]

structure SenderRequest (Sender : Type*) where
  sender : Sender
  seq : Nat
deriving DecidableEq, Repr

def answers (key : Sender → Key) (sessions : Key → Session) :
    List (SenderRequest Sender) → List (SenderRequest Sender × Verdict)
  | [] => []
  | request :: later =>
      let answered := (sessions (key request.sender)).receive request.seq
      (request, answered.1) ::
        answers key (Function.update sessions (key request.sender) answered.2) later

/-- Every sender is answered as if it were alone on a fresh server. -/
def Undisturbed (key : Sender → Key) : Prop :=
  ∀ (history : List (SenderRequest Sender)) (sender : Sender),
    (answers key (fun _ => Session.empty) history).filter
        (fun answered => answered.1.sender = sender) =
      answers key (fun _ => Session.empty)
        (history.filter fun request => request.sender = sender)

/-- Servers that agree on one sender's session answer that sender alike, whatever
senders with other sessions ask in between. -/
theorem answers_filter_sender {key : Sender → Key} (injective : Function.Injective key)
    (sender : Sender) (history : List (SenderRequest Sender))
    {sessions alone : Key → Session} (agree : sessions (key sender) = alone (key sender)) :
    (answers key sessions history).filter
        (fun answered => answered.1.sender = sender) =
      answers key alone (history.filter fun request => request.sender = sender) := by
  induction history generalizing sessions alone with
  | nil => rfl
  | cons request later induction =>
      by_cases own : request.sender = sender
      · have sameSession : Function.update sessions (key sender)
              ((alone (key sender)).receive request.seq).2 (key sender) =
            Function.update alone (key sender)
              ((alone (key sender)).receive request.seq).2 (key sender) := by
          simp
        simp only [answers, own, decide_true, List.filter_cons_of_pos, agree]
        rw [induction sameSession]
      · have other : key sender ≠ key request.sender := fun equal =>
          own (injective equal).symm
        simp only [answers, own, decide_false, Bool.false_eq_true, not_false_eq_true,
          List.filter_cons_of_neg]
        exact induction (by rw [Function.update_of_ne other, agree])

/-- Senders are undisturbed exactly when no two of them share a session. -/
theorem undisturbed_iff_injective {key : Sender → Key} :
    Undisturbed key ↔ Function.Injective key := by
  constructor
  · intro undisturbed first second shared
    by_contra distinct
    -- Both open their session at sequence number zero; the second looks like a retry.
    have answered := undisturbed [⟨first, 0⟩, ⟨second, 0⟩] second
    simp [answers, distinct, shared, Session.receive, Session.empty] at answered
  · intro injective history sender
    exact answers_filter_sender injective sender history rfl

end

end DsBench
