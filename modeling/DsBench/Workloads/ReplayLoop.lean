import DsBench.Foundation.PagedRead
import DsBench.Workloads.CatchUp

/-! # The two replay loops

The catch-up workload and the hot re-scan of the reads workload follow a stream's pages
with the same loop and describe its failures differently. A server here is asked for an
offset and may answer by everything it was asked before.
-/

namespace DsBench.Workloads.ReplayLoop

open CatchUp

/-- What a GET brings back. `body` is the number of bytes drained, or none when the
connection breaks before the end. -/
structure Response where
  status : Nat
  reason : Text
  streamUpToDate : Option HeaderValue
  streamNextOffset : Option HeaderValue
  body : Option Nat
deriving DecidableEq, Repr

/-- `none` is a request that gets no response. -/
abbrev Server := (asked : List Text) → (offset : Text) → Option Response

inductive Failure where
  | get
  | status (code : Nat) (reason : Text)
  | body
deriving DecidableEq, Repr

/-- One turn of the loop up to the end of the body. -/
def receive : Option Response → Except Failure (PageReply Text)
  | none => .error .get
  | some response =>
      if isSuccess response.status then
        let up := ((response.streamUpToDate.bind toStr).map fun value =>
          eqIgnoreAsciiCase value "true".toList).getD false
        let next := response.streamNextOffset.bind toStr
        match response.body with
        | some length => .ok ⟨length, up, next⟩
        | none => .error .body
      else .error (.status response.status response.reason)

def pageServer (server : Server) : PageServer Text Failure :=
  fun asked offset => receive (server asked offset)

def readAll (describe : Failure → Text) (server : Server) (offset : Text) :
    PagedRead Text Text :=
  readPages guardLimit
    (fun asked offset => (receive (server asked offset)).mapError describe) [] offset 0 0

def statusText (code : Nat) (reason : Text) : Text := decimal code ++ ' ' :: reason

def catchUpFailure : Failure → Text
  | .get => "catch-up GET".toList
  | .status code reason => "catch-up status ".toList ++ statusText code reason
  | .body => "catch-up body".toList

/-- `catch_up_read_all`, with the offsets it asks for. -/
def catchUpReadAll (server : Server) : PagedRead Text Text :=
  readAll catchUpFailure server catchUpStart

def readsFailure : Failure → Text
  | .get => "reads GET".toList
  | .status code reason => "reads GET status ".toList ++ statusText code reason
  | .body => "reads body".toList

/-- `catch_up_once`: the offsets it asks for, and the bytes with the offset the next
pass starts from. -/
def catchUpOnce (server : Server) (startOffset : Text) :
    List Text × Except Text (Nat × Text) :=
  let read := readAll readsFailure server startOffset
  (read.asked, read.result.map fun total => (total, "-1".toList))

/-! ## The loops are one -/

theorem readAll_eq (describe : Failure → Text) (server : Server) (offset : Text) :
    readAll describe server offset =
      (readPages guardLimit (pageServer server) [] offset 0 0).mapFailure describe :=
  readPages_mapFailure describe guardLimit (pageServer server) [] offset 0 0

theorem loops_from_start (server : Server) :
    let read := readPages guardLimit (pageServer server) [] catchUpStart 0 0
    catchUpReadAll server = ⟨read.asked, read.result.mapError catchUpFailure⟩ ∧
      catchUpOnce server catchUpStart =
        (read.asked, (read.result.mapError readsFailure).map fun total =>
          (total, "-1".toList)) := by
  intro read
  constructor
  · exact readAll_eq catchUpFailure server catchUpStart
  · rw [catchUpOnce, readAll_eq readsFailure server catchUpStart]
    rfl

/-! ## The model that counts pages -/

def answerOf : Except Failure (PageReply Text) → PageAnswer
  | .ok page => .page page.length page.upToDate page.next
  | .error .get => .unreachable
  | .error (.status code reason) => .refused code reason
  | .error .body => .broken

def timedPages (answers : Nat → Option Response) (delay : Nat → ℚ) (i : Nat) : Page :=
  ⟨delay i, answerOf (receive (answers i))⟩

theorem timed_eq (answers : Nat → Option Response) (delay : Nat → ℚ) (left : Nat)
    (asked : List Text) (offset : Text) (total : Nat) (elapsed : ℚ)
    (counted : asked.length + (left + 1) = guardLimit) :
    (CatchUp.catchUpReadAll (timedPages answers delay) (left + 1) offset total elapsed).1 =
      (readPages guardLimit
        (fun asked _ => (receive (answers asked.length)).mapError catchUpFailure)
        asked offset total asked.length).result := by
  induction left using Nat.strong_induction_on
    generalizing asked offset total elapsed with
  | _ left induction =>
      have position : guardLimit - (left + 1) = asked.length := by omega
      have remaining : 0 < left ↔ asked.length + 1 < guardLimit := by omega
      rw [CatchUp.catchUpReadAll, readPages, position]
      cases received : receive (answers asked.length) with
      | error failure =>
          have answer : (timedPages answers delay asked.length).answer =
              answerOf (.error failure) := congrArg answerOf received
          cases failure <;> simp only [answer, answerOf] <;> rfl
      | ok page =>
          have answer : (timedPages answers delay asked.length).answer =
              answerOf (.ok page) := congrArg answerOf received
          have mapped : (Except.ok page).mapError catchUpFailure = .ok page := rfl
          simp only [answer, answerOf, mapped]
          cases page.next with
          | none => rfl
          | some next =>
              simp only [remaining]
              split
              · rename_i goesOn
                rcases Nat.exists_eq_add_of_lt (remaining.mpr goesOn.2.2) with ⟨less, more⟩
                rw [Nat.zero_add] at more
                subst more
                have rest := induction less (Nat.lt_succ_self less) (asked ++ [offset])
                  next (total + page.length)
                  (elapsed + (timedPages answers delay asked.length).delay)
                  (by rw [List.length_append, List.length_singleton]; omega)
                rw [List.length_append, List.length_singleton] at rest
                exact rest
              · rfl

theorem replay_eq (answers : Nat → Option Response) (delay : Nat → ℚ) :
    (replay (timedPages answers delay)).1 =
      (catchUpReadAll fun asked _ => answers asked.length).result :=
  timed_eq answers delay (guardLimit - 1) [] catchUpStart 0 0 rfl

/-! ## Every server -/

/-- Both loops stop within the guard whatever the server does, and agree; a stream of
no more pages than that is read whole, every page once. -/
theorem replays_agree (server : Server) :
    (catchUpReadAll server).asked.length ≤ 100000 ∧
    (catchUpOnce server catchUpStart).1.length ≤ 100000 ∧
    ((∃ total, (catchUpReadAll server).result = .ok total ∧
        (catchUpOnce server catchUpStart).2 = .ok (total, catchUpStart)) ∨
      ∃ failure failure', (catchUpReadAll server).result = .error failure ∧
        (catchUpOnce server catchUpStart).2 = .error failure') ∧
    ∀ length rest, Serves (pageServer server) [] ((catchUpStart, length) :: rest) →
      rest.length + 1 ≤ 100000 →
      (catchUpReadAll server).result = .ok (length + (rest.map Prod.snd).sum) ∧
      (catchUpOnce server catchUpStart).2 =
        .ok (length + (rest.map Prod.snd).sum, catchUpStart) ∧
      (catchUpReadAll server).asked = catchUpStart :: rest.map Prod.fst ∧
      (catchUpOnce server catchUpStart).1 = catchUpStart :: rest.map Prod.fst ∧
      (Forgetful (pageServer server) → (catchUpStart :: rest.map Prod.fst).Nodup) := by
  rcases loops_from_start server with ⟨all, once⟩
  rw [all, once]
  have bound := readPages_asked_length guardLimit (pageServer server) [] catchUpStart 0 0
    (by decide)
  refine ⟨bound, bound, ?_, ?_⟩
  · cases (readPages guardLimit (pageServer server) [] catchUpStart 0 0).result with
    | ok total => exact .inl ⟨total, rfl, rfl⟩
    | error failure => exact .inr ⟨_, _, rfl, rfl⟩
  · intro length rest serves fits
    have whole : ((catchUpStart, length) :: rest).take (guardLimit - 0) =
        (catchUpStart, length) :: rest := List.take_of_length_le fits
    rw [readPages_serves serves 0 (by decide), whole, Nat.zero_add]
    refine ⟨rfl, rfl, rfl, rfl, ?_⟩
    intro forgetful
    exact serves.nodup forgetful

def twoPages : Server := fun _ offset =>
  if offset = catchUpStart then
    some ⟨200, "OK".toList, none, some [49, 48], some 10⟩
  else some ⟨200, "OK".toList, some [84, 82, 85, 69], some [49, 53], some 5⟩

theorem replays_agree_two_pages :
    (catchUpReadAll twoPages).result = .ok 15 ∧
      (catchUpReadAll twoPages).asked = ["-1".toList, "10".toList] := by
  have serves : Serves (pageServer twoPages) [] [("-1".toList, 10), ("10".toList, 5)] :=
    .page [] _ _ 10 5 [] rfl (by decide) (.last _ _ 5 _ rfl)
  have whole := (replays_agree twoPages).2.2.2 10 [("10".toList, 5)] serves (by decide)
  exact ⟨whole.1, whole.2.2.1⟩

end DsBench.Workloads.ReplayLoop
