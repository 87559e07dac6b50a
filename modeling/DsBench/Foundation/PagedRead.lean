import Mathlib.Algebra.BigOperators.Group.List.Basic
import Mathlib.Algebra.GroupWithZero.Nat
import Mathlib.Data.List.Nodup

/-! # Reading a paged sequence

A reader asks for one page after the other, each time from the offset that the page
before it named, until a page says that nothing follows. A limit on the number of
requests guards it against a server that never says so.
-/

namespace DsBench

structure PageReply (Offset : Type u) where
  length : Nat
  upToDate : Bool
  next : Option Offset
deriving DecidableEq, Repr

/-- A server may remember every offset it was asked for, oldest first. -/
abbrev PageServer (Offset : Type u) (Failure : Type v) :=
  (asked : List Offset) → (offset : Offset) → Except Failure (PageReply Offset)

structure PagedRead (Offset : Type u) (Failure : Type v) where
  asked : List Offset
  result : Except Failure Nat

namespace PagedRead

section

variable {Offset : Type u} {Failure : Type v} {Described : Type w}

def mapFailure (describe : Failure → Described) (read : PagedRead Offset Failure) :
    PagedRead Offset Described :=
  ⟨read.asked, read.result.mapError describe⟩

end

end PagedRead

/-! ## Servers that hold a finite paged sequence -/

section

variable {Offset : Type u} {Failure : Type v} {server : PageServer Offset Failure}

/-- After the requests `asked` the server goes on to answer with exactly these pages,
each an offset and a length: all but the last name the page that follows, which is not
the page asked for, and only the last one says that nothing follows. -/
inductive Serves (server : PageServer Offset Failure) :
    List Offset → List (Offset × Nat) → Prop
  | last (asked : List Offset) (offset : Offset) (length : Nat) (next : Option Offset) :
      server asked offset = .ok ⟨length, true, next⟩ →
      Serves server asked [(offset, length)]
  | page (asked : List Offset) (offset next : Offset) (length nextLength : Nat)
      (rest : List (Offset × Nat)) :
      server asked offset = .ok ⟨length, false, some next⟩ → next ≠ offset →
      Serves server (asked ++ [offset]) ((next, nextLength) :: rest) →
      Serves server asked ((offset, length) :: (next, nextLength) :: rest)

theorem Serves.suffix {asked : List Offset} {before : List (Offset × Nat)}
    {page : Offset × Nat} {after : List (Offset × Nat)}
    (serves : Serves server asked (before ++ page :: after)) :
    ∃ asked', Serves server asked' (page :: after) := by
  induction before generalizing asked with
  | nil => exact ⟨asked, serves⟩
  | cons first before induction =>
      generalize remaining : before ++ page :: after = pages at serves
      rw [List.cons_append, remaining] at serves
      cases serves with
      | last => simp at remaining
      | page _ _ _ _ _ _ _ _ serves =>
          rw [← remaining] at serves
          exact induction serves

/-- The server answers an offset the same way whatever it was asked for before. -/
def Forgetful (server : PageServer Offset Failure) : Prop :=
  ∀ asked asked' offset, server asked offset = server asked' offset

theorem Serves.unique (forgetful : Forgetful server) {asked asked' : List Offset}
    {pages pages' : List (Offset × Nat)}
    (serves : Serves server asked pages) (serves' : Serves server asked' pages')
    (same : pages.head?.map Prod.fst = pages'.head?.map Prod.fst) : pages = pages' := by
  induction serves generalizing asked' pages' with
  | last asked offset length next answered =>
      cases serves' with
      | last _ offset' length' next' answered' =>
          have equal : offset = offset' := by simpa using same
          subst equal
          rw [forgetful asked' asked, answered] at answered'
          simp_all
      | page _ offset' next' length' nextLength' rest' answered' moves' serves' =>
          have equal : offset = offset' := by simpa using same
          subst equal
          rw [forgetful asked' asked, answered] at answered'
          simp at answered'
  | page asked offset next length nextLength rest answered moves serves induction =>
      cases serves' with
      | last _ offset' length' next' answered' =>
          have equal : offset = offset' := by simpa using same
          subst equal
          rw [forgetful asked' asked, answered] at answered'
          simp at answered'
      | page _ offset' next' length' nextLength' rest' answered' moves' serves' =>
          have equal : offset = offset' := by simpa using same
          subst equal
          rw [forgetful asked' asked, answered] at answered'
          have sames : length = length' ∧ next = next' := by simpa using answered'
          rw [sames.1, induction serves' (by simp [sames.2])]

theorem Serves.nodup (forgetful : Forgetful server) {asked : List Offset}
    {pages : List (Offset × Nat)} (serves : Serves server asked pages) :
    (pages.map Prod.fst).Nodup := by
  induction serves with
  | last => exact List.nodup_singleton _
  | page asked offset next length nextLength rest answered moves serves induction =>
      rw [List.map_cons, List.nodup_cons]
      refine ⟨?_, induction⟩
      intro again
      rcases List.mem_map.mp again with ⟨later, member, equal⟩
      rcases List.append_of_mem member with ⟨before, after, split⟩
      have whole := Serves.page asked offset next length nextLength rest answered moves
        serves
      rw [split] at serves
      rcases serves.suffix with ⟨asked', serves'⟩
      have one := whole.unique forgetful serves' (by simp [equal])
      rw [split] at one
      have lengths := congrArg List.length one
      simp only [List.length_cons, List.length_append] at lengths
      omega

end

/-! ## The reader -/

section

variable {Offset : Type u} [DecidableEq Offset] {Failure : Type v} {Described : Type w}

/-- The reader's loop. `guard` counts the pages received so far. -/
def readPages (limit : Nat) (server : PageServer Offset Failure) (asked : List Offset)
    (offset : Offset) (total guard : Nat) : PagedRead Offset Failure :=
  match server asked offset with
  | .error failure => ⟨asked ++ [offset], .error failure⟩
  | .ok page =>
      match page.next with
      | some next =>
          if page.upToDate = false ∧ next ≠ offset ∧ guard + 1 < limit then
            readPages limit server (asked ++ [offset]) next (total + page.length)
              (guard + 1)
          else ⟨asked ++ [offset], .ok (total + page.length)⟩
      | none => ⟨asked ++ [offset], .ok (total + page.length)⟩
termination_by limit - guard

/-- Whatever the server answers, the guard bounds the number of requests. -/
theorem readPages_asked_length (limit : Nat) (server : PageServer Offset Failure)
    (asked : List Offset) (offset : Offset) (total guard : Nat)
    (within : guard < limit) :
    (readPages limit server asked offset total guard).asked.length ≤
      asked.length + (limit - guard) := by
  induction asked, offset, total, guard using readPages.induct limit server with
  | case1 asked offset total guard failure failed =>
      rw [readPages, failed]
      simp only [List.length_append, List.length_singleton]
      omega
  | case2 asked offset total guard page received next named goesOn induction =>
      rw [readPages, received]
      simp only [named, if_pos goesOn]
      have bound := induction goesOn.2.2
      simp only [List.length_append, List.length_singleton] at bound
      omega
  | case3 asked offset total guard page received next named stops =>
      rw [readPages, received]
      simp only [named, if_neg stops, List.length_append, List.length_singleton]
      omega
  | case4 asked offset total guard page received unnamed =>
      rw [readPages, received]
      simp only [unnamed, List.length_append, List.length_singleton]
      omega

theorem readPages_mapFailure (describe : Failure → Described) (limit : Nat)
    (server : PageServer Offset Failure) (asked : List Offset) (offset : Offset)
    (total guard : Nat) :
    readPages limit (fun asked offset => (server asked offset).mapError describe)
        asked offset total guard =
      (readPages limit server asked offset total guard).mapFailure describe := by
  induction asked, offset, total, guard using readPages.induct limit server with
  | case1 asked offset total guard failure failed =>
      rw [readPages, readPages, failed]
      rfl
  | case2 asked offset total guard page received next named goesOn induction =>
      rw [readPages, readPages, received]
      simp only [Except.mapError, named, if_pos goesOn]
      exact induction
  | case3 asked offset total guard page received next named stops =>
      rw [readPages, readPages, received]
      simp only [Except.mapError, named, if_neg stops]
      rfl
  | case4 asked offset total guard page received unnamed =>
      rw [readPages, readPages, received]
      simp only [Except.mapError, unnamed]
      rfl

/-- The reader gets as many of the pages as its guard still allows, each asked for once
and in their order. -/
theorem readPages_serves {limit guard : Nat} {server : PageServer Offset Failure}
    {asked : List Offset} {offset : Offset} {length : Nat} {rest : List (Offset × Nat)}
    (serves : Serves server asked ((offset, length) :: rest)) (total : Nat)
    (within : guard < limit) :
    readPages limit server asked offset total guard =
      ⟨asked ++ (((offset, length) :: rest).take (limit - guard)).map Prod.fst,
        .ok (total + ((((offset, length) :: rest).take (limit - guard)).map
          Prod.snd).sum)⟩ := by
  rcases Nat.exists_eq_add_of_lt within with ⟨left, split⟩
  have allowed : limit - guard = left + 1 := by omega
  rw [allowed, List.take_succ_cons]
  induction rest generalizing asked offset length total guard left with
  | nil =>
      cases serves with
      | last _ _ _ next answered =>
          rw [readPages, answered]
          cases next <;> simp
  | cons following rest induction =>
      cases serves with
      | page _ _ next _ nextLength _ answered moves serves =>
          rw [readPages, answered]
          cases left with
          | zero =>
              have spent : ¬ guard + 1 < limit := by omega
              simp [spent]
          | succ left =>
              have more : guard + 1 < limit := by omega
              simp only [true_and, ne_eq, moves, not_false_eq_true, more, if_true]
              rw [induction serves (total + length) more left (by omega) (by omega)]
              simp [Nat.add_assoc]

/-! ## Servers of a log -/

/-- An offset names a place in a log of `size` bytes. The server hands out what follows the
place it is asked for, at least `least` bytes unless it comes to the end, names the place
after it, and says up to date only at the end. -/
structure ServesLog (server : PageServer Offset Failure) (place : Offset → Option Nat)
    (size least : Nat) : Prop where
  inside : ∀ asked offset start reply, place offset = some start →
    server asked offset = .ok reply → start + reply.length ≤ size
  ending : ∀ asked offset start reply, place offset = some start →
    server asked offset = .ok reply → reply.upToDate = true ∨ reply.next = none →
      start + reply.length = size
  following : ∀ asked offset start reply next, place offset = some start →
    server asked offset = .ok reply → reply.next = some next →
      place next = some (start + reply.length)
  pages : ∀ asked offset start reply, place offset = some start →
    server asked offset = .ok reply → start + reply.length < size → least ≤ reply.length

theorem readPages_log {limit least size : Nat} {server : PageServer Offset Failure}
    {place : Offset → Option Nat} (serves : ServesLog server place size least)
    (positive : 0 < least) (asked : List Offset) (offset : Offset) (total guard : Nat)
    {start : Nat} (placed : place offset = some start) (before : start ≤ size)
    (enough : size ≤ start + least * (limit - guard)) (within : guard < limit) :
    (readPages limit server asked offset total guard).result = .ok (total + (size - start)) ∨
      ∃ failure earlier there, server earlier there = .error failure ∧
        (readPages limit server asked offset total guard).result = .error failure := by
  induction asked, offset, total, guard using readPages.induct limit server
    generalizing start with
  | case1 asked offset total guard failure failed =>
      right
      refine ⟨failure, asked, offset, failed, ?_⟩
      rw [readPages, failed]
  | case2 asked offset total guard page received next named goesOn induction =>
      have inside := serves.inside asked offset start page placed received
      have following := serves.following asked offset start page next placed received named
      have allowed : limit - guard = limit - (guard + 1) + 1 := by omega
      have reached : size ≤ start + page.length + least * (limit - (guard + 1)) := by
        by_cases end_reached : start + page.length = size
        · omega
        · have large := serves.pages asked offset start page placed received
            (Nat.lt_of_le_of_ne inside end_reached)
          rw [allowed, Nat.mul_succ] at enough
          omega
      rw [readPages, received]
      simp only [named, if_pos goesOn]
      rcases induction following inside reached goesOn.2.2 with whole | broken
      · left
        rw [whole]
        congr 1
        omega
      · exact .inr broken
  | case3 asked offset total guard page received next named stops =>
      have inside := serves.inside asked offset start page placed received
      have following := serves.following asked offset start page next placed received named
      have whole : start + page.length = size := by
        by_contra short
        have large := serves.pages asked offset start page placed received
          (Nat.lt_of_le_of_ne inside short)
        have unfinished : page.upToDate = false := by
          cases upToDate : page.upToDate with
          | false => rfl
          | true =>
              exact (short (serves.ending asked offset start page placed received
                (.inl upToDate))).elim
        have moves : next ≠ offset := by
          intro same
          rw [same, placed, Option.some.injEq] at following
          omega
        have spent : ¬ guard + 1 < limit := fun more => stops ⟨unfinished, moves, more⟩
        have last : limit - guard = 1 := by omega
        rw [last, Nat.mul_one] at enough
        omega
      left
      rw [readPages, received]
      simp only [named, if_neg stops]
      congr 1
      omega
  | case4 asked offset total guard page received unnamed =>
      have whole := serves.ending asked offset start page placed received (.inr unnamed)
      left
      rw [readPages, received]
      simp only [unnamed]
      congr 1
      omega

end

end DsBench
