import KeysetPaging.Tally
import Mathlib.Algebra.GroupWithZero.Nat

/-!
# Counters of a tally

A tally holds ten counters. An event has a weight for each of them, and after any events a counter has
grown by the sum of their weights, modulo `2^64`.
-/

namespace KeysetPaging

/-- The counters of a tally. -/
inductive Counter where
  | issued (neighbour : Neighbour)
  | verified
  | signatureRejections
  | malformedRejections
  | pages (heading : Heading)
  | pagesAtEnd
  | recordsPaged

/-- What a counter of a tally stands at. -/
def Tally.reading (tally : Tally) : Counter → UInt64
  | .issued .prev => tally.prevIssued
  | .issued .next => tally.nextIssued
  | .verified => tally.verified
  | .signatureRejections => tally.signatureRejections
  | .malformedRejections => tally.malformedRejections
  | .pages .first => tally.firstPages
  | .pages .forward => tally.forwardPages
  | .pages .backward => tally.backwardPages
  | .pagesAtEnd => tally.pagesAtEnd
  | .recordsPaged => tally.recordsPaged

namespace Counter

/-- What an event adds to a counter. -/
def weight : Counter → Event → Nat
  | .issued neighbour, .issued other => if other = neighbour then 1 else 0
  | .verified, .verified => 1
  | .signatureRejections, .rejected kind => if kind = .cursorSignature then 1 else 0
  | .malformedRejections, .rejected kind => if kind = .cursorSignature then 0 else 1
  | .pages heading, .composed other _ _ => if other = heading then 1 else 0
  | .pagesAtEnd, .composed _ _ reachedEnd => if reachedEnd then 1 else 0
  | .recordsPaged, .composed _ records _ => records
  | _, _ => 0

/-- What events add to a counter. -/
def total (counter : Counter) (events : List Event) : Nat :=
  (events.map counter.weight).sum

@[simp] theorem total_nil (counter : Counter) : counter.total [] = 0 := rfl

@[simp] theorem total_cons (counter : Counter) (event : Event) (events : List Event) :
    counter.total (event :: events) = counter.weight event + counter.total events := rfl

@[simp] theorem total_append (counter : Counter) (first last : List Event) :
    counter.total (first ++ last) = counter.total first + counter.total last := by
  rw [total, List.map_append, List.sum_append]
  rfl

/-- The tokens that are counted for a neighbour are those reported for it. -/
theorem total_issued (neighbour : Neighbour) (events : List Event) :
    (issued neighbour).total events = events.count (.issued neighbour) := by
  induction events with
  | nil => rfl
  | cons event rest ih =>
      rw [total_cons, List.count_cons, ih, Nat.add_comm]
      cases event with
      | issued other => cases neighbour <;> cases other <;> rfl
      | _ => rfl

/-- A token that is made is counted as that and as nothing else. -/
theorem total_map_issued (counter : Counter) (made : List Neighbour)
    (other : ∀ neighbour, counter ≠ .issued neighbour) :
    counter.total (made.map .issued) = 0 := by
  induction made with
  | nil => rfl
  | cons neighbour rest ih =>
      rw [List.map_cons, total_cons, ih]
      cases counter with
      | issued same => exact absurd rfl (other same)
      | _ => rfl

end Counter

namespace Tally

theorem reading_zero (counter : Counter) : zero.reading counter = 0 := by
  cases counter with
  | issued neighbour => cases neighbour <;> rfl
  | pages heading => cases heading <;> rfl
  | _ => rfl

/-- One event adds its weight to every counter. -/
theorem reading_count (tally : Tally) (event : Event) (counter : Counter) :
    (tally.count event).reading counter =
      tally.reading counter + UInt64.ofNat (counter.weight event) := by
  have unchanged (value : UInt64) : value = value + UInt64.ofNat 0 := (UInt64.add_zero value).symm
  cases event with
  | issued neighbour =>
      cases counter with
      | issued other => cases neighbour <;> cases other <;> first | rfl | exact unchanged _
      | pages heading => cases neighbour <;> cases heading <;> exact unchanged _
      | _ => cases neighbour <;> exact unchanged _
  | verified =>
      cases counter with
      | issued neighbour => cases neighbour <;> exact unchanged _
      | pages heading => cases heading <;> exact unchanged _
      | verified => rfl
      | _ => exact unchanged _
  | rejected kind =>
      cases counter with
      | issued neighbour => cases kind <;> cases neighbour <;> exact unchanged _
      | pages heading => cases kind <;> cases heading <;> exact unchanged _
      | signatureRejections => cases kind <;> first | rfl | exact unchanged _
      | malformedRejections => cases kind <;> first | rfl | exact unchanged _
      | _ => cases kind <;> exact unchanged _
  | composed heading records reachedEnd =>
      cases counter with
      | issued neighbour => cases heading <;> cases neighbour <;> exact unchanged _
      | pages other => cases heading <;> cases other <;> first | rfl | exact unchanged _
      | pagesAtEnd => cases heading <;> cases reachedEnd <;> first | rfl | exact unchanged _
      | recordsPaged => cases heading <;> rfl
      | _ => cases heading <;> exact unchanged _

/-- Events add the sum of their weights to every counter. -/
theorem reading_countAll (tally : Tally) (events : List Event) (counter : Counter) :
    (tally.countAll events).reading counter =
      tally.reading counter + UInt64.ofNat (counter.total events) := by
  induction events generalizing tally with
  | nil => exact (UInt64.add_zero _).symm
  | cons event rest ih =>
      calc (tally.countAll (event :: rest)).reading counter
          = (tally.count event).reading counter + UInt64.ofNat (counter.total rest) := ih _
        _ = tally.reading counter +
              (UInt64.ofNat (counter.weight event) + UInt64.ofNat (counter.total rest)) := by
            rw [reading_count, UInt64.add_assoc]
        _ = tally.reading counter + UInt64.ofNat (counter.total (event :: rest)) := by
            rw [Counter.total_cons, UInt64.ofNat_add]

end Tally

end KeysetPaging
