import KeysetPaging.Traced

/-!
# Tallies

Counts of events, each modulo `2^64`. A rejected token counts as a signature rejection if only the
signature was wrong, and as malformed otherwise.
-/

namespace KeysetPaging

structure Tally where
  prevIssued : UInt64
  nextIssued : UInt64
  verified : UInt64
  signatureRejections : UInt64
  malformedRejections : UInt64
  firstPages : UInt64
  forwardPages : UInt64
  backwardPages : UInt64
  pagesAtEnd : UInt64
  recordsPaged : UInt64
  deriving DecidableEq

namespace Tally

def zero : Tally :=
  ⟨0, 0, 0, 0, 0, 0, 0, 0, 0, 0⟩

/-- Counts a page by where its request headed. -/
def countPage (tally : Tally) : Heading → Tally
  | .first => { tally with firstPages := tally.firstPages + 1 }
  | .forward => { tally with forwardPages := tally.forwardPages + 1 }
  | .backward => { tally with backwardPages := tally.backwardPages + 1 }

def count (tally : Tally) : Event → Tally
  | .issued .prev => { tally with prevIssued := tally.prevIssued + 1 }
  | .issued .next => { tally with nextIssued := tally.nextIssued + 1 }
  | .verified => { tally with verified := tally.verified + 1 }
  | .rejected .cursorSignature =>
      { tally with signatureRejections := tally.signatureRejections + 1 }
  | .rejected _ => { tally with malformedRejections := tally.malformedRejections + 1 }
  | .composed heading records reachedEnd =>
      let paged := tally.countPage heading
      { paged with
        recordsPaged := paged.recordsPaged + UInt64.ofNat records
        pagesAtEnd := if reachedEnd then paged.pagesAtEnd + 1 else paged.pagesAtEnd }

def countAll (tally : Tally) (events : List Event) : Tally :=
  events.foldl count tally

@[simp] theorem countAll_nil (tally : Tally) : tally.countAll [] = tally := rfl

@[simp] theorem countAll_append (tally : Tally) (first second : List Event) :
    tally.countAll (first ++ second) = (tally.countAll first).countAll second :=
  List.foldl_append

end Tally

end KeysetPaging
