import KeysetPaging.Metrics
import KeysetPaging.Proofs.Page.Reports
import KeysetPaging.Proofs.Paging.Agreement
import KeysetPaging.Proofs.Tally.Counters

/-!
# The tally and what callers got

After any calls outside of scopes, the tally is accounted for by what the callers put in and got back:
tokens that were decoded, pages that were returned, and cursors on those pages. Tokens alone can be
counted that no caller got, and only where a page was begun and failed. All numbers are modulo `2^64`.
-/

namespace KeysetPaging

/-- The ways to look at the cursors that a query carries. -/
inductive Accessor where
  | position (neighbour : Neighbour)
  | value (neighbour : Neighbour)
  | number (neighbour : Neighbour)
  | currentPage

namespace Accessor

/-- The cursor that an accessor looks at, if the query carries it. -/
def cursor? (query : Query) : Accessor → Option String
  | .position .prev => query.prevCursor
  | .position .next => query.nextCursor
  | .value .prev => query.prevCursor
  | .value .next => query.nextCursor
  | .number .prev => query.prevCursor
  | .number .next => query.nextCursor
  | .currentPage => query.cursor?

/-- What an accessor reports. -/
def events (query : Query) : Accessor → List Event
  | .position .prev => query.resolvePrev.events
  | .position .next => query.resolveNext.events
  | .value .prev => query.prevValue.events
  | .value .next => query.nextValue.events
  | .number .prev => query.prevNumber.events
  | .number .next => query.nextNumber.events
  | .currentPage => query.currentPage.events

end Accessor

/-- A call with all that it depends on; the source of a served request answers as it likes. -/
inductive Call : Type 1 where
  | make (query : Query) (value : Option String) (page : UInt32)
  | read (query : Query) (token : String)
  | access (query : Query) (accessor : Accessor)
  | seek (policy : Policy) (query : Query)
  | compose {ρ : Type} [CursorValued ρ] (policy : Policy) (total : Option UInt64) (batch : List ρ)
      (query : Query)
  | serve {ρ ε : Type} [CursorValued ρ] (policy : Policy) (source : Source Id ρ ε) (query : Query)

/-- A page that a caller got, with the heading of its request and whether its batch was the last. -/
structure Returned where
  heading : Heading
  records : Nat
  has : Neighbour → Bool
  last : Bool

/-- A page as a caller got it for a query and a batch. -/
def Returned.ofPage {ρ : Type} (policy : Policy) (query : Query) (batch : List ρ) (page : Page ρ) :
    Returned where
  heading := query.heading
  records := page.length
  has := page.has
  last := Page.lastBatch policy query batch

/-- Whether a page was put together, failed to be, or was not begun. -/
inductive Assembly where
  | none
  | failed
  | returned (page : Returned)

namespace Assembly

/-- What putting a page together for a query and a batch came to. -/
def ofOutcome {ρ ε : Type} (policy : Policy) (query : Query) (batch : List ρ) :
    Except ε (Page ρ) → Assembly
  | .ok page => .returned (.ofPage policy query batch page)
  | .error _ => .failed

def pages : Assembly → List Returned
  | .returned page => [page]
  | _ => []

def failures : Assembly → Nat
  | .failed => 1
  | _ => 0

/-- How many of the reported tokens for a neighbour no page carries, because it failed. -/
def lost (assembly : Assembly) (events : List Event) (neighbour : Neighbour) : Nat :=
  match assembly with
  | .failed => events.count (.issued neighbour)
  | _ => 0

end Assembly

namespace Call

/-- What a call reports. -/
def events : Call → List Event
  | .make query value page => (Traced.ofExcept (query.tokenFor value page)).events
  | .read query token => (query.resolve token).events
  | .access query accessor => accessor.events query
  | .seek policy query => (Seek.ofQuery policy query).events
  | @compose _ _ policy total batch query => (Page.compose policy total batch query).events
  | @serve _ _ _ policy source query => Traced.events (Id.run (Paging.serve policy source query))

/-- How many tokens a call decodes. -/
def decodings : Call → Nat
  | .make _ _ _ => 0
  | .read _ _ => 1
  | .access query accessor => (accessor.cursor? query).isSome.toNat
  | .seek _ query => query.cursor?.isSome.toNat
  | @compose _ _ _ _ batch query => if batch.isEmpty then 0 else query.cursor?.isSome.toNat
  | @serve _ _ _ _ _ query => query.cursor?.isSome.toNat

/-- What a call comes to as far as it puts a page together. -/
def assembly : Call → Assembly
  | @compose _ _ policy total batch query =>
      .ofOutcome policy query batch (Page.compose policy total batch query).outcome
  | @serve _ _ _ policy source query =>
      match Paging.answer policy source query with
      | .error (.source _) => .none
      | .error (.cursor _) => if (Paging.batch? policy source query).isSome then .failed else .none
      | .ok page =>
          if query.demand.wantsRows then
            .returned (.ofPage policy query ((Paging.batch? policy source query).getD []) page)
          else .none
  | _ => .none

end Call

/-- What events come to: so many decodings, these pages returned, and these tokens lost with so many
pages that failed. -/
structure Accounts (events : List Event) (decodings : Nat) (pages : List Returned)
    (lost : Neighbour → Nat) (failures : Nat) : Prop where
  decoded : Counter.verified.total events + Counter.signatureRejections.total events +
    Counter.malformedRejections.total events = decodings
  returned : ∀ heading, (Counter.pages heading).total events =
    pages.countP fun page => page.heading = heading
  records : Counter.recordsPaged.total events = (pages.map Returned.records).sum
  issued : ∀ neighbour, (Counter.issued neighbour).total events =
    pages.countP (fun page => page.has neighbour) + lost neighbour
  ended : Counter.pagesAtEnd.total events =
    pages.countP (fun page => page.heading ≠ .backward ∧ page.has .next = false) +
      pages.countP fun page => page.heading = .backward ∧ page.last
  bounded : ∀ neighbour, lost neighbour ≤ failures

/-- Events that come to decodings and to nothing else. -/
abbrev Decodes (events : List Event) (decodings : Nat) : Prop :=
  Accounts events decodings [] (fun _ => 0) 0

namespace Accounts

theorem nothing : Decodes [] 0 where
  decoded := rfl
  returned := fun _ => rfl
  records := rfl
  issued := fun _ => rfl
  ended := rfl
  bounded := fun _ => Nat.le_refl 0

theorem append {events others : List Event} {decodings more : Nat} {pages next : List Returned}
    {lost gone : Neighbour → Nat} {failures misses : Nat}
    (first : Accounts events decodings pages lost failures)
    (last : Accounts others more next gone misses) :
    Accounts (events ++ others) (decodings + more) (pages ++ next)
      (fun neighbour => lost neighbour + gone neighbour) (failures + misses) where
  decoded := by
    have before := first.decoded
    have behind := last.decoded
    simp only [Counter.total_append]
    omega
  returned := by
    intro heading
    rw [Counter.total_append, first.returned, last.returned, List.countP_append]
  records := by
    rw [Counter.total_append, first.records, last.records, List.map_append, List.sum_append]
  issued := by
    intro neighbour
    rw [Counter.total_append, first.issued, last.issued, List.countP_append]
    omega
  ended := by
    rw [Counter.total_append, first.ended, last.ended, List.countP_append, List.countP_append]
    omega
  bounded := fun neighbour => Nat.add_le_add (first.bounded neighbour) (last.bounded neighbour)

theorem verified : Decodes [.verified] 1 where
  decoded := rfl
  returned := fun _ => rfl
  records := rfl
  issued := fun _ => rfl
  ended := rfl
  bounded := fun _ => Nat.le_refl 0

/-- A rejection counts once, whatever the class of its fault. -/
theorem rejected (kind : FaultClass) : Decodes [.rejected kind] 1 where
  decoded := by cases kind <;> rfl
  returned := fun _ => rfl
  records := rfl
  issued := fun _ => rfl
  ended := rfl
  bounded := fun _ => Nat.le_refl 0

theorem resolve (query : Query) (token : String) : Decodes (query.resolve token).events 1 := by
  cases read : query.read token with
  | ok position =>
      rw [Query.resolve_of_ok read]
      exact verified
  | error fault =>
      rw [Query.resolve_of_error read]
      exact rejected fault.kind

theorem resolve? (query : Query) (cursor : Option String) :
    Decodes (query.resolve? cursor).events cursor.isSome.toNat := by
  cases cursor with
  | none => exact nothing
  | some token =>
      have same : (query.resolve? (some token)).events = (query.resolve token).events :=
        Traced.events_bind_of_silent _ fun _ => rfl
      rw [same]
      exact resolve query token

theorem access (query : Query) (accessor : Accessor) :
    Decodes (accessor.events query) (accessor.cursor? query).isSome.toNat := by
  have number (found : Option Position) : (Query.numberOf found).events = [] := by
    cases found <;> rfl
  have same : accessor.events query = (query.resolve? (accessor.cursor? query)).events := by
    cases accessor with
    | position neighbour => cases neighbour <;> rfl
    | value neighbour =>
        cases neighbour with
        | prev => exact Traced.events_bind_of_silent query.resolvePrev fun _ => rfl
        | next => exact Traced.events_bind_of_silent query.resolveNext fun _ => rfl
    | number neighbour =>
        cases neighbour with
        | prev => exact Traced.events_bind_of_silent query.resolvePrev number
        | next => exact Traced.events_bind_of_silent query.resolveNext number
    | currentPage => exact Traced.events_bind_of_silent query.anchor fun _ => rfl
  rw [same]
  exact resolve? query (accessor.cursor? query)

theorem seek (policy : Policy) (query : Query) :
    Decodes (Seek.ofQuery policy query).events query.cursor?.isSome.toNat := by
  have same : (Seek.ofQuery policy query).events = query.anchor.events := by
    refine Traced.events_bind_of_silent _ fun found => ?_
    exact Traced.events_bind_of_silent _ fun _ => rfl
  rw [same]
  exact resolve? query query.cursor?

/-- The tokens that were made for a page are lost if nothing becomes of it. -/
theorem issued_alone {made : List Neighbour} (distinct : made.Nodup) :
    Accounts (made.map .issued) 0 []
      (fun neighbour => (made.map Event.issued).count (.issued neighbour)) 1 where
  decoded := by
    rw [Counter.total_map_issued .verified made nofun,
      Counter.total_map_issued .signatureRejections made nofun,
      Counter.total_map_issued .malformedRejections made nofun]
  returned := fun heading => Counter.total_map_issued (.pages heading) made nofun
  records := Counter.total_map_issued .recordsPaged made nofun
  issued := fun neighbour => (Counter.total_issued neighbour _).trans (Nat.zero_add _).symm
  ended := Counter.total_map_issued .pagesAtEnd made nofun
  bounded := by
    intro neighbour
    rw [Page.count_map_issued distinct]
    split <;> decide

/-- The tokens that were made for a page are on it if it is returned. -/
theorem composed (page : Returned) {made : List Neighbour} (distinct : made.Nodup)
    (has : ∀ neighbour, neighbour ∈ made ↔ page.has neighbour = true)
    (ended : page.heading ≠ .backward → page.has .next = !page.last) :
    Accounts (made.map .issued ++ [.composed page.heading page.records page.last]) 0 [page]
      (fun _ => 0) 0 where
  decoded := by
    rw [Counter.total_append, Counter.total_append, Counter.total_append,
      Counter.total_map_issued .verified made nofun,
      Counter.total_map_issued .signatureRejections made nofun,
      Counter.total_map_issued .malformedRejections made nofun]
    rfl
  returned := by
    intro heading
    rw [Counter.total_append, Counter.total_map_issued (.pages heading) made nofun]
    simp [Counter.weight, List.countP_cons]
  records := by
    rw [Counter.total_append, Counter.total_map_issued .recordsPaged made nofun]
    simp [Counter.weight]
  issued := by
    intro neighbour
    rw [Counter.total_append, Counter.total_issued, Page.count_map_issued distinct]
    simp [Counter.weight, List.countP_cons, has]
  ended := by
    rw [Counter.total_append, Counter.total_map_issued .pagesAtEnd made nofun]
    by_cases back : page.heading = .backward
    · simp [Counter.weight, List.countP_cons, back]
    · simp [Counter.weight, List.countP_cons, back, ended back]
  bounded := fun _ => Nat.le_refl 0

end Accounts

/-- Events are those of a call that decodes so many tokens and comes to this. -/
def Assembly.Explains (assembly : Assembly) (events : List Event) (decodings : Nat) : Prop :=
  Accounts events decodings assembly.pages (assembly.lost events) assembly.failures

namespace Assembly

theorem explains_none {checked : List Event} {decodings : Nat} (decodes : Decodes checked decodings) :
    Assembly.none.Explains checked decodings :=
  decodes

/-- A page that fails before any token is made for it loses none. -/
theorem explains_failed {checked : List Event} {decodings : Nat}
    (decodes : Decodes checked decodings) : Assembly.failed.Explains checked decodings := by
  have unmade : Assembly.failed.lost checked = fun _ => 0 := by
    funext neighbour
    exact (Counter.total_issued neighbour checked).symm.trans (decodes.issued neighbour)
  rw [Explains, unmade]
  exact { decodes with bounded := fun _ => Nat.zero_le 1 }

/-- What is decoded ahead of a page makes no difference to the page. -/
theorem Explains.after {assembly : Assembly} {events : List Event}
    (explains : assembly.Explains events 0) {checked : List Event} {decodings : Nat}
    (decodes : Decodes checked decodings) : assembly.Explains (checked ++ events) decodings := by
  have behind : assembly.lost (checked ++ events) = assembly.lost events := by
    funext neighbour
    have unmade : checked.count (.issued neighbour) = 0 :=
      (Counter.total_issued neighbour checked).symm.trans (decodes.issued neighbour)
    cases assembly with
    | failed => simp [lost, unmade]
    | _ => rfl
  have together := decodes.append explains
  simp only [Nat.zero_add, Nat.add_zero, List.nil_append] at together
  rw [Explains, behind]
  exact together

variable {ρ : Type} {policy : Policy} {query : Query} {batch : List ρ}

theorem explains_of_composes {traced : Traced Fault (Page ρ)}
    (comes : Page.Composes query.heading (Page.lastBatch policy query batch) traced) :
    (ofOutcome policy query batch traced.outcome).Explains traced.events 0 := by
  cases comes with
  | failed fault made distinct => exact Accounts.issued_alone distinct
  | composed page made distinct has ended =>
      exact Accounts.composed (.ofPage policy query batch page) distinct has ended

end Assembly

namespace Call

theorem explains_compose {ρ : Type} [CursorValued ρ] (policy : Policy) (total : Option UInt64)
    (batch : List ρ) (query : Query) :
    (assembly (.compose policy total batch query)).Explains
      (events (.compose policy total batch query))
      (decodings (.compose policy total batch query)) := by
  cases batch with
  | nil => exact Assembly.explains_of_composes (Page.composes_at policy total [] query pageOne)
  | cons record rest =>
      have decodes : Decodes query.anchor.events query.cursor?.isSome.toNat :=
        Accounts.resolve? query query.cursor?
      cases anchored : query.anchor with
      | mk outcome checked =>
          rw [anchored] at decodes
          cases outcome with
          | error fault =>
              have rejected := Page.compose_of_rejected anchored policy total (record :: rest)
              rw [assembly, events, rejected]
              exact Assembly.explains_failed decodes
          | ok found =>
              have composed := Page.after_composeAt anchored policy total (record :: rest)
              have known := Page.composes_at policy total (record :: rest) query
                (found.elim pageOne Position.page)
              have same : Page.compose policy total (record :: rest) query =
                  (Page.composeAt policy total (record :: rest) query
                    (.succeed (found.elim pageOne Position.page))).after checked := composed.symm
              rw [assembly, events, same]
              exact (Assembly.explains_of_composes known).after decodes

theorem explains_serve {ρ ε : Type} [CursorValued ρ] (policy : Policy) (source : Source Id ρ ε)
    (query : Query) :
    (assembly (.serve policy source query)).Explains (events (.serve policy source query))
      (decodings (.serve policy source query)) := by
  have decodes := Accounts.seek policy query
  cases sought : Seek.ofQuery policy query with
  | mk outcome checked =>
      rw [sought] at decodes
      cases outcome with
      | error fault =>
          have unserved := Paging.serve_of_rejected sought source
          have unfound : Paging.batch? policy source query = none := by
            rw [Paging.batch?, sought]
          rw [assembly, events, Paging.answer, unserved, unfound]
          exact Assembly.explains_none decodes
      | ok seek =>
          have serves := Paging.serves sought source
          rw [assembly, events, Paging.answer]
          generalize Id.run (Paging.serve policy source query) = served at serves ⊢
          cases serves with
          | unanswered fault => exact Assembly.explains_none decodes
          | rowless page rowless =>
              rw [rowless]
              exact Assembly.explains_none decodes
          | composed total batch rows found =>
              have known := Page.composes_at policy total batch query seek.currentPage
              have explained := (Assembly.explains_of_composes known).after decodes
              rw [found, rows]
              cases composed :
                  Page.composeAt policy total batch query (.succeed seek.currentPage) with
              | mk outcome reported =>
                  rw [composed] at explained
                  cases outcome with
                  | error fault => exact explained
                  | ok page => exact explained

/-- Every call is explained by what it decodes and comes to. -/
theorem explains (call : Call) : call.assembly.Explains call.events call.decodings := by
  cases call with
  | make query value page => exact Accounts.nothing
  | read query token => exact Accounts.resolve query token
  | access query accessor => exact Accounts.access query accessor
  | seek policy query => exact Accounts.seek policy query
  | compose policy total batch query => exact explains_compose policy total batch query
  | serve policy source query => exact explains_serve policy source query

/-- The pages that calls returned. -/
def pages (calls : List Call) : List Returned :=
  calls.flatMap fun call => call.assembly.pages

/-- How many pages failed to be put together. -/
def failures (calls : List Call) : Nat :=
  (calls.map fun call => call.assembly.failures).sum

/-- How many tokens for a neighbour were made for pages that then failed. -/
def lost (calls : List Call) (neighbour : Neighbour) : Nat :=
  (calls.map fun call => call.assembly.lost call.events neighbour).sum

theorem accounts (calls : List Call) :
    Accounts (calls.flatMap events) (calls.map decodings).sum (pages calls) (lost calls)
      (failures calls) := by
  induction calls with
  | nil => exact Accounts.nothing
  | cons call rest ih => exact (explains call).append ih

end Call

/-- The metrics after calls that are made one after another. -/
def Metrics.over (metrics : Metrics) (calls : List Call) : Metrics :=
  calls.foldl (fun metrics call => metrics.deliver call.events) metrics

/-- Outside of scopes the tally counts what the calls report. -/
theorem Metrics.tally_over {metrics : Metrics} (outside : metrics.receiver = none)
    (calls : List Call) :
    (metrics.over calls).tally = metrics.tally.countAll (calls.flatMap Call.events) := by
  induction calls generalizing metrics with
  | nil => rfl
  | cons call rest ih =>
      have delivered := deliver_of_none outside call.events
      have last : (metrics.deliver call.events).receiver = none := by
        rw [receiver_deliver, outside]
      rw [List.flatMap_cons, Tally.countAll_append]
      exact (ih last).trans (by rw [delivered])

/-- How a tally agrees with what callers got. -/
structure Reconciles (calls : List Call) (tally : Tally) : Prop where
  decoded : tally.verified + tally.signatureRejections + tally.malformedRejections =
    UInt64.ofNat (calls.map Call.decodings).sum
  headed : ∀ heading, tally.reading (.pages heading) =
    UInt64.ofNat ((Call.pages calls).countP fun page => page.heading = heading)
  returned : tally.firstPages + tally.forwardPages + tally.backwardPages =
    UInt64.ofNat (Call.pages calls).length
  records : tally.recordsPaged = UInt64.ofNat ((Call.pages calls).map Returned.records).sum
  issued : ∀ neighbour, tally.reading (.issued neighbour) =
    UInt64.ofNat ((Call.pages calls).countP (fun page => page.has neighbour) +
      Call.lost calls neighbour)
  bounded : ∀ neighbour, Call.lost calls neighbour ≤ Call.failures calls
  kept : Call.failures calls = 0 → ∀ neighbour, tally.reading (.issued neighbour) =
    UInt64.ofNat ((Call.pages calls).countP fun page => page.has neighbour)
  ended : tally.pagesAtEnd = UInt64.ofNat
    ((Call.pages calls).countP (fun page => page.heading ≠ .backward ∧ page.has .next = false) +
      (Call.pages calls).countP fun page => page.heading = .backward ∧ page.last)

theorem length_eq_countP_heading (pages : List Returned) :
    pages.length = pages.countP (fun page => page.heading = .first) +
      pages.countP (fun page => page.heading = .forward) +
      pages.countP fun page => page.heading = .backward := by
  induction pages with
  | nil => rfl
  | cons page rest ih =>
      rw [List.length_cons, ih, List.countP_cons, List.countP_cons, List.countP_cons]
      cases page.heading <;> simp <;> omega

/-- From zero on, and outside of scopes, the tally agrees with what callers got. -/
theorem Call.reconciles (calls : List Call) : Reconciles calls (Metrics.start.over calls).tally := by
  have accounts := Call.accounts calls
  have reading (counter : Counter) : (Metrics.start.over calls).tally.reading counter =
      UInt64.ofNat (counter.total (calls.flatMap Call.events)) := by
    rw [Metrics.tally_over rfl, Tally.reading_countAll]
    exact (congrArg (· + _) (Tally.reading_zero counter)).trans (UInt64.zero_add _)
  have headed (heading : Heading) := (reading (.pages heading)).trans
    (congrArg UInt64.ofNat (accounts.returned heading))
  have issued (neighbour : Neighbour) := (reading (.issued neighbour)).trans
    (congrArg UInt64.ofNat (accounts.issued neighbour))
  exact {
    decoded := by
      rw [← accounts.decoded, UInt64.ofNat_add, UInt64.ofNat_add,
        ← reading, ← reading, ← reading]
      rfl
    headed := headed
    returned := by
      rw [length_eq_countP_heading, UInt64.ofNat_add, UInt64.ofNat_add,
        ← headed, ← headed, ← headed]
      rfl
    records := (reading .recordsPaged).trans (congrArg UInt64.ofNat accounts.records)
    issued := issued
    bounded := accounts.bounded
    kept := by
      intro sound neighbour
      have nothingLost : Call.lost calls neighbour = 0 :=
        Nat.eq_zero_of_le_zero (sound ▸ accounts.bounded neighbour)
      rw [issued, nothingLost]
      rfl
    ended := (reading .pagesAtEnd).trans (congrArg UInt64.ofNat accounts.ended) }

end KeysetPaging
