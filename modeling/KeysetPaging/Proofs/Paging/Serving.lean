import KeysetPaging.Paging
import KeysetPaging.Proofs.Page.Composition

/-!
# Answers of a source that keeps no state

A request for rows whose cursor verifies is answered by a page exactly if the source counts where it
has to, hands out a batch for the request's seek, and the batch composes to that page.
-/

namespace KeysetPaging.Paging

variable {ρ ε : Type}

/-- A source that counts the same for every query counts the same where the same is demanded. -/
theorem countFor_congr {source : Source Id ρ ε} {counted : Except ε (Option UInt64)}
    (counts : ∀ query, source.count query = counted) {query other : Query}
    (demand : query.demand = other.demand) : countFor source query = countFor source other := by
  rw [countFor, countFor, demand, counts, counts]

variable [CursorValued ρ]

/-- The page that a request comes to, or why there is none. -/
def answer (policy : Policy) (source : Source Id ρ ε) (query : Query) :
    Except (Failure ε) (Page ρ) :=
  Traced.outcome (Id.run (serve policy source query))

theorem answer_of_seek {policy : Policy} {query : Query} {seek : Seek}
    (sought : (Seek.ofQuery policy query).outcome = .ok seek) (source : Source Id ρ ε) :
    answer policy source query = Traced.outcome (Id.run (serveSeek policy source query seek)) := by
  unfold answer serve
  simp only [sought]
  rfl

theorem answer_of_seek_error {policy : Policy} {query : Query} {fault : Fault}
    (sought : (Seek.ofQuery policy query).outcome = .error fault) (source : Source Id ρ ε) :
    answer policy source query = .error (.cursor fault) := by
  unfold answer serve
  simp only [sought]
  rfl

theorem serveSeek_of_count_error {policy : Policy} {source : Source Id ρ ε} {query : Query}
    {seek : Seek} {fault : ε} (failed : countFor source query = .error fault) :
    Traced.outcome (Id.run (serveSeek policy source query seek)) = .error (.source fault) := by
  unfold serveSeek
  rw [failed]
  rfl

theorem serveSeek_of_count {policy : Policy} {source : Source Id ρ ε} {query : Query}
    {seek : Seek} {total : Option UInt64} (counted : countFor source query = .ok total) :
    serveSeek policy source query seek = servePage policy source query seek total := by
  unfold serveSeek
  rw [counted]
  rfl

theorem servePage_of_fetch_error {policy : Policy} {source : Source Id ρ ε} {query : Query}
    (rows : query.demand.wantsRows = true) {seek : Seek} {total : Option UInt64} {fault : ε}
    (failed : source.fetch query seek = .error fault) :
    Traced.outcome (Id.run (servePage policy source query seek total)) =
      .error (.source fault) := by
  unfold servePage
  rw [if_pos rows, failed]
  rfl

theorem servePage_of_fetch {policy : Policy} {source : Source Id ρ ε} {query : Query}
    (rows : query.demand.wantsRows = true) {seek : Seek} {total : Option UInt64} {batch : List ρ}
    (fetched : source.fetch query seek = .ok batch) :
    Traced.outcome (Id.run (servePage policy source query seek total)) =
      (Page.composeAt policy total batch query (.succeed seek.currentPage)).outcome.mapError
        .cursor := by
  unfold servePage
  rw [if_pos rows, fetched]
  rfl

theorem servePage_of_total {policy : Policy} {source : Source Id ρ ε} {query : Query}
    (rowless : query.demand.wantsRows = false) (seek : Seek) (total : Option UInt64) :
    Traced.outcome (Id.run (servePage policy source query seek total)) =
      .ok (Page.bare query (carryTotalOrUnknown total)) := by
  unfold servePage
  rw [if_neg (Bool.eq_false_iff.mp rowless)]
  rfl

/-- The ways a request can end: its cursor is rejected, the source fails to count or to fetch, nothing
but the total is demanded, or the batch composes to a page or does not. -/
inductive Ends (policy : Policy) (source : Source Id ρ ε) (query : Query) :
    Except (Failure ε) (Page ρ) → Prop where
  | rejected {fault : Fault} (sought : (Seek.ofQuery policy query).outcome = .error fault) :
      Ends policy source query (.error (.cursor fault))
  | uncounted {seek : Seek} {fault : ε} (sought : (Seek.ofQuery policy query).outcome = .ok seek)
      (counted : countFor source query = .error fault) :
      Ends policy source query (.error (.source fault))
  | rowless {seek : Seek} {total : Option UInt64}
      (sought : (Seek.ofQuery policy query).outcome = .ok seek)
      (counted : countFor source query = .ok total) (rowless : query.demand.wantsRows = false) :
      Ends policy source query (.ok (Page.bare query (carryTotalOrUnknown total)))
  | unfetched {seek : Seek} {total : Option UInt64} {fault : ε}
      (sought : (Seek.ofQuery policy query).outcome = .ok seek)
      (counted : countFor source query = .ok total) (rows : query.demand.wantsRows = true)
      (fetched : source.fetch query seek = .error fault) :
      Ends policy source query (.error (.source fault))
  | uncomposed {seek : Seek} {total : Option UInt64} {batch : List ρ} {fault : Fault}
      (sought : (Seek.ofQuery policy query).outcome = .ok seek)
      (counted : countFor source query = .ok total) (rows : query.demand.wantsRows = true)
      (fetched : source.fetch query seek = .ok batch)
      (composed : (Page.composeAt policy total batch query (.succeed seek.currentPage)).outcome =
        .error fault) :
      Ends policy source query (.error (.cursor fault))
  | composed {seek : Seek} {total : Option UInt64} {batch : List ρ} {page : Page ρ}
      (sought : (Seek.ofQuery policy query).outcome = .ok seek)
      (counted : countFor source query = .ok total) (rows : query.demand.wantsRows = true)
      (fetched : source.fetch query seek = .ok batch)
      (composed : (Page.composeAt policy total batch query (.succeed seek.currentPage)).outcome =
        .ok page) :
      Ends policy source query (.ok page)

theorem ends_answer (policy : Policy) (source : Source Id ρ ε) (query : Query) :
    Ends policy source query (answer policy source query) := by
  cases sought : (Seek.ofQuery policy query).outcome with
  | error fault =>
      rw [answer_of_seek_error sought]
      exact .rejected sought
  | ok seek =>
      rw [answer_of_seek sought]
      cases counted : countFor source query with
      | error fault =>
          rw [serveSeek_of_count_error counted]
          exact .uncounted sought counted
      | ok total =>
          rw [serveSeek_of_count counted]
          cases rows : query.demand.wantsRows with
          | false =>
              rw [servePage_of_total rows]
              exact .rowless sought counted rows
          | true =>
              cases fetched : source.fetch query seek with
              | error fault =>
                  rw [servePage_of_fetch_error rows fetched]
                  exact .unfetched sought counted rows fetched
              | ok batch =>
                  rw [servePage_of_fetch rows fetched]
                  cases composed :
                      (Page.composeAt policy total batch query (.succeed seek.currentPage)).outcome with
                  | error fault => exact .uncomposed sought counted rows fetched composed
                  | ok page => exact .composed sought counted rows fetched composed

/-- A request ends in one way only. -/
theorem answer_eq_iff {policy : Policy} {source : Source Id ρ ε} {query : Query}
    {outcome : Except (Failure ε) (Page ρ)} :
    answer policy source query = outcome ↔ Ends policy source query outcome := by
  constructor
  · rintro rfl
    exact ends_answer policy source query
  · intro ends
    cases ends with
    | rejected sought => exact answer_of_seek_error sought source
    | uncounted sought counted => rw [answer_of_seek sought, serveSeek_of_count_error counted]
    | rowless sought counted rowless =>
        rw [answer_of_seek sought, serveSeek_of_count counted, servePage_of_total rowless]
    | unfetched sought counted rows fetched =>
        rw [answer_of_seek sought, serveSeek_of_count counted, servePage_of_fetch_error rows fetched]
    | uncomposed sought counted rows fetched composed =>
        rw [answer_of_seek sought, serveSeek_of_count counted, servePage_of_fetch rows fetched,
          composed]
        rfl
    | composed sought counted rows fetched composed =>
        rw [answer_of_seek sought, serveSeek_of_count counted, servePage_of_fetch rows fetched,
          composed]
        rfl

/-- A request for rows is answered if its source answers and the batch composes. -/
theorem answer_eq_ok_iff {policy : Policy} {source : Source Id ρ ε} {query : Query}
    (rows : query.demand.wantsRows = true) {seek : Seek}
    (sought : (Seek.ofQuery policy query).outcome = .ok seek) {page : Page ρ} :
    answer policy source query = .ok page ↔
      ∃ total batch, countFor source query = .ok total ∧ source.fetch query seek = .ok batch ∧
        (Page.composeAt policy total batch query (.succeed seek.currentPage)).outcome = .ok page := by
  rw [answer_eq_iff]
  constructor
  · intro ends
    cases ends with
    | rowless _ _ rowless =>
        rw [rows] at rowless
        cases rowless
    | composed sought' counted _ fetched composed =>
        obtain rfl : _ = seek := Except.ok.inj (sought'.symm.trans sought)
        exact ⟨_, _, counted, fetched, composed⟩
  · rintro ⟨total, batch, counted, fetched, composed⟩
    exact .composed sought counted rows fetched composed

/-- The batch that a source hands out for a query, if it is asked for one and does. -/
def batch? (policy : Policy) (source : Source Id ρ ε) (query : Query) :
    Option (List ρ) :=
  match (Seek.ofQuery policy query).outcome with
  | .ok seek => (Id.run (source.fetch query seek)).toOption
  | .error _ => none

/-- What serving a request comes to whose seek was found: the source fails, nothing but the total is
demanded, or the batch that the source hands out is composed. -/
inductive Serves (policy : Policy) (source : Source Id ρ ε) (query : Query) (seek : Seek)
    (checked : List Event) : Traced (Failure ε) (Page ρ) → Prop where
  | unanswered (fault : ε) :
      Serves policy source query seek checked ⟨.error (.source fault), checked⟩
  | rowless (page : Page ρ) (rowless : query.demand.wantsRows = false) :
      Serves policy source query seek checked ⟨.ok page, checked⟩
  | composed (total : Option UInt64) (batch : List ρ) (rows : query.demand.wantsRows = true)
      (found : batch? policy source query = some batch) :
      Serves policy source query seek checked
        (((Page.composeAt policy total batch query (.succeed seek.currentPage)).mapFault
          .cursor).after checked)

theorem serves {policy : Policy} {query : Query} {seek : Seek} {checked : List Event}
    (sought : Seek.ofQuery policy query = ⟨.ok seek, checked⟩) (source : Source Id ρ ε) :
    Serves policy source query seek checked (Id.run (serve policy source query)) := by
  have served : Id.run (serve policy source query) =
      (Id.run (serveSeek policy source query seek)).after checked := by
    unfold serve
    simp only [sought]
    rfl
  rw [served]
  cases counted : countFor source query with
  | error fault =>
      have failed : Id.run (serveSeek policy source query seek) = .fail (.source fault) := by
        unfold serveSeek
        rw [counted]
        rfl
      rw [failed, Traced.after_fail]
      exact .unanswered fault
  | ok total =>
      rw [serveSeek_of_count counted]
      cases rows : query.demand.wantsRows with
      | false =>
          have bare : Id.run (servePage policy source query seek total) =
              .succeed (Page.bare query (carryTotalOrUnknown total)) := by
            unfold servePage
            rw [if_neg (Bool.eq_false_iff.mp rows)]
            rfl
          rw [bare, Traced.after_succeed]
          exact .rowless _ rows
      | true =>
          cases fetched : source.fetch query seek with
          | error fault =>
              have failed : Id.run (servePage policy source query seek total) =
                  .fail (.source fault) := by
                unfold servePage
                rw [if_pos rows, fetched]
                rfl
              rw [failed, Traced.after_fail]
              exact .unanswered fault
          | ok batch =>
              have composed : Id.run (servePage policy source query seek total) =
                  (Page.composeAt policy total batch query
                    (.succeed seek.currentPage)).mapFault .cursor := by
                unfold servePage
                rw [if_pos rows, fetched]
                rfl
              have found : batch? policy source query =
                  (Id.run (source.fetch query seek)).toOption := by
                rw [batch?, sought]
              rw [composed]
              exact .composed total batch rows (found.trans (congrArg Except.toOption fetched))

end KeysetPaging.Paging
