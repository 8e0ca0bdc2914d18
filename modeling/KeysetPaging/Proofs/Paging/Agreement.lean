import KeysetPaging.Proofs.Paging.Approach

/-!
# Serving and plain composition

Serving a request keeps the page number that its cursor verified to and puts the page together without
verifying again; plain composition takes a total and a batch and verifies the cursor itself. Over any
source, in any monad, the two agree: serving asks the source as the query demands and then comes to
what plain composition makes of the answers, page or fault, with the same events. Only where the batch
is empty does plain composition leave the cursor alone. If the cursor is rejected, nothing is asked of
the source.
-/

namespace KeysetPaging

namespace Query

/-- What verifying the query's own cursor reports, if it has one and it verifies. -/
def checked (query : Query) : List Event :=
  if query.isFirstPage then [] else [.verified]

theorem resolve?_of_ok {query : Query} {cursor : Option String} {found : Option Position}
    (verified : (query.resolve? cursor).outcome = .ok found) :
    query.resolve? cursor = ⟨.ok found, if cursor.isNone then [] else [.verified]⟩ := by
  cases cursor with
  | none =>
      cases verified
      rfl
  | some token =>
      cases read : query.read token with
      | ok position =>
          rw [resolve?, resolve_of_ok read] at verified ⊢
          cases verified
          rfl
      | error fault =>
          rw [resolve?, resolve_of_error read] at verified
          cases verified

theorem isNone_cursor? (query : Query) : query.cursor?.isNone = query.isFirstPage := by
  unfold cursor? isFirstPage
  cases query.prevCursor <;> cases query.nextCursor <;> rfl

theorem anchor_of_ok {query : Query} {found : Option Position}
    (verified : query.anchor.outcome = .ok found) : query.anchor = ⟨.ok found, query.checked⟩ := by
  rw [checked, ← isNone_cursor?]
  exact resolve?_of_ok verified

/-- A request whose cursor verifies, if it has one, starts from somewhere. -/
theorem exists_anchor {query : Query}
    (verifies : ∀ token, query.cursor? = some token →
      ∃ position, (query.resolve token).outcome = .ok position) :
    ∃ found, query.anchor.outcome = .ok found := by
  cases cursor : query.cursor? with
  | none => exact ⟨none, anchor_of_first (heading_eq_first_iff.mpr cursor)⟩
  | some token =>
      obtain ⟨position, verified⟩ := verifies token cursor
      exact ⟨some position, (anchor_eq_ok_iff cursor).mpr ⟨position, verified, rfl⟩⟩

/-- A rejected token is reported once, and nothing else is. -/
theorem resolve_of_rejected {query : Query} {token : String} {fault : Fault}
    (rejected : (query.resolve token).outcome = .error fault) :
    query.resolve token = ⟨.error fault, [.rejected fault.kind]⟩ := by
  rw [outcome_resolve] at rejected
  exact resolve_of_error rejected

theorem anchor_of_rejected {query : Query} {token : String} (cursor : query.cursor? = some token)
    {fault : Fault} (rejected : (query.resolve token).outcome = .error fault) :
    query.anchor = ⟨.error fault, [.rejected fault.kind]⟩ := by
  rw [anchor, cursor, resolve?, resolve_of_rejected rejected, Traced.bind_error]

end Query

theorem Seek.ofQuery_of_anchor {query : Query} {found : Option Position} {events : List Event}
    (anchored : query.anchor = ⟨.ok found, events⟩) {ascending : Bool}
    (ascends : query.ascending = .ok ascending) (policy : Policy) :
    ofQuery policy query = ⟨.ok (fromAnchor policy query found ascending), events⟩ := by
  rw [ofQuery, anchored, ascends, Traced.bind_ok]
  simp [Traced.ofExcept, Except.mapError]

namespace Page

variable {ρ : Type} [CursorValued ρ]

/-- Composing at a page number that was verified before reports what plain composition reports, behind
what the verification reported; but of an empty batch plain composition verifies nothing. -/
theorem after_composeAt {query : Query} {found : Option Position} {events : List Event}
    (anchored : query.anchor = ⟨.ok found, events⟩) (policy : Policy) (total : Option UInt64)
    (batch : List ρ) :
    (composeAt policy total batch query (.succeed (found.elim pageOne Position.page))).after events =
      (compose policy total batch query).after (if batch.isEmpty then events else []) := by
  have current : query.currentPage = ⟨.ok (found.elim pageOne Position.page), events⟩ := by
    rw [Query.currentPage, anchored, Traced.bind_ok, Traced.pure_eq, List.append_nil]
  cases batch with
  | nil => rfl
  | cons record rest =>
      rw [compose, current]
      simp [composeAt, Traced.succeed, Traced.after]

/-- Plain composition of a batch with rows verifies the query's cursor before anything else. -/
theorem compose_of_rejected {query : Query} {fault : Fault} {events : List Event}
    (anchored : query.anchor = ⟨.error fault, events⟩) (policy : Policy) (total : Option UInt64)
    (batch : List ρ) :
    compose policy total batch query =
      if batch.isEmpty then ⟨.ok (bare query uncounted), [.composed query.heading 0 true]⟩
      else ⟨.error fault, events⟩ := by
  have current : query.currentPage = ⟨.error fault, events⟩ := by
    rw [Query.currentPage, anchored, Traced.bind_error]
  rw [compose, composeAt, current]
  rfl

end Page

namespace Paging

variable {m : Type → Type} {ρ ε : Type}

/-- Asks a source for the total, if the query demands it, and then for the rows of a seek, and composes
the answers. A failure of the source ends it, with nothing but what was reported before. -/
def gather [Monad m] (source : Source m ρ ε) (query : Query) (seek : Seek) (reported : List Event)
    (compose : Option UInt64 → List ρ → Traced (Failure ε) (Page ρ)) :
    m (Traced (Failure ε) (Page ρ)) := do
  match ← countFor source query with
  | .error fault => pure ⟨.error (.source fault), reported⟩
  | .ok total =>
      match ← source.fetch query seek with
      | .error fault => pure ⟨.error (.source fault), reported⟩
      | .ok batch => pure (compose total batch)

variable [CursorValued ρ]

/-- How serving a request for rows agrees with plain composition. If the request has no cursor, or one
that verifies, then what comes back for a total and a batch is what plain composition makes of them,
behind the report of the verification where plain composition verifies nothing. If the cursor is
rejected, serving reports that and asks the source for nothing. -/
structure Agrees [Monad m] (policy : Policy) (source : Source m ρ ε) (query : Query) : Prop where
  accepted :
    (∀ token, query.cursor? = some token →
      ∃ position, (query.resolve token).outcome = .ok position) →
    ∃ seek, (Seek.ofQuery policy query).outcome = .ok seek ∧
      serve policy source query =
        gather source query seek query.checked fun total batch =>
          ((Page.compose policy total batch query).after
            (if batch.isEmpty then query.checked else [])).mapFault .cursor
  rejected : ∀ token fault, query.cursor? = some token →
    (query.resolve token).outcome = .error fault →
    serve policy source query = pure ⟨.error (.cursor fault), [.rejected fault.kind]⟩ ∧
      ∀ total (batch : List ρ), Page.compose policy total batch query =
        if batch.isEmpty then ⟨.ok (Page.bare query uncounted), [.composed query.heading 0 true]⟩
        else ⟨.error fault, [.rejected fault.kind]⟩

variable [Monad m] {policy : Policy} {query : Query}

/-- Serving a request whose seek is found asks the source and composes at the page number that the
cursor verified to. -/
theorem serve_of_seek [LawfulMonad m] (rows : query.demand.wantsRows = true) {seek : Seek}
    {events : List Event} (sought : Seek.ofQuery policy query = ⟨.ok seek, events⟩)
    (source : Source m ρ ε) :
    serve policy source query =
      gather source query seek events fun total batch =>
        ((Page.composeAt policy total batch query (.succeed seek.currentPage)).after
          events).mapFault .cursor := by
  unfold serve gather serveSeek servePage
  simp only [sought, if_pos rows, bind_assoc]
  refine bind_congr fun counted => ?_
  cases counted with
  | error fault => simp [Traced.after, Traced.fail]
  | ok total =>
      rw [bind_assoc]
      refine bind_congr fun fetched => ?_
      cases fetched with
      | error fault => simp [Traced.after, Traced.fail]
      | ok batch => exact pure_bind _ _

theorem serve_of_rejected {fault : Fault} {events : List Event}
    (unsought : Seek.ofQuery policy query = ⟨.error fault, events⟩) (source : Source m ρ ε) :
    serve policy source query = pure ⟨.error (.cursor fault), events⟩ := by
  unfold serve
  simp only [unsought]

/-- Serving a request for rows agrees with plain composition over any source. -/
theorem agrees_of_reachable [LawfulMonad m] {settings : Settings}
    (reachable : query.Reachable settings) (rows : query.demand.wantsRows = true) (policy : Policy)
    (source : Source m ρ ε) :
    Agrees policy source query := by
  obtain ⟨ascending, ascends⟩ := reachable.wellFormed.exists_ascending
  refine ⟨fun verifies => ?_, fun token fault cursor rejected => ?_⟩
  · obtain ⟨found, verified⟩ := Query.exists_anchor verifies
    have anchored := Query.anchor_of_ok verified
    have sought := Seek.ofQuery_of_anchor anchored ascends policy
    refine ⟨_, congrArg Traced.outcome sought, ?_⟩
    rw [serve_of_seek rows sought]
    congr 1
    funext total batch
    exact congrArg (Traced.mapFault Failure.cursor)
      (Page.after_composeAt anchored policy total batch)
  · have anchored := Query.anchor_of_rejected cursor rejected
    have unsought : Seek.ofQuery policy query = ⟨.error fault, [.rejected fault.kind]⟩ := by
      rw [Seek.ofQuery, anchored, Traced.bind_error]
    exact ⟨serve_of_rejected unsought source, Page.compose_of_rejected anchored policy⟩

/-- A store that counts how often it is asked, and a request past a row whose cursor verifies. -/
theorem agrees_of_reachable_past :
    ((Approach.past 3 2).query (Query.latest 2 [])).Reachable .standard ∧
      ((Approach.past 3 2).query (Query.latest 2 [])).demand.wantsRows = true ∧
      ((Approach.past 3 2).query (Query.latest 2 [])).anchor.outcome =
        .ok (some ⟨Table.decimal 3, 2⟩) ∧
      Agrees Policy.standard Store.source ((Approach.past 3 2).query (Query.latest 2 [])) := by
  have reachable : ((Approach.past 3 2).query (Query.latest 2 [])).Reachable .standard :=
    .following _ (Query.latest_reachable 2 (by decide) (by decide) [])
  have positive : pageOne ≤ (Approach.past 3 2).page := by decide
  exact ⟨reachable, rfl, Approach.anchor_query rfl positive,
    agrees_of_reachable reachable rfl _ _⟩

end Paging

end KeysetPaging
