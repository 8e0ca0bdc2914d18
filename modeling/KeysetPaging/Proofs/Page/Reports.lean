import KeysetPaging.Proofs.Page.Composition

/-!
# What composing a page reports

Making the tokens beside a page reports each token that is made and nothing else, so never two for one
neighbour, and those of a page that comes about are exactly the cursors that it carries. A page that
comes about is reported once, behind its tokens, and a page that does not is not reported.
-/

namespace KeysetPaging

/-- Whether a page carries a cursor for a neighbouring page. -/
def Page.has {ρ : Type} (page : Page ρ) : Neighbour → Bool
  | .prev => page.hasPrev
  | .next => page.hasNext

namespace Page

/-- Whether a place has a cursor for a neighbouring page. -/
def Place.has (place : Place) : Neighbour → Bool
  | .prev => place.prevCursor.isSome
  | .next => place.nextCursor.isSome

/-- A token that is made is reported, and a token that is not made is not. -/
theorem issue_cases (query : Query) (neighbour : Neighbour) (value : Option String)
    (page : UInt32) :
    (∃ token, query.issue neighbour value page = ⟨.ok token, [.issued neighbour]⟩) ∨
      ∃ fault, query.issue neighbour value page = ⟨.error fault, []⟩ := by
  unfold Query.issue
  cases query.tokenFor value page with
  | ok token => exact Or.inl ⟨token, rfl⟩
  | error fault => exact Or.inr ⟨fault, rfl⟩

theorem issueNext_cases (query : Query) (value : Option String) (page : UInt32) :
    (∃ token, issueNext query value page = ⟨.ok token, [.issued .next]⟩) ∨
      ∃ fault, issueNext query value page = ⟨.error fault, []⟩ := by
  unfold issueNext
  split
  · exact Or.inr ⟨_, rfl⟩
  · exact issue_cases query .next value (page + 1)

/-- Tokens for neighbours of a page are made and reported one after another, until they all are there or
one cannot be made. Ahead of a page that does not head backward there is a token unless the end is
reached. -/
inductive Locates (heading : Heading) (reachedEnd : Bool) : Traced Fault Place → Prop where
  | failed (fault : Fault) (made : List Neighbour) (distinct : made.Nodup) :
      Locates heading reachedEnd ⟨.error fault, made.map .issued⟩
  | located (place : Place) (made : List Neighbour) (distinct : made.Nodup)
      (has : ∀ neighbour, neighbour ∈ made ↔ place.has neighbour = true)
      (ended : heading ≠ .backward → place.has .next = !reachedEnd) :
      Locates heading reachedEnd ⟨.ok place, made.map .issued⟩

theorem locates (query : Query) (reachedEnd : Bool) (first last : Option String) (page : UInt32) :
    Locates query.heading reachedEnd (locate query reachedEnd first last page) := by
  unfold locate issueUnlessEnd
  cases query.heading with
  | first =>
      cases reachedEnd with
      | true => exact .located _ [] (by decide) (by rintro (_ | _) <;> simp [Place.has]) fun _ => rfl
      | false =>
          obtain ⟨token, ahead⟩ | ⟨fault, ahead⟩ := issueNext_cases query last page
          · simp only [ahead]
            exact .located _ [.next] (by decide) (by rintro (_ | _) <;> simp [Place.has]) fun _ => rfl
          · simp only [ahead]
            exact .failed fault [] (by decide)
  | forward =>
      obtain ⟨back, behind⟩ | ⟨fault, behind⟩ := issue_cases query .prev first page
      · cases reachedEnd with
        | true =>
            simp only [behind]
            exact .located _ [.prev] (by decide) (by rintro (_ | _) <;> simp [Place.has]) fun _ => rfl
        | false =>
            obtain ⟨token, ahead⟩ | ⟨fault, ahead⟩ := issueNext_cases query last page
            · simp only [behind, ahead]
              exact .located _ [.prev, .next] (by decide) (by rintro (_ | _) <;> simp [Place.has])
                fun _ => rfl
            · simp only [behind, ahead]
              exact .failed fault [.prev] (by decide)
      · simp only [behind]
        exact .failed fault [] (by decide)
  | backward =>
      obtain ⟨token, ahead⟩ | ⟨fault, ahead⟩ := issue_cases query .next last page
      · simp only [ahead]
        by_cases stop : (reachedEnd || decide (numberBefore page ≤ pageOne)) = true
        · simp only [stop]
          exact .located _ [.next] (by decide) (by rintro (_ | _) <;> simp [Place.has])
            fun onward => absurd rfl onward
        · obtain ⟨back, behind⟩ | ⟨fault, behind⟩ :=
            issue_cases query .prev first (numberBefore page)
          · simp only [stop, behind]
            exact .located _ [.next, .prev] (by decide) (by rintro (_ | _) <;> simp [Place.has])
              fun onward => absurd rfl onward
          · simp only [stop, behind]
            exact .failed fault [.next] (by decide)
      · simp only [ahead]
        exact .failed fault [] (by decide)

/-- Of tokens that are made once each, one is reported for a neighbour or none. -/
theorem count_map_issued {made : List Neighbour} (distinct : made.Nodup) (neighbour : Neighbour) :
    (made.map Event.issued).count (.issued neighbour) = if neighbour ∈ made then 1 else 0 := by
  have apart : Function.Injective Event.issued := fun _ _ same => Event.issued.inj same
  rw [(distinct.map apart).count]
  exact if_congr (List.mem_map_of_injective apart) rfl rfl

variable {ρ : Type}

/-- Whether a batch is taken for the last one; without rows it is, whatever the end test says. -/
def lastBatch (policy : Policy) (query : Query) (batch : List ρ) : Bool :=
  batch.isEmpty || policy.endTest.reached batch.length query.size.toNat

/-- For a page size that is not zero this is what the end test says. -/
theorem lastBatch_eq_reached (policy : Policy) {query : Query} (sized : 0 < query.size)
    (batch : List ρ) :
    lastBatch policy query batch = policy.endTest.reached batch.length query.size.toNat := by
  cases reached : policy.endTest.reached batch.length query.size.toNat with
  | true => rw [lastBatch, reached, Bool.or_true]
  | false =>
      have rows : batch.isEmpty = false :=
        List.isEmpty_eq_false_iff.mpr (ne_nil_of_reached sized reached)
      rw [lastBatch, rows, reached, Bool.or_false]

/-- A page comes about behind its tokens and is reported once, or it does not and is not. -/
inductive Composes (heading : Heading) (last : Bool) : Traced Fault (Page ρ) → Prop where
  | failed (fault : Fault) (made : List Neighbour) (distinct : made.Nodup) :
      Composes heading last ⟨.error fault, made.map .issued⟩
  | composed (page : Page ρ) (made : List Neighbour) (distinct : made.Nodup)
      (has : ∀ neighbour, neighbour ∈ made ↔ page.has neighbour = true)
      (ended : heading ≠ .backward → page.has .next = !last) :
      Composes heading last
        ⟨.ok page, made.map .issued ++ [.composed heading page.length last]⟩

variable [CursorValued ρ]

theorem composes_rows (policy : Policy) (total : Option UInt64) (batch : List ρ) (query : Query)
    (page : UInt32) :
    Composes query.heading (policy.endTest.reached batch.length query.size.toNat)
      (composeRows policy total batch query page) := by
  have located := locates query (policy.endTest.reached batch.length query.size.toNat)
    ((arrange query batch).head?.bind cursorValue) ((arrange query batch).getLast?.bind cursorValue)
    page
  unfold composeRows
  dsimp only
  generalize locate query _ _ _ page = tokens at located ⊢
  cases located with
  | failed fault made distinct => exact .failed fault made distinct
  | located place made distinct has ended =>
      cases carried : carryTotal total with
      | error fault =>
          simp only [Traced.ofExcept, Traced.bind_ok, Traced.bind_error, List.append_nil]
          exact .failed fault made distinct
      | ok count =>
          simp only [Traced.ofExcept, Traced.report, Traced.pure_eq, Traced.bind_ok, List.nil_append,
            List.append_nil]
          exact .composed (placed query (arrange query batch) count place) made distinct has ended

/-- At a page number that is known, a batch composes as it does with rows, or to a page without any. -/
theorem composes_at (policy : Policy) (total : Option UInt64) (batch : List ρ) (query : Query)
    (page : UInt32) :
    Composes query.heading (lastBatch policy query batch)
      (composeAt policy total batch query (.succeed page)) := by
  cases batch with
  | nil =>
      have alone : ∀ neighbour, (bare query uncounted : Page ρ).has neighbour = false := by
        rintro (_ | _) <;> rfl
      exact .composed (bare query uncounted) [] .nil (by simp [alone]) fun _ => rfl
  | cons record rest => exact composes_rows policy total (record :: rest) query page

end Page

end KeysetPaging
