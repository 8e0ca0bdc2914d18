import KeysetPaging.Page.Composition
import KeysetPaging.Proofs.Cursor.Token

/-!
# What a composed page holds

A batch whose rows have values for the cursor field becomes one page, and the parts of the page are
given by its records, by the number of the page that the request starts from, and by whether the
batch reached the end. It fails only if the next page's number does not fit a machine word, or the
total does not fit the page.
-/

namespace KeysetPaging.Page

variable {ρ : Type}

/-- The cursors beside a page and its number, for records of the given first and last values. -/
def neighbours (query : Query) (reachedEnd : Bool) (first last : String) (page : UInt32) : Place :=
  match query.heading with
  | .first => ⟨none, if reachedEnd then none else some (query.mark last (page + 1)), page⟩
  | .forward =>
      ⟨some (query.mark first page), if reachedEnd then none else some (query.mark last (page + 1)),
        page⟩
  | .backward =>
      ⟨if reachedEnd || numberBefore page ≤ pageOne then none
        else some (query.mark first (numberBefore page)),
        some (query.mark last page), numberBefore page⟩

/-- Whether a page has a next page whose number does not fit a machine word. -/
def Overflows (query : Query) (reachedEnd : Bool) (page : UInt32) : Prop :=
  query.heading ≠ .backward ∧ reachedEnd = false ∧ page = 4294967295

theorem toNat_succ {page : UInt32} (fits : page ≠ 4294967295) :
    (page + 1).toNat = page.toNat + 1 := by
  have bound := page.toNat_lt
  have apart : page.toNat ≠ 4294967295 := fun same => fits (UInt32.toNat.inj same)
  rw [UInt32.toNat_add, UInt32.toNat_one]
  omega

theorem ne_greatest_of_lt {page : UInt32} (fits : page.toNat + 1 < 4294967296) :
    page ≠ 4294967295 := by
  rintro rfl
  exact absurd fits (by decide)

theorem pageOne_le_iff {page : UInt32} : pageOne ≤ page ↔ 1 ≤ page.toNat :=
  UInt32.le_iff_toNat_le

theorem pageOne_le_succ {page : UInt32} (fits : page ≠ 4294967295) : pageOne ≤ page + 1 := by
  rw [pageOne_le_iff, toNat_succ fits]
  exact Nat.le_add_left 1 page.toNat

theorem toNat_numberBefore {page : UInt32} (later : ¬page ≤ pageOne) :
    (numberBefore page).toNat = page.toNat - 1 := by
  have positive : (1 : UInt32) ≤ page := UInt32.le_of_lt (UInt32.not_le.mp later)
  rw [numberBefore, if_neg later, UInt32.toNat_sub_of_le _ _ positive, UInt32.toNat_one]

theorem pageOne_le_numberBefore (page : UInt32) : pageOne ≤ numberBefore page := by
  by_cases early : page ≤ pageOne
  · rw [numberBefore, if_pos early]
    exact UInt32.le_refl pageOne
  · have above := UInt32.lt_iff_toNat_lt.mp (UInt32.not_le.mp early)
    rw [pageOne_le_iff, toNat_numberBefore early]
    exact Nat.le_sub_one_of_lt above

theorem eq_succ {page number : UInt32} (behind : page.toNat = number.toNat + 1) :
    page = number + 1 := by
  apply UInt32.toNat.inj
  rw [toNat_succ (ne_greatest_of_lt (behind ▸ page.toNat_lt)), behind]

theorem numberBefore_eq {page number : UInt32} (positive : 1 ≤ number.toNat)
    (behind : page.toNat = number.toNat + 1) : numberBefore page = number := by
  have later : ¬page ≤ pageOne := by
    rw [UInt32.le_iff_toNat_le, behind]
    exact Nat.not_le_of_lt (Nat.lt_succ_of_le positive)
  apply UInt32.toNat.inj
  rw [toNat_numberBefore later, behind]
  rfl

theorem issue_some {page : UInt32} (positive : pageOne ≤ page) (query : Query)
    (neighbour : Neighbour) (value : String) :
    query.issue neighbour (some value) page =
      ⟨.ok (query.mark value page), [.issued neighbour]⟩ := by
  rw [Query.issue, Query.tokenFor_some positive]

theorem issueUnlessEnd_outcome (query : Query) (reachedEnd : Bool) (value : String)
    (page : UInt32) :
    (issueUnlessEnd query reachedEnd (some value) page).outcome =
      if reachedEnd = false ∧ page = 4294967295 then .error (.internal .pageOverflow)
      else .ok (if reachedEnd then none else some (query.mark value (page + 1))) := by
  unfold issueUnlessEnd issueNext
  cases reachedEnd with
  | true => rfl
  | false =>
      by_cases last : page = 4294967295
      · simp [last, Traced.fail]
      · simp [last, issue_some (pageOne_le_succ last)]

theorem issueUnlessEnd_eq_ok_iff {query : Query} {reachedEnd : Bool} {value : String}
    {page : UInt32} {token : Option String} :
    (issueUnlessEnd query reachedEnd (some value) page).outcome = .ok token ↔
      ¬(reachedEnd = false ∧ page = 4294967295) ∧
        token = if reachedEnd then none else some (query.mark value (page + 1)) := by
  rw [issueUnlessEnd_outcome]
  by_cases last : reachedEnd = false ∧ page = 4294967295
  · simp [last]
  · rw [if_neg last, Except.ok.injEq, eq_comm]
    exact (and_iff_right last).symm

/-- The cursors beside a page are made unless the next page's number does not fit. -/
theorem locate_eq_ok_iff {query : Query} {reachedEnd : Bool} {first last : String} {page : UInt32}
    (positive : pageOne ≤ page) {place : Place} :
    (locate query reachedEnd (some first) (some last) page).outcome = .ok place ↔
      ¬Overflows query reachedEnd page ∧ place = neighbours query reachedEnd first last page := by
  unfold locate neighbours Overflows
  cases query.heading with
  | first =>
      simp only [Traced.outcome_bind_eq_ok_iff, issueUnlessEnd_eq_ok_iff, Traced.pure_eq,
        Except.ok.injEq]
      constructor
      · rintro ⟨next, ⟨fits, rfl⟩, rfl⟩
        exact ⟨fun beyond => fits beyond.2, rfl⟩
      · rintro ⟨fits, rfl⟩
        exact ⟨_, ⟨fun beyond => fits ⟨nofun, beyond⟩, rfl⟩, rfl⟩
  | forward =>
      simp only [issue_some positive, Traced.outcome_bind_eq_ok_iff, issueUnlessEnd_eq_ok_iff,
        Traced.pure_eq, Except.ok.injEq]
      constructor
      · rintro ⟨_, rfl, next, ⟨fits, rfl⟩, rfl⟩
        exact ⟨fun beyond => fits beyond.2, rfl⟩
      · rintro ⟨fits, rfl⟩
        exact ⟨_, rfl, _, ⟨fun beyond => fits ⟨nofun, beyond⟩, rfl⟩, rfl⟩
  | backward =>
      simp only [issue_some positive, issue_some (pageOne_le_numberBefore page)]
      by_cases stop : (reachedEnd || decide (numberBefore page ≤ pageOne)) = true
      · simp [stop, eq_comm]
      · simp [stop, eq_comm]

theorem issueUnlessEnd_eq_error_iff {query : Query} {reachedEnd : Bool} {value : String}
    {page : UInt32} {fault : Fault} :
    (issueUnlessEnd query reachedEnd (some value) page).outcome = .error fault ↔
      (reachedEnd = false ∧ page = 4294967295) ∧ fault = .internal .pageOverflow := by
  rw [issueUnlessEnd_outcome]
  by_cases last : reachedEnd = false ∧ page = 4294967295
  · rw [if_pos last, Except.error.injEq, eq_comm]
    exact (and_iff_right last).symm
  · simp [last]

/-- Nothing else can keep the cursors beside a page from being made. -/
theorem locate_eq_error_iff {query : Query} {reachedEnd : Bool} {first last : String}
    {page : UInt32} (positive : pageOne ≤ page) {fault : Fault} :
    (locate query reachedEnd (some first) (some last) page).outcome = .error fault ↔
      Overflows query reachedEnd page ∧ fault = .internal .pageOverflow := by
  unfold locate Overflows
  cases query.heading with
  | first => simp [Traced.outcome_bind_eq_error_iff, issueUnlessEnd_eq_error_iff]
  | forward =>
      simp [issue_some positive, Traced.outcome_bind_eq_error_iff, issueUnlessEnd_eq_error_iff]
  | backward =>
      by_cases stop : (reachedEnd || decide (numberBefore page ≤ pageOne)) = true
      · simp [issue_some positive, stop]
      · simp [issue_some positive, issue_some (pageOne_le_numberBefore page), stop]

/-- The page of records with a total at a place. -/
def placed (query : Query) (records : List ρ) (total : Int64) (place : Place) : Page ρ where
  records := records
  total := total
  size := query.size
  demand := query.demand
  number := place.number
  prevCursor := place.prevCursor
  nextCursor := place.nextCursor

theorem composeRows_eq_ok_iff [CursorValued ρ] {policy : Policy} {total : Option UInt64}
    {batch : List ρ} {query : Query} {page : UInt32} (positive : pageOne ≤ page)
    {first last : String} (firstValue : (arrange query batch).head?.bind cursorValue = some first)
    (lastValue : (arrange query batch).getLast?.bind cursorValue = some last) {result : Page ρ} :
    (composeRows policy total batch query page).outcome = .ok result ↔
      ¬Overflows query (policy.endTest.reached batch.length query.size.toNat) page ∧
        ∃ carried, carryTotal total = .ok carried ∧
          result = placed query (arrange query batch) carried
            (neighbours query (policy.endTest.reached batch.length query.size.toNat) first last
              page) := by
  unfold composeRows
  simp only [firstValue, lastValue, Traced.outcome_bind_eq_ok_iff, locate_eq_ok_iff positive,
    Traced.ofExcept, Traced.report, Traced.pure_eq, Except.ok.injEq]
  constructor
  · rintro ⟨_, ⟨fits, rfl⟩, carried, counted, _, _, rfl⟩
    exact ⟨fits, carried, counted, rfl⟩
  · rintro ⟨fits, carried, counted, rfl⟩
    exact ⟨_, ⟨fits, rfl⟩, carried, counted, (), trivial, rfl⟩

theorem composeRows_eq_error_iff [CursorValued ρ] {policy : Policy} {total : Option UInt64}
    {batch : List ρ} {query : Query} {page : UInt32} (positive : pageOne ≤ page)
    {first last : String} (firstValue : (arrange query batch).head?.bind cursorValue = some first)
    (lastValue : (arrange query batch).getLast?.bind cursorValue = some last) {fault : Fault} :
    (composeRows policy total batch query page).outcome = .error fault ↔
      (Overflows query (policy.endTest.reached batch.length query.size.toNat) page ∧
          fault = .internal .pageOverflow) ∨
        (¬Overflows query (policy.endTest.reached batch.length query.size.toNat) page ∧
          carryTotal total = .error fault) := by
  unfold composeRows
  simp only [firstValue, lastValue, Traced.outcome_bind_eq_error_iff, locate_eq_error_iff positive,
    locate_eq_ok_iff positive, Traced.ofExcept, Traced.report, Traced.pure_eq]
  refine or_congr_right ?_
  constructor
  · rintro ⟨place, ⟨fits, -⟩, uncarried | ⟨_, _, impossible | ⟨_, _, impossible⟩⟩⟩
    · exact ⟨fits, uncarried⟩
    · cases impossible
    · cases impossible
  · rintro ⟨fits, uncarried⟩
    exact ⟨_, ⟨fits, rfl⟩, Or.inl uncarried⟩

/-- Every record of a batch has a value for the cursor field. -/
def Valued [CursorValued ρ] (batch : List ρ) : Prop :=
  ∀ record ∈ batch, ∃ value, cursorValue record = some value

theorem mem_of_mem_arrange {query : Query} {batch : List ρ} {record : ρ}
    (member : record ∈ arrange query batch) : record ∈ batch := by
  unfold arrange at member
  cases heading : query.heading with
  | first =>
      rw [heading] at member
      exact List.mem_of_mem_take member
  | forward =>
      rw [heading] at member
      exact List.mem_of_mem_take member
  | backward =>
      rw [heading] at member
      exact List.mem_of_mem_take (List.mem_reverse.mp member)

theorem arrange_ne_nil {query : Query} (sized : 0 < query.size) {batch : List ρ}
    (rows : batch ≠ []) : arrange query batch ≠ [] := by
  have positive : 0 < query.size.toNat := UInt32.lt_iff_toNat_lt.mp sized
  have kept : batch.take query.size.toNat ≠ [] := fun empty =>
    (List.take_eq_nil_iff.mp empty).elim (Nat.ne_of_gt positive) rows
  unfold arrange
  cases query.heading with
  | first => exact kept
  | forward => exact kept
  | backward => exact mt List.reverse_eq_nil_iff.mp kept

/-- The records of a page begin and end with values if all of the batch have values. -/
theorem Valued.exists_ends [CursorValued ρ] {batch : List ρ} (valued : Valued batch)
    (rows : batch ≠ []) {query : Query} (sized : 0 < query.size) :
    ∃ first last, (arrange query batch).head?.bind cursorValue = some first ∧
      (arrange query batch).getLast?.bind cursorValue = some last := by
  have nonempty := arrange_ne_nil sized rows
  obtain ⟨head, headed⟩ := Option.ne_none_iff_exists'.mp (mt List.head?_eq_none_iff.mp nonempty)
  obtain ⟨last, lasts⟩ := Option.ne_none_iff_exists'.mp (mt List.getLast?_eq_none_iff.mp nonempty)
  obtain ⟨headText, headSpelled⟩ := valued head (mem_of_mem_arrange (List.mem_of_head? headed))
  obtain ⟨lastText, lastSpelled⟩ := valued last (mem_of_mem_arrange (List.mem_of_getLast? lasts))
  exact ⟨headText, lastText, by rw [headed]; exact headSpelled, by rw [lasts]; exact lastSpelled⟩

theorem composeAt_nil [CursorValued ρ] (policy : Policy) (total : Option UInt64) (query : Query)
    (page : Traced Fault UInt32) :
    (composeAt policy total ([] : List ρ) query page).outcome = .ok (bare query uncounted) := rfl

theorem composeAt_of_ne_nil [CursorValued ρ] {policy : Policy} {total : Option UInt64}
    {batch : List ρ} (rows : batch ≠ []) (query : Query) (page : UInt32) :
    (composeAt policy total batch query (.succeed page)).outcome =
      (composeRows policy total batch query page).outcome := by
  unfold composeAt
  rw [if_neg (by rwa [List.isEmpty_iff])]
  rfl

theorem carryTotal_eq_error_iff {total : Option UInt64} {fault : Fault} :
    carryTotal total = .error fault ↔
      (∃ count, total = some count ∧ 9223372036854775808 ≤ count.toNat) ∧
        fault = .internal .totalOverflow := by
  cases total with
  | none => simp [carryTotal]
  | some count =>
      rw [carryTotal]
      by_cases fits : count.toNat < 9223372036854775808
      · rw [if_pos fits]
        constructor
        · rintro ⟨⟩
        · rintro ⟨⟨_, ⟨⟩, large⟩, -⟩
          exact absurd fits (Nat.not_lt.mpr large)
      · rw [if_neg fits, Except.error.injEq, eq_comm]
        exact (and_iff_right ⟨count, rfl, Nat.le_of_not_lt fits⟩).symm

theorem ne_nil_of_reached {endTest : EndTest} {query : Query} (sized : 0 < query.size)
    {batch : List ρ} (more : endTest.reached batch.length query.size.toNat = false) : batch ≠ [] := by
  rintro rfl
  have positive : 0 < query.size.toNat := UInt32.lt_iff_toNat_lt.mp sized
  cases endTest with
  | lookAhead => simp [EndTest.reached] at more
  | fullPage =>
      simp only [EndTest.reached, List.length_nil, decide_eq_false_iff_not] at more
      exact more positive

section Valued

variable [CursorValued ρ] {policy : Policy} {total : Option UInt64} {batch : List ρ} {query : Query}
  {page : UInt32}

/-- A batch of rows with values composes unless a page number or the total does not fit. -/
theorem Valued.composeAt_eq_error_iff (valued : Valued batch) (sized : 0 < query.size)
    (positive : pageOne ≤ page) {fault : Fault} :
    (composeAt policy total batch query (.succeed page)).outcome = .error fault ↔
      (Overflows query (policy.endTest.reached batch.length query.size.toNat) page ∧
          fault = .internal .pageOverflow) ∨
        (batch ≠ [] ∧
          ¬Overflows query (policy.endTest.reached batch.length query.size.toNat) page ∧
          carryTotal total = .error fault) := by
  by_cases rows : batch = []
  · rw [rows, composeAt_nil]
    constructor
    · rintro ⟨⟩
    · rintro (⟨⟨-, more, -⟩, -⟩ | ⟨nonempty, -⟩)
      · exact absurd rfl (ne_nil_of_reached sized more)
      · exact absurd rfl nonempty
  · obtain ⟨first, last, firstValue, lastValue⟩ := valued.exists_ends rows sized
    rw [composeAt_of_ne_nil rows, composeRows_eq_error_iff positive firstValue lastValue]
    simp [rows]

/-- A batch of rows with values composes to a page between the tokens of its own end values, or to a
page that carries nothing. -/
theorem Valued.bare_or_placed (valued : Valued batch) (sized : 0 < query.size)
    (positive : pageOne ≤ page) {result : Page ρ}
    (composed : (composeAt policy total batch query (.succeed page)).outcome = .ok result) :
    result = bare query uncounted ∨ ∃ first last carried,
      (arrange query batch).head?.bind cursorValue = some first ∧
      (arrange query batch).getLast?.bind cursorValue = some last ∧
      ¬Overflows query (policy.endTest.reached batch.length query.size.toNat) page ∧
      result = placed query (arrange query batch) carried
        (neighbours query (policy.endTest.reached batch.length query.size.toNat) first last page) := by
  by_cases rows : batch = []
  · rw [rows, composeAt_nil] at composed
    exact Or.inl (Except.ok.inj composed).symm
  · obtain ⟨first, last, firstValue, lastValue⟩ := valued.exists_ends rows sized
    rw [composeAt_of_ne_nil rows, composeRows_eq_ok_iff positive firstValue lastValue] at composed
    obtain ⟨fits, carried, -, rfl⟩ := composed
    exact Or.inr ⟨first, last, carried, firstValue, lastValue, fits, rfl⟩

end Valued

end KeysetPaging.Page
