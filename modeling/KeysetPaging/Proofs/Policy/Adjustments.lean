import KeysetPaging.Proofs.Query.Construction

/-!
# Policies adjusted while they serve

While requests are served the maximum page size and the end test of a policy can be set anew, as often as
anyone likes; a maximum of zero is refused and leaves the policy as it was. Whatever is set, the maximum
stays positive, and the usual page size, the allowed fields and the cursor field stay what the settings
made them. Only the bound between the two sizes can be lost: it holds exactly as long as the maximum that
was accepted last is not below the usual size, and just then the constructors of the usual size make
their queries.
-/

namespace KeysetPaging

namespace Policy

/-- What can be set while a policy serves. -/
inductive Adjustment where
  | maximum (rows : UInt32)
  | ending (endTest : EndTest)

namespace Adjustment

/-- The maximum that an adjustment sets, unless it is refused. -/
def maximum? : Adjustment → Option UInt32
  | .maximum rows => if rows = 0 then none else some rows
  | .ending _ => none

/-- The end test that an adjustment sets. -/
def ending? : Adjustment → Option EndTest
  | .maximum _ => none
  | .ending endTest => some endTest

end Adjustment

/-- The policy after an adjustment; one that is refused leaves it as it was. -/
def adjust (policy : Policy) : Adjustment → Policy
  | .maximum rows =>
      match policy.setMaximum rows with
      | .ok changed => changed
      | .error _ => policy
  | .ending endTest => policy.endingBy endTest

/-- The policy after adjustments made one after another. -/
def adjustAll (policy : Policy) (adjustments : List Adjustment) : Policy :=
  adjustments.foldl adjust policy

/-- The maximum that was accepted last, or else the one of the settings. -/
def lastMaximum (settings : Settings) (adjustments : List Adjustment) : UInt32 :=
  (adjustments.filterMap Adjustment.maximum?).getLastD settings.maximumSize

theorem adjust_eq (policy : Policy) (adjustment : Adjustment) :
    policy.adjust adjustment = { policy with
      maximumSize := adjustment.maximum?.getD policy.maximumSize
      endTest := adjustment.ending?.getD policy.endTest } := by
  cases adjustment with
  | maximum rows =>
      by_cases zero : rows = 0
      · simp [adjust, setMaximum, Adjustment.maximum?, Adjustment.ending?, zero]
      · simp [adjust, setMaximum, Adjustment.maximum?, Adjustment.ending?, zero]
  | ending endTest => rfl

theorem getLastD_filterMap_cons {α β : Type} (pick : α → Option β) (first : α) (rest : List α)
    (before : β) : ((first :: rest).filterMap pick).getLastD before =
      (rest.filterMap pick).getLastD ((pick first).getD before) := by
  rw [List.filterMap_cons]
  cases pick first with
  | none => rfl
  | some picked => exact List.getLastD_cons

/-- Nothing but the maximum and the end test is adjusted, and of each the last accepted value counts. -/
theorem adjustAll_eq (policy : Policy) (adjustments : List Adjustment) :
    policy.adjustAll adjustments = { policy with
      maximumSize := (adjustments.filterMap Adjustment.maximum?).getLastD policy.maximumSize
      endTest := (adjustments.filterMap Adjustment.ending?).getLastD policy.endTest } := by
  induction adjustments generalizing policy with
  | nil => rfl
  | cons first rest ih =>
      have step : policy.adjustAll (first :: rest) = (policy.adjust first).adjustAll rest := rfl
      rw [step, ih, adjust_eq, getLastD_filterMap_cons, getLastD_filterMap_cons]

/-- The maximum that was accepted last is not zero. -/
theorem lastMaximum_pos {settings : Settings} (consistent : settings.Consistent)
    (adjustments : List Adjustment) : 0 < lastMaximum settings adjustments := by
  have last : lastMaximum settings adjustments ∈
      settings.maximumSize :: adjustments.filterMap Adjustment.maximum? := List.getLastD_mem_cons
  rcases List.mem_cons.mp last with unchanged | accepted
  · rw [unchanged]
    exact UInt32.lt_of_lt_of_le consistent.usual_pos consistent.usual_le
  · obtain ⟨adjustment, -, sets⟩ := List.mem_filterMap.mp accepted
    cases adjustment with
    | maximum rows =>
        by_cases zero : rows = 0
        · rw [Adjustment.maximum?, if_pos zero] at sets
          cases sets
        · rw [Adjustment.maximum?, if_neg zero] at sets
          rw [← Option.some.inj sets]
          exact UInt32.pos_iff_ne_zero.mpr zero
    | ending endTest => cases sets

/-- What consistent settings demand, of a policy. -/
structure Constrained (policy : Policy) : Prop where
  maximum_pos : 1 ≤ policy.maximumSize
  usual_pos : 1 ≤ policy.usualSize
  usual_le : policy.usualSize ≤ policy.maximumSize
  cursor_allowed : policy.allowed.allows policy.cursorField = true

end Policy

namespace Query

/-- What the constructors that take the policy's usual page size answer. -/
inductive UsualSized (policy : Policy) : Except QueryFault Query → Prop where
  | orderedBy {field : String} (direction : Direction)
      (allowed : policy.allowed.allows field = true) :
      UsualSized policy (Query.orderedBy policy field direction)
  | next (cursor : String) : UsualSized policy (Query.next policy cursor policy.usualSize)
  | prev (cursor : String) : UsualSized policy (Query.prev policy cursor policy.usualSize)

/-- A draft of the usual page size is refused for its size if a lower maximum was set. -/
theorem finish_of_lower_maximum {policy : Policy} {draft : Draft} (usual : draft.size = policy.usualSize)
    (positive : 0 < policy.usualSize) (lower : policy.maximumSize < policy.usualSize) :
    draft.finish policy = .error (.sizeOverMaximum policy.usualSize policy.maximumSize) := by
  have nonzero : policy.usualSize ≠ 0 := UInt32.pos_iff_ne_zero.mp positive
  have refused : policy.checkSize draft.size =
      .error (.sizeOverMaximum policy.usualSize policy.maximumSize) := by
    rw [usual, Policy.checkSize, if_neg nonzero, if_pos lower]
  rw [Draft.finish, refused]
  rfl

/-- Each of the constructors finishes a draft of the usual page size with an order that the policy
admits, and with one cursor at most. -/
theorem UsualSized.exists_draft {policy : Policy} {answer : Except QueryFault Query}
    (answers : UsualSized policy answer)
    (cursor : policy.allowed.allows policy.cursorField = true) :
    ∃ draft : Draft, answer = draft.finish policy ∧ draft.size = policy.usualSize ∧
      policy.Admits ⟨draft.terms⟩ ∧ (draft.prevCursor = none ∨ draft.nextCursor = none) := by
  have own (direction : Direction) : policy.Admits ⟨[⟨policy.cursorField, direction⟩]⟩ :=
    ⟨List.forall_mem_singleton.mpr cursor, List.nodup_cons.mpr ⟨List.not_mem_nil, List.nodup_nil⟩,
      List.mem_singleton_self _⟩
  cases answers with
  | @orderedBy field direction allowed =>
      by_cases same : field = policy.cursorField
      · refine ⟨_, by rw [Query.orderedBy, if_pos same]; rfl, rfl, ?_, Or.inl rfl⟩
        rw [same]
        exact own direction
      · have tied : policy.Admits ⟨[⟨field, direction⟩, ⟨policy.cursorField, direction⟩]⟩ := by
          refine ⟨List.forall_mem_cons.mpr ⟨allowed, (own direction).allowed⟩,
            List.nodup_cons.mpr ⟨?_, (own direction).distinct⟩,
            List.mem_cons_of_mem field (own direction).cursor_mem⟩
          exact fun member => same (List.mem_singleton.mp member)
        exact ⟨_, by rw [Query.orderedBy, if_neg same]; rfl, rfl, tied, Or.inl rfl⟩
  | next token => exact ⟨_, rfl, rfl, own .descending, Or.inl rfl⟩
  | prev token => exact ⟨_, rfl, rfl, own .descending, Or.inr rfl⟩

end Query

namespace Policy

/-- What is known of a policy after adjustments. -/
structure Kept (settings : Settings) (adjustments : List Adjustment) (policy : Policy) : Prop where
  maximum_eq : policy.maximumSize = lastMaximum settings adjustments
  maximum_pos : 1 ≤ policy.maximumSize
  usual_eq : policy.usualSize = settings.usualSize
  usual_pos : 1 ≤ policy.usualSize
  cursor_allowed : policy.allowed.allows policy.cursorField = true
  constrained_iff : policy.Constrained ↔ settings.usualSize ≤ lastMaximum settings adjustments
  made : settings.usualSize ≤ lastMaximum settings adjustments →
    ∀ answer, Query.UsualSized policy answer → ∃ query, answer = .ok query
  refused : lastMaximum settings adjustments < settings.usualSize →
    ∀ answer, Query.UsualSized policy answer →
      answer = .error (.sizeOverMaximum settings.usualSize (lastMaximum settings adjustments))

/-- However a policy is adjusted, all that the settings demanded is kept but for the bound between the two
sizes. -/
theorem kept_adjustAll {settings : Settings} {policy : Policy}
    (accepted : ofSettings settings = .ok policy) (adjustments : List Adjustment) :
    Kept settings adjustments (policy.adjustAll adjustments) := by
  have consistent : settings.Consistent := (Reachable.made accepted).consistent
  obtain rfl := ofSettings_eq_ok accepted
  rw [adjustAll_eq]
  have maximum_pos : 1 ≤ lastMaximum settings adjustments :=
    UInt32.le_iff_toNat_le.mpr (UInt32.lt_iff_toNat_lt.mp (lastMaximum_pos consistent adjustments))
  have usual_pos : 1 ≤ settings.usualSize :=
    UInt32.le_iff_toNat_le.mpr (UInt32.lt_iff_toNat_lt.mp consistent.usual_pos)
  have cursor_allowed : (AllowList.ofNames settings.orderFields).allows settings.cursorField = true :=
    AllowList.allows_ofNames.mpr consistent.cursor_mem
  exact {
    maximum_eq := rfl
    maximum_pos := maximum_pos
    usual_eq := rfl
    usual_pos := usual_pos
    cursor_allowed := cursor_allowed
    constrained_iff := ⟨Constrained.usual_le, fun bound =>
      ⟨maximum_pos, usual_pos, bound, cursor_allowed⟩⟩
    made := fun bound answer answers => by
      obtain ⟨draft, rfl, usual, admits, cursors⟩ := answers.exists_draft cursor_allowed
      refine ⟨_, Draft.finish_of_checks ?_ (checkOrder_eq_ok_iff.mpr admits) cursors⟩
      rw [usual]
      exact checkSize_eq_ok_iff.mpr ⟨consistent.usual_pos, bound⟩
    refused := fun lower answer answers => by
      obtain ⟨draft, rfl, usual, -, -⟩ := answers.exists_draft cursor_allowed
      exact Query.finish_of_lower_maximum usual consistent.usual_pos lower }

/-- The standard policy, under a maximum below its usual size, a refused maximum and another end test. -/
theorem kept_adjustAll_standard : ofSettings .standard = .ok standard ∧
    Kept .standard [.maximum 10, .maximum 0, .ending .fullPage]
      (standard.adjustAll [.maximum 10, .maximum 0, .ending .fullPage]) :=
  ⟨rfl, kept_adjustAll rfl _⟩

/-- A maximum below the usual size is accepted, and then what the settings demanded is not all kept and a
query of the usual size is refused for an allowed field. -/
theorem not_constrained_of_lower_maximum : ofSettings .standard = .ok standard ∧
    standard.setMaximum 10 = .ok (standard.adjustAll [.maximum 10]) ∧
    ¬(standard.adjustAll [.maximum 10]).Constrained ∧
    (standard.adjustAll [.maximum 10]).allowed.allows standardCursorField = true ∧
    Query.orderedBy (standard.adjustAll [.maximum 10]) standardCursorField .ascending =
      .error (.sizeOverMaximum 20 10) := by
  refine ⟨rfl, rfl, fun constrained => ?_, rfl, rfl⟩
  exact absurd constrained.usual_le (by decide)

end Policy

end KeysetPaging
