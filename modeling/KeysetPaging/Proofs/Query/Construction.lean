import KeysetPaging.Proofs.Query.Reachable

/-!
# How queries are constructed

A draft holds, of each kind of change, what the last one set, and all fields that were added to its
order, in their turn; so it makes no difference how changes of different kinds are mixed. A draft
becomes a query exactly if it violates no condition, and otherwise it is refused for the violated
condition that is checked first. Every other constructor stands for changes that come to a draft of
its own.
-/

namespace KeysetPaging

theorem firstRepeated?_eq_some_iff {seen names : List String} {name : String} :
    firstRepeated? seen names = some name ↔ ∃ front rest, names = front ++ name :: rest ∧
      front.Nodup ∧ (∀ other ∈ front, other ∉ seen) ∧ (name ∈ seen ∨ name ∈ front) := by
  constructor
  · intro found
    induction names generalizing seen with
    | nil => cases found
    | cons head tail ih =>
        unfold firstRepeated? at found
        split at found
        · rename_i known
          obtain rfl := Option.some.inj found
          have unseen : ∀ other ∈ ([] : List String), other ∉ seen := fun other member =>
            absurd member List.not_mem_nil
          exact ⟨[], tail, rfl, List.nodup_nil, unseen, Or.inl (List.contains_iff_mem.mp known)⟩
        · rename_i fresh
          obtain ⟨front, rest, rfl, distinct, unseen, again⟩ := ih found
          have apart : head ∉ front := fun member =>
            unseen head member List.mem_cons_self
          refine ⟨head :: front, rest, rfl, List.nodup_cons.mpr ⟨apart, distinct⟩, ?_, ?_⟩
          · intro other member
            rcases List.mem_cons.mp member with rfl | member
            · exact fun old => fresh (List.contains_iff_mem.mpr old)
            · exact fun old => unseen other member (List.mem_cons_of_mem head old)
          · rcases again with again | again
            · rcases List.mem_cons.mp again with rfl | old
              · exact Or.inr List.mem_cons_self
              · exact Or.inl old
            · exact Or.inr (List.mem_cons_of_mem head again)
  · rintro ⟨front, rest, rfl, distinct, unseen, again⟩
    induction front generalizing seen with
    | nil =>
        have known : name ∈ seen := again.resolve_right List.not_mem_nil
        rw [List.nil_append, firstRepeated?, if_pos (List.contains_iff_mem.mpr known)]
    | cons head front ih =>
        rw [List.nodup_cons] at distinct
        rw [List.forall_mem_cons] at unseen
        have fresh : ¬seen.contains head = true := fun known =>
          unseen.1 (List.contains_iff_mem.mp known)
        rw [List.cons_append, firstRepeated?, if_neg fresh]
        refine ih distinct.2 ?_ ?_
        · intro other member old
          rcases List.mem_cons.mp old with rfl | old
          · exact distinct.1 member
          · exact unseen.2 other member old
        · rcases again with old | again
          · exact Or.inl (List.mem_cons_of_mem head old)
          · rcases List.mem_cons.mp again with rfl | again
            · exact Or.inl List.mem_cons_self
            · exact Or.inr again

theorem firstRepeated?_nil_eq_some_iff {names : List String} {name : String} :
    firstRepeated? [] names = some name ↔
      ∃ front rest, names = front ++ name :: rest ∧ front.Nodup ∧ name ∈ front := by
  simp [firstRepeated?_eq_some_iff]

/-- The turn in which a condition is checked when a query is constructed; whether a maximum is zero is
checked where it is set. -/
def QueryFault.turn : QueryFault → Nat
  | .orderLengths _ _ => 0
  | .zeroSize => 1
  | .sizeOverMaximum _ _ => 2
  | .emptyOrder => 3
  | .fieldNotAllowed _ => 4
  | .fieldRepeated _ => 5
  | .cursorFieldMissing _ => 6
  | .bothCursors => 7
  | .zeroMaximum => 8

namespace Draft

namespace Change

/-- The page size that a change sets. -/
def size? : Change → Option UInt32
  | .size rows => some rows
  | _ => none

/-- The demand that a change sets. -/
def demand? : Change → Option Demand
  | .demand wanted => some wanted
  | _ => none

/-- The field that a change adds to the order, with its direction. -/
def term? : Change → Option SortTerm
  | .orderBy field direction => some ⟨field, direction⟩
  | _ => none

/-- The cursor for the page before that a change sets. -/
def prevCursor? : Change → Option String
  | .prevCursor cursor => some cursor
  | _ => none

/-- The cursor for the page after that a change sets. -/
def nextCursor? : Change → Option String
  | .nextCursor cursor => some cursor
  | _ => none

/-- The filter that a change sets. -/
def filter? : Change → Option Shape.Filter
  | .filter described => some described
  | _ => none

end Change

/-- The fields that a draft orders by. -/
def fields (draft : Draft) : List String :=
  SortOrder.fields ⟨draft.terms⟩

/-- What changes come to: of each kind what the last one sets, else what every draft starts with, and
the fields of the order in their turn. -/
def gathered (policy : Policy) (changes : List Change) : Draft where
  size := (changes.filterMap Change.size?).getLastD policy.usualSize
  demand := (changes.filterMap Change.demand?).getLastD .standard
  terms := changes.filterMap Change.term?
  prevCursor := (changes.filterMap Change.prevCursor?).getLast?
  nextCursor := (changes.filterMap Change.nextCursor?).getLast?
  filter := (changes.filterMap Change.filter?).getLastD []

theorem foldl_change (draft : Draft) (changes : List Change) :
    changes.foldl change draft = {
      size := (changes.filterMap Change.size?).getLastD draft.size
      demand := (changes.filterMap Change.demand?).getLastD draft.demand
      terms := draft.terms ++ changes.filterMap Change.term?
      prevCursor := (changes.filterMap Change.prevCursor?).getLast?.or draft.prevCursor
      nextCursor := (changes.filterMap Change.nextCursor?).getLast?.or draft.nextCursor
      filter := (changes.filterMap Change.filter?).getLastD draft.filter } := by
  induction changes generalizing draft with
  | nil => simp
  | cons first rest ih =>
      rw [List.foldl_cons, ih]
      cases first <;>
        simp [change, Change.size?, Change.demand?, Change.term?, Change.prevCursor?,
          Change.nextCursor?, Change.filter?, List.filterMap_cons, List.getLast?_cons]

/-- Making the changes one after another comes to the same. -/
theorem gathered_eq_foldl (policy : Policy) (changes : List Change) :
    gathered policy changes = changes.foldl change (start policy) := by
  rw [foldl_change]
  simp [gathered, start]

/-- The conditions that a draft can violate, each with the fault that it is refused for: of the fields
that are not allowed the first one counts, and of those that stand behind an equal one too. -/
inductive Violates (policy : Policy) (draft : Draft) : QueryFault → Prop where
  | zeroSize (zero : draft.size = 0) : Violates policy draft .zeroSize
  | sizeOverMaximum (beyond : policy.maximumSize < draft.size) :
      Violates policy draft (.sizeOverMaximum draft.size policy.maximumSize)
  | emptyOrder (noTerms : draft.terms = []) : Violates policy draft .emptyOrder
  | fieldNotAllowed {front rest : List String} {field : String}
      (split : draft.fields = front ++ field :: rest)
      (before : ∀ other ∈ front, policy.allowed.allows other = true)
      (refused : policy.allowed.allows field = false) :
      Violates policy draft (.fieldNotAllowed field)
  | fieldRepeated {front rest : List String} {field : String}
      (split : draft.fields = front ++ field :: rest) (before : front.Nodup)
      (again : field ∈ front) : Violates policy draft (.fieldRepeated field)
  | cursorFieldMissing (missing : policy.cursorField ∉ draft.fields) :
      Violates policy draft (.cursorFieldMissing policy.cursorField)
  | bothCursors {prev next : String} (before : draft.prevCursor = some prev)
      (after : draft.nextCursor = some next) : Violates policy draft .bothCursors

/-- A draft that violates no condition. -/
structure Admitted (policy : Policy) (draft : Draft) : Prop where
  size_pos : 1 ≤ draft.size
  size_le : draft.size ≤ policy.maximumSize
  ordered : draft.terms ≠ []
  allowed : ∀ field ∈ draft.fields, policy.allowed.allows field = true
  distinct : draft.fields.Nodup
  cursor_mem : policy.cursorField ∈ draft.fields
  one_cursor : draft.prevCursor = none ∨ draft.nextCursor = none

/-- The query that holds what the draft holds. -/
def toQuery (draft : Draft) (policy : Policy) : Query where
  size := draft.size
  demand := draft.demand
  order := ⟨draft.terms⟩
  cursorField := policy.cursorField
  prevCursor := draft.prevCursor
  nextCursor := draft.nextCursor
  filter := draft.filter

section Finish

variable {policy : Policy} {draft : Draft}

theorem Admitted.admits (admitted : draft.Admitted policy) : policy.Admits ⟨draft.terms⟩ :=
  ⟨admitted.allowed, admitted.distinct, admitted.cursor_mem⟩

theorem finish_eq_ok_iff {query : Query} :
    draft.finish policy = .ok query ↔ draft.Admitted policy ∧ query = draft.toQuery policy := by
  constructor
  · intro finished
    obtain ⟨size, order, cursors, rfl⟩ := finish_eq_ok finished
    have sized := Policy.checkSize_eq_ok_iff.mp size
    have admits := Policy.checkOrder_eq_ok_iff.mp order
    refine ⟨?_, rfl⟩
    exact {
      size_pos := UInt32.le_iff_toNat_le.mpr (UInt32.lt_iff_toNat_lt.mp sized.1)
      size_le := sized.2
      ordered := fun noTerms => by simpa [SortOrder.fields, noTerms] using admits.cursor_mem
      allowed := admits.allowed
      distinct := admits.distinct
      cursor_mem := admits.cursor_mem
      one_cursor := cursors }
  · rintro ⟨admitted, rfl⟩
    have positive : 0 < draft.size :=
      UInt32.lt_iff_toNat_lt.mpr (UInt32.le_iff_toNat_le.mp admitted.size_pos)
    exact finish_of_checks (Policy.checkSize_eq_ok_iff.mpr ⟨positive, admitted.size_le⟩)
      (Policy.checkOrder_eq_ok_iff.mpr admitted.admits) admitted.one_cursor

theorem Admitted.not_violates (admitted : draft.Admitted policy) (fault : QueryFault) :
    ¬draft.Violates policy fault := by
  intro violated
  cases violated with
  | zeroSize zero =>
      have positive := admitted.size_pos
      rw [zero] at positive
      exact absurd positive (by decide)
  | sizeOverMaximum beyond => exact UInt32.not_lt.mpr admitted.size_le beyond
  | emptyOrder noTerms => exact admitted.ordered noTerms
  | fieldNotAllowed split before refused =>
      have member := admitted.allowed _ (split ▸ List.mem_append_right _ List.mem_cons_self)
      rw [refused] at member
      cases member
  | fieldRepeated split before again =>
      have distinct := admitted.distinct
      rw [split, List.nodup_append] at distinct
      exact distinct.2.2 _ again _ List.mem_cons_self rfl
  | cursorFieldMissing missing => exact missing admitted.cursor_mem
  | bothCursors before after =>
      rcases admitted.one_cursor with absent | absent
      · cases before.symm.trans absent
      · cases after.symm.trans absent

theorem violates_fieldNotAllowed_iff {field : String} :
    draft.Violates policy (.fieldNotAllowed field) ↔
      draft.fields.find? (fun field => !policy.allowed.allows field) = some field := by
  rw [List.find?_eq_some_iff_append]
  constructor
  · intro violated
    cases violated with
    | fieldNotAllowed split before refused =>
        refine ⟨by rw [refused]; rfl, _, _, split, fun other member => ?_⟩
        rw [before other member]
        rfl
  · rintro ⟨refused, front, rest, split, before⟩
    refine .fieldNotAllowed split (fun other member => ?_) (by simpa using refused)
    simpa using before other member

/-- The conditions of one turn that are violated give one fault. -/
theorem Violates.eq_of_turn_eq {fault other : QueryFault} (first : draft.Violates policy fault)
    (second : draft.Violates policy other) (turn : fault.turn = other.turn) : fault = other := by
  cases first with
  | zeroSize => cases second with | zeroSize => rfl | _ => cases turn
  | sizeOverMaximum => cases second with | sizeOverMaximum => rfl | _ => cases turn
  | emptyOrder => cases second with | emptyOrder => rfl | _ => cases turn
  | fieldNotAllowed split before refused =>
      have found := violates_fieldNotAllowed_iff.mp (.fieldNotAllowed split before refused)
      cases second with
      | fieldNotAllowed split before refused =>
          have same := violates_fieldNotAllowed_iff.mp (.fieldNotAllowed split before refused)
          rw [Option.some.inj (found.symm.trans same)]
      | _ => cases turn
  | fieldRepeated split before repeats =>
      have found := firstRepeated?_nil_eq_some_iff.mpr ⟨_, _, split, before, repeats⟩
      cases second with
      | fieldRepeated split before repeats =>
          have same := firstRepeated?_nil_eq_some_iff.mpr ⟨_, _, split, before, repeats⟩
          rw [Option.some.inj (found.symm.trans same)]
      | _ => cases turn
  | cursorFieldMissing => cases second with | cursorFieldMissing => rfl | _ => cases turn
  | bothCursors => cases second with | bothCursors => rfl | _ => cases turn

/-- No condition that is checked before a turn is violated. -/
def ClearBefore (policy : Policy) (draft : Draft) (turn : Nat) : Prop :=
  ∀ fault, draft.Violates policy fault → turn ≤ fault.turn

/-- The condition of a fault is violated, and none that is checked before it. -/
structure FirstViolates (policy : Policy) (draft : Draft) (fault : QueryFault) : Prop where
  violated : draft.Violates policy fault
  clear : draft.ClearBefore policy fault.turn

theorem clearBefore_one : draft.ClearBefore policy 1 := by
  intro fault violated
  cases violated <;> exact Nat.le_of_ble_eq_true rfl

theorem ClearBefore.next {turn : Nat} (clear : draft.ClearBefore policy turn)
    (kept : ∀ fault, draft.Violates policy fault → fault.turn ≠ turn) :
    draft.ClearBefore policy (turn + 1) := by
  intro fault violated
  exact Nat.lt_of_le_of_ne (clear fault violated) (kept fault violated).symm

theorem clearBefore_two (nonzero : draft.size ≠ 0) : draft.ClearBefore policy 2 := by
  refine clearBefore_one.next fun fault violated turn => ?_
  cases violated with
  | zeroSize zero => exact nonzero zero
  | _ => cases turn

theorem clearBefore_three (sized : policy.checkSize draft.size = .ok ()) :
    draft.ClearBefore policy 3 := by
  obtain ⟨positive, bounded⟩ := Policy.checkSize_eq_ok_iff.mp sized
  refine (clearBefore_two (UInt32.pos_iff_ne_zero.mp positive)).next fun fault violated turn => ?_
  cases violated with
  | sizeOverMaximum beyond => exact UInt32.not_lt.mpr bounded beyond
  | _ => cases turn

theorem firstViolates_of_checkSize {fault : QueryFault}
    (refused : policy.checkSize draft.size = .error fault) : draft.FirstViolates policy fault := by
  unfold Policy.checkSize at refused
  split at refused
  · rename_i zero
    obtain rfl := Except.error.inj refused
    exact ⟨.zeroSize zero, clearBefore_one⟩
  · rename_i nonzero
    split at refused
    · rename_i beyond
      obtain rfl := Except.error.inj refused
      exact ⟨.sizeOverMaximum beyond, clearBefore_two nonzero⟩
    · cases refused

/-- The order is checked condition by condition behind the size. -/
theorem firstViolates_of_checkOrder (clear : draft.ClearBefore policy 3) {fault : QueryFault}
    (refused : policy.checkOrder ⟨draft.terms⟩ = .error fault) :
    draft.FirstViolates policy fault := by
  unfold Policy.checkOrder at refused
  split at refused
  · rename_i empty
    obtain rfl := Except.error.inj refused
    exact ⟨.emptyOrder (List.isEmpty_iff.mp empty), clear⟩
  · rename_i ordered
    have ordered : draft.ClearBefore policy 4 := clear.next fun fault violated turn => by
      cases violated with
      | emptyOrder noTerms => exact ordered (List.isEmpty_iff.mpr noTerms)
      | _ => cases turn
    split at refused
    · rename_i found
      obtain rfl := Except.error.inj refused
      exact ⟨violates_fieldNotAllowed_iff.mpr found, ordered⟩
    · rename_i allowed
      have permitted : draft.ClearBefore policy 5 := ordered.next fun fault violated turn => by
        cases violated with
        | fieldNotAllowed split before refused =>
            have found := violates_fieldNotAllowed_iff.mp (.fieldNotAllowed split before refused)
            cases allowed.symm.trans found
        | _ => cases turn
      split at refused
      · rename_i found
        obtain rfl := Except.error.inj refused
        obtain ⟨front, rest, split, before, again⟩ := firstRepeated?_nil_eq_some_iff.mp found
        exact ⟨.fieldRepeated split before again, permitted⟩
      · rename_i distinct
        have apart : draft.ClearBefore policy 6 := permitted.next fun fault violated turn => by
          cases violated with
          | fieldRepeated split before again =>
              have found := firstRepeated?_nil_eq_some_iff.mpr ⟨_, _, split, before, again⟩
              cases distinct.symm.trans found
          | _ => cases turn
        split at refused
        · cases refused
        · rename_i missing
          obtain rfl := Except.error.inj refused
          exact ⟨.cursorFieldMissing (mt SortOrder.direction?_isSome_iff.mpr missing), apart⟩

/-- A draft of an admitted size and order can be refused for its cursors only. -/
theorem clearBefore_seven (sized : policy.checkSize draft.size = .ok ())
    (ordered : policy.checkOrder ⟨draft.terms⟩ = .ok ()) : draft.ClearBefore policy 7 := by
  -- Without one of its cursors the draft is admitted, and all other conditions stay as they are.
  have finished : ({ draft with prevCursor := none } : Draft).finish policy = .ok _ :=
    finish_of_checks sized ordered (Or.inl rfl)
  have admitted := (finish_eq_ok_iff.mp finished).1
  intro fault violated
  cases violated with
  | zeroSize zero => exact absurd (.zeroSize zero) (admitted.not_violates _)
  | sizeOverMaximum beyond => exact absurd (.sizeOverMaximum beyond) (admitted.not_violates _)
  | emptyOrder noTerms => exact absurd (.emptyOrder noTerms) (admitted.not_violates _)
  | fieldNotAllowed split before refused =>
      exact absurd (.fieldNotAllowed split before refused) (admitted.not_violates _)
  | fieldRepeated split before again =>
      exact absurd (.fieldRepeated split before again) (admitted.not_violates _)
  | cursorFieldMissing missing => exact absurd (.cursorFieldMissing missing) (admitted.not_violates _)
  | bothCursors => exact Nat.le_refl 7

theorem firstViolates_of_finish {fault : QueryFault} (refused : draft.finish policy = .error fault) :
    draft.FirstViolates policy fault := by
  unfold finish at refused
  cases sized : policy.checkSize draft.size with
  | error found =>
      rw [sized] at refused
      obtain rfl := Except.error.inj refused
      exact firstViolates_of_checkSize sized
  | ok _ =>
      cases ordered : policy.checkOrder ⟨draft.terms⟩ with
      | error found =>
          rw [sized, ordered] at refused
          obtain rfl := Except.error.inj refused
          exact firstViolates_of_checkOrder (clearBefore_three sized) ordered
      | ok _ =>
          rw [sized, ordered] at refused
          cases both : draft.prevCursor.isSome && draft.nextCursor.isSome with
          | false =>
              rw [both] at refused
              cases refused
          | true =>
              rw [both] at refused
              obtain rfl := Except.error.inj refused
              obtain ⟨before, after⟩ := Bool.and_eq_true_iff.mp both
              obtain ⟨prev, before⟩ := Option.isSome_iff_exists.mp before
              obtain ⟨next, after⟩ := Option.isSome_iff_exists.mp after
              exact ⟨.bothCursors before after, clearBefore_seven sized ordered⟩

/-- A draft is refused for the violated condition that is checked first. -/
theorem finish_eq_error_iff {fault : QueryFault} :
    draft.finish policy = .error fault ↔ draft.FirstViolates policy fault := by
  constructor
  · exact firstViolates_of_finish
  · intro first
    cases finished : draft.finish policy with
    | ok query =>
        have admitted := (finish_eq_ok_iff.mp finished).1
        exact absurd first.violated (admitted.not_violates fault)
    | error found =>
        have earliest := firstViolates_of_finish finished
        have turn : found.turn = fault.turn :=
          Nat.le_antisymm (earliest.clear fault first.violated) (first.clear found earliest.violated)
        rw [earliest.violated.eq_of_turn_eq first.violated turn]

end Finish

end Draft

namespace Query

/-- What a list of changes makes depends on nothing but what the changes come to. -/
theorem ofChanges_eq (policy : Policy) (changes : List Draft.Change) :
    ofChanges policy changes = (Draft.gathered policy changes).finish policy := by
  rw [ofChanges, Draft.gathered_eq_foldl]

/-- Something made stands for a draft if it is what all changes make that come to the draft. -/
structure StandsFor (policy : Policy) (made : Except QueryFault Query) (draft : Draft) : Prop where
  comes : ∃ changes, Draft.gathered policy changes = draft
  made_eq : ∀ changes, Draft.gathered policy changes = draft → made = ofChanges policy changes

theorem standsFor_ofChanges (policy : Policy) (changes : List Draft.Change) :
    StandsFor policy (ofChanges policy changes) (Draft.gathered policy changes) := by
  refine ⟨⟨changes, rfl⟩, fun others same => ?_⟩
  rw [ofChanges_eq, ofChanges_eq, same]

/-- The changes of separate lists add the fields pair by pair and set everything else once. -/
theorem gathered_lists (policy : Policy) (prevCursor nextCursor : Option String) (size : UInt32)
    (demand : Demand) (fields : List String) (directions : List Direction) :
    Draft.gathered policy
        ([.size size, .demand demand] ++ List.zipWith .orderBy fields directions ++
          prevCursor.toList.map .prevCursor ++ nextCursor.toList.map .nextCursor) =
      { size, demand, terms := List.zipWith SortTerm.mk fields directions, prevCursor, nextCursor,
        filter := [] } := by
  have pairs : List.zipWith Draft.Change.orderBy fields directions =
      (List.zipWith SortTerm.mk fields directions).map fun term =>
        .orderBy term.field term.direction := by
    rw [List.map_zipWith]
  rw [Draft.gathered_eq_foldl, pairs, List.foldl_append, List.foldl_append, List.foldl_append,
    Draft.foldl_orderBy]
  cases prevCursor <;> cases nextCursor <;> rfl

/-- How queries come to be under a policy: changes make the query of what they come to, if that
violates no condition, and are refused for the violated condition that is checked first; every other
constructor stands for a draft. -/
structure Constructs (policy : Policy) : Prop where
  made : ∀ (changes : List Draft.Change) (query : Query),
    ofChanges policy changes = .ok query ↔
      (Draft.gathered policy changes).Admitted policy ∧
        query = (Draft.gathered policy changes).toQuery policy
  refused : ∀ (changes : List Draft.Change) (fault : QueryFault),
    ofChanges policy changes = .error fault ↔
      (Draft.gathered policy changes).FirstViolates policy fault
  ofLists : ∀ (prevCursor nextCursor : Option String) (size : UInt32) (demand : Demand)
    (fields : List String) (directions : List Direction),
    if fields.length = directions.length then
      StandsFor policy (ofLists policy prevCursor nextCursor size demand fields directions)
        { size, demand, terms := List.zipWith SortTerm.mk fields directions, prevCursor, nextCursor,
          filter := [] }
    else ofLists policy prevCursor nextCursor size demand fields directions =
      .error (.orderLengths fields.length directions.length)
  first : ∀ size : UInt32, StandsFor policy (first policy size)
    ⟨size, .rows, [⟨policy.cursorField, .descending⟩], none, none, []⟩
  next : ∀ (cursor : String) (size : UInt32), StandsFor policy (next policy cursor size)
    ⟨size, .rows, [⟨policy.cursorField, .descending⟩], none, some cursor, []⟩
  prev : ∀ (cursor : String) (size : UInt32), StandsFor policy (prev policy cursor size)
    ⟨size, .rows, [⟨policy.cursorField, .descending⟩], some cursor, none, []⟩
  orderedBy : ∀ (field : String) (direction : Direction),
    StandsFor policy (orderedBy policy field direction)
      ⟨policy.usualSize, .rows,
        ⟨field, direction⟩ ::
          if field = policy.cursorField then [] else [⟨policy.cursorField, direction⟩],
        none, none, []⟩

theorem constructs (policy : Policy) : Constructs policy where
  made := fun changes query => by
    rw [ofChanges_eq]
    exact Draft.finish_eq_ok_iff
  refused := fun changes fault => by
    rw [ofChanges_eq]
    exact Draft.finish_eq_error_iff
  ofLists := fun prevCursor nextCursor size demand fields directions => by
    unfold ofLists
    split
    · rw [← gathered_lists policy]
      exact standsFor_ofChanges policy _
    · rfl
  first := fun size => standsFor_ofChanges policy _
  next := fun cursor size => standsFor_ofChanges policy _
  prev := fun cursor size => standsFor_ofChanges policy _
  orderedBy := fun field direction => by
    unfold orderedBy
    by_cases own : field = policy.cursorField
    · rw [if_pos own, if_pos own]
      exact standsFor_ofChanges policy _
    · rw [if_neg own, if_neg own]
      exact standsFor_ofChanges policy _

end Query

end KeysetPaging
