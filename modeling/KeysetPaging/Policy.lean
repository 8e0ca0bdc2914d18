import KeysetPaging.Fault
import KeysetPaging.Settings

/-!
# Policies

A policy is what consistent settings become when requests are served: it checks page sizes and
orders. Its maximum page size can be set while requests are served, to any size but zero, and then
may fall below the usual size. Each check names the first condition that fails, and it passes
exactly if the page size, or the order, is as the policy demands.
-/

namespace KeysetPaging

structure Policy where
  allowed : AllowList
  cursorField : String
  usualSize : UInt32
  endTest : EndTest
  maximumSize : UInt32
  deriving DecidableEq

/-- The first name that stands behind an equal one or is among those already seen. -/
def firstRepeated? (seen : List String) : List String → Option String
  | [] => none
  | name :: rest => if seen.contains name then some name else firstRepeated? (name :: seen) rest

theorem firstRepeated?_eq_none_iff {seen names : List String} :
    firstRepeated? seen names = none ↔ names.Nodup ∧ ∀ name ∈ names, name ∉ seen := by
  induction names generalizing seen with
  | nil => simp [firstRepeated?]
  | cons name rest ih =>
      unfold firstRepeated?
      by_cases known : name ∈ seen
      · simp [known]
      · simp only [List.contains_eq_mem, known, decide_false, Bool.false_eq_true, if_false, ih,
          List.nodup_cons, List.forall_mem_cons]
        constructor
        · intro ⟨distinct, fresh⟩
          refine ⟨⟨?_, distinct⟩, not_false, ?_⟩
          · exact fun member => fresh name member List.mem_cons_self
          · exact fun other member old => fresh other member (List.mem_cons_of_mem name old)
        · intro ⟨⟨first, distinct⟩, _, fresh⟩
          refine ⟨distinct, fun other member => ?_⟩
          rw [List.mem_cons, not_or]
          exact ⟨fun same => first (same ▸ member), fresh other member⟩

namespace Policy

/-- The policy of settings that do not contradict themselves. -/
def enforce (settings : Settings) : Policy where
  allowed := AllowList.ofNames settings.orderFields
  cursorField := settings.cursorField
  usualSize := settings.usualSize
  endTest := settings.endTest
  maximumSize := settings.maximumSize

/-- The policy of settings, or their first contradiction. -/
def ofSettings (settings : Settings) : Except SettingsFault Policy :=
  settings.check.map fun _ => enforce settings

/-- The policy of the standard settings. -/
def standard : Policy :=
  enforce .standard

def endingBy (policy : Policy) (endTest : EndTest) : Policy :=
  { policy with endTest }

/-- Sets the maximum page size. -/
def setMaximum (policy : Policy) (maximum : UInt32) : Except QueryFault Policy :=
  if maximum = 0 then .error .zeroMaximum else .ok { policy with maximumSize := maximum }

def checkSize (policy : Policy) (size : UInt32) : Except QueryFault Unit :=
  if size = 0 then .error .zeroSize
  else if policy.maximumSize < size then .error (.sizeOverMaximum size policy.maximumSize)
  else .ok ()

def checkOrder (policy : Policy) (order : SortOrder) : Except QueryFault Unit :=
  if order.isEmpty then .error .emptyOrder
  else
    match order.fields.find? fun field => !policy.allowed.allows field with
    | some field => .error (.fieldNotAllowed field)
    | none =>
        match firstRepeated? [] order.fields with
        | some field => .error (.fieldRepeated field)
        | none =>
            if (order.direction? policy.cursorField).isSome then .ok ()
            else .error (.cursorFieldMissing policy.cursorField)

/-- An order that names allowed fields only, none of them twice, and the cursor field. -/
structure Admits (policy : Policy) (order : SortOrder) : Prop where
  allowed : ∀ field ∈ order.fields, policy.allowed.allows field = true
  distinct : order.fields.Nodup
  cursor_mem : policy.cursorField ∈ order.fields

theorem checkSize_eq_ok_iff {policy : Policy} {size : UInt32} :
    policy.checkSize size = .ok () ↔ 0 < size ∧ size ≤ policy.maximumSize := by
  unfold checkSize
  by_cases zero : size = 0
  · simp [zero]
  · by_cases beyond : policy.maximumSize < size
    · simp [zero, beyond, UInt32.not_le.mpr beyond]
    · simp [zero, beyond, UInt32.pos_iff_ne_zero, UInt32.not_lt.mp beyond]

theorem checkOrder_eq_ok_iff {policy : Policy} {order : SortOrder} :
    policy.checkOrder order = .ok () ↔ policy.Admits order := by
  constructor
  · intro valid
    unfold checkOrder at valid
    split at valid
    · cases valid
    · split at valid
      · cases valid
      · rename_i allowed
        split at valid
        · cases valid
        · rename_i distinct
          split at valid
          · rename_i cursor
            refine ⟨?_, (firstRepeated?_eq_none_iff.mp distinct).1,
              SortOrder.direction?_isSome_iff.mp cursor⟩
            intro field member
            simpa using List.find?_eq_none.mp allowed field member
          · cases valid
  · intro admits
    have nonempty : order.isEmpty = false := by
      cases terms : order.terms with
      | nil =>
          have member := admits.cursor_mem
          simp [SortOrder.fields, terms] at member
      | cons head rest => simp [SortOrder.isEmpty, terms]
    have allowed : order.fields.find? (fun field => !policy.allowed.allows field) = none := by
      rw [List.find?_eq_none]
      intro field member
      simp [admits.allowed field member]
    have distinct : firstRepeated? [] order.fields = none :=
      firstRepeated?_eq_none_iff.mpr ⟨admits.distinct, fun _ _ => List.not_mem_nil⟩
    have cursor := SortOrder.direction?_isSome_iff.mpr admits.cursor_mem
    simp [checkOrder, nonempty, allowed, distinct, cursor]

end Policy

end KeysetPaging
