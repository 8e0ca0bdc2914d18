import KeysetPaging.Order

/-!
# Settings

What a deployment sets: the largest and the usual page size, the field that cursors point into, the
fields that callers may order by, and how the end of a table is told. Settings may contradict
themselves; `check` names the first contradiction, and there is none exactly if the settings are
consistent.
-/

namespace KeysetPaging

/-- How the end of a table is told: by asking for one row more than a page holds, or by a page that
is not full. -/
inductive EndTest where
  | lookAhead
  | fullPage
  deriving DecidableEq

namespace EndTest

def label : EndTest → String
  | .lookAhead => "look_ahead"
  | .fullPage => "size_compare"

def all : List EndTest :=
  [.lookAhead, .fullPage]

/-- How many rows to ask for when a page holds the given number; it does not pass the greatest
machine word. -/
def limit : EndTest → UInt32 → UInt32
  | .lookAhead, size => if size = 4294967295 then size else size + 1
  | .fullPage, size => size

/-- Whether a batch of the given length leaves no row behind a page of the given size. -/
def reached : EndTest → Nat → Nat → Bool
  | .lookAhead, length, size => length ≤ size
  | .fullPage, length, size => length < size

end EndTest

structure Settings where
  maximumSize : UInt32
  usualSize : UInt32
  cursorField : String
  orderFields : List String
  endTest : EndTest
  deriving DecidableEq

/-- Why settings contradict themselves, or that they cannot be read at all. -/
inductive SettingsFault where
  | unreadable
  | zeroMaximum
  | usualSizeOutOfRange (found maximum : UInt32)
  | noOrderFields
  | cursorFieldNotAllowed (field : String)
  deriving DecidableEq

/-- The wording of a contradiction; settings that cannot be read have none. -/
def SettingsFault.message? : SettingsFault → Option String
  | .unreadable => none
  | .zeroMaximum => some "max_query_size must be greater than 0"
  | .usualSizeOutOfRange found maximum =>
      some ("default_query_size must be between 1 and " ++ maximum.toNat.repr ++ ", found " ++
        found.toNat.repr)
  | .noOrderFields => some "order_fields must not be empty"
  | .cursorFieldNotAllowed field =>
      some ("cursor_field '" ++ field ++ "' must be listed in order_fields")

namespace Settings

/-- The settings of a deployment that sets nothing. -/
def standard : Settings where
  maximumSize := 8192
  usualSize := 20
  cursorField := standardCursorField
  orderFields := StandardField.all.map StandardField.name
  endTest := .lookAhead

/-- Names the first contradiction. -/
def check (settings : Settings) : Except SettingsFault Unit :=
  if settings.maximumSize = 0 then .error .zeroMaximum
  else if settings.usualSize = 0 ∨ settings.maximumSize < settings.usualSize then
    .error (.usualSizeOutOfRange settings.usualSize settings.maximumSize)
  else if settings.orderFields.isEmpty then .error .noOrderFields
  else if settings.orderFields.contains settings.cursorField then .ok ()
  else .error (.cursorFieldNotAllowed settings.cursorField)

/-- The usual page is neither empty nor over the maximum, and cursors point into a field that
callers may order by. -/
structure Consistent (settings : Settings) : Prop where
  usual_pos : 0 < settings.usualSize
  usual_le : settings.usualSize ≤ settings.maximumSize
  cursor_mem : settings.cursorField ∈ settings.orderFields

theorem check_eq_ok_iff {settings : Settings} :
    settings.check = .ok () ↔ settings.Consistent := by
  constructor
  · intro valid
    unfold check at valid
    split at valid
    · cases valid
    · split at valid
      · cases valid
      · rename_i sizes
        split at valid
        · cases valid
        · split at valid
          · rename_i member
            simp only [not_or, UInt32.not_lt] at sizes
            exact ⟨UInt32.pos_iff_ne_zero.mpr sizes.1, sizes.2, by simpa using member⟩
          · cases valid
  · intro consistent
    have usual : settings.usualSize ≠ 0 := UInt32.pos_iff_ne_zero.mp consistent.usual_pos
    have maximum : settings.maximumSize ≠ 0 := by
      intro zero
      have under := consistent.usual_le
      rw [zero] at under
      exact usual (UInt32.le_zero_iff.mp under)
    have bound : ¬settings.maximumSize < settings.usualSize :=
      UInt32.not_lt.mpr consistent.usual_le
    have nonempty : settings.orderFields.isEmpty = false := by
      cases fields : settings.orderFields with
      | nil => exact absurd (fields ▸ consistent.cursor_mem) List.not_mem_nil
      | cons head rest => rfl
    simp [check, maximum, usual, bound, nonempty, consistent.cursor_mem]

end Settings

end KeysetPaging
