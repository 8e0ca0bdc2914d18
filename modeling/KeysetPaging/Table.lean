import KeysetPaging.Paging

/-!
# A table of numbers

A record source that holds numbers and finds a page among them as a seek asks: the numbers on the
seek's side of the anchor, in the direction of the cursor field, up to the limit. It can also be
offline, or hand out one batch whatever it is asked. A store is a table together with the number of
times that it was asked.
-/

namespace KeysetPaging

/-- A record that is known by its cursor value alone, or not loaded at all. -/
abbrev Row := Option String

instance : CursorValued Row where
  cursorValue row := row

/-- How a table counts its rows. -/
inductive CountRule where
  | rows
  | fixed (total : UInt64)
  | unknown
  deriving DecidableEq

inductive TableFault where
  | offline
  | badAnchor
  deriving DecidableEq

def TableFault.message : TableFault → String
  | .offline => "store offline"
  | .badAnchor => "bad anchor value"

structure Table where
  ids : List Int64
  canned : Option (List Row)
  countRule : CountRule
  offline : Bool
  deriving DecidableEq

namespace Table

/-- The record of a number. -/
def row (id : Int64) : Row :=
  some (String.ofList (Text.Numeral.integerText id.toInt))

/-- How a number compares to an anchor. -/
def compareTo (anchor id : Int64) : Ordering :=
  Text.orderingOf (id.toInt < anchor.toInt) (anchor.toInt < id.toInt)

/-- The number that a seek starts from. -/
def anchorOf (seek : Seek) : Except TableFault (Option Int64) :=
  match seek.anchor with
  | none => .ok none
  | some position =>
      match position.number with
      | .ok anchor => .ok (some anchor)
      | .error _ => .error .badAnchor

/-- Whether a number lies on the side of the anchor; without an anchor every number does. -/
def lies (side : Side) (anchor : Option Int64) (id : Int64) : Bool :=
  anchor.all fun value => side.covers (compareTo value id)

/-- Whether the seek asks for the greatest numbers first. -/
def descends (seek : Seek) : Bool :=
  seek.fetchOrder.direction? seek.cursorField == some .descending

/-- The numbers on the side of the anchor, in the direction of the cursor field, up to the limit. -/
def select (ids : List Int64) (seek : Seek) (anchor : Option Int64) : List Int64 :=
  let sorted := Sorting.sort (fun left right => decide (left.toInt < right.toInt))
    (ids.filter (lies seek.side anchor))
  (if descends seek then sorted.reverse else sorted).take seek.limit.toNat

def fetch (table : Table) (seek : Seek) : Except TableFault (List Row) :=
  if table.offline then .error .offline
  else
    match table.canned with
    | some batch => .ok batch
    | none => (anchorOf seek).map fun anchor => (select table.ids seek anchor).map row

def count (table : Table) : Except TableFault (Option UInt64) :=
  if table.offline then .error .offline
  else
    match table.countRule with
    | .rows => .ok (some (UInt64.ofNat table.ids.length))
    | .fixed total => .ok (some total)
    | .unknown => .ok none

/-- The table as a record source that keeps no state. -/
def source (table : Table) : Source Id Row TableFault where
  fetch _ seek := table.fetch seek
  count _ := table.count

end Table

/-- A table, and how often it was asked for rows and for their number. -/
structure Store where
  table : Table
  fetches : Nat
  counts : Nat
  deriving DecidableEq

namespace Store

def ofTable (table : Table) : Store :=
  ⟨table, 0, 0⟩

/-- The store as a record source that counts how often it is asked. -/
def source : Source (StateM Store) Row TableFault where
  fetch _ seek := fun store =>
    (store.table.fetch seek, { store with fetches := store.fetches + 1 })
  count _ := fun store => (store.table.count, { store with counts := store.counts + 1 })

/-- The store as a record source that cannot count. -/
def uncountingSource : Source (StateM Store) Row TableFault :=
  { source with count := fun _ => pure (.ok none) }

end Store

end KeysetPaging
