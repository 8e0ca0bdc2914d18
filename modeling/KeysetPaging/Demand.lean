/-!
# Demands

What a request asks of the record source: rows, the number of all rows, or both. Every demand asks
for at least one of the two, and the two answers determine it.
-/

namespace KeysetPaging

inductive Demand where
  | rows
  | total
  | rowsAndTotal
  deriving DecidableEq

namespace Demand

/-- The word for the demand. -/
def label : Demand → String
  | .rows => "QUERY_RESET"
  | .total => "COUNT_TOTAL"
  | .rowsAndTotal => "QUERY_BOTH"

def all : List Demand :=
  [.rows, .total, .rowsAndTotal]

/-- The demand of a request that names none. -/
def standard : Demand :=
  .rows

def wantsRows : Demand → Bool
  | .rows => true
  | .total => false
  | .rowsAndTotal => true

def wantsTotal : Demand → Bool
  | .rows => false
  | .total => true
  | .rowsAndTotal => true

theorem wantsRows_or_wantsTotal (demand : Demand) :
    (demand.wantsRows || demand.wantsTotal) = true := by
  cases demand <;> rfl

end Demand

end KeysetPaging
