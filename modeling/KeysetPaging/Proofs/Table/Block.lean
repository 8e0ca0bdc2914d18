import KeysetPaging.Proofs.Table.Listing

/-!
# Blocks of a listing

A listing cut into blocks of one size, the last of them possibly shorter. The numbers past the last
one of a block are those behind the block, and the numbers before the first one of a block are those
in front of it.
-/

namespace KeysetPaging.Table

/-- The numbers of a block; the blocks are counted from zero. -/
def block (size place : Nat) (listed : List Int64) : List Int64 :=
  (listed.drop (place * size)).take size

section Size

variable {size place : Nat} {listed : List Int64}

theorem block_zero (size : Nat) (listed : List Int64) : block size 0 listed = listed.take size := by
  rw [block, Nat.zero_mul, List.drop_zero]

theorem block_eq_nil_iff (positive : 0 < size) :
    block size place listed = [] ↔ listed.length ≤ place * size := by
  rw [block, List.take_eq_nil_iff, List.drop_eq_nil_iff]
  omega

theorem lt_of_mem_block {id : Int64} (member : id ∈ block size place listed) :
    place * size < listed.length := by
  by_cases inside : place * size < listed.length
  · exact inside
  · rw [block, List.drop_eq_nil_of_le (Nat.le_of_not_lt inside), List.take_nil] at member
    cases member

/-- The numbers up to the end of a block are those in front of it and then the block. -/
theorem take_succ_mul (size place : Nat) (listed : List Int64) :
    listed.take ((place + 1) * size) = listed.take (place * size) ++ block size place listed := by
  rw [Nat.succ_mul, List.take_add, block]

theorem getLast?_take_succ_mul {id : Int64} (last : (block size place listed).getLast? = some id) :
    (listed.take ((place + 1) * size)).getLast? = some id := by
  rw [take_succ_mul, List.getLast?_append, last, Option.some_or]

theorem head?_drop_mul {id : Int64} (head : (block size place listed).head? = some id) :
    (listed.drop (place * size)).head? = some id := by
  obtain ⟨rest, shape⟩ := List.head?_eq_some_iff.mp head
  rw [← List.take_append_drop size (listed.drop (place * size))]
  change (block size place listed ++ _).head? = some id
  rw [shape]
  rfl

theorem past_block {ascending : Bool}
    (sorted : listed.Pairwise fun left right => precedes ascending left right = true) {id : Int64}
    (last : (block size place listed).getLast? = some id) :
    past ascending id listed = listed.drop ((place + 1) * size) := by
  have cut := List.take_append_drop ((place + 1) * size) listed
  rw [← cut] at sorted
  have beyond := past_append sorted (getLast?_take_succ_mul last)
  rwa [cut] at beyond

theorem before_block {ascending : Bool}
    (sorted : listed.Pairwise fun left right => precedes ascending left right = true) {id : Int64}
    (head : (block size place listed).head? = some id) :
    before ascending id listed = listed.take (place * size) := by
  have cut := List.take_append_drop (place * size) listed
  rw [← cut] at sorted
  have earlier := before_append sorted (head?_drop_mul head)
  rwa [cut] at earlier

/-- The last numbers in front of a block, turned around twice, are the block before it. -/
theorem reverse_take_reverse (inside : (place + 1) * size ≤ listed.length) :
    ((listed.take ((place + 1) * size)).reverse.take size).reverse = block size place listed := by
  have front : place * size + size = (place + 1) * size := (Nat.succ_mul place size).symm
  rw [List.take_reverse, List.reverse_reverse, List.length_take, Nat.min_eq_left inside,
    List.drop_take, block]
  congr 1
  · omega
  · congr 1
    omega

end Size

end KeysetPaging.Table
