import KeysetPaging.Proofs.Paging.Walk
import KeysetPaging.Proofs.Table.Block

/-!
# Walks over a table that stays the same

With look-ahead every walk over one table moves from block to block of its listing: the page after
some moves is the one of the block as far from the first as there are more moves forward than back,
by whichever moves it was reached, and every cursor on it leads on.
-/

namespace KeysetPaging

/-- How a block of a listing is approached: the first from the start, and any from the last number
of the block before it or from the first number of the block after it. -/
inductive Approach.Reaches (size : Nat) (listed : List Int64) : Approach → Nat → Prop where
  | start : Approach.Reaches size listed .start 0
  | past {place : Nat} {id : Int64} {page : UInt32}
      (last : (Table.block size place listed).getLast? = some id)
      (number : page.toNat = place + 2) : Approach.Reaches size listed (.past id page) (place + 1)
  | before {place : Nat} {id : Int64} {page : UInt32}
      (head : (Table.block size (place + 1) listed).head? = some id)
      (number : page.toNat = place + 2) : Approach.Reaches size listed (.before id page) place

/-- The page of a block. -/
def Page.ofBlock {ρ : Type} (first : Query) (row : Int64 → ρ) (listed : List Int64) (total : Int64)
    (place : Nat) : Page ρ where
  records := (Table.block first.size.toNat place listed).map row
  total := if listed.isEmpty then uncounted else total
  size := first.size
  demand := first.demand
  number := UInt32.ofNat (place + 1)
  prevCursor :=
    if place = 0 then none
    else (Table.block first.size.toNat place listed).head?.map fun id =>
      first.mark (Table.decimal id) (UInt32.ofNat (place + 1))
  nextCursor :=
    if (place + 1) * first.size.toNat < listed.length then
      (Table.block first.size.toNat place listed).getLast?.map fun id =>
        first.mark (Table.decimal id) (UInt32.ofNat (place + 2))
    else none

theorem Page.ofBlock_nil {ρ : Type} (first : Query) (row : Int64 → ρ) (total : Int64) :
    ofBlock first row [] total 0 = bare first uncounted := by
  simp [ofBlock, bare, ofParts, Table.block, pageOne]

namespace Approach.Reaches

variable {size place : Nat} {ids : List Int64} {ascending : Bool} {approach : Approach}

theorem positive {listed : List Int64} (reaches : approach.Reaches size listed place) :
    pageOne ≤ approach.page := by
  cases reaches with
  | start => exact UInt32.le_refl pageOne
  | past last number =>
      rw [Page.pageOne_le_iff, Approach.page, number]
      omega
  | before head number =>
      rw [Page.pageOne_le_iff, Approach.page, number]
      omega

/-- A block that is approached from the one after it is full. -/
theorem before_full {listed : List Int64} {id : Int64} {page : UInt32}
    (reaches : (Approach.before id page).Reaches size listed place) :
    (place + 1) * size < listed.length := by
  cases reaches with
  | before head number => exact Table.lt_of_mem_block (List.mem_of_head? head)

theorem shown_eq (distinct : ids.Nodup)
    (reaches : approach.Reaches size (Table.listing ids ascending) place) :
    approach.shown ascending ids size = Table.block size place (Table.listing ids ascending) := by
  have sorted := Table.listing_sorted distinct ascending
  cases reaches with
  | start => rw [Table.block_zero]; rfl
  | past last number =>
      rw [Approach.shown, Approach.candidates, Table.past_block sorted last]
      rfl
  | before head number =>
      rw [Approach.shown, Approach.candidates, Table.before_block sorted head]
      have inside := Table.lt_of_mem_block (List.mem_of_head? head)
      exact Table.reverse_take_reverse (Nat.le_of_lt inside)

/-- Approached from the front, a block is followed by nothing exactly if the batch reached the
end. -/
theorem ended_iff_ahead {policy : Policy} (ahead : policy.endTest = .lookAhead) {size : UInt32}
    (distinct : ids.Nodup) (few : ids.length < 4294967296) {first : Query}
    (forward : (approach.query first).heading ≠ .backward)
    (reaches : approach.Reaches size.toNat (Table.listing ids ascending) place) :
    approach.ended policy size ascending ids = true ↔
      ¬(place + 1) * size.toNat < (Table.listing ids ascending).length := by
  have sorted := Table.listing_sorted distinct ascending
  rw [Approach.ended_iff ahead few, Nat.succ_mul]
  cases reaches with
  | start =>
      rw [Approach.candidates]
      omega
  | past last number =>
      rw [Approach.candidates, Table.past_block sorted last, List.length_drop]
      omega
  | before head number => exact absurd rfl forward

theorem ended_iff_before {policy : Policy} (ahead : policy.endTest = .lookAhead) {size : UInt32}
    (sized : 0 < size) (distinct : ids.Nodup) (few : ids.length < 4294967296) {id : Int64}
    {page : UInt32}
    (reaches : (Approach.before id page).Reaches size.toNat (Table.listing ids ascending) place) :
    (Approach.before id page).ended policy size ascending ids = true ↔ place = 0 := by
  have sorted := Table.listing_sorted distinct ascending
  have full := reaches.before_full
  have positive : 0 < size.toNat := UInt32.lt_iff_toNat_lt.mp sized
  rw [Approach.ended_iff ahead few]
  cases reaches with
  | before head number =>
      rw [Approach.candidates, Table.before_block sorted head, List.length_reverse,
        List.length_take, Nat.min_eq_left (Nat.le_of_lt full), Nat.succ_mul]
      constructor
      · intro small
        have atStart : place * size.toNat = 0 := by omega
        exact (Nat.mul_eq_zero.mp atStart).resolve_right (Nat.ne_of_gt positive)
      · rintro rfl
        omega

theorem page_toNat {listed : List Int64} {first : Query}
    (forward : (approach.query first).heading ≠ .backward)
    (reaches : approach.Reaches size listed place) : approach.page.toNat = place + 1 := by
  cases reaches with
  | start => rfl
  | past last number => exact number
  | before head number => exact absurd rfl forward

theorem number_eq {listed : List Int64} (fits : place + 1 < 4294967296)
    (reaches : approach.Reaches size listed place) :
    approach.number = UInt32.ofNat (place + 1) := by
  apply UInt32.toNat.inj
  rw [UInt32.toNat_ofNat_of_lt' fits]
  cases reaches with
  | start => rfl
  | past last number => exact number
  | @before place id page head number =>
      have later : ¬page ≤ pageOne := by
        intro early
        have bound := UInt32.le_iff_toNat_le.mp early
        rw [number] at bound
        exact absurd bound (Nat.not_le.mpr (Nat.lt_add_left place Nat.one_lt_two))
      rw [Approach.number, Page.toNat_numberBefore later, number]
      rfl

theorem nextNumber_eq {listed : List Int64} (fits : place + 2 < 4294967296)
    (reaches : approach.Reaches size listed place) :
    approach.nextNumber = UInt32.ofNat (place + 2) := by
  apply UInt32.toNat.inj
  rw [UInt32.toNat_ofNat_of_lt' fits]
  cases reaches with
  | start => rfl
  | @past place id page last number =>
      have below : page ≠ 4294967295 := by
        rintro rfl
        change 4294967295 = place + 2 at number
        omega
      rw [Approach.nextNumber, Page.toNat_succ below, number]
  | before head number => exact number

section Cursors

variable {policy : Policy} {first : Query}

/-- Fewer than two to the thirty-second, less one, numbers make page numbers that fit. -/
theorem succ_place_lt (sized : 0 < first.size) {listed : List Int64}
    (few : listed.length < 4294967295) (more : (place + 1) * first.size.toNat < listed.length) :
    place + 2 < 4294967296 := by
  have positive : 0 < first.size.toNat := UInt32.lt_iff_toNat_lt.mp sized
  have bound := Nat.le_mul_of_pos_right (place + 1) positive
  omega

theorem place_lt (sized : 0 < first.size) {listed : List Int64}
    (few : listed.length < 4294967295)
    (inside : place = 0 ∨ place * first.size.toNat < listed.length) : place + 1 < 4294967296 := by
  have positive : 0 < first.size.toNat := UInt32.lt_iff_toNat_lt.mp sized
  have bound := Nat.le_mul_of_pos_right place positive
  omega

theorem fits (opens : first.Opens ascending) (ahead : policy.endTest = .lookAhead)
    (distinct : ids.Nodup) (few : ids.length < 4294967295)
    (reaches : approach.Reaches first.size.toNat (Table.listing ids ascending) place) :
    ¬Page.Overflows (approach.query first) (approach.ended policy first.size ascending ids)
      approach.page := by
  rintro ⟨forward, unended, greatest⟩
  have few' : (Table.listing ids ascending).length < 4294967295 := by
    rwa [Table.length_listing]
  have more := mt (reaches.ended_iff_ahead ahead distinct (by omega) forward).mpr
    (Bool.eq_false_iff.mp unended)
  have bound := succ_place_lt opens.sized few' (Classical.not_not.mp more)
  have number := reaches.page_toNat forward
  rw [greatest] at number
  change 4294967295 = place + 1 at number
  omega

theorem nextCursor_eq (opens : first.Opens ascending) (ahead : policy.endTest = .lookAhead)
    (distinct : ids.Nodup) (few : ids.length < 4294967295)
    (reaches : approach.Reaches first.size.toNat (Table.listing ids ascending) place)
    (head last : String) :
    (Page.neighbours (approach.query first) (approach.ended policy first.size ascending ids) head
        last approach.page).nextCursor =
      if (place + 1) * first.size.toNat < (Table.listing ids ascending).length then
        some (first.mark last (UInt32.ofNat (place + 2)))
      else none := by
  have few' : (Table.listing ids ascending).length < 4294967295 := by
    rwa [Table.length_listing]
  rw [Approach.nextCursor_neighbours opens.bare]
  by_cases more : (place + 1) * first.size.toNat < (Table.listing ids ascending).length
  · have goes : ¬((approach.query first).heading ≠ .backward ∧
        approach.ended policy first.size ascending ids = true) := fun stop =>
      (reaches.ended_iff_ahead ahead distinct (by omega) stop.1).mp stop.2 more
    rw [if_neg goes, if_pos more, reaches.nextNumber_eq (succ_place_lt opens.sized few' more)]
  · have forward : (approach.query first).heading ≠ .backward := by
      cases approach with
      | start => exact Approach.start_forward opens.bare
      | past id page => exact Approach.past_forward first id page
      | before id page => exact absurd reaches.before_full more
    rw [if_pos ⟨forward, (reaches.ended_iff_ahead ahead distinct (by omega) forward).mpr more⟩,
      if_neg more]

theorem prevCursor_eq (opens : first.Opens ascending) (ahead : policy.endTest = .lookAhead)
    (distinct : ids.Nodup) (few : ids.length < 4294967295) (small : place + 1 < 4294967296)
    (reaches : approach.Reaches first.size.toNat (Table.listing ids ascending) place)
    (head last : String) :
    (Page.neighbours (approach.query first) (approach.ended policy first.size ascending ids) head
        last approach.page).prevCursor =
      if place = 0 then none else some (first.mark head (UInt32.ofNat (place + 1))) := by
  have number := reaches.number_eq small
  rw [Approach.prevCursor_neighbours opens.bare, ← number]
  cases approach with
  | start =>
      cases reaches
      rfl
  | past id page =>
      cases reaches
      rfl
  | before id page =>
      have ended := reaches.ended_iff_before ahead opens.sized distinct (by omega)
      by_cases zero : place = 0
      · rw [if_pos zero, ended.mpr zero]
        rfl
      · have later : ¬(Approach.before id page).number ≤ pageOne := by
          rw [number, UInt32.le_iff_toNat_le, UInt32.toNat_ofNat_of_lt' small]
          change ¬place + 1 ≤ 1
          omega
        rw [if_neg zero, Bool.eq_false_iff.mpr (mt ended.mp zero), decide_eq_false later]
        rfl

theorem exists_ends {listed : List Int64} (inside : place * first.size.toNat < listed.length)
    (sized : 0 < first.size) :
    ∃ head last, (Table.block first.size.toNat place listed).head? = some head ∧
      (Table.block first.size.toNat place listed).getLast? = some last := by
  have positive : 0 < first.size.toNat := UInt32.lt_iff_toNat_lt.mp sized
  have nonempty : Table.block first.size.toNat place listed ≠ [] :=
    mt (Table.block_eq_nil_iff positive).mp (Nat.not_le.mpr inside)
  exact Table.exists_ends nonempty

/-- However a block is approached, the answer is the page of the block. -/
theorem answer_eq {ρ ε : Type} [CursorValued ρ] {source : Source Id ρ ε} {row : Int64 → ρ}
    (honours : Honours source row ids) (opens : first.Opens ascending)
    (ahead : policy.endTest = .lookAhead) (distinct : ids.Nodup) (few : ids.length < 4294967295)
    (reaches : approach.Reaches first.size.toNat (Table.listing ids ascending) place)
    (inside : place = 0 ∨ place * first.size.toNat < ids.length) {total : Option UInt64}
    (counted : Paging.countFor source (approach.query first) = .ok total) {carried : Int64}
    (carries : Page.carryTotal total = .ok carried) :
    Paging.answer policy source (approach.query first) =
      .ok (Page.ofBlock first row (Table.listing ids ascending) carried place) := by
  refine (Approach.answer_eq_ok_iff honours distinct opens reaches.positive).mpr
    ⟨total, counted, ?_⟩
  unfold Approach.Composed
  rw [reaches.shown_eq distinct]
  have length := Table.length_listing ids ascending
  by_cases emptyTable : Table.listing ids ascending = []
  · rw [emptyTable] at length ⊢
    have zero : place = 0 := by
      rcases inside with zero | inside
      · exact zero
      · rw [← length] at inside
        exact absurd inside (Nat.not_lt_zero _)
    exact Or.inl ⟨by rw [Table.block, List.drop_nil, List.take_nil], by rw [zero, Page.ofBlock_nil]⟩
  · have inside : place * first.size.toNat < (Table.listing ids ascending).length := by
      rcases inside with rfl | inside
      · rw [Nat.zero_mul]
        exact List.length_pos_iff.mpr emptyTable
      · rwa [length]
    have small := place_lt opens.sized (by omega) (Or.inr inside)
    obtain ⟨head, last, headed, lasts⟩ := exists_ends inside opens.sized
    refine Or.inr ⟨head, last, carried, headed, lasts, reaches.fits opens ahead distinct few,
      carries, ?_⟩
    have filled : (Table.listing ids ascending).isEmpty = false := by
      rwa [List.isEmpty_eq_false_iff]
    unfold Page.placed Page.ofBlock
    rw [Approach.number_neighbours opens.bare, reaches.number_eq small,
      reaches.nextCursor_eq opens ahead distinct few,
      reaches.prevCursor_eq opens ahead distinct few small, headed, lasts, Approach.size_query,
      Approach.demand_query, filled]
    rfl

end Cursors

end Approach.Reaches

/-- How many more moves lead forward than back. -/
def Neighbour.net (moves : List Neighbour) : Int :=
  moves.count .next - moves.count .prev

/-- How far a move leads forward. -/
def Neighbour.step : Neighbour → Int
  | .prev => -1
  | .next => 1

theorem Neighbour.net_cons (move : Neighbour) (moves : List Neighbour) :
    net (move :: moves) = net moves + move.step := by
  cases move with
  | prev =>
      simp [net, step]
      omega
  | next =>
      simp [net, step]
      omega

namespace Page

variable {ρ : Type} {first : Query} {row : Int64 → ρ} {listed : List Int64} {total : Int64}
  {place : Nat}

theorem following_ofBlock (sized : 0 < first.size) (few : listed.length < 4294967295)
    {approach : Approach} {next : Query}
    (leads : (ofBlock first row listed total place).following (approach.query first) = some next) :
    ∃ onward : Approach, next = onward.query first ∧
      onward.Reaches first.size.toNat listed (place + 1) ∧
      (place + 1) * first.size.toNat < listed.length := by
  obtain ⟨token, found, rfl⟩ := Option.map_eq_some_iff.mp leads
  change (if (place + 1) * first.size.toNat < listed.length then _ else none) = some token at found
  by_cases more : (place + 1) * first.size.toNat < listed.length
  · rw [if_pos more] at found
    obtain ⟨id, last, rfl⟩ := Option.map_eq_some_iff.mp found
    have small := Approach.Reaches.succ_place_lt sized few more
    rw [Approach.following_query]
    exact ⟨.past id (UInt32.ofNat (place + 2)), rfl,
      .past last (UInt32.toNat_ofNat_of_lt' small), more⟩
  · rw [if_neg more] at found
    cases found

theorem preceding_ofBlock (sized : 0 < first.size) (few : listed.length < 4294967295)
    {approach : Approach} {prev : Query}
    (leads : (ofBlock first row listed total place).preceding (approach.query first) = some prev) :
    ∃ earlier, place = earlier + 1 ∧ ∃ onward : Approach, prev = onward.query first ∧
      onward.Reaches first.size.toNat listed earlier ∧
      earlier * first.size.toNat < listed.length := by
  obtain ⟨token, found, rfl⟩ := Option.map_eq_some_iff.mp leads
  cases place with
  | zero => cases found
  | succ earlier =>
      change Option.map _ _ = some token at found
      obtain ⟨id, head, rfl⟩ := Option.map_eq_some_iff.mp found
      have inside := Table.lt_of_mem_block (List.mem_of_head? head)
      have small := Approach.Reaches.succ_place_lt sized few inside
      rw [Approach.preceding_query]
      refine ⟨earlier, rfl, .before id (UInt32.ofNat (earlier + 1 + 1)), rfl,
        .before head (UInt32.toNat_ofNat_of_lt' small), ?_⟩
      exact Nat.lt_of_le_of_lt (Nat.mul_le_mul_right _ (Nat.le_succ earlier)) inside

/-- Every cursor on the page of a block leads to a block of the listing. -/
theorem exists_reaches_of_beside (sized : 0 < first.size) (few : listed.length < 4294967295)
    {approach : Approach} {next : Query} {move : Neighbour}
    (leads : (ofBlock first row listed total place).beside (approach.query first) move =
      some next) :
    ∃ (onward : Approach) (target : Nat), next = onward.query first ∧
      onward.Reaches first.size.toNat listed target ∧ target * first.size.toNat < listed.length ∧
      (target : Int) = place + move.step := by
  cases move with
  | prev =>
      obtain ⟨earlier, rfl, onward, rfl, reaches, inside⟩ := preceding_ofBlock sized few leads
      refine ⟨onward, earlier, rfl, reaches, inside, ?_⟩
      change (earlier : Int) = (earlier + 1 : Nat) + -1
      omega
  | next =>
      obtain ⟨onward, rfl, reaches, inside⟩ := following_ofBlock sized few leads
      exact ⟨onward, place + 1, rfl, reaches, inside, rfl⟩

theorem hasPrev_ofBlock (sized : 0 < first.size)
    (inside : place = 0 ∨ place * first.size.toNat < listed.length) :
    (ofBlock first row listed total place).hasPrev = true ↔ 0 < place := by
  change (if place = 0 then none else _).isSome = true ↔ 0 < place
  rcases inside with rfl | inside
  · simp
  · obtain ⟨head, last, headed, -⟩ := Approach.Reaches.exists_ends inside sized
    rw [headed]
    by_cases zero : place = 0
    · simp [zero]
    · simp [zero, Nat.pos_of_ne_zero zero]

theorem hasNext_ofBlock (sized : 0 < first.size) :
    (ofBlock first row listed total place).hasNext = true ↔
      (place + 1) * first.size.toNat < listed.length := by
  change (if (place + 1) * first.size.toNat < listed.length then _ else none).isSome = true ↔ _
  by_cases more : (place + 1) * first.size.toNat < listed.length
  · have inside := Nat.lt_of_le_of_lt (Nat.mul_le_mul_right _ (Nat.le_succ place)) more
    obtain ⟨head, last, -, lasts⟩ := Approach.Reaches.exists_ends inside sized
    rw [if_pos more, lasts]
    exact iff_of_true rfl more
  · rw [if_neg more]
    exact iff_of_false Bool.false_ne_true more

end Page

theorem Paging.countFor_query {ρ ε : Type} {source : Source Id ρ ε} {first : Query}
    {total : Option UInt64} (counts : ∀ query, source.count query = .ok total) (approach : Approach) :
    countFor source (approach.query first) =
      .ok (if first.demand.wantsTotal then total else none) := by
  rw [countFor, Approach.demand_query, counts]
  cases first.demand.wantsTotal <;> rfl

theorem Page.exists_carryTotal {total : Option UInt64}
    (fits : ∀ count, total = some count → count.toNat < 9223372036854775808) (wanted : Bool) :
    ∃ carried, carryTotal (if wanted then total else none) = .ok carried := by
  cases wanted with
  | false => exact ⟨uncounted, rfl⟩
  | true =>
      cases total with
      | none => exact ⟨uncounted, rfl⟩
      | some count => exact ⟨count.toInt64, if_pos (fits count rfl)⟩

section Exact

variable {ρ ε : Type} [CursorValued ρ] {policy : Policy} {source : Source Id ρ ε}
  {row : Int64 → ρ} {ids : List Int64} {first : Query} {ascending : Bool} {carried : Int64}

/-- After any moves the page is the one of the block that the moves lead to. -/
theorem Walk.exists_block (sized : 0 < first.size)
    (few : (Table.listing ids ascending).length < 4294967295)
    (answered : ∀ {approach : Approach} {place : Nat},
      approach.Reaches first.size.toNat (Table.listing ids ascending) place →
      place = 0 ∨ place * first.size.toNat < (Table.listing ids ascending).length →
      Paging.answer policy source (approach.query first) =
        .ok (Page.ofBlock first row (Table.listing ids ascending) carried place))
    {moves : List Neighbour} {pages : List (Page ρ)} {page : Page ρ} {query : Query}
    (walk : Walk (fun _ => Paging.answer policy source) first moves (page :: pages) query) :
    ∃ (approach : Approach) (place : Nat), query = approach.query first ∧
      Neighbour.net moves = place ∧
      page = Page.ofBlock first row (Table.listing ids ascending) carried place ∧
      (place = 0 ∨ place * first.size.toNat < (Table.listing ids ascending).length) := by
  induction walk using Walk.stepwise with
  | @first page served =>
      have own := answered .start (Or.inl rfl)
      change Paging.answer policy source (Approach.start.query first) = .ok page at served
      rw [served] at own
      exact ⟨.start, 0, rfl, rfl, Except.ok.inj own, Or.inl rfl⟩
  | @turn moves pages page latest query next move walk leads served ih =>
      obtain ⟨approach, place, rfl, net, rfl, -⟩ := ih
      obtain ⟨onward, target, rfl, reaches, inside, moved⟩ :=
        Page.exists_reaches_of_beside sized few leads
      have own := answered reaches (Or.inr inside)
      change Paging.answer policy source (onward.query first) = .ok latest at served
      rw [served] at own
      refine ⟨onward, target, rfl, ?_, Except.ok.inj own, Or.inr inside⟩
      rw [Neighbour.net_cons, net, moved]

/-- What holds of all walks from a query over one table: every cursor leads to a page, and the page
depends on nothing but how many more moves led forward than back. -/
structure ExactWalks (answer : Query → Except (Failure ε) (Page ρ)) (first : Query)
    (row : Int64 → ρ) (listed : List Int64) (pages : Nat → Page ρ) : Prop where
  begins : answer first = .ok (pages 0)
  continues : ∀ {moves : List Neighbour} {seen : List (Page ρ)} {page : Page ρ}
    {query next : Query} {move : Neighbour},
    Walk (fun _ => answer) first moves (page :: seen) query → page.beside query move = some next →
      ∃ later, answer next = .ok later
  visits : ∀ {moves : List Neighbour} {seen : List (Page ρ)} {page : Page ρ} {query : Query},
    Walk (fun _ => answer) first moves (page :: seen) query →
      ∃ place : Nat, Neighbour.net moves = place ∧ page = pages place ∧
        page.records = (Table.block first.size.toNat place listed).map row ∧
        page.number.toNat = place + 1 ∧ (page.hasPrev = true ↔ 0 < place) ∧
        (page.hasNext = true ↔ (place + 1) * first.size.toNat < listed.length)

/-- Navigation over one table is exact. -/
theorem exists_exactWalks {settings : Settings} (reachable : first.Reachable settings)
    (bare : first.heading = .first) (rows : first.demand.wantsRows = true)
    (ahead : policy.endTest = .lookAhead) (honours : Honours source row ids)
    (distinct : ids.Nodup) (few : ids.length < 4294967295) {total : Option UInt64}
    (counts : ∀ query, source.count query = .ok total)
    (fits : ∀ count, total = some count → count.toNat < 9223372036854775808) :
    ∃ ascending, first.ascending = .ok ascending ∧ ∃ pages,
      ExactWalks (Paging.answer policy source) first row (Table.listing ids ascending) pages := by
  obtain ⟨ascending, opens⟩ := reachable.exists_opens bare rows
  obtain ⟨carried, carries⟩ := Page.exists_carryTotal fits first.demand.wantsTotal
  have length := Table.length_listing ids ascending
  have few' : (Table.listing ids ascending).length < 4294967295 := by rwa [length]
  have answered : ∀ {approach : Approach} {place : Nat},
      approach.Reaches first.size.toNat (Table.listing ids ascending) place →
      place = 0 ∨ place * first.size.toNat < (Table.listing ids ascending).length →
      Paging.answer policy source (approach.query first) =
        .ok (Page.ofBlock first row (Table.listing ids ascending) carried place) := by
    intro approach place reaches inside
    rw [length] at inside
    exact reaches.answer_eq honours opens ahead distinct few inside
      (Paging.countFor_query counts approach) carries
  refine ⟨ascending, opens.ascends,
    Page.ofBlock first row (Table.listing ids ascending) carried, ?_, ?_, ?_⟩
  · exact answered .start (Or.inl rfl)
  · intro moves seen page query next move walk leads
    obtain ⟨approach, place, rfl, -, rfl, -⟩ := walk.exists_block opens.sized few' answered
    obtain ⟨onward, target, rfl, reaches, inside, -⟩ :=
      Page.exists_reaches_of_beside opens.sized few' leads
    exact ⟨_, answered reaches (Or.inr inside)⟩
  · intro moves seen page query walk
    obtain ⟨approach, place, rfl, net, rfl, inside⟩ := walk.exists_block opens.sized few' answered
    refine ⟨place, net, rfl, rfl, ?_, Page.hasPrev_ofBlock opens.sized inside,
      Page.hasNext_ofBlock opens.sized⟩
    exact UInt32.toNat_ofNat_of_lt' (Approach.Reaches.place_lt opens.sized few' inside)

end Exact

/-- Five numbers in pages of two, the last of them not full. -/
theorem exists_exactWalks_of_five_rows :
    (Query.latest 2 []).Reachable .standard ∧ (Query.latest 2 []).heading = .first ∧
      (Query.latest 2 []).demand.wantsRows = true ∧ Policy.standard.endTest = .lookAhead ∧
      Honours (Table.ofIds [3, -7, 12, 0, 5]).source Table.row [3, -7, 12, 0, 5] ∧
      [(3 : Int64), -7, 12, 0, 5].Nodup ∧ [(3 : Int64), -7, 12, 0, 5].length < 4294967295 ∧
      (∀ query, (Table.ofIds [3, -7, 12, 0, 5]).source.count query = .ok (some 5)) ∧
      (∀ count, some (5 : UInt64) = some count → count.toNat < 9223372036854775808) ∧
      ∃ ascending, (Query.latest 2 []).ascending = .ok ascending ∧ ∃ pages,
        ExactWalks (Paging.answer .standard (Table.ofIds [3, -7, 12, 0, 5]).source)
          (Query.latest 2 []) Table.row (Table.listing [3, -7, 12, 0, 5] ascending) pages := by
  have reachable := Query.latest_reachable 2 (by decide) (by decide) []
  have honours : Honours (Table.ofIds [3, -7, 12, 0, 5]).source Table.row [3, -7, 12, 0, 5] :=
    Table.honours rfl rfl
  have distinct : [(3 : Int64), -7, 12, 0, 5].Nodup := by decide
  have few : [(3 : Int64), -7, 12, 0, 5].length < 4294967295 := by decide
  have counts : ∀ query, (Table.ofIds [3, -7, 12, 0, 5]).source.count query = .ok (some 5) :=
    fun _ => rfl
  have fits : ∀ count, some (5 : UInt64) = some count → count.toNat < 9223372036854775808 := by
    rintro count ⟨⟩
    decide
  exact ⟨reachable, rfl, rfl, rfl, honours, distinct, few, counts, fits,
    exists_exactWalks reachable rfl rfl rfl honours distinct few counts fits⟩

end KeysetPaging
