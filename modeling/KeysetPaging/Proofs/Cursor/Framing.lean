import KeysetPaging.Proofs.Cursor.Token
import KeysetPaging.Proofs.Query.Reachable
import KeysetPaging.Proofs.Query.Shape

/-!
# Where the signed text can be cut

A signature is made of a shape, a hash sign and a payload, and neither escapes hash signs. So one
signed text may be cut in two ways, and then a signature that was made for one query and position is
accepted with another query and position. This is so exactly if one shape goes on behind a hash sign
where the other ends and the other value starts with what it goes on with. The hash sign then stands
in a text that the filter of the query with the longer shape adds: where no filter text holds one,
only digests that collide can be moved.
-/

namespace KeysetPaging

namespace Position

theorem payload_inj {left right : Position} (same : left.payload = right.payload) :
    left = right := by
  have free : ∀ position : Position, '@' ∉ Nat.toDigits 10 position.page.toNat := by
    intro position member
    exact absurd (Text.Numeral.isDigit_of_mem_toDigits member) (by decide)
  have cut := Text.splitLast?_append (free left) left.value.toList
  rw [← toList_payload, same, toList_payload, Text.splitLast?_append (free right)] at cut
  obtain ⟨value, page⟩ := Prod.mk.inj (Option.some.inj cut)
  cases left with
  | mk value page =>
      cases right with
      | mk other number =>
          rw [mk.injEq]
          exact ⟨String.toList_inj.mp value.symm,
            UInt32.toNat.inj (Text.Numeral.toDigits_inj page.symm)⟩

theorem payload_append (gap value : String) (page : UInt32) :
    payload ⟨gap ++ "#" ++ value, page⟩ = gap ++ "#" ++ payload ⟨value, page⟩ := by
  simp only [payload, String.append_assoc]

end Position

/-- One signed text cut in two ways: the longer shape goes on behind a hash sign where the shorter
one ends, and the value of the longer position starts with what it goes on with. -/
def Slides (longer : String) (short : Position) (shorter : String) (long : Position) : Prop :=
  ∃ gap, longer = shorter ++ "#" ++ gap ∧ long.value = gap ++ "#" ++ short.value ∧
    long.page = short.page

theorem toList_behind_hash (before after : String) :
    (before ++ "#" ++ after).toList = before.toList ++ '#' :: after.toList := by
  simp

theorem slides_iff {longer shorter : String} {short long : Position} :
    Slides longer short shorter long ↔
      ∃ middle, longer.toList = shorter.toList ++ '#' :: middle ∧
        long.payload.toList = middle ++ '#' :: short.payload.toList := by
  constructor
  · rintro ⟨gap, shapes, value, page⟩
    refine ⟨gap.toList, by rw [shapes, toList_behind_hash], ?_⟩
    have same : long = ⟨gap ++ "#" ++ short.value, short.page⟩ := by rw [← value, ← page]
    rw [same, Position.payload_append, toList_behind_hash]
  · rintro ⟨middle, shapes, payloads⟩
    have same : long = ⟨String.ofList middle ++ "#" ++ short.value, short.page⟩ := by
      refine Position.payload_inj (String.toList_inj.mp ?_)
      rw [Position.payload_append, toList_behind_hash, String.toList_ofList, payloads]
    refine ⟨String.ofList middle, String.toList_inj.mp ?_, by rw [same], by rw [same]⟩
    rw [toList_behind_hash, String.toList_ofList, shapes]

theorem signedText_eq_iff {shape shape' : String} {position position' : Position} :
    signedText shape position.payload = signedText shape' position'.payload ↔
      (shape = shape' ∧ position = position') ∨ Slides shape position shape' position' ∨
        Slides shape' position' shape position := by
  rw [← String.toList_inj, signedText, signedText, toList_behind_hash, toList_behind_hash,
    Text.append_separator_eq_iff, slides_iff, slides_iff, String.toList_inj, String.toList_inj]
  refine or_congr_left (and_congr_right fun _ => ⟨Position.payload_inj, ?_⟩)
  rintro rfl
  rfl

/-- When one signature stands for two shapes and positions. -/
theorem sign_eq_iff {shape shape' : String} {position position' : Position} :
    sign shape position.payload = sign shape' position'.payload ↔
      (shape = shape' ∧ position = position') ∨ Slides shape position shape' position' ∨
        Slides shape' position' shape position ∨
        Collide (signedText shape position.payload) (signedText shape' position'.payload) := by
  rw [sign_eq_sign_iff]
  constructor
  · intro same
    by_cases texts : signedText shape position.payload = signedText shape' position'.payload
    · rcases signedText_eq_iff.mp texts with same | slides | slides
      · exact Or.inl same
      · exact Or.inr (Or.inl slides)
      · exact Or.inr (Or.inr (Or.inl slides))
    · exact Or.inr (Or.inr (Or.inr ⟨texts, same⟩))
  · rintro (same | slides | slides | collide)
    · rw [signedText_eq_iff.mpr (Or.inl same)]
    · rw [signedText_eq_iff.mpr (Or.inr (Or.inl slides))]
    · rw [signedText_eq_iff.mpr (Or.inr (Or.inr slides))]
    · exact collide.digest_eq

namespace Query

theorem hash_not_mem_directions (directions : List Direction) :
    '#' ∉ Text.join ',' (directions.map fun direction => direction.label.toList) := by
  intro member
  rcases Text.mem_join member with comma | ⟨text, inside, member⟩
  · exact absurd comma (by decide)
  · obtain ⟨direction, _, rfl⟩ := List.mem_map.mp inside
    cases direction <;> exact absurd member (by decide)

/-- Of the entries that are not the filter's only the one for the order's fields can hold a hash
sign. -/
theorem name_of_hash_mem {query : Query} {entry : Shape.Entry}
    (own : entry ∈ (Shape.Fields.empty.addAll query.ownEntries).entries) (hash : '#' ∈ entry.text) :
    entry.name = Shape.escape "order_fields".toList := by
  rcases Shape.Fields.mem_entries_addAll own with inEmpty | ⟨named, member, written, name⟩
  · cases inEmpty
  · simp only [ownEntries, List.mem_cons, List.not_mem_nil, or_false] at member
    rcases member with rfl | rfl | rfl | rfl
    · simp only [Shape.Value.text?, Text.Numeral.integerText, Option.some_inj] at written
      rw [if_neg (by omega)] at written
      rw [← written] at hash
      exact absurd (Text.Numeral.isDigit_of_mem_toDigits hash) (by decide)
    · simp only [Shape.Value.text?, Option.some_inj] at written
      rw [← written] at hash
      cases demand : query.demand <;> rw [demand] at hash <;> exact absurd hash (by decide)
    · exact name
    · simp only [Shape.Value.text?, Shape.Value.texts_eq_map, List.map_map, Function.comp_def,
        Option.getD_some, Option.some_inj] at written
      rw [← written] at hash
      exact absurd hash (hash_not_mem_directions query.order.directions)

theorem demand_mem_entries (query : Query) :
    ⟨Shape.escape "query_type".toList, query.demand.label.toList⟩ ∈ query.fields.entries := by
  apply Shape.Fields.mem_entries_of_mem_textsOf
  rw [textsOf_fields, textsOf_demand]
  exact List.mem_append_left _ (List.mem_singleton_self _)

/-- The entry for the order's fields is never the last, for the one for the demand comes later. -/
theorem name_of_last_ne {query : Query} {front : List Shape.Entry} {last : Shape.Entry}
    (split : query.fields.sorted = front ++ [last]) :
    last.name ≠ Shape.escape "order_fields".toList := by
  intro name
  have later := Shape.Fields.mem_sorted.mpr query.demand_mem_entries
  have sorted : Sorting.Sorted _ query.fields.sorted :=
    Sorting.sort_sorted Shape.Fields.isOrder_names query.fields.entries
  rw [split] at later sorted
  rcases List.mem_append.mp later with inside | alone
  · have behind := (List.pairwise_append.mp sorted).2.2 _ inside last (List.mem_singleton_self last)
    dsimp only at behind
    rw [name] at behind
    exact absurd behind (by decide)
  · have same : Shape.escape "query_type".toList = last.name :=
      congrArg Shape.Entry.name (List.mem_singleton.mp alone)
    rw [name] at same
    exact absurd same (by decide)

/-- If the shape of a query goes on behind a hash sign where another shape ends, the hash sign is in
a text that the filter adds. -/
theorem exists_hash_in_filter {longer shorter : Query} {gap : String}
    (continues : longer.shape = shorter.shape ++ "#" ++ gap) :
    ∃ named ∈ longer.filter, ∃ text, named.2.text? = some text ∧ '#' ∈ text := by
  have lists : longer.fields.text = shorter.fields.text ++ '#' :: gap.toList := by
    have chars := congrArg String.toList continues
    rwa [toList_behind_hash, shape, shape, String.toList_ofList, String.toList_ofList] at chars
  have nonempty : shorter.fields.entries ≠ [] := List.ne_nil_of_mem shorter.demand_mem_entries
  obtain ⟨entry, member, front, last, more, split, name, text⟩ :=
    Shape.Fields.exists_entry_of_text_continues longer.escaped_fields shorter.escaped_fields
      nonempty lists
  have hash : '#' ∈ entry.text := by
    rw [text]
    exact List.mem_append_right _ List.mem_cons_self
  rw [fields_eq_addAll] at member
  rcases Shape.Fields.mem_entries_addAll member with own | ⟨named, inside, written, _⟩
  · exact absurd (name.symm.trans (name_of_hash_mem own hash)) (name_of_last_ne split)
  · exact ⟨named, inside, entry.text, written, hash⟩

/-- A signature that the maker's tokens for a position carry is accepted with another query and
position exactly if shape and position are the same, or one shape goes on behind a hash sign where
the other ends, with the values to match, or the digests collide. The second does not happen to
queries whose filters add no text with a hash sign. -/
theorem accepts_moved_signature_iff (maker query : Query) (made moved : Position) :
    ((SignedPayload.mk (sign maker.shape made.payload) moved.payload).isSignedFor query.shape = true ↔
      (maker.shape = query.shape ∧ made = moved) ∨
        Slides maker.shape made query.shape moved ∨ Slides query.shape moved maker.shape made ∨
        Collide (signedText maker.shape made.payload) (signedText query.shape moved.payload)) ∧
      (Slides maker.shape made query.shape moved →
        ∃ named ∈ maker.filter, ∃ text, named.2.text? = some text ∧ '#' ∈ text) ∧
      (Slides query.shape moved maker.shape made →
        ∃ named ∈ query.filter, ∃ text, named.2.text? = some text ∧ '#' ∈ text) := by
  refine ⟨?_, ?_, ?_⟩
  · rw [SignedPayload.isSignedFor_iff, eq_comm, sign_eq_iff]
  · rintro ⟨gap, continues, _, _⟩
    exact exists_hash_in_filter continues
  · rintro ⟨gap, continues, _, _⟩
    exact exists_hash_in_filter continues

/-- The text of a filter and the value of a row, of which one lets its hash sign go to the other. -/
theorem accepts_signature_moved_over_hash :
    (latest 2 [("tag", .text "a#b")]).Reachable .standard ∧
      (latest 2 [("tag", .text "a")]).Reachable .standard ∧
      (latest 2 [("tag", .text "a#b")]).shape ≠ (latest 2 [("tag", .text "a")]).shape ∧
      signedText (latest 2 [("tag", .text "a#b")]).shape (Position.mk "c" 1).payload =
        signedText (latest 2 [("tag", .text "a")]).shape (Position.mk "b#c" 1).payload ∧
      (latest 2 [("tag", .text "a")]).resolve
          (SignedPayload.mk (sign (latest 2 [("tag", .text "a#b")]).shape (Position.mk "c" 1).payload)
            (Position.mk "b#c" 1).payload).token =
        ⟨.ok ⟨"b#c", 1⟩, [.verified]⟩ := by
  have slides : Slides (latest 2 [("tag", .text "a#b")]).shape ⟨"c", 1⟩
      (latest 2 [("tag", .text "a")]).shape ⟨"b#c", 1⟩ := ⟨"b", by decide, by decide, rfl⟩
  have accepted := (accepts_moved_signature_iff (latest 2 [("tag", .text "a#b")])
    (latest 2 [("tag", .text "a")]) ⟨"c", 1⟩ ⟨"b#c", 1⟩).1.mpr (Or.inr (Or.inl slides))
  refine ⟨latest_reachable 2 (by decide) (by decide) _, latest_reachable 2 (by decide) (by decide) _,
    by decide, signedText_eq_iff.mpr (Or.inr (Or.inl slides)), ?_⟩
  refine resolve_of_signed ((SignedPayload.isSignedFor_iff _ _ _).mp accepted) (by decide) ?_
  rw [SignedPayload.utf8ByteSize_token, utf8ByteSize_sign]
  decide

end Query

end KeysetPaging
