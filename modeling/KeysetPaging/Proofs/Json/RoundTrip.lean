import KeysetPaging.Proofs.Json.Documents
import Mathlib.Data.List.Nodup

/-!
# JSON forms read back

The JSON form of a value is a plain document, and reading the form as a value of the same type gives the
value again: a record finds each of its fields by its name, a choice is found by its label, and a number
fits the machine word that it came from. So what is written is read back, and it is written again as it
was.
-/

namespace KeysetPaging

open JsonForm

namespace Json

/-- Items that are all read give the list of what each is read as. -/
theorem mapM_eq_some {α β : Type} {read : α → Option β} {meaning : α → β} {items : List α}
    (each : ∀ item ∈ items, read item = some (meaning item)) :
    items.mapM read = some (items.map meaning) := by
  induction items with
  | nil => rfl
  | cons item rest ih =>
      rw [List.forall_mem_cons] at each
      rw [List.mapM_cons, each.1, ih each.2]
      rfl

theorem mapM_map_of_reads {α β : Type} {write : α → β} {read : β → Option α}
    (reads : ∀ item, read (write item) = some item) (items : List α) :
    (items.map write).mapM read = some items := by
  have each : ∀ item ∈ items, (read ∘ write) item = some (id item) := fun item _ => reads item
  rw [List.mapM_map, mapM_eq_some each, List.map_id]

namespace Schema

variable {members : List (String × Json)}

/-- Of members with different names each is found by its name. -/
theorem member?_of_mem (distinct : (members.map Prod.fst).Nodup) {member : String × Json}
    (inside : member ∈ members) : member? members member.1 = some (some member.2) := by
  have found : (members.filter fun other => other.1 == member.1) = [member] := by
    induction members with
    | nil => cases inside
    | cons head rest ih =>
        rw [List.map_cons, List.nodup_cons] at distinct
        rw [List.filter_cons]
        rcases List.mem_cons.mp inside with rfl | inside
        · have others : (rest.filter fun other => other.1 == member.1) = [] := by
            rw [List.filter_eq_nil_iff]
            intro other found same
            exact distinct.1 (beq_iff_eq.mp same ▸ List.mem_map_of_mem found)
          rw [if_pos (beq_self_eq_true member.1), others]
        · have apart : ¬(head.1 == member.1) = true := fun same =>
            distinct.1 (beq_iff_eq.mp same ▸ List.mem_map_of_mem inside)
          rw [if_neg apart, ih distinct.2 inside]
  rw [member?, found]

/-- A record that names the fields of a schema in their order has them all. -/
theorem fields?_record {schema : Schema} (distinct : schema.names.Nodup)
    (named : members.map Prod.fst = schema.names) :
    schema.fields? (record members) = some (members.map fun member => some member.2) := by
  have spelled : (members.map fun member => (letters member.1, member.2)).mapM
      (fun member => (spelled? member.1).map fun name => (name, member.2)) = some members := by
    refine mapM_map_of_reads (fun member => ?_) members
    rw [spelled?_letters, Option.map_some]
  have known : (members.any fun member => !schema.names.contains member.1) = false := by
    rw [List.any_eq_false]
    intro member inside
    have name : member.1 ∈ schema.names := named ▸ List.mem_map_of_mem inside
    simp [name]
  have collected : schema.names.mapM (member? members) =
      some (members.map fun member => some member.2) := by
    rw [← named, List.mapM_map]
    exact mapM_eq_some fun member inside => member?_of_mem (named.symm ▸ distinct) inside
  rw [record, fields?, spelled, Option.bind_eq_bind, Option.bind_some, known, Bool.and_false]
  exact collected

end Schema

/-- A choice is found by its label if no two choices share one. -/
theorem choice?_ofString {α : Type} {all : List α} {label : α → String}
    (distinct : (all.map label).Nodup) {choice : α} (inside : choice ∈ all) :
    choice? all label (.ofString (label choice)) = some choice := by
  have labelled : (all.find? fun other => label other == label choice).isSome = true :=
    List.find?_isSome.mpr ⟨choice, inside, beq_self_eq_true (label choice)⟩
  obtain ⟨found, search⟩ := Option.isSome_iff_exists.mp labelled
  have same : label found = label choice := beq_iff_eq.mp (List.find?_some search :)
  have member := List.mem_of_find?_eq_some search
  rw [ofString, choice?, labelled?, spelled?_letters, Option.bind_some, search,
    List.inj_on_of_nodup_map distinct member inside same]

theorem string?_ofString (text : String) : (ofString text).string? = some text :=
  spelled?_letters text

theorem optionalString?_ofOption (text : Option String) :
    (ofOption text).optionalString? = some text := by
  cases text with
  | none => rfl
  | some text =>
      rw [ofOption, optionalString?, string?_ofString, Option.map_some]
      exact nofun

theorem word32?_ofInt (word : UInt32) : (ofInt word.toNat).word32? = some word := by
  rw [word32?, ofInt, integer?, Option.bind_some, Text.Numeral.word32?_toNat]

theorem word64?_ofInt (word : UInt64) : (ofInt word.toNat).word64? = some word := by
  rw [word64?, ofInt, integer?, Option.bind_some, Text.Numeral.word64?_toNat]

theorem signed64?_ofInt (word : Int64) : (ofInt word.toInt).signed64? = some word := by
  rw [signed64?, ofInt, integer?, Option.bind_some, Text.Numeral.signed64?_toInt]

theorem plain_ofOption (text : Option String) : Plain (ofOption text) := by
  cases text with
  | none => exact .null
  | some text => exact .text text

theorem plain_map {α : Type} {write : α → Json} (plain : ∀ item, Plain (write item))
    (items : List α) : Plain (.array (items.map write)) := by
  refine .array fun json inside => ?_
  obtain ⟨item, -, rfl⟩ := List.mem_map.mp inside
  exact plain item

end Json

/-- A type whose JSON form is a plain document that is read as the value it was made from. -/
class LawfulJsonForm (α : Type) [JsonForm α] : Prop where
  plain : ∀ value : α, (toJson value).Plain
  ofJson?_toJson : ∀ value : α, ofJson? (toJson value) = some value

namespace LawfulJsonForm

instance : LawfulJsonForm EndTest where
  plain endTest := .text endTest.label
  ofJson?_toJson endTest := Json.choice?_ofString (by decide) (by cases endTest <;> decide)

instance : LawfulJsonForm Demand where
  plain demand := .text demand.label
  ofJson?_toJson demand := Json.choice?_ofString (by decide) (by cases demand <;> decide)

instance : LawfulJsonForm Direction where
  plain direction := .text direction.label
  ofJson?_toJson direction := Json.choice?_ofString (by decide) (by cases direction <;> decide)

theorem termOfJson?_termToJson (term : SortTerm) :
    SortOrder.termOfJson? (SortOrder.termToJson term) = some term := by
  rw [SortOrder.termToJson, SortOrder.termOfJson?, Json.string?_ofString, ofJson?_toJson]
  rfl

theorem plain_termToJson (term : SortTerm) : (SortOrder.termToJson term).Plain := by
  refine .array ?_
  simp only [List.forall_mem_cons]
  exact ⟨.text term.field, plain term.direction, nofun⟩

instance : LawfulJsonForm SortOrder where
  plain order := by
    refine .record ?_
    simp only [List.forall_mem_cons]
    exact ⟨Json.plain_map plain_termToJson order.terms, nofun⟩
  ofJson?_toJson order := by
    have fields : SortOrder.schema.fields? (toJson order) =
        some [some (.array (order.terms.map SortOrder.termToJson))] :=
      Json.Schema.fields?_record (by decide) rfl
    simp only [ofJson?, fields, Json.array?, Option.bind_eq_bind, Option.bind_some, Option.pure_def,
      Json.mapM_map_of_reads termOfJson?_termToJson]

instance : LawfulJsonForm Position where
  plain position := by
    refine .record ?_
    simp only [List.forall_mem_cons]
    exact ⟨.text position.value, .integer position.page.toNat, nofun⟩
  ofJson?_toJson position := by
    have fields : Position.schema.fields? (toJson position) =
        some [some (.ofString position.value), some (.ofInt position.page.toNat)] :=
      Json.Schema.fields?_record (by decide) rfl
    simp only [ofJson?, fields, Option.bind_eq_bind, Option.bind_some, Option.pure_def,
      Json.string?_ofString, Json.word32?_ofInt]

instance : LawfulJsonForm Settings where
  plain settings := by
    refine .record ?_
    simp only [List.forall_mem_cons]
    exact ⟨.integer settings.maximumSize.toNat, .integer settings.usualSize.toNat,
      .text settings.cursorField, Json.plain_map .text settings.orderFields, plain settings.endTest,
      nofun⟩
  ofJson?_toJson settings := by
    -- The two numbers stay unknown here, so that nothing computes whether they fit.
    obtain ⟨first, second, fields, maximumSize, usualSize⟩ : ∃ first second,
        Settings.schema.fields? (toJson settings) =
          some [some first, some second, some (.ofString settings.cursorField),
            some (.array (settings.orderFields.map .ofString)), some (toJson settings.endTest)] ∧
        first.word32? = some settings.maximumSize ∧ second.word32? = some settings.usualSize :=
      ⟨_, _, Json.Schema.fields?_record (by decide) rfl, Json.word32?_ofInt settings.maximumSize,
        Json.word32?_ofInt settings.usualSize⟩
    have orderFields : Settings.stringsOfJson? (.array (settings.orderFields.map .ofString)) =
        some settings.orderFields :=
      Json.mapM_map_of_reads Json.string?_ofString settings.orderFields
    have endTest := ofJson?_toJson settings.endTest
    simp only [ofJson?] at endTest
    simp only [ofJson?, fields, Settings.fieldOr, maximumSize, usualSize, orderFields, endTest,
      Json.string?_ofString, Option.bind_eq_bind, Option.bind_some, Option.pure_def]

instance : LawfulJsonForm Tally where
  plain tally := by
    refine .record fun member inside => ?_
    obtain ⟨count, -, same⟩ := List.mem_map.mp (List.of_mem_zip inside).2
    exact same ▸ .integer count.toNat
  ofJson?_toJson tally := by
    have counts : (tally.counts.map fun count => some (Json.ofInt count.toNat)).mapM
        (fun field => field.bind Json.word64?) = some tally.counts := by
      refine Json.mapM_map_of_reads (fun count => ?_) tally.counts
      rw [Option.bind_some, Json.word64?_ofInt]
    obtain ⟨found, fields, counts⟩ : ∃ found, Tally.schema.fields? (toJson tally) = some found ∧
        found.mapM (fun field => field.bind Json.word64?) = some tally.counts :=
      ⟨_, Json.Schema.fields?_record (by decide) rfl, counts⟩
    simp only [ofJson?, fields, counts, Option.bind_eq_bind, Option.bind_some]
    rfl

instance : LawfulJsonForm (Page (Option String)) where
  plain page := by
    refine .record ?_
    simp only [List.forall_mem_cons]
    exact ⟨Json.plain_map Json.plain_ofOption page.records, .integer page.total.toInt,
      .integer page.size.toNat, plain page.demand, .integer page.number.toNat,
      Json.plain_ofOption page.prevCursor, Json.plain_ofOption page.nextCursor, nofun⟩
  ofJson?_toJson page := by
    have fields : Page.schema.fields? (toJson page) =
        some [some (.array (page.records.map .ofOption)), some (.ofInt page.total.toInt),
          some (.ofInt page.size.toNat), some (toJson page.demand), some (.ofInt page.number.toNat),
          some (.ofOption page.prevCursor), some (.ofOption page.nextCursor)] :=
      Json.Schema.fields?_record (by decide) rfl
    have demand := ofJson?_toJson page.demand
    simp only [ofJson?] at demand
    simp only [ofJson?, fields, demand, Json.array?, Json.optionalField?, Option.bind_eq_bind,
      Option.bind_some, Option.pure_def, Json.mapM_map_of_reads Json.optionalString?_ofOption,
      Json.signed64?_ofInt, Json.word32?_ofInt, Json.optionalString?_ofOption]

variable {α : Type} [JsonForm α] [LawfulJsonForm α]

/-- What is written is read back. -/
theorem read?_write (value : α) : read? (write value) = some value := by
  rw [read?, write, String.toList_ofList, (plain value).read_print, Option.bind_some,
    ofJson?_toJson]

end LawfulJsonForm

/-- Whether every value of a type is read back from its text as it was, and is written again in the same
text. -/
structure RoundTrips (α : Type) [JsonForm α] : Prop where
  readsBack : ∀ value : α, read? (write value) = some value
  writesAgain : ∀ value again : α, read? (write value) = some again → write again = write value

theorem LawfulJsonForm.roundTrips (α : Type) [JsonForm α] [LawfulJsonForm α] : RoundTrips α where
  readsBack := read?_write
  writesAgain value again read := by
    obtain rfl := Option.some.inj ((read?_write value).symm.trans read)
    rfl

/-- Pages of strings or missing records, positions, orders, settings, consistent or not, and tallies all
go through their JSON text unchanged. -/
theorem wireTypes_roundTrip :
    RoundTrips (Page (Option String)) ∧ RoundTrips Position ∧ RoundTrips SortOrder ∧
      RoundTrips Settings ∧ RoundTrips Tally :=
  ⟨LawfulJsonForm.roundTrips _, LawfulJsonForm.roundTrips _, LawfulJsonForm.roundTrips _,
    LawfulJsonForm.roundTrips _, LawfulJsonForm.roundTrips _⟩

end KeysetPaging
