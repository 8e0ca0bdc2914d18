import KeysetPaging.Cursor.Binding
import KeysetPaging.Proofs.Query.Shape
import Mathlib.Data.List.Nodup

/-!
# Filters of lists

A filter may be a finite map from names to lists of texts. Each name then stands in the shape of the
query with the escaped texts of its list between commas, and this determines the list, with one
exception: the list of one empty text is written like the empty list. So the shapes of a query under
two such filters are the same exactly if the filters have the same names and, under each name, lists
that are equal or fall under the exception. Tokens are then the same under both, and so is what comes of
reading one.
-/

namespace KeysetPaging

namespace Shape

/-- The entries of a finite map from names to lists of texts. -/
def Filter.listEntries (lists : Std.TreeMap String (List String)) : Filter :=
  lists.toList.map fun entry => (entry.1, .list (entry.2.map .text))

/-- The filter of a finite map from names to lists of texts. -/
def Filter.ofLists (lists : Std.TreeMap String (List String)) : Filter :=
  .ofMap (listEntries lists)

/-- The text of a list of texts: their escapes with commas between them. -/
def listText (texts : List String) : List Char :=
  Text.join ',' (texts.map fun text => escape text.toList)

theorem text?_list (texts : List String) :
    (Value.list (texts.map .text)).text? = some (listText texts) := by
  rw [Value.text?, Value.texts_eq_map, List.map_map]
  simp only [Function.comp_def, Value.text?, Option.getD_some]
  rfl

/-- Two lists of texts that are equal, or are the empty list and the list of one empty text. -/
inductive Alike : List String → List String → Prop where
  | same (texts : List String) : Alike texts texts
  | emptied : Alike [""] []
  | filled : Alike [] [""]

theorem listText_eq_nil_iff {texts : List String} :
    listText texts = [] ↔ texts = [] ∨ texts = [""] := by
  rw [listText, Text.join_eq_nil_iff, List.map_eq_nil_iff, List.map_eq_singleton_iff]
  refine or_congr_right ⟨?_, ?_⟩
  · rintro ⟨text, rfl, blank⟩
    have bare : text.toList = "".toList := escape_inj (blank.trans rfl)
    rw [String.toList_inj.mp bare]
  · rintro rfl
    exact ⟨"", rfl, rfl⟩

/-- The text of a list determines it up to a single empty text. -/
theorem listText_eq_iff {left right : List String} :
    listText left = listText right ↔ Alike left right := by
  constructor
  · intro same
    cases left with
    | nil =>
        rcases listText_eq_nil_iff.mp same.symm with rfl | rfl
        · exact .same []
        · exact .filled
    | cons first rest =>
        cases right with
        | nil =>
            rcases listText_eq_nil_iff.mp same with nothing | one
            · cases nothing
            · rw [one]
              exact .emptied
        | cons other others =>
            have equal : first :: rest = other :: others :=
              Text.join_map_inj
                (fun text : String => not_mem_escape (Or.inr (Or.inl rfl)) text.toList)
                (fun spelled => String.toList_inj.mp (escape_inj spelled))
                (List.cons_ne_nil first rest) (List.cons_ne_nil other others) same
            rw [equal]
            exact .same _
  · intro alike
    cases alike <;> rfl

namespace Filter

variable {lists : Std.TreeMap String (List String)}

theorem nodup_listEntries : ((listEntries lists).map Prod.fst).Nodup := by
  rw [listEntries, List.map_map, List.Nodup, List.pairwise_map]
  refine Std.TreeMap.distinct_keys_toList.imp fun apart same => ?_
  exact apart (Std.LawfulEqCmp.compare_eq_iff_eq.mpr same)

theorem mem_listEntries {name : String} {value : Value} :
    (name, value) ∈ listEntries lists ↔
      ∃ texts, lists[name]? = some texts ∧ value = .list (texts.map .text) := by
  rw [listEntries, List.mem_map]
  constructor
  · rintro ⟨⟨other, texts⟩, member, same⟩
    obtain ⟨rfl, rfl⟩ := Prod.mk.inj same
    exact ⟨texts, Std.TreeMap.mem_toList_iff_getElem?_eq_some.mp member, rfl⟩
  · rintro ⟨texts, found, rfl⟩
    exact ⟨(name, texts), Std.TreeMap.mem_toList_iff_getElem?_eq_some.mpr found, rfl⟩

theorem length_textsOf_listEntries_le (name : String) :
    ((listEntries lists).textsOf name).length ≤ 1 := by
  have present : ∀ entry ∈ listEntries lists, entry.2.text?.isSome = true := by
    rintro ⟨other, value⟩ member
    obtain ⟨texts, -, rfl⟩ := mem_listEntries.mp member
    rw [text?_list]
    rfl
  rw [length_textsOf present]
  exact List.nodup_iff_count_le_one.mp nodup_listEntries name

/-- Under each name the filter of a map adds the text of its list, if it has one. -/
theorem textsOf_ofLists (name : String) :
    (ofLists lists).textsOf name = (lists[name]?.map listText).toList := by
  have sorted : (ofLists lists).textsOf name = (listEntries lists).textsOf name :=
    (textsOf_eq_of_perm (Sorting.sort_perm _ _).symm nodup_listEntries name).symm
  have member : ∀ text, text ∈ (listEntries lists).textsOf name ↔
      ∃ texts, lists[name]? = some texts ∧ text = listText texts := by
    intro text
    simp only [mem_textsOf, mem_listEntries]
    constructor
    · rintro ⟨_, ⟨texts, found, rfl⟩, spelled⟩
      exact ⟨texts, found, Option.some.inj (spelled.symm.trans (text?_list texts))⟩
    · rintro ⟨texts, found, rfl⟩
      exact ⟨_, ⟨texts, found, rfl⟩, text?_list texts⟩
  rw [sorted]
  cases found : lists[name]? with
  | none =>
      refine List.eq_nil_iff_forall_not_mem.mpr fun text inside => ?_
      obtain ⟨texts, listed, -⟩ := (member text).mp inside
      cases found.symm.trans listed
  | some texts =>
      have inside := (member (listText texts)).mpr ⟨texts, found, rfl⟩
      have single : ((listEntries lists).textsOf name).length = 1 :=
        Nat.le_antisymm (length_textsOf_listEntries_le name) (List.length_pos_of_mem inside)
      obtain ⟨text, shape⟩ := List.length_eq_one_iff.mp single
      rw [shape, List.mem_singleton] at inside
      rw [shape, ← inside]
      rfl

end Filter

end Shape

namespace Query

/-- Two finite maps with the same names and, under each name, lists that are alike. -/
structure SameLists (left right : Std.TreeMap String (List String)) : Prop where
  names : ∀ name : String, name ∈ left ↔ name ∈ right
  lists : ∀ (name : String) (texts others : List String),
    left[name]? = some texts → right[name]? = some others → Shape.Alike texts others

theorem sameLists_iff {left right : Std.TreeMap String (List String)} :
    SameLists left right ↔
      ∀ name : String, left[name]?.map Shape.listText = right[name]?.map Shape.listText := by
  constructor
  · intro same name
    have names := same.names name
    rw [Std.TreeMap.mem_iff_isSome_getElem?, Std.TreeMap.mem_iff_isSome_getElem?] at names
    cases found : left[name]? with
    | none =>
        cases other : right[name]? with
        | none => rfl
        | some others => simp [found, other] at names
    | some texts =>
        cases other : right[name]? with
        | none => simp [found, other] at names
        | some others =>
            exact congrArg some (Shape.listText_eq_iff.mpr (same.lists name _ _ found other))
  · intro same
    refine ⟨fun name => ?_, fun name texts others found other => ?_⟩
    · have present := congrArg Option.isSome (same name)
      rw [Option.isSome_map, Option.isSome_map] at present
      rw [Std.TreeMap.mem_iff_isSome_getElem?, Std.TreeMap.mem_iff_isSome_getElem?, present]
    · have equal := same name
      rw [found, other] at equal
      exact Shape.listText_eq_iff.mp (Option.some.inj equal)

/-- Two queries under which the same tokens are made, and read to the same. -/
structure Exchange (left right : Query) : Prop where
  made : ∀ value page, left.tokenFor value page = right.tokenFor value page
  read : ∀ token, left.resolve token = right.resolve token

theorem exchange_of_shape_eq {left right : Query} (same : left.shape = right.shape) :
    Exchange left right where
  made := by
    intro value page
    cases value <;> simp only [tokenFor, same]
  read := by
    intro token
    simp only [resolve, Query.read, same]

/-- Two filters of lists give a query one shape exactly if they have the same names and alike lists, and
then the same tokens. -/
theorem shape_filteredBy_lists (query : Query) (left right : Std.TreeMap String (List String)) :
    ((query.filteredBy (.ofLists left)).shape = (query.filteredBy (.ofLists right)).shape ↔
      SameLists left right) ∧
    (SameLists left right →
      Exchange (query.filteredBy (.ofLists left)) (query.filteredBy (.ofLists right))) := by
  have determined : (query.filteredBy (.ofLists left)).shape =
      (query.filteredBy (.ofLists right)).shape ↔ SameLists left right := by
    rw [shape_eq_iff, sameLists_iff]
    refine forall_congr' fun name => ?_
    change (query.ownEntries.textsOf name ++ (Shape.Filter.ofLists left).textsOf name =
      query.ownEntries.textsOf name ++ (Shape.Filter.ofLists right).textsOf name) ↔ _
    rw [List.append_cancel_left_eq, Shape.Filter.textsOf_ofLists, Shape.Filter.textsOf_ofLists]
    refine ⟨fun same => ?_, congrArg Option.toList⟩
    have heads := congrArg List.head? same
    rwa [Option.head?_toList, Option.head?_toList] at heads
  exact ⟨determined, fun same => exchange_of_shape_eq (determined.mpr same)⟩

end Query

end KeysetPaging
