/-!
# UTF-8

The bytes of a text, and the text that bytes spell. Exactly the bytes of a text spell it. An ASCII
character takes one byte, so a text of such characters has as many bytes as characters.
-/

namespace KeysetPaging.Text

/-- The bytes of a text. -/
def utf8 (text : String) : List UInt8 :=
  text.toByteArray.data.toList

/-- The text that bytes spell, if they spell one. -/
def ofUtf8? (bytes : List UInt8) : Option String :=
  String.fromUTF8? ⟨bytes.toArray⟩

theorem length_utf8 (text : String) : (utf8 text).length = text.utf8ByteSize := by
  simp [utf8]

theorem ofUtf8?_eq_some_iff {bytes : List UInt8} {text : String} :
    ofUtf8? bytes = some text ↔ utf8 text = bytes := by
  unfold ofUtf8? String.fromUTF8?
  constructor
  · intro spelled
    split at spelled
    · simp only [Option.some.injEq] at spelled
      subst spelled
      simp [utf8, String.fromUTF8]
    · cases spelled
  · intro same
    have whole : (⟨bytes.toArray⟩ : ByteArray) = text.toByteArray := by
      subst same
      simp [utf8]
    rw [dif_pos (whole ▸ text.isValidUTF8)]
    simp only [Option.some.injEq]
    exact String.toByteArray_inj.mp (by simpa [String.fromUTF8] using whole)

theorem ofUtf8?_utf8 (text : String) : ofUtf8? (utf8 text) = some text :=
  ofUtf8?_eq_some_iff.mpr rfl

theorem utf8Size_of_ascii {c : Char} (ascii : c.toNat < 128) : c.utf8Size = 1 := by
  rw [Char.utf8Size_eq_one_iff, UInt32.le_iff_toNat_le]
  exact Nat.le_of_lt_succ ascii

theorem utf8ByteSize_ofList_of_ascii {text : List Char} (ascii : ∀ c ∈ text, c.toNat < 128) :
    (String.ofList text).utf8ByteSize = text.length := by
  induction text with
  | nil => rfl
  | cons c rest ih =>
      rw [List.forall_mem_cons] at ascii
      rw [← List.singleton_append, String.ofList_append, String.utf8ByteSize_append, ih ascii.2,
        ← String.singleton_eq_ofList, String.utf8ByteSize_singleton, utf8Size_of_ascii ascii.1,
        List.length_append, List.length_singleton]

end KeysetPaging.Text
