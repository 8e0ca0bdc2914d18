/-!
# Blank characters

The characters with the Unicode property White_Space, and trimming them from both ends of a text.
Every character of the core library's narrower class is blank, trimming is idempotent, and a text
between blanks trims to what the text alone trims to.
-/

namespace KeysetPaging.Text

/-- The White_Space property: the five controls from tab to carriage return, space, next line, no-break
space, and the other space, line and paragraph separators, which all lie in the basic plane. -/
def isBlank (c : Char) : Bool :=
  let code := c.toNat
  (0x09 ≤ code && code ≤ 0x0D) || code == 0x20 || code == 0x85 || code == 0xA0 ||
    code == 0x1680 || (0x2000 ≤ code && code ≤ 0x200A) || code == 0x2028 || code == 0x2029 ||
    code == 0x202F || code == 0x205F || code == 0x3000

theorem isBlank_of_isWhitespace {c : Char} (blank : c.isWhitespace = true) : isBlank c = true := by
  simp only [Char.isWhitespace, Bool.or_eq_true, decide_eq_true_eq] at blank
  rcases blank with ((h | h) | h) | h <;> subst h <;> rfl

/-- Drops the blanks before the first character that is not blank. -/
def trimLeft (text : List Char) : List Char :=
  text.dropWhile isBlank

/-- Drops the blanks after the last character that is not blank. -/
def trimRight (text : List Char) : List Char :=
  (trimLeft text.reverse).reverse

/-- Drops the blanks at both ends. -/
def trim (text : List Char) : List Char :=
  trimRight (trimLeft text)

theorem trimLeft_append_of_blank {blanks : List Char} (blank : ∀ c ∈ blanks, isBlank c = true)
    (text : List Char) : trimLeft (blanks ++ text) = trimLeft text := by
  induction blanks with
  | nil => rfl
  | cons c rest ih =>
      have head : isBlank c = true := blank c List.mem_cons_self
      simpa [trimLeft, head] using ih fun d member => blank d (List.mem_cons_of_mem c member)

theorem trimLeft_of_blank {blanks : List Char} (blank : ∀ c ∈ blanks, isBlank c = true) :
    trimLeft blanks = [] := by
  simpa [trimLeft] using trimLeft_append_of_blank blank []

theorem trimRight_append_of_blank {blanks : List Char} (blank : ∀ c ∈ blanks, isBlank c = true)
    (text : List Char) : trimRight (text ++ blanks) = trimRight text := by
  unfold trimRight
  rw [List.reverse_append, trimLeft_append_of_blank]
  intro c member
  exact blank c (List.mem_reverse.mp member)

theorem trimLeft_of_head {c : Char} {rest : List Char} (solid : isBlank c = false) :
    trimLeft (c :: rest) = c :: rest := by
  simp [trimLeft, solid]

theorem trimLeft_of_no_blank {text : List Char} (solid : ∀ c ∈ text, isBlank c = false) :
    trimLeft text = text := by
  cases text with
  | nil => rfl
  | cons c rest => exact trimLeft_of_head (solid c List.mem_cons_self)

theorem trimRight_of_no_blank {text : List Char} (solid : ∀ c ∈ text, isBlank c = false) :
    trimRight text = text := by
  unfold trimRight
  rw [trimLeft_of_no_blank, List.reverse_reverse]
  intro c member
  exact solid c (List.mem_reverse.mp member)

theorem trim_of_no_blank {text : List Char} (solid : ∀ c ∈ text, isBlank c = false) :
    trim text = text := by
  unfold trim
  rw [trimLeft_of_no_blank solid, trimRight_of_no_blank solid]

theorem trimLeft_append_right {blanks : List Char} (blank : ∀ c ∈ blanks, isBlank c = true)
    (text : List Char) :
    trimLeft (text ++ blanks) = trimLeft text ++ blanks ∨
      (trimLeft (text ++ blanks) = [] ∧ trimLeft text = []) := by
  induction text with
  | nil => exact Or.inr ⟨trimLeft_of_blank blank, rfl⟩
  | cons c rest ih =>
      cases solid : isBlank c with
      | false => exact Or.inl (by simp [trimLeft, solid])
      | true => simpa [trimLeft, solid] using ih

/-- Blanks around a text do not change what it trims to. -/
theorem trim_append_append {before after : List Char} (blankBefore : ∀ c ∈ before, isBlank c = true)
    (blankAfter : ∀ c ∈ after, isBlank c = true) (text : List Char) :
    trim (before ++ text ++ after) = trim text := by
  unfold trim
  rw [List.append_assoc, trimLeft_append_of_blank blankBefore]
  rcases trimLeft_append_right blankAfter text with kept | ⟨gone, trimmed⟩
  · rw [kept, trimRight_append_of_blank blankAfter]
  · rw [gone, trimmed]

end KeysetPaging.Text
