/-!
# Escaped text

In the text that describes a query, three characters separate: an ampersand between entries, an
equals sign between a name and its value, and a comma between the elements of a value. Where one of
them belongs to a text, or the percent sign itself, it is written as a percent sign and the two
digits of its code. Escaped text is free of separators, every percent sign in it starts an escape,
and unescaping gives the text back, so different texts stay different.
-/

namespace KeysetPaging.Shape

/-- The escape of one character. -/
def escapeChar (c : Char) : List Char :=
  if c = '%' then ['%', '2', '5']
  else if c = '&' then ['%', '2', '6']
  else if c = ',' then ['%', '2', 'C']
  else if c = '=' then ['%', '3', 'D']
  else [c]

/-- Escapes a text character by character. -/
def escape (text : List Char) : List Char :=
  text.flatMap escapeChar

/-- Reads escaped text back; a percent sign that starts no escape stands for itself. -/
def unescape : List Char → List Char
  | '%' :: '2' :: '5' :: rest => '%' :: unescape rest
  | '%' :: '2' :: '6' :: rest => '&' :: unescape rest
  | '%' :: '2' :: 'C' :: rest => ',' :: unescape rest
  | '%' :: '3' :: 'D' :: rest => '=' :: unescape rest
  | c :: rest => c :: unescape rest
  | [] => []

theorem unescape_escapeChar_append (c : Char) (rest : List Char) :
    unescape (escapeChar c ++ rest) = c :: unescape rest := by
  unfold escapeChar
  split
  · rename_i same
    subst same
    simp [unescape]
  · split
    · rename_i same
      subst same
      simp [unescape]
    · split
      · rename_i same
        subst same
        simp [unescape]
      · split
        · rename_i same
          subst same
          simp [unescape]
        · rename_i plain _ _ _
          rw [List.singleton_append, unescape]
          all_goals
            intros
            exact absurd ‹c = '%'› plain

theorem unescape_escape (text : List Char) : unescape (escape text) = text := by
  induction text with
  | nil => rfl
  | cons c rest ih =>
      simp only [escape, List.flatMap_cons, unescape_escapeChar_append]
      exact congrArg (c :: ·) ih

/-- Different texts have different escapes. -/
theorem escape_inj {left right : List Char} (same : escape left = escape right) : left = right := by
  rw [← unescape_escape left, same, unescape_escape]

theorem not_mem_escapeChar {separator : Char}
    (separates : separator = '&' ∨ separator = ',' ∨ separator = '=') (c : Char) :
    separator ∉ escapeChar c := by
  unfold escapeChar
  rcases separates with rfl | rfl | rfl <;>
    · split
      · decide
      · split
        · decide
        · split
          · decide
          · split
            · decide
            · simp_all [eq_comm]

/-- No separator occurs in escaped text. -/
theorem not_mem_escape {separator : Char}
    (separates : separator = '&' ∨ separator = ',' ∨ separator = '=') (text : List Char) :
    separator ∉ escape text := by
  intro member
  obtain ⟨c, _, inside⟩ := List.mem_flatMap.mp member
  exact not_mem_escapeChar separates c inside

end KeysetPaging.Shape
