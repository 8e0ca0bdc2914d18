/-!
# Joining and splitting at a separator

Texts joined by a separator, and a text cut at the first or at the last occurrence of a separator.
A cut gives back the two texts that were joined, as long as the separator does not occur in the
part before the first occurrence, or after the last one.
-/

namespace KeysetPaging.Text

/-- The texts with the separator between each two of them. -/
def join (separator : Char) : List (List Char) → List Char
  | [] => []
  | [text] => text
  | text :: next :: rest => text ++ separator :: join separator (next :: rest)

/-- Cuts at the first occurrence of the separator. -/
def splitFirst? (separator : Char) : List Char → Option (List Char × List Char)
  | [] => none
  | c :: rest =>
      if c = separator then some ([], rest)
      else (splitFirst? separator rest).map fun parts => (c :: parts.1, parts.2)

/-- Cuts at the last occurrence of the separator. -/
def splitLast? (separator : Char) : List Char → Option (List Char × List Char)
  | [] => none
  | c :: rest =>
      match splitLast? separator rest with
      | some parts => some (c :: parts.1, parts.2)
      | none => if c = separator then some ([], rest) else none

theorem splitFirst?_append {separator : Char} {before : List Char} (free : separator ∉ before)
    (after : List Char) :
    splitFirst? separator (before ++ separator :: after) = some (before, after) := by
  induction before with
  | nil => simp [splitFirst?]
  | cons c rest ih =>
      have other : c ≠ separator := fun same => free (same ▸ List.mem_cons_self)
      have tail : separator ∉ rest := fun member => free (List.mem_cons_of_mem c member)
      simp [splitFirst?, other, ih tail]

theorem splitFirst?_eq_some {separator : Char} {text before after : List Char}
    (cut : splitFirst? separator text = some (before, after)) :
    text = before ++ separator :: after ∧ separator ∉ before := by
  induction text generalizing before with
  | nil => simp [splitFirst?] at cut
  | cons c rest ih =>
      unfold splitFirst? at cut
      split at cut
      · rename_i same
        simp only [Option.some.injEq, Prod.mk.injEq] at cut
        obtain ⟨rfl, rfl⟩ := cut
        exact ⟨by rw [same]; rfl, List.not_mem_nil⟩
      · rename_i other
        obtain ⟨⟨front, back⟩, found, same⟩ := Option.map_eq_some_iff.mp cut
        simp only [Prod.mk.injEq] at same
        obtain ⟨rfl, rfl⟩ := same
        obtain ⟨whole, free⟩ := ih found
        refine ⟨by rw [whole]; rfl, ?_⟩
        intro member
        rcases List.mem_cons.mp member with here | there
        · exact other here.symm
        · exact free there

theorem splitLast?_eq_none_iff {separator : Char} {text : List Char} :
    splitLast? separator text = none ↔ separator ∉ text := by
  induction text with
  | nil => simp [splitLast?]
  | cons c rest ih =>
      unfold splitLast?
      cases found : splitLast? separator rest with
      | some parts =>
          have member : separator ∈ rest := by
            refine Classical.byContradiction fun free => ?_
            rw [ih.mpr free] at found
            cases found
          simp [member]
      | none =>
          have free := ih.mp found
          by_cases same : c = separator
          · simp [same]
          · have other : ¬separator = c := fun back => same back.symm
            simp [same, other, free]

theorem splitLast?_append {separator : Char} {after : List Char} (free : separator ∉ after)
    (before : List Char) :
    splitLast? separator (before ++ separator :: after) = some (before, after) := by
  induction before with
  | nil => simp [splitLast?, splitLast?_eq_none_iff.mpr free]
  | cons c rest ih => simp [splitLast?, ih]

theorem splitLast?_eq_some {separator : Char} {text before after : List Char}
    (cut : splitLast? separator text = some (before, after)) :
    text = before ++ separator :: after ∧ separator ∉ after := by
  induction text generalizing before with
  | nil => simp [splitLast?] at cut
  | cons c rest ih =>
      unfold splitLast? at cut
      split at cut
      · rename_i parts found
        simp only [Option.some.injEq, Prod.mk.injEq] at cut
        obtain ⟨rfl, rfl⟩ := cut
        obtain ⟨whole, free⟩ := ih found
        exact ⟨congrArg (c :: ·) whole, free⟩
      · rename_i missing
        split at cut
        · rename_i same
          simp only [Option.some.injEq, Prod.mk.injEq] at cut
          obtain ⟨rfl, rfl⟩ := cut
          exact ⟨by rw [same]; rfl, splitLast?_eq_none_iff.mp missing⟩
        · cases cut

end KeysetPaging.Text
