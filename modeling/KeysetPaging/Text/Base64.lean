/-!
# Base64

Bytes written in groups of three as four characters that carry six bits each. The standard variant
pads its last group with equals signs; the variant for addresses uses a dash and an underscore and
does not pad. Reading is strict: padding is required, and the bits that a padded group does not use
must be zero. So a text is read exactly if it is what writing the bytes gives.
-/

namespace KeysetPaging.Text.Base64

/-- The two variants of the alphabet and of the last group. -/
inductive Variant where
  | standard
  | address
  deriving DecidableEq

/-- The character for six bits. -/
def Variant.digit : Variant → Nat → Char
  | variant, value =>
      if value < 26 then Char.ofNat (65 + value)
      else if value < 52 then Char.ofNat (97 + (value - 26))
      else if value < 62 then Char.ofNat (48 + (value - 52))
      else match variant with
        | .standard => if value = 62 then '+' else '/'
        | .address => if value = 62 then '-' else '_'

/-- The padding of a group that lacks the given number of characters. -/
def Variant.padding : Variant → Nat → List Char
  | .standard, missing => List.replicate missing '='
  | .address, _ => []

/-- Writes bytes, three to a group. -/
def encode (variant : Variant) : List UInt8 → List Char
  | [] => []
  | [a] =>
      variant.digit (a.toNat / 4) :: variant.digit (a.toNat % 4 * 16) :: variant.padding 2
  | [a, b] =>
      variant.digit (a.toNat / 4) :: variant.digit (a.toNat % 4 * 16 + b.toNat / 16) ::
        variant.digit (b.toNat % 16 * 4) :: variant.padding 1
  | a :: b :: c :: rest =>
      variant.digit (a.toNat / 4) :: variant.digit (a.toNat % 4 * 16 + b.toNat / 16) ::
        variant.digit (b.toNat % 16 * 4 + c.toNat / 64) :: variant.digit (c.toNat % 64) ::
          encode variant rest

/-- The six bits of a character of the standard alphabet. -/
def value? (c : Char) : Option Nat :=
  let code := c.toNat
  if 65 ≤ code ∧ code ≤ 90 then some (code - 65)
  else if 97 ≤ code ∧ code ≤ 122 then some (code - 97 + 26)
  else if 48 ≤ code ∧ code ≤ 57 then some (code - 48 + 52)
  else if c = '+' then some 62
  else if c = '/' then some 63
  else none

/-- The byte of a group that ends in two equals signs. -/
def lastOne? (w x : Char) : Option (List UInt8) :=
  match value? w, value? x with
  | some s, some t => if t % 16 = 0 then some [UInt8.ofNat (s * 4 + t / 16)] else none
  | _, _ => none

/-- The bytes of a group that ends in one equals sign. -/
def lastTwo? (w x y : Char) : Option (List UInt8) :=
  match value? w, value? x, value? y with
  | some s, some t, some u =>
      if u % 4 = 0 then some [UInt8.ofNat (s * 4 + t / 16), UInt8.ofNat (t % 16 * 16 + u / 4)]
      else none
  | _, _, _ => none

/-- The bytes of a full group. -/
def group? (w x y z : Char) : Option (List UInt8) :=
  match value? w, value? x, value? y, value? z with
  | some s, some t, some u, some v =>
      some [UInt8.ofNat (s * 4 + t / 16), UInt8.ofNat (t % 16 * 16 + u / 4),
        UInt8.ofNat (u % 4 * 64 + v)]
  | _, _, _, _ => none

/-- Reads the standard variant. -/
def decode? : List Char → Option (List UInt8)
  | [] => some []
  | w :: x :: y :: z :: rest =>
      if z = '=' then
        if rest.isEmpty then if y = '=' then lastOne? w x else lastTwo? w x y
        else none
      else do
        let bytes ← group? w x y z
        let others ← decode? rest
        return bytes ++ others
  | _ => none

theorem value?_digit : ∀ value < 64, value? (Variant.standard.digit value) = some value := by
  decide

theorem digit_ne_pad : ∀ value < 64, Variant.standard.digit value ≠ '=' := by
  decide

theorem value?_eq_some {c : Char} {value : Nat} (read : value? c = some value) :
    value < 64 ∧ Variant.standard.digit value = c := by
  have restore : ∀ code : Nat, c.toNat = code → Char.ofNat code = c := by
    intro code same
    subst same
    exact Char.ofNat_toNat c
  unfold value? at read
  simp only at read
  split at read
  · rename_i range
    have same : value = c.toNat - 65 := by simpa using read.symm
    refine ⟨by omega, ?_⟩
    simp only [Variant.digit, show value < 26 by omega, if_true]
    exact restore _ (by omega)
  · split at read
    · rename_i range
      have same : value = c.toNat - 97 + 26 := by simpa using read.symm
      refine ⟨by omega, ?_⟩
      simp only [Variant.digit, show ¬value < 26 by omega, show value < 52 by omega, if_false,
        if_true]
      exact restore _ (by omega)
    · split at read
      · rename_i range
        have same : value = c.toNat - 48 + 52 := by simpa using read.symm
        refine ⟨by omega, ?_⟩
        simp only [Variant.digit, show ¬value < 26 by omega, show ¬value < 52 by omega,
          show value < 62 by omega, if_false, if_true]
        exact restore _ (by omega)
      · split at read
        · rename_i same
          have last : value = 62 := by simpa using read.symm
          subst last same
          exact ⟨by decide, by decide⟩
        · split at read
          · rename_i same
            have last : value = 63 := by simpa using read.symm
            subst last same
            exact ⟨by decide, by decide⟩
          · simp at read

theorem lastOne?_digit (a : UInt8) :
    lastOne? (Variant.standard.digit (a.toNat / 4)) (Variant.standard.digit (a.toNat % 4 * 16)) =
      some [a] := by
  have bound := a.toNat_lt
  have whole : a.toNat / 4 * 4 + a.toNat % 4 * 16 / 16 = a.toNat := by omega
  simp only [lastOne?, value?_digit _ (show a.toNat / 4 < 64 by omega),
    value?_digit _ (show a.toNat % 4 * 16 < 64 by omega), whole, UInt8.ofNat_toNat]
  rw [if_pos (by omega)]

theorem lastTwo?_digit (a b : UInt8) :
    lastTwo? (Variant.standard.digit (a.toNat / 4))
      (Variant.standard.digit (a.toNat % 4 * 16 + b.toNat / 16))
      (Variant.standard.digit (b.toNat % 16 * 4)) = some [a, b] := by
  have boundA := a.toNat_lt
  have boundB := b.toNat_lt
  have wholeA : a.toNat / 4 * 4 + (a.toNat % 4 * 16 + b.toNat / 16) / 16 = a.toNat := by omega
  have wholeB : (a.toNat % 4 * 16 + b.toNat / 16) % 16 * 16 + b.toNat % 16 * 4 / 4 = b.toNat := by
    omega
  simp only [lastTwo?, value?_digit _ (show a.toNat / 4 < 64 by omega),
    value?_digit _ (show a.toNat % 4 * 16 + b.toNat / 16 < 64 by omega),
    value?_digit _ (show b.toNat % 16 * 4 < 64 by omega), wholeA, wholeB, UInt8.ofNat_toNat]
  rw [if_pos (by omega)]

theorem group?_digit (a b c : UInt8) :
    group? (Variant.standard.digit (a.toNat / 4))
      (Variant.standard.digit (a.toNat % 4 * 16 + b.toNat / 16))
      (Variant.standard.digit (b.toNat % 16 * 4 + c.toNat / 64))
      (Variant.standard.digit (c.toNat % 64)) = some [a, b, c] := by
  have boundA := a.toNat_lt
  have boundB := b.toNat_lt
  have boundC := c.toNat_lt
  have wholeA : a.toNat / 4 * 4 + (a.toNat % 4 * 16 + b.toNat / 16) / 16 = a.toNat := by omega
  have wholeB : (a.toNat % 4 * 16 + b.toNat / 16) % 16 * 16 +
      (b.toNat % 16 * 4 + c.toNat / 64) / 4 = b.toNat := by omega
  have wholeC : (b.toNat % 16 * 4 + c.toNat / 64) % 4 * 64 + c.toNat % 64 = c.toNat := by omega
  simp only [group?, value?_digit _ (show a.toNat / 4 < 64 by omega),
    value?_digit _ (show a.toNat % 4 * 16 + b.toNat / 16 < 64 by omega),
    value?_digit _ (show b.toNat % 16 * 4 + c.toNat / 64 < 64 by omega),
    value?_digit _ (show c.toNat % 64 < 64 by omega), wholeA, wholeB, wholeC, UInt8.ofNat_toNat]

/-- What writing gives reads back. -/
theorem decode?_encode (bytes : List UInt8) : decode? (encode .standard bytes) = some bytes := by
  fun_induction encode Variant.standard bytes with
  | case1 => rfl
  | case2 a => simp [decode?, Variant.padding, List.replicate, lastOne?_digit]
  | case3 a b =>
      have bound := b.toNat_lt
      have solid := digit_ne_pad (b.toNat % 16 * 4) (by omega)
      simp [decode?, Variant.padding, List.replicate, solid, lastTwo?_digit]
  | case4 a b c rest ih =>
      have solid := digit_ne_pad (c.toNat % 64) (by omega)
      simp [decode?, solid, group?_digit, ih]

end KeysetPaging.Text.Base64
