import KeysetPaging.Text.Utf8
import KeysetPaging.Text.Base64
import KeysetPaging.Text.Blank
import Mathlib.Data.List.Nodup

/-!
# What base64 text looks like

Text of the standard variant has four characters for every group of up to three bytes, text for
addresses a third more characters than there are bytes. All its characters are printable ASCII and
none is a hash sign. Different bytes have different texts in both variants: the standard one reads
back, and in the one for addresses the length of the text tells how its last group ends. The reader
takes no other spelling: a text is read exactly if it is what writing the bytes gives.
-/

namespace KeysetPaging.Text.Base64

/-- The digits of a variant and the padding character. -/
def Variant.characters (variant : Variant) : List Char :=
  '=' :: (List.range 64).map variant.digit

theorem digit_mem_characters (variant : Variant) {value : Nat} (small : value < 64) :
    variant.digit value ∈ variant.characters :=
  List.mem_cons_of_mem _ (List.mem_map.mpr ⟨value, List.mem_range.mpr small, rfl⟩)

theorem padding_mem_characters (variant : Variant) {missing : Nat} {c : Char}
    (member : c ∈ variant.padding missing) : c ∈ variant.characters := by
  cases variant with
  | standard =>
      rw [(List.mem_replicate.mp member).2]
      exact List.mem_cons_self
  | address => cases member

theorem mem_characters_of_mem_encode {variant : Variant} {bytes : List UInt8} {c : Char}
    (member : c ∈ encode variant bytes) : c ∈ variant.characters := by
  fun_induction encode variant bytes with
  | case1 => cases member
  | case2 a =>
      have bound := a.toNat_lt
      simp only [List.mem_cons] at member
      rcases member with rfl | rfl | member
      · exact digit_mem_characters variant (by omega)
      · exact digit_mem_characters variant (by omega)
      · exact padding_mem_characters variant member
  | case3 a b =>
      have boundA := a.toNat_lt
      have boundB := b.toNat_lt
      simp only [List.mem_cons] at member
      rcases member with rfl | rfl | rfl | member
      · exact digit_mem_characters variant (by omega)
      · exact digit_mem_characters variant (by omega)
      · exact digit_mem_characters variant (by omega)
      · exact padding_mem_characters variant member
  | case4 a b c rest ih =>
      have boundA := a.toNat_lt
      have boundB := b.toNat_lt
      have boundC := c.toNat_lt
      simp only [List.mem_cons] at member
      rcases member with rfl | rfl | rfl | rfl | member
      · exact digit_mem_characters variant (by omega)
      · exact digit_mem_characters variant (by omega)
      · exact digit_mem_characters variant (by omega)
      · exact digit_mem_characters variant (by omega)
      · exact ih member

theorem characters_plain (variant : Variant) :
    ∀ c ∈ variant.characters, c ≠ '#' ∧ isBlank c = false ∧ c.toNat < 128 := by
  have all : (variant.characters.all fun c =>
      c != '#' && (isBlank c == false && decide (c.toNat < 128))) = true := by
    cases variant <;> decide
  intro c member
  simpa using List.all_eq_true.mp all c member

theorem hash_not_mem_encode (variant : Variant) (bytes : List UInt8) :
    '#' ∉ encode variant bytes := by
  intro member
  exact (characters_plain variant _ (mem_characters_of_mem_encode member)).1 rfl

theorem isBlank_of_mem_encode {variant : Variant} {bytes : List UInt8} {c : Char}
    (member : c ∈ encode variant bytes) : isBlank c = false :=
  (characters_plain variant c (mem_characters_of_mem_encode member)).2.1

theorem utf8ByteSize_ofList_encode (variant : Variant) (bytes : List UInt8) :
    (String.ofList (encode variant bytes)).utf8ByteSize = (encode variant bytes).length :=
  utf8ByteSize_ofList_of_ascii fun c member =>
    (characters_plain variant c (mem_characters_of_mem_encode member)).2.2

theorem length_encode_standard (bytes : List UInt8) :
    (encode .standard bytes).length = (bytes.length + 2) / 3 * 4 := by
  fun_induction encode Variant.standard bytes with
  | case1 => rfl
  | case2 a => simp [Variant.padding]
  | case3 a b => simp [Variant.padding]
  | case4 a b c rest ih =>
      simp only [List.length_cons, ih]
      omega

theorem length_encode_address (bytes : List UInt8) :
    (encode .address bytes).length = (bytes.length * 4 + 2) / 3 := by
  fun_induction encode Variant.address bytes with
  | case1 => rfl
  | case2 a => simp [Variant.padding]
  | case3 a b => simp [Variant.padding]
  | case4 a b c rest ih =>
      simp only [List.length_cons, ih]
      omega

theorem digits_nodup (variant : Variant) : ((List.range 64).map variant.digit).Nodup := by
  cases variant <;> decide +kernel

theorem digit_inj {variant : Variant} {left right : Nat} (smallLeft : left < 64)
    (smallRight : right < 64) (same : variant.digit left = variant.digit right) : left = right :=
  List.inj_on_of_nodup_map (digits_nodup variant) (List.mem_range.mpr smallLeft)
    (List.mem_range.mpr smallRight) same

/-- Without padding, the length of a text still tells how many bytes it stands for. -/
theorem length_eq_of_encode_address {first second : List UInt8}
    (same : encode .address first = encode .address second) : first.length = second.length := by
  have lengths := congrArg List.length same
  rw [length_encode_address, length_encode_address] at lengths
  omega

theorem encode_address_inj {first second : List UInt8}
    (same : encode .address first = encode .address second) : first = second := by
  have lengths := length_eq_of_encode_address same
  fun_induction encode Variant.address first generalizing second with
  | case1 => exact (List.length_eq_zero_iff.mp lengths.symm).symm
  | case2 a =>
      obtain ⟨x, rfl⟩ := List.length_eq_one_iff.mp lengths.symm
      have boundA := a.toNat_lt
      have boundX := x.toNat_lt
      simp only [encode, List.cons.injEq] at same
      have one := digit_inj (by omega) (by omega) same.1
      have two := digit_inj (by omega) (by omega) same.2.1
      rw [UInt8.toNat_inj.mp (show a.toNat = x.toNat by omega)]
  | case3 a b =>
      obtain ⟨x, y, rfl⟩ := List.length_eq_two.mp lengths.symm
      have boundA := a.toNat_lt
      have boundB := b.toNat_lt
      have boundX := x.toNat_lt
      have boundY := y.toNat_lt
      simp only [encode, List.cons.injEq] at same
      have one := digit_inj (by omega) (by omega) same.1
      have two := digit_inj (by omega) (by omega) same.2.1
      have three := digit_inj (by omega) (by omega) same.2.2.1
      rw [UInt8.toNat_inj.mp (show a.toNat = x.toNat by omega),
        UInt8.toNat_inj.mp (show b.toNat = y.toNat by omega)]
  | case4 a b c rest ih =>
      match second with
      | [] | [_] | [_, _] => simp at lengths
      | x :: y :: z :: others =>
          have boundA := a.toNat_lt
          have boundB := b.toNat_lt
          have boundC := c.toNat_lt
          have boundX := x.toNat_lt
          have boundY := y.toNat_lt
          have boundZ := z.toNat_lt
          simp only [encode, List.cons.injEq] at same
          obtain ⟨one, two, three, four, rests⟩ := same
          have one := digit_inj (by omega) (by omega) one
          have two := digit_inj (by omega) (by omega) two
          have three := digit_inj (by omega) (by omega) three
          have four := digit_inj (by omega) (by omega) four
          rw [UInt8.toNat_inj.mp (show a.toNat = x.toNat by omega),
            UInt8.toNat_inj.mp (show b.toNat = y.toNat by omega),
            UInt8.toNat_inj.mp (show c.toNat = z.toNat by omega),
            ih rests (length_eq_of_encode_address rests)]

theorem eq_encode_of_lastOne? {w x : Char} {bytes : List UInt8} (read : lastOne? w x = some bytes) :
    [w, x, '=', '='] = encode .standard bytes := by
  unfold lastOne? at read
  split at read
  · rename_i s t first second
    split at read
    · rename_i unused
      obtain ⟨boundS, rfl⟩ := value?_eq_some first
      obtain ⟨boundT, rfl⟩ := value?_eq_some second
      have byte : (UInt8.ofNat (s * 4 + t / 16)).toNat = s * 4 + t / 16 :=
        UInt8.toNat_ofNat_of_lt' (show s * 4 + t / 16 < 256 by omega)
      obtain rfl := Option.some.inj read
      rw [encode, byte, show (s * 4 + t / 16) / 4 = s by omega,
        show (s * 4 + t / 16) % 4 * 16 = t by omega]
      rfl
    · cases read
  · cases read

theorem eq_encode_of_lastTwo? {w x y : Char} {bytes : List UInt8}
    (read : lastTwo? w x y = some bytes) : [w, x, y, '='] = encode .standard bytes := by
  unfold lastTwo? at read
  split at read
  · rename_i s t u first second third
    split at read
    · rename_i unused
      obtain ⟨boundS, rfl⟩ := value?_eq_some first
      obtain ⟨boundT, rfl⟩ := value?_eq_some second
      obtain ⟨boundU, rfl⟩ := value?_eq_some third
      have byte : (UInt8.ofNat (s * 4 + t / 16)).toNat = s * 4 + t / 16 :=
        UInt8.toNat_ofNat_of_lt' (show s * 4 + t / 16 < 256 by omega)
      have next : (UInt8.ofNat (t % 16 * 16 + u / 4)).toNat = t % 16 * 16 + u / 4 :=
        UInt8.toNat_ofNat_of_lt' (show t % 16 * 16 + u / 4 < 256 by omega)
      obtain rfl := Option.some.inj read
      rw [encode, byte, next, show (s * 4 + t / 16) / 4 = s by omega,
        show (s * 4 + t / 16) % 4 * 16 + (t % 16 * 16 + u / 4) / 16 = t by omega,
        show (t % 16 * 16 + u / 4) % 16 * 4 = u by omega]
      rfl
    · cases read
  · cases read

theorem eq_encode_of_group? {w x y z : Char} {bytes others : List UInt8}
    (read : group? w x y z = some bytes) :
    w :: x :: y :: z :: encode .standard others = encode .standard (bytes ++ others) := by
  unfold group? at read
  split at read
  · rename_i s t u v first second third fourth
    obtain ⟨boundS, rfl⟩ := value?_eq_some first
    obtain ⟨boundT, rfl⟩ := value?_eq_some second
    obtain ⟨boundU, rfl⟩ := value?_eq_some third
    obtain ⟨boundV, rfl⟩ := value?_eq_some fourth
    have byte : (UInt8.ofNat (s * 4 + t / 16)).toNat = s * 4 + t / 16 :=
      UInt8.toNat_ofNat_of_lt' (show s * 4 + t / 16 < 256 by omega)
    have next : (UInt8.ofNat (t % 16 * 16 + u / 4)).toNat = t % 16 * 16 + u / 4 :=
      UInt8.toNat_ofNat_of_lt' (show t % 16 * 16 + u / 4 < 256 by omega)
    have last : (UInt8.ofNat (u % 4 * 64 + v)).toNat = u % 4 * 64 + v :=
      UInt8.toNat_ofNat_of_lt' (show u % 4 * 64 + v < 256 by omega)
    obtain rfl := Option.some.inj read
    simp only [List.cons_append, List.nil_append]
    rw [encode, byte, next, last, show (s * 4 + t / 16) / 4 = s by omega,
      show (s * 4 + t / 16) % 4 * 16 + (t % 16 * 16 + u / 4) / 16 = t by omega,
      show (t % 16 * 16 + u / 4) % 16 * 4 + (u % 4 * 64 + v) / 64 = u by omega,
      show (u % 4 * 64 + v) % 64 = v by omega]
  · cases read

theorem eq_encode_of_decode? {text : List Char} {bytes : List UInt8}
    (read : decode? text = some bytes) : text = encode .standard bytes := by
  fun_induction decode? text generalizing bytes with
  | case1 =>
      obtain rfl := Option.some.inj read
      rfl
  | case2 w x rest nothingLeft =>
      rw [List.isEmpty_iff.mp nothingLeft]
      exact eq_encode_of_lastOne? read
  | case3 w x y rest nothingLeft other =>
      rw [List.isEmpty_iff.mp nothingLeft]
      exact eq_encode_of_lastTwo? read
  | case4 => cases read
  | case5 w x y z rest solid ih =>
      obtain ⟨front, group, tail⟩ := Option.bind_eq_some_iff.mp read
      obtain ⟨others, decoded, same⟩ := Option.bind_eq_some_iff.mp tail
      obtain rfl := Option.some.inj same
      rw [ih decoded]
      exact eq_encode_of_group? group
  | case6 => cases read

/-- A text is read exactly if it is what writing the bytes gives. -/
theorem decode?_eq_some_iff {text : List Char} {bytes : List UInt8} :
    decode? text = some bytes ↔ text = encode .standard bytes := by
  constructor
  · exact eq_encode_of_decode?
  · rintro rfl
    exact decode?_encode bytes

end KeysetPaging.Text.Base64
