/-
Base64 is read back as it was written, whichever of the three paddings the last group has. And nothing else is read
(`encode_of_decode?`): no group has a second spelling, as the reader asks for the padding and for zeros in the bits that
are left over, and a value has one letter.
-/
import TypedStorage.Base64

namespace TypedStorage.Base64

theorem value?_letter {v : Nat} (h : v < 64) : value? (letter v) = some v := by
  have all : ∀ v : Fin 64, value? (letter v) = some v.val := by decide +kernel
  exact all ⟨v, h⟩

theorem letter_ne_pad {v : Nat} (h : v < 64) : letter v ≠ '=' := by
  intro he
  have := value?_letter h
  rw [he] at this
  simp [value?] at this

/-! ## The three letters and bytes of a group -/

theorem high_byte (a b : UInt8) : UInt8.ofNat (a.toNat / 4 * 4 + (a.toNat % 4 * 16 + b.toNat / 16) / 16) = a := by
  have := b.toNat_lt
  rw [show a.toNat / 4 * 4 + (a.toNat % 4 * 16 + b.toNat / 16) / 16 = a.toNat by omega, UInt8.ofNat_toNat]

theorem middle_byte (a b c : UInt8) :
    UInt8.ofNat ((a.toNat % 4 * 16 + b.toNat / 16) % 16 * 16 + (b.toNat % 16 * 4 + c.toNat / 64) / 4) = b := by
  have := b.toNat_lt
  have := c.toNat_lt
  rw [show (a.toNat % 4 * 16 + b.toNat / 16) % 16 * 16 + (b.toNat % 16 * 4 + c.toNat / 64) / 4 = b.toNat by omega,
    UInt8.ofNat_toNat]

theorem low_byte (b c : UInt8) : UInt8.ofNat ((b.toNat % 16 * 4 + c.toNat / 64) % 4 * 64 + c.toNat % 64) = c := by
  have := c.toNat_lt
  rw [show (b.toNat % 16 * 4 + c.toNat / 64) % 4 * 64 + c.toNat % 64 = c.toNat by omega, UInt8.ofNat_toNat]

/-! ## Groups -/

/-- A full group is read, whether or not another follows it. -/
theorem decode?_group {p q r s : Nat} (hp : p < 64) (hq : q < 64) (hr : r < 64) (hs : s < 64)
    {rest : List Char} {bytes : List UInt8} (h : decode? rest = some bytes) :
    decode? (letter p :: letter q :: letter r :: letter s :: rest) =
      some (UInt8.ofNat (p * 4 + q / 16) :: UInt8.ofNat (q % 16 * 16 + r / 4) :: UInt8.ofNat (r % 4 * 64 + s)
        :: bytes) := by
  cases rest with
  | nil =>
    have hb : bytes = [] := by simpa [decode?] using h.symm
    simp [decode?, decodeLast?, value?_letter, letter_ne_pad, hp, hq, hr, hs, hb]
  | cons c cs =>
    simp [decode?, value?_letter, hp, hq, hr, hs, h]

theorem decode?_pad {p q r : Nat} (hp : p < 64) (hq : q < 64) (hr : r < 64) (hz : r % 4 = 0) :
    decode? [letter p, letter q, letter r, '='] =
      some [UInt8.ofNat (p * 4 + q / 16), UInt8.ofNat (q % 16 * 16 + r / 4)] := by
  simp [decode?, decodeLast?, value?_letter, letter_ne_pad, hp, hq, hr, hz]

theorem decode?_pads {p q : Nat} (hp : p < 64) (hq : q < 64) (hz : q % 16 = 0) :
    decode? [letter p, letter q, '=', '='] = some [UInt8.ofNat (p * 4 + q / 16)] := by
  simp [decode?, decodeLast?, value?_letter, hp, hq, hz]

theorem decode?_encode (bytes : List UInt8) : decode? (encode bytes) = some bytes := by
  induction bytes using encode.induct with
  | case1 => rfl
  | case2 a =>
    have := a.toNat_lt
    have ha := high_byte a 0
    simp only [UInt8.toNat_zero, Nat.zero_div, Nat.add_zero] at ha
    rw [encode, decode?_pads (by omega) (by omega) (by omega), ha]
  | case3 a b =>
    have := a.toNat_lt
    have := b.toNat_lt
    have hb := middle_byte a b 0
    simp only [UInt8.toNat_zero, Nat.zero_div, Nat.add_zero] at hb
    rw [encode, decode?_pad (by omega) (by omega) (by omega) (by omega), high_byte, hb]
  | case4 a b c rest ih =>
    have := a.toNat_lt
    have := b.toNat_lt
    have := c.toNat_lt
    rw [encode, decode?_group (by omega) (by omega) (by omega) (by omega) ih, high_byte, middle_byte, low_byte]

theorem ofText?_text (bytes : List UInt8) : ofText? (text bytes) = some bytes := by
  simp [ofText?, text, decode?_encode]

/-! ## Reading nothing but what is written -/

/-- A run of the alphabet, from the character with the number `first` on. -/
theorem letter_of_run (start first count : Nat) {c : Char} {v : Nat} (hlo : first ≤ c.toNat) (hhi : c.toNat < first + count)
    (hv : v = start + (c.toNat - first)) (hend : start + count ≤ 64)
    (hrun : ∀ i : Fin count, letter (start + i.val) = Char.ofNat (first + i.val)) : v < 64 ∧ letter v = c := by
  refine ⟨by omega, ?_⟩
  have hletter := hrun ⟨c.toNat - first, by omega⟩
  rw [hv, hletter, show first + (c.toNat - first) = c.toNat by omega, Char.ofNat_toNat]

/-- A value has one letter. -/
theorem letter_of_value? {c : Char} {v : Nat} (h : value? c = some v) : v < 64 ∧ letter v = c := by
  unfold value? at h
  dsimp only at h
  split at h
  · next hc =>
    have hlo : 65 ≤ c.toNat := hc.1
    have hhi : c.toNat ≤ 90 := hc.2
    exact letter_of_run 0 65 26 hlo (by omega) (by rw [← Option.some.inj h]; omega) (by decide) (by decide +kernel)
  split at h
  · next hc =>
    have hlo : 97 ≤ c.toNat := hc.1
    have hhi : c.toNat ≤ 122 := hc.2
    exact letter_of_run 26 97 26 hlo (by omega) (by rw [← Option.some.inj h]; omega) (by decide) (by decide +kernel)
  split at h
  · next hc =>
    have hlo : 48 ≤ c.toNat := hc.1
    have hhi : c.toNat ≤ 57 := hc.2
    exact letter_of_run 52 48 10 hlo (by omega) (by rw [← Option.some.inj h]; omega) (by decide) (by decide +kernel)
  split at h
  · next hc =>
    cases h
    exact ⟨by decide, hc ▸ by decide +kernel⟩
  split at h
  · next hc =>
    cases h
    exact ⟨by decide, hc ▸ by decide +kernel⟩
  · cases h

/-- A full group of bytes has the letters that it was read from. -/
theorem encode_group {a b c d : Nat} (ha : a < 64) (hb : b < 64) (hc : c < 64) (hd : d < 64) (rest : List UInt8) :
    encode (UInt8.ofNat (a * 4 + b / 16) :: UInt8.ofNat (b % 16 * 16 + c / 4) :: UInt8.ofNat (c % 4 * 64 + d) :: rest) =
      letter a :: letter b :: letter c :: letter d :: encode rest := by
  rw [encode, UInt8.toNat_ofNat_of_lt' (by simp [UInt8.size]; omega), UInt8.toNat_ofNat_of_lt' (by simp [UInt8.size]; omega),
    UInt8.toNat_ofNat_of_lt' (by simp [UInt8.size]; omega), show (a * 4 + b / 16) / 4 = a by omega,
    show (a * 4 + b / 16) % 4 * 16 + (b % 16 * 16 + c / 4) / 16 = b by omega,
    show (b % 16 * 16 + c / 4) % 16 * 4 + (c % 4 * 64 + d) / 64 = c by omega, show (c % 4 * 64 + d) % 64 = d by omega]

theorem encode_pad {a b c : Nat} (ha : a < 64) (hb : b < 64) (hc : c < 64) (hz : c % 4 = 0) :
    encode [UInt8.ofNat (a * 4 + b / 16), UInt8.ofNat (b % 16 * 16 + c / 4)] = [letter a, letter b, letter c, '='] := by
  rw [encode, UInt8.toNat_ofNat_of_lt' (by simp [UInt8.size]; omega), UInt8.toNat_ofNat_of_lt' (by simp [UInt8.size]; omega),
    show (a * 4 + b / 16) / 4 = a by omega, show (a * 4 + b / 16) % 4 * 16 + (b % 16 * 16 + c / 4) / 16 = b by omega,
    show (b % 16 * 16 + c / 4) % 16 * 4 = c by omega]

theorem encode_pads {a b : Nat} (ha : a < 64) (hb : b < 64) (hz : b % 16 = 0) :
    encode [UInt8.ofNat (a * 4 + b / 16)] = [letter a, letter b, '=', '='] := by
  rw [encode, UInt8.toNat_ofNat_of_lt' (by simp [UInt8.size]; omega), show (a * 4 + b / 16) / 4 = a by omega,
    show (a * 4 + b / 16) % 4 * 16 = b by omega]

/-- The last group has the padding that it was read with, and no other. -/
theorem encode_of_decodeLast? {p q r s : Char} {bytes : List UInt8} (h : decodeLast? p q r s = some bytes) :
    encode bytes = [p, q, r, s] := by
  simp only [decodeLast?, Option.bind_eq_bind, Option.bind_eq_some_iff] at h
  obtain ⟨a, hp, b, hq, h⟩ := h
  obtain ⟨ha, rfl⟩ := letter_of_value? hp
  obtain ⟨hb, rfl⟩ := letter_of_value? hq
  split at h
  · next hpads =>
    obtain ⟨rfl, rfl⟩ := hpads
    obtain ⟨hz, he⟩ := Option.ite_none_right_eq_some.1 h
    cases he
    exact encode_pads ha hb hz
  · obtain ⟨c, hr, hlast⟩ := Option.bind_eq_some_iff.1 h
    obtain ⟨hc, rfl⟩ := letter_of_value? hr
    split at hlast
    · next hpad =>
      obtain ⟨hz, he⟩ := Option.ite_none_right_eq_some.1 hlast
      cases he
      rw [encode_pad ha hb hc hz, hpad]
    · obtain ⟨d, hs, he⟩ := Option.bind_eq_some_iff.1 hlast
      obtain ⟨hd, rfl⟩ := letter_of_value? hs
      cases he
      exact encode_group ha hb hc hd []

/-- **Bytes have one text.** -/
theorem encode_of_decode? {cs : List Char} {bytes : List UInt8} (h : decode? cs = some bytes) : encode bytes = cs := by
  induction cs using decode?.induct generalizing bytes with
  | case1 =>
    cases h
    rfl
  | case2 p q r s => exact encode_of_decodeLast? h
  | case3 p q r s rest hrest ih =>
    rw [decode?] at h
    simp only [Option.bind_eq_bind, Option.bind_eq_some_iff, Option.pure_def, Option.some.injEq] at h
    obtain ⟨a, hp, b, hq, c, hr, d, hs, bytes, hbytes, rfl⟩ := h
    obtain ⟨ha, rfl⟩ := letter_of_value? hp
    obtain ⟨hb, rfl⟩ := letter_of_value? hq
    obtain ⟨hc, rfl⟩ := letter_of_value? hr
    obtain ⟨hd, rfl⟩ := letter_of_value? hs
    rw [encode_group ha hb hc hd, ih hbytes]
    exact hrest
  | case4 cs hnil hlast hgroup => 
    unfold decode? at h
    split at h
    · exact absurd rfl hnil
    · exact (hlast _ _ _ _ rfl).elim
    · exact (hgroup _ _ _ _ _ rfl).elim
    · cases h

theorem text_of_ofText? {s : String} {bytes : List UInt8} (h : ofText? s = some bytes) : text bytes = s := by
  rw [text, encode_of_decode? h, String.ofList_toList]

end TypedStorage.Base64
