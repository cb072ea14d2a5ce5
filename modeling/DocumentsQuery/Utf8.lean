/-
**GLib's UTF-8 check against RFC 3629.**

With `allow_utf8` set, the escaper copies a multi-byte sequence as it is when
`g_utf8_get_char_validated` accepts it (`GLib.IsUtf8Char`).  This module says which sequences those
are, against UTF-8 as RFC 3629 defines it.  The check decodes the encoding of every Unicode scalar
value, and what it accepts from a lead byte of `0x80` or more is always such an encoding: the five-
and six-byte forms that `g_utf8_get_char_extended` still reads, overlong forms, surrogates and
code points past `0x10FFFF` are all refused.  So the characters the escaper copies are exactly the
UTF-8 encodings of the scalar values of `0x80` or more.

Main definitions:

* `Rfc3629.scalar`, `Rfc3629.encode` — Unicode scalar values and their UTF-8 encoding.

Main results:

* `GLib.utf8GetCharValidated_encode` — the check decodes the encoding of every scalar value,
  whatever follows it;
* `GLib.utf8GetCharValidated_sound` — what it accepts from a lead byte of `0x80` or more is the
  encoding of the scalar value it returns;
* `GLib.isUtf8Char_iff` — **the characters the escaper copies are the UTF-8 encodings of the
  scalar values of `0x80` or more**.
-/

import DocumentsQuery.UriEscape

set_option relaxedAutoImplicit false
set_option autoImplicit false

namespace Rfc3629

open GData

/-! ### UTF-8 as RFC 3629 defines it -/

/-- A Unicode scalar value: a code point up to `0x10FFFF` that is not a surrogate. -/
def scalar (c : Nat) : Bool := c < 0x110000 && !(0xD800 ≤ c && c ≤ 0xDFFF)

/-- RFC 3629, section 3: the UTF-8 encoding of a scalar value, in one to four bytes. -/
def encode (c : Nat) : Bytes :=
  if c < 0x80 then [UInt8.ofNat c]
  else if c < 0x800 then [UInt8.ofNat (0xC0 + c / 0x40), UInt8.ofNat (0x80 + c % 0x40)]
  else if c < 0x10000 then
    [UInt8.ofNat (0xE0 + c / 0x1000), UInt8.ofNat (0x80 + c / 0x40 % 0x40),
      UInt8.ofNat (0x80 + c % 0x40)]
  else
    [UInt8.ofNat (0xF0 + c / 0x40000), UInt8.ofNat (0x80 + c / 0x1000 % 0x40),
      UInt8.ofNat (0x80 + c / 0x40 % 0x40), UInt8.ofNat (0x80 + c % 0x40)]

theorem encode_one {c : Nat} (h : c < 0x80) : encode c = [UInt8.ofNat c] := by
  simp [encode, h]

theorem encode_two {c : Nat} (h₁ : 0x80 ≤ c) (h₂ : c < 0x800) :
    encode c = [UInt8.ofNat (0xC0 + c / 0x40), UInt8.ofNat (0x80 + c % 0x40)] := by
  rw [encode, if_neg (by omega), if_pos h₂]

theorem encode_three {c : Nat} (h₁ : 0x800 ≤ c) (h₂ : c < 0x10000) :
    encode c = [UInt8.ofNat (0xE0 + c / 0x1000), UInt8.ofNat (0x80 + c / 0x40 % 0x40),
      UInt8.ofNat (0x80 + c % 0x40)] := by
  rw [encode, if_neg (by omega), if_neg (by omega), if_pos h₂]

theorem encode_four {c : Nat} (h : 0x10000 ≤ c) :
    encode c = [UInt8.ofNat (0xF0 + c / 0x40000), UInt8.ofNat (0x80 + c / 0x1000 % 0x40),
      UInt8.ofNat (0x80 + c / 0x40 % 0x40), UInt8.ofNat (0x80 + c % 0x40)] := by
  rw [encode, if_neg (by omega), if_neg (by omega), if_neg (by omega)]

theorem encode_ne_nil (c : Nat) : encode c ≠ [] := by
  unfold encode; split_ifs <;> simp

end Rfc3629

namespace GLib

open GData

/-! ### The decoder, length by length -/

/-- `UInt8.toNat_ofNat_of_lt` with the bound as a literal, so that `omega` can discharge it. -/
theorem toNat_ofNat_of_lt {n : Nat} (h : n < 256) : (UInt8.ofNat n).toNat = n :=
  UInt8.toNat_ofNat_of_lt h

theorem eq_ofNat_iff {c : UInt8} {n : Nat} (h : n < 256) : c = UInt8.ofNat n ↔ c.toNat = n :=
  ⟨fun hc => hc ▸ toNat_ofNat_of_lt h,
    fun hc => UInt8.toNat.inj (hc.trans (toNat_ofNat_of_lt h).symm)⟩

theorem utf8Skip_two {c : UInt8} (h₁ : 0xC0 ≤ c.toNat) (h₂ : c.toNat < 0xE0) :
    utf8Skip c = 2 := by
  rw [utf8Skip, if_neg (by omega), if_pos h₂]

theorem utf8Skip_three {c : UInt8} (h₁ : 0xE0 ≤ c.toNat) (h₂ : c.toNat < 0xF0) :
    utf8Skip c = 3 := by
  rw [utf8Skip, if_neg (by omega), if_neg (by omega), if_pos h₂]

theorem utf8Skip_four {c : UInt8} (h₁ : 0xF0 ≤ c.toNat) (h₂ : c.toNat < 0xF8) :
    utf8Skip c = 4 := by
  rw [utf8Skip, if_neg (by omega), if_neg (by omega), if_neg (by omega), if_pos h₂]

theorem utf8Skip_one {c : UInt8} (h : c.toNat < 0xC0 ∨ 0xFE ≤ c.toNat) : utf8Skip c = 1 := by
  rcases h with h | h
  · rw [utf8Skip, if_pos h]
  · rw [utf8Skip, if_neg (by omega), if_neg (by omega), if_neg (by omega), if_neg (by omega),
      if_neg (by omega), if_neg (by omega)]

/-- A byte that announces a sequence of two or more is a lead byte. -/
theorem lead_of_two_le_utf8Skip {c : UInt8} (h : 2 ≤ utf8Skip c) :
    0xC0 ≤ c.toNat ∧ c.toNat < 0xFE := by
  by_contra hc
  rw [utf8Skip_one (by omega)] at h
  omega

/-- The decoder on a lead byte and the `utf8Skip c - 1` bytes after it: the bytes must all be
continuation bytes, and the code point they spell must not be overlong. -/
theorem utf8GetCharExtended_lead {c : UInt8} (h₁ : 0xC0 ≤ c.toNat) (h₂ : c.toNat < 0xFE)
    {tail : Bytes} (hlen : tail.length = utf8Skip c - 1) (rest : Bytes) :
    utf8GetCharExtended (c :: (tail ++ rest)) =
      if tail.all (fun ch => ch.toNat / 64 = 2) = true ∧ utf8MinCode (utf8Skip c) ≤
          tail.foldl (fun wc ch => wc * 64 + ch.toNat % 64) (c.toNat % (0x80 >>> utf8Skip c))
      then
        some (tail.foldl (fun wc ch => wc * 64 + ch.toNat % 64) (c.toNat % (0x80 >>> utf8Skip c)))
      else none := by
  simp only [utf8GetCharExtended, List.take_left' hlen, hlen, lt_self_iff_false, false_or]
  rw [if_neg (by omega), if_neg (by omega)]
  split_ifs <;> first | rfl | omega | simp_all

theorem utf8GetCharExtended_two {a b : UInt8} (h₁ : 0xC0 ≤ a.toNat) (h₂ : a.toNat < 0xE0)
    (rest : Bytes) :
    utf8GetCharExtended (a :: b :: rest) =
      if b.toNat / 64 = 2 ∧ 0x80 ≤ a.toNat % 32 * 64 + b.toNat % 64
      then some (a.toNat % 32 * 64 + b.toNat % 64) else none := by
  have hs := utf8Skip_two h₁ h₂
  rw [show b :: rest = [b] ++ rest from rfl,
    utf8GetCharExtended_lead h₁ (by omega) (by simp [hs])]
  simp [hs, utf8MinCode]

theorem utf8GetCharExtended_three {a b d : UInt8} (h₁ : 0xE0 ≤ a.toNat) (h₂ : a.toNat < 0xF0)
    (rest : Bytes) :
    utf8GetCharExtended (a :: b :: d :: rest) =
      if b.toNat / 64 = 2 ∧ d.toNat / 64 = 2 ∧
          0x800 ≤ (a.toNat % 16 * 64 + b.toNat % 64) * 64 + d.toNat % 64
      then some ((a.toNat % 16 * 64 + b.toNat % 64) * 64 + d.toNat % 64) else none := by
  have hs := utf8Skip_three h₁ h₂
  rw [show b :: d :: rest = [b, d] ++ rest from rfl,
    utf8GetCharExtended_lead (by omega) (by omega) (by simp [hs])]
  simp [hs, utf8MinCode, and_assoc]

theorem utf8GetCharExtended_four {a b d e : UInt8} (h₁ : 0xF0 ≤ a.toNat) (h₂ : a.toNat < 0xF8)
    (rest : Bytes) :
    utf8GetCharExtended (a :: b :: d :: e :: rest) =
      if b.toNat / 64 = 2 ∧ d.toNat / 64 = 2 ∧ e.toNat / 64 = 2 ∧
          0x10000 ≤ ((a.toNat % 8 * 64 + b.toNat % 64) * 64 + d.toNat % 64) * 64 + e.toNat % 64
      then some (((a.toNat % 8 * 64 + b.toNat % 64) * 64 + d.toNat % 64) * 64 + e.toNat % 64)
      else none := by
  have hs := utf8Skip_four h₁ h₂
  rw [show b :: d :: e :: rest = [b, d, e] ++ rest from rfl,
    utf8GetCharExtended_lead (by omega) (by omega) (by simp [hs])]
  simp [hs, utf8MinCode, and_assoc]

/-- A sequence of five or six bytes spells a code point of at least `0x200000`. -/
theorem utf8MinCode_utf8Skip_of_ge {c : UInt8} (h : 0xF8 ≤ c.toNat) :
    0x200000 ≤ utf8MinCode (utf8Skip c) := by
  unfold utf8Skip
  rw [if_neg (by omega), if_neg (by omega), if_neg (by omega), if_neg (by omega)]
  split_ifs <;> decide

/-- `UNICODE_VALID` is the test for a scalar value. -/
theorem unicodeValid_eq_scalar (wc : Nat) : unicodeValid wc = Rfc3629.scalar wc := by
  rw [Bool.eq_iff_iff]
  simp only [unicodeValid, Rfc3629.scalar, Bool.and_eq_true, decide_eq_true_eq, bne_iff_ne,
    ne_eq, Bool.not_eq_true', Bool.and_eq_false_imp, decide_eq_false_iff_not]
  omega

/-! ### Base-64 digits -/

/-- A continuation byte `0x80 + n % 64` is one, and carries the six bits `n % 64`. -/
theorem cont_div (n : Nat) : (0x80 + n % 64) / 64 = 2 := by omega

theorem cont_mod (n : Nat) : (0x80 + n % 64) % 64 = n % 64 := by omega

theorem div64 {a w : Nat} (hw : w < 64) : (a * 64 + w) / 64 = a := by omega

theorem mod64 {a w : Nat} (hw : w < 64) : (a * 64 + w) % 64 = w := by omega

theorem div_0x1000 (n : Nat) : n / 0x1000 = n / 64 / 64 := (Nat.div_div_eq_div_mul n 64 64).symm

theorem div_0x40000 (n : Nat) : n / 0x40000 = n / 64 / 64 / 64 := by
  rw [Nat.div_div_eq_div_mul, Nat.div_div_eq_div_mul]

/-! ### Each length against the encoding -/

theorem utf8GetCharExtended_encode_two {c : Nat} (h₁ : 0x80 ≤ c) (h₂ : c < 0x800)
    (rest : Bytes) : utf8GetCharExtended (Rfc3629.encode c ++ rest) = some c := by
  have hlead : (UInt8.ofNat (0xC0 + c / 0x40)).toNat = 0xC0 + c / 0x40 :=
    toNat_ofNat_of_lt (by omega)
  have hm : (0xC0 + c / 0x40) % 32 = c / 0x40 := by omega
  rw [Rfc3629.encode_two h₁ h₂, List.cons_append, List.cons_append, List.nil_append,
    utf8GetCharExtended_two (by omega) (by omega), toNat_ofNat_of_lt (by omega), hlead, hm,
    cont_div, cont_mod, Nat.div_add_mod', if_pos ⟨rfl, h₁⟩]

theorem utf8GetCharExtended_encode_three {c : Nat} (h₁ : 0x800 ≤ c) (h₂ : c < 0x10000)
    (rest : Bytes) : utf8GetCharExtended (Rfc3629.encode c ++ rest) = some c := by
  have hlead : (UInt8.ofNat (0xE0 + c / 0x1000)).toNat = 0xE0 + c / 0x1000 :=
    toNat_ofNat_of_lt (by omega)
  have hm : (0xE0 + c / 0x1000) % 16 = c / 0x1000 := by omega
  rw [Rfc3629.encode_three h₁ h₂, List.cons_append, List.cons_append, List.cons_append,
    List.nil_append, utf8GetCharExtended_three (by omega) (by omega),
    toNat_ofNat_of_lt (by omega), toNat_ofNat_of_lt (by omega), hlead, hm, cont_div, cont_div,
    cont_mod, cont_mod, div_0x1000, Nat.div_add_mod', Nat.div_add_mod', if_pos ⟨rfl, rfl, h₁⟩]

theorem utf8GetCharExtended_encode_four {c : Nat} (h₁ : 0x10000 ≤ c) (h₂ : c < 0x110000)
    (rest : Bytes) : utf8GetCharExtended (Rfc3629.encode c ++ rest) = some c := by
  have hlead : (UInt8.ofNat (0xF0 + c / 0x40000)).toNat = 0xF0 + c / 0x40000 :=
    toNat_ofNat_of_lt (by omega)
  have hm : (0xF0 + c / 0x40000) % 8 = c / 0x40000 := by omega
  rw [Rfc3629.encode_four h₁, List.cons_append, List.cons_append, List.cons_append,
    List.cons_append, List.nil_append, utf8GetCharExtended_four (by omega) (by omega),
    toNat_ofNat_of_lt (by omega), toNat_ofNat_of_lt (by omega), toNat_ofNat_of_lt (by omega),
    hlead, hm, cont_div, cont_div, cont_div, cont_mod, cont_mod, cont_mod, div_0x40000,
    div_0x1000, Nat.div_add_mod', Nat.div_add_mod', Nat.div_add_mod', if_pos ⟨rfl, rfl, rfl, h₁⟩]

/-- What the decoder accepts from a two-byte sequence is the encoding of the code point it
returns. -/
theorem encode_of_extended_two {a b : UInt8} {rest : Bytes} {wc : Nat} (h₁ : 0xC0 ≤ a.toNat)
    (h₂ : a.toNat < 0xE0) (h : utf8GetCharExtended (a :: b :: rest) = some wc) :
    0x80 ≤ wc ∧ [a, b] = Rfc3629.encode wc := by
  rw [utf8GetCharExtended_two h₁ h₂] at h
  split_ifs at h with hcond
  cases h
  have hb := Nat.mod_lt b.toNat (by decide : 64 > 0)
  refine ⟨hcond.2, ?_⟩
  rw [Rfc3629.encode_two hcond.2 (by omega), div64 hb, mod64 hb]
  simp (disch := omega) only [List.cons.injEq, eq_ofNat_iff, and_true]
  omega

/-- What the decoder accepts from a three-byte sequence is the encoding of the code point it
returns. -/
theorem encode_of_extended_three {a b d : UInt8} {rest : Bytes} {wc : Nat}
    (h₁ : 0xE0 ≤ a.toNat) (h₂ : a.toNat < 0xF0)
    (h : utf8GetCharExtended (a :: b :: d :: rest) = some wc) :
    0x80 ≤ wc ∧ [a, b, d] = Rfc3629.encode wc := by
  rw [utf8GetCharExtended_three h₁ h₂] at h
  split_ifs at h with hcond
  cases h
  have hb := Nat.mod_lt b.toNat (by decide : 64 > 0)
  have hd := Nat.mod_lt d.toNat (by decide : 64 > 0)
  refine ⟨by omega, ?_⟩
  rw [Rfc3629.encode_three hcond.2.2 (by omega), div_0x1000, div64 hd, div64 hb, mod64 hb,
    mod64 hd]
  simp (disch := omega) only [List.cons.injEq, eq_ofNat_iff, and_true]
  omega

/-- What the decoder accepts from a four-byte sequence is the encoding of the code point it
returns. -/
theorem encode_of_extended_four {a b d e : UInt8} {rest : Bytes} {wc : Nat}
    (h₁ : 0xF0 ≤ a.toNat) (h₂ : a.toNat < 0xF8)
    (h : utf8GetCharExtended (a :: b :: d :: e :: rest) = some wc) :
    0x80 ≤ wc ∧ [a, b, d, e] = Rfc3629.encode wc := by
  rw [utf8GetCharExtended_four h₁ h₂] at h
  split_ifs at h with hcond
  cases h
  have hb := Nat.mod_lt b.toNat (by decide : 64 > 0)
  have hd := Nat.mod_lt d.toNat (by decide : 64 > 0)
  have he := Nat.mod_lt e.toNat (by decide : 64 > 0)
  refine ⟨by omega, ?_⟩
  rw [Rfc3629.encode_four hcond.2.2.2, div_0x40000, div_0x1000, div64 he, div64 hd, div64 hb,
    mod64 hb, mod64 hd, mod64 he]
  simp (disch := omega) only [List.cons.injEq, eq_ofNat_iff, and_true]
  omega

/-! ### The check against the encoding -/

theorem lt_of_scalar {c : Nat} (hs : Rfc3629.scalar c) : c < 0x110000 := by
  simp only [Rfc3629.scalar, Bool.and_eq_true, decide_eq_true_eq] at hs; exact hs.1

/-- **The check decodes the encoding of every scalar value**, whatever follows it. -/
theorem utf8GetCharValidated_encode {c : Nat} (hc : Rfc3629.scalar c) (rest : Bytes) :
    utf8GetCharValidated (Rfc3629.encode c ++ rest) = some c := by
  have hv : unicodeValid c = true := by rw [unicodeValid_eq_scalar]; exact hc
  suffices h : utf8GetCharExtended (Rfc3629.encode c ++ rest) = some c by
    simp [utf8GetCharValidated, h, hv]
  rcases (by omega : c < 0x80 ∨ (0x80 ≤ c ∧ c < 0x800) ∨ (0x800 ≤ c ∧ c < 0x10000) ∨
    0x10000 ≤ c) with h | ⟨h₁, h₂⟩ | ⟨h₁, h₂⟩ | h
  · rw [Rfc3629.encode_one h, List.singleton_append, utf8GetCharExtended,
      toNat_ofNat_of_lt (by omega), if_pos h]
  · exact utf8GetCharExtended_encode_two h₁ h₂ rest
  · exact utf8GetCharExtended_encode_three h₁ h₂ rest
  · exact utf8GetCharExtended_encode_four h (lt_of_scalar hc) rest

/-- **What the check accepts from a lead byte of `0x80` or more is the encoding of the scalar
value it returns**: a lead byte and the `utf8Skip c - 1` bytes after it, which spell a scalar
value of `0x80` or more in the shortest form. -/
theorem utf8GetCharValidated_sound {c : UInt8} {rest : Bytes} {wc : Nat} (hc : 0x80 ≤ c.toNat)
    (h : utf8GetCharValidated (c :: rest) = some wc) :
    Rfc3629.scalar wc ∧ 0x80 ≤ wc ∧ c :: rest.take (utf8Skip c - 1) = Rfc3629.encode wc := by
  obtain ⟨hext, hv⟩ : utf8GetCharExtended (c :: rest) = some wc ∧ unicodeValid wc = true := by
    simpa [utf8GetCharValidated] using h
  have hs : Rfc3629.scalar wc := by rwa [← unicodeValid_eq_scalar]
  obtain ⟨hskip, hlen, -⟩ := utf8GetCharValidated_lead hc (by rw [h]; rfl)
  have hlead := lead_of_two_le_utf8Skip hskip
  refine ⟨hs, ?_⟩
  rcases (by omega : c.toNat < 0xE0 ∨ (0xE0 ≤ c.toNat ∧ c.toNat < 0xF0) ∨
    (0xF0 ≤ c.toNat ∧ c.toNat < 0xF8) ∨ 0xF8 ≤ c.toNat) with h₂ | ⟨h₁, h₂⟩ | ⟨h₁, h₂⟩ | h₅
  · rw [utf8Skip_two hlead.1 h₂] at hlen ⊢
    rcases rest with _ | ⟨b, rest⟩
    · simp at hlen
    exact encode_of_extended_two hlead.1 h₂ hext
  · rw [utf8Skip_three h₁ h₂] at hlen ⊢
    rcases rest with _ | ⟨b, _ | ⟨d, rest⟩⟩
    · simp at hlen
    · simp at hlen
    exact encode_of_extended_three h₁ h₂ hext
  · rw [utf8Skip_four h₁ h₂] at hlen ⊢
    rcases rest with _ | ⟨b, _ | ⟨d, _ | ⟨e, rest⟩⟩⟩
    · simp at hlen
    · simp at hlen
    · simp at hlen
    exact encode_of_extended_four h₁ h₂ hext
  · rw [← List.take_append_drop (utf8Skip c - 1) rest,
      utf8GetCharExtended_lead hlead.1 hlead.2 (by simp; omega)] at hext
    split_ifs at hext with hcond
    cases hext
    have := utf8MinCode_utf8Skip_of_ge h₅
    have := lt_of_scalar hs
    omega

/-- The encoding of a scalar value of `0x80` or more starts with a lead byte of `0x80` or more,
followed by the `utf8Skip` count of bytes it announces. -/
theorem encode_lead {c : Nat} (hs : Rfc3629.scalar c) (h : 0x80 ≤ c) :
    ∃ a t, Rfc3629.encode c = a :: t ∧ 0x80 ≤ a.toNat ∧ t.length = utf8Skip a - 1 := by
  have hlt := lt_of_scalar hs
  rcases (by omega : c < 0x800 ∨ (0x800 ≤ c ∧ c < 0x10000) ∨ 0x10000 ≤ c) with h₂ | ⟨h₁, h₂⟩ | h₁
  · have ha : (UInt8.ofNat (0xC0 + c / 0x40)).toNat = 0xC0 + c / 0x40 :=
      toNat_ofNat_of_lt (by omega)
    exact ⟨_, _, Rfc3629.encode_two h h₂, by omega, by rw [utf8Skip_two (by omega) (by omega)]; rfl⟩
  · have ha : (UInt8.ofNat (0xE0 + c / 0x1000)).toNat = 0xE0 + c / 0x1000 :=
      toNat_ofNat_of_lt (by omega)
    exact ⟨_, _, Rfc3629.encode_three h₁ h₂, by omega,
      by rw [utf8Skip_three (by omega) (by omega)]; rfl⟩
  · have ha : (UInt8.ofNat (0xF0 + c / 0x40000)).toNat = 0xF0 + c / 0x40000 :=
      toNat_ofNat_of_lt (by omega)
    exact ⟨_, _, Rfc3629.encode_four h₁, by omega,
      by rw [utf8Skip_four (by omega) (by omega)]; rfl⟩

/-- In the encoding of a scalar value of `0x80` or more the lead byte is at least `0xC0` and every
byte after it is a continuation byte, `0x80` to `0xBF`: no encoding starts inside another. -/
theorem encode_cont {c : Nat} (hs : Rfc3629.scalar c) (h : 0x80 ≤ c) :
    ∃ a t, Rfc3629.encode c = a :: t ∧ 0xC0 ≤ a.toNat ∧
      ∀ x ∈ t, 0x80 ≤ x.toNat ∧ x.toNat < 0xC0 := by
  have hlt := lt_of_scalar hs
  have hlead : ∀ n, 0xC0 ≤ n → n < 256 → 0xC0 ≤ (UInt8.ofNat n).toNat := fun n h₁ h₂ => by
    rw [toNat_ofNat_of_lt h₂]; exact h₁
  have hcont : ∀ l : List Nat, ∀ x ∈ l.map (fun n => UInt8.ofNat (0x80 + n % 0x40)),
      0x80 ≤ x.toNat ∧ x.toNat < 0xC0 := by
    simp only [List.mem_map]
    rintro l x ⟨n, -, rfl⟩
    rw [toNat_ofNat_of_lt (by omega)]; omega
  rcases (by omega : c < 0x800 ∨ (0x800 ≤ c ∧ c < 0x10000) ∨ 0x10000 ≤ c) with h₂ | ⟨h₁, h₂⟩ | h₁
  · exact ⟨_, _, Rfc3629.encode_two h h₂, hlead _ (by omega) (by omega), hcont [c]⟩
  · exact ⟨_, _, Rfc3629.encode_three h₁ h₂, hlead _ (by omega) (by omega), hcont [c / 0x40, c]⟩
  · exact ⟨_, _, Rfc3629.encode_four h₁, hlead _ (by omega) (by omega),
      hcont [c / 0x1000, c / 0x40, c]⟩

/-- Two encodings of scalar values of `0x80` or more that start one string are the same: the
lead byte fixes the length, and the check then fixes the value. -/
theorem encode_prefix_unique {c c' : Nat} (hc : Rfc3629.scalar c) (hc' : Rfc3629.scalar c')
    (h : 0x80 ≤ c) (h' : 0x80 ≤ c') {s : Bytes} (hp : Rfc3629.encode c <+: s)
    (hp' : Rfc3629.encode c' <+: s) : c = c' := by
  obtain ⟨a, t, he, -, ht⟩ := encode_lead hc h
  obtain ⟨a', t', he', -, ht'⟩ := encode_lead hc' h'
  obtain ⟨u, rfl⟩ := hp
  obtain ⟨u', hu⟩ := hp'
  have ha : a' = a := List.head_eq_of_cons_eq (by simpa only [he, he', List.cons_append] using hu)
  have heq := List.append_inj_left hu (by rw [he, he', List.length_cons, List.length_cons, ht, ht',
    ha])
  have hv := utf8GetCharValidated_encode hc' []
  rw [heq, utf8GetCharValidated_encode hc []] at hv
  exact Option.some.inj hv

/-- **The characters the escaper copies are the UTF-8 encodings of the scalar values of `0x80`
or more.** -/
theorem isUtf8Char_iff (ch : Bytes) :
    IsUtf8Char ch ↔ ∃ c, Rfc3629.scalar c ∧ 0x80 ≤ c ∧ ch = Rfc3629.encode c := by
  constructor
  · rintro ⟨c, rest, rfl, hc, hlen, hv⟩
    obtain ⟨wc, hwc⟩ := Option.isSome_iff_exists.1 hv
    obtain ⟨hs, hge, henc⟩ := utf8GetCharValidated_sound hc hwc
    rw [← hlen, List.take_length] at henc
    exact ⟨wc, hs, hge, henc⟩
  · rintro ⟨c, hs, hge, rfl⟩
    obtain ⟨a, t, he, ha, ht⟩ := encode_lead hs hge
    have hv := utf8GetCharValidated_encode hs []
    rw [List.append_nil] at hv
    exact ⟨a, t, he, ha, ht, by rw [hv]; rfl⟩

end GLib
