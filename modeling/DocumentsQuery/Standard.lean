/-
**The escaper against standard percent-encoding.**

RFC 3986 says how a value goes into a query component: the unreserved characters
`ALPHA / DIGIT / "-" / "." / "_" / "~"` stand for themselves, and every other byte is written as
`%` and two hexadecimal digits, upper case as section 2.1 asks of producers.  `Uri.encode` is that
encoding, written from the RFC's grammar rather than from GLib's code.  This module compares it
with `g_string_append_uri_escaped (string, unescaped, NULL, allow_utf8)`.  The two write the same
bytes when `allow_utf8` is not set, and, when it is, on every ASCII string.  With `allow_utf8`
set, as at every call of `get_query_uri`, the escaper is the standard with one change: each
well-formed multi-byte UTF-8 character, the RFC 3629 encoding of a scalar value of `0x80` or more,
is copied as it is.  `Uri.EncodesKeepingUtf8` states that encoding from the two RFCs alone, and
the escaper writes exactly it.

Main definitions:

* `Uri.unreserved`, `Uri.hexDigit`, `Uri.encode` — standard percent-encoding;
* `Uri.EncodesKeepingUtf8` — standard percent-encoding with well-formed UTF-8 characters kept.

Main results:

* `GLib.isValid_eq_unreserved`, `GLib.percentEncode_eq` — the escaper's test and its `%XX` are
  the RFC's;
* `GLib.uriEscaped_eq_encode` — **the escaper is standard percent-encoding** when UTF-8 is not
  allowed or the string is ASCII;
* `Uri.EncodesKeepingUtf8.unique`, `Uri.EncodesKeepingUtf8.eq_encode` — a value has one text
  with UTF-8 kept, and on ASCII it is the standard one;
* `GLib.uriEscaped_eq_iff` — **with UTF-8 allowed, the escaper writes exactly the standard
  encoding with well-formed UTF-8 characters kept**;
* `GLib.uriEscaped_utf8` — **a well-formed multi-byte character is copied as it is wherever it
  stands**, and so the text is not the standard one.
-/

import DocumentsQuery.Utf8

set_option relaxedAutoImplicit false
set_option autoImplicit false

namespace Uri

open GData

/-! ### Standard percent-encoding -/

/-- RFC 3986, section 2.3: `unreserved = ALPHA / DIGIT / "-" / "." / "_" / "~"`, where
`ALPHA = %x41-5A / %x61-7A` and `DIGIT = %x30-39`. -/
def unreserved (c : UInt8) : Bool :=
  (0x41 ≤ c.toNat && c.toNat ≤ 0x5A) || (0x61 ≤ c.toNat && c.toNat ≤ 0x7A) ||
    (0x30 ≤ c.toNat && c.toNat ≤ 0x39) || c.toNat == 0x2D || c.toNat == 0x2E ||
    c.toNat == 0x5F || c.toNat == 0x7E

/-- The upper-case hexadecimal digit for `n < 16`. -/
def hexDigit (n : Nat) : UInt8 := UInt8.ofNat (if n < 10 then 0x30 + n else 0x41 + n - 10)

/-- One byte of a value: itself when unreserved, otherwise `%` and its two hexadecimal digits. -/
def encodeByte (c : UInt8) : Bytes :=
  if unreserved c then [c] else [0x25, hexDigit (c.toNat / 16), hexDigit (c.toNat % 16)]

/-- Standard percent-encoding of a value. -/
def encode (s : Bytes) : Bytes := s.flatMap encodeByte

@[simp] theorem encode_nil : encode [] = [] := rfl

@[simp] theorem encode_cons (c : UInt8) (s : Bytes) :
    encode (c :: s) = encodeByte c ++ encode s := rfl

/-- A byte of `0x80` or more is never unreserved, so it is written `%XX`. -/
theorem encodeByte_of_high {c : UInt8} (hc : 0x80 ≤ c.toNat) :
    encodeByte c = [0x25, hexDigit (c.toNat / 16), hexDigit (c.toNat % 16)] := by
  have : unreserved c = false := by
    simp only [unreserved, Bool.or_eq_false_iff, Bool.and_eq_false_imp, decide_eq_true_eq,
      decide_eq_false_iff_not, beq_eq_false_iff_ne]
    omega
  simp [encodeByte, this]

/-- Standard percent-encoding writes only ASCII. -/
theorem encodeByte_ascii (c : UInt8) : ∀ x ∈ encodeByte c, x.toNat < 0x80 := by
  have hhex : ∀ n < 16, (hexDigit n).toNat < 0x80 := by decide
  have hc : c.toNat < 256 := c.toNat_lt_size
  unfold encodeByte
  split_ifs with hu
  · simp only [unreserved, Bool.or_eq_true, Bool.and_eq_true, decide_eq_true_eq, beq_iff_eq] at hu
    simp only [List.mem_singleton, forall_eq]
    omega
  · simp only [List.mem_cons, List.not_mem_nil, or_false, forall_eq_or_imp, forall_eq]
    exact ⟨by decide, hhex _ (by omega), hhex _ (by omega)⟩

theorem encode_ascii (s : Bytes) : ∀ x ∈ encode s, x.toNat < 0x80 := by
  simp only [encode, List.mem_flatMap]
  rintro x ⟨c, -, hx⟩
  exact encodeByte_ascii c x hx

/-! ### The standard, with UTF-8 characters kept -/

/-- `EncodesKeepingUtf8 s t`: `t` is the value `s` in standard percent-encoding, except that each
well-formed multi-byte UTF-8 character of `s` — the RFC 3629 encoding of a scalar value of `0x80`
or more — is kept as it is.  A byte is encoded on its own only where no such character starts, so
a value has one text (`EncodesKeepingUtf8.unique`). -/
inductive EncodesKeepingUtf8 : Bytes → Bytes → Prop
  | nil : EncodesKeepingUtf8 [] []
  | char {c : Nat} {s t : Bytes} : Rfc3629.scalar c → 0x80 ≤ c → EncodesKeepingUtf8 s t →
      EncodesKeepingUtf8 (Rfc3629.encode c ++ s) (Rfc3629.encode c ++ t)
  | byte {b : UInt8} {s t : Bytes} :
      (∀ c, Rfc3629.scalar c → 0x80 ≤ c → ¬ Rfc3629.encode c <+: b :: s) →
      EncodesKeepingUtf8 s t → EncodesKeepingUtf8 (b :: s) (encodeByte b ++ t)

/-- An encoding that starts `b :: (s ++ encode c ++ y)` lies within `b :: s`: its bytes after the
first are continuation bytes, and the lead byte of `encode c` is not one. -/
theorem prefix_of_prefix_append_encode {c c' : Nat} (hc : Rfc3629.scalar c) (h : 0x80 ≤ c)
    (hc' : Rfc3629.scalar c') (h' : 0x80 ≤ c') {b : UInt8} {s y : Bytes}
    (hp : Rfc3629.encode c' <+: b :: (s ++ (Rfc3629.encode c ++ y))) :
    Rfc3629.encode c' <+: b :: s := by
  rcases Nat.lt_or_ge (b :: s).length (Rfc3629.encode c').length with hlt | hle
  · obtain ⟨a, t, he, ha, -⟩ := GLib.encode_cont hc h
    obtain ⟨a', t', he', -, hcont⟩ := GLib.encode_cont hc' h'
    obtain ⟨w, hw⟩ := hp
    rw [he', List.cons_append] at hw
    rw [he', List.length_cons, List.length_cons] at hlt
    have hat := congrArg (·[s.length]?) (List.cons.inj hw).2
    simp only [List.getElem?_append_left (by omega : s.length < t'.length),
      List.getElem?_append_right (le_refl s.length), Nat.sub_self, he, List.cons_append,
      List.getElem?_cons_zero] at hat
    have := (hcont a (List.getElem?_mem hat)).2
    omega
  · exact List.prefix_of_prefix_length_le hp (List.prefix_append (b :: s) _) hle

namespace EncodesKeepingUtf8

/-- What the value starts with decides which rule wrote the text. -/
theorem inv {s t : Bytes} (h : EncodesKeepingUtf8 s t) :
    s = [] ∧ t = [] ∨
      (∃ c s' t', Rfc3629.scalar c ∧ 0x80 ≤ c ∧ s = Rfc3629.encode c ++ s' ∧
        t = Rfc3629.encode c ++ t' ∧ EncodesKeepingUtf8 s' t') ∨
      ∃ b s' t', (∀ c, Rfc3629.scalar c → 0x80 ≤ c → ¬ Rfc3629.encode c <+: b :: s') ∧
        s = b :: s' ∧ t = encodeByte b ++ t' ∧ EncodesKeepingUtf8 s' t' := by
  cases h with
  | nil => exact .inl ⟨rfl, rfl⟩
  | char hc h ht => exact .inr (.inl ⟨_, _, _, hc, h, rfl, rfl, ht⟩)
  | byte hg ht => exact .inr (.inr ⟨_, _, _, hg, rfl, rfl, ht⟩)

/-- **A value has one text**: at each point either a character starts, and by
`GLib.encode_prefix_unique` only one can, or no character starts and the byte is encoded. -/
theorem unique {s t t' : Bytes} (h : EncodesKeepingUtf8 s t) (h' : EncodesKeepingUtf8 s t') :
    t = t' := by
  induction h generalizing t' with
  | nil =>
    rcases h'.inv with ⟨-, rfl⟩ | ⟨c, _, _, -, -, hs, -⟩ | ⟨_, _, _, -, hs, -⟩
    · rfl
    · exact absurd (List.append_eq_nil.1 hs.symm).1 (Rfc3629.encode_ne_nil c)
    · cases hs
  | @char c s t hc hge _ ih =>
    rcases h'.inv with ⟨hs, -⟩ | ⟨c', s', u, hc', hge', hs, rfl, hu⟩ | ⟨b, s', u, hg, hs, -⟩
    · exact absurd (List.append_eq_nil.1 hs).1 (Rfc3629.encode_ne_nil c)
    · obtain rfl := GLib.encode_prefix_unique hc hc' hge hge' (List.prefix_append _ s) ⟨s', hs.symm⟩
      rw [ih (List.append_cancel_left hs ▸ hu)]
    · exact absurd ⟨s, hs⟩ (hg c hc hge)
  | @byte b s t hg _ ih =>
    rcases h'.inv with ⟨hs, -⟩ | ⟨c, s', u, hc, hge, hs, -⟩ | ⟨b', s', u, -, hs, rfl, hu⟩
    · cases hs
    · exact absurd ⟨s', hs.symm⟩ (hg c hc hge)
    · obtain ⟨rfl, rfl⟩ := List.cons.inj hs
      rw [ih hu]

/-- A character kept between two texts: whatever precedes a well-formed character, the text of
the whole is the text before it, the character, and the text after it. -/
theorem append_char {x t y u : Bytes} {c : Nat} (hx : EncodesKeepingUtf8 x t)
    (hc : Rfc3629.scalar c) (hge : 0x80 ≤ c) (hy : EncodesKeepingUtf8 y u) :
    EncodesKeepingUtf8 (x ++ (Rfc3629.encode c ++ y)) (t ++ (Rfc3629.encode c ++ u)) := by
  induction hx with
  | nil => exact .char hc hge hy
  | char hc' hge' _ ih => rw [List.append_assoc, List.append_assoc]; exact .char hc' hge' ih
  | byte hg _ ih =>
    rw [List.cons_append, List.append_assoc]
    exact .byte (fun c' hc' hge' hp => hg c' hc' hge'
      (prefix_of_prefix_append_encode hc hge hc' hge' hp)) ih

end EncodesKeepingUtf8

end Uri

namespace GLib

open GData

/-! ### The escaper's tests are the RFC's -/

theorem eq_toUInt8_iff (c : UInt8) (d : Char) : c = d.toUInt8 ↔ c.toNat = d.toUInt8.toNat :=
  ⟨congrArg _, UInt8.toNat.inj⟩

/-- `is_valid` with no reserved character allowed is the unreserved set. -/
theorem isValid_eq_unreserved (c : UInt8) : isValid c = Uri.unreserved c := by
  have h₁ : '-'.toUInt8.toNat = 0x2D := rfl
  have h₂ : '.'.toUInt8.toNat = 0x2E := rfl
  have h₃ : '_'.toUInt8.toNat = 0x5F := rfl
  have h₄ : '~'.toUInt8.toNat = 0x7E := rfl
  rw [Bool.eq_iff_iff]
  simp only [isValid, asciiIsalnum, Uri.unreserved, Bool.or_eq_true, Bool.and_eq_true,
    decide_eq_true_eq, beq_iff_eq, eq_toUInt8_iff, h₁, h₂, h₃, h₄]
  omega

theorem hex_getD {n : Nat} (h : n < 16) : hex.getD n 0 = Uri.hexDigit n := by
  revert n; decide

/-- GLib's `%XX` is the RFC's, upper-case digits included. -/
theorem percentEncode_eq (c : UInt8) :
    percentEncode c = [0x25, Uri.hexDigit (c.toNat / 16), Uri.hexDigit (c.toNat % 16)] := by
  have hc : c.toNat < 256 := c.toNat_lt_size
  rw [percentEncode, hex_getD (by omega), hex_getD (by omega)]
  rfl

/-! ### Where the escaper and the standard agree -/

/-- A turn of the loop that copies no UTF-8 character writes the byte itself or its `%XX`. -/
theorem uriEscaped_cons_of_not_utf8 {a : Bool} {c : UInt8} {rest : Bytes}
    (h : ¬(0x80 ≤ c.toNat ∧ a = true ∧ (utf8GetCharValidated (c :: rest)).isSome)) :
    uriEscaped a (c :: rest) =
      (if isValid c then [c] else percentEncode c) ++ uriEscaped a rest := by
  simp only [uriEscaped, uriEscapeLoop, if_neg h]
  split <;> rfl

/-- **The escaper is standard percent-encoding** when UTF-8 is not allowed, or when the string is
ASCII: then every byte is written as RFC 3986 writes it. -/
theorem uriEscaped_eq_encode (a : Bool) (s : Bytes) (hs : a = false ∨ ∀ b ∈ s, b.toNat < 0x80) :
    uriEscaped a s = Uri.encode s := by
  induction s with
  | nil => rfl
  | cons c rest ih =>
    have hc : ¬(0x80 ≤ c.toNat ∧ a = true ∧ (utf8GetCharValidated (c :: rest)).isSome) := by
      rintro ⟨hc, ha, -⟩
      rcases hs with hs | hs
      · simp [hs] at ha
      · exact absurd (hs c (List.mem_cons_self _ _)) (by omega)
    rw [uriEscaped_cons_of_not_utf8 hc,
      ih (hs.imp_right fun h b hb => h b (List.mem_cons_of_mem _ hb)), Uri.encode_cons,
      Uri.encodeByte, isValid_eq_unreserved, percentEncode_eq]

/-- The title `Annual Report`, ASCII, is written the standard way. -/
theorem uriEscaped_eq_encode_annual :
    (true = false ∨ ∀ b ∈ ascii "Annual Report", b.toNat < 0x80) ∧
      uriEscaped true (ascii "Annual Report") = Uri.encode (ascii "Annual Report") :=
  have h : true = false ∨ ∀ b ∈ ascii "Annual Report", b.toNat < 0x80 := .inr (by decide)
  ⟨h, uriEscaped_eq_encode true _ h⟩

/-! ### Where they part -/

/-- **With UTF-8 allowed, the escaper is standard percent-encoding except that each well-formed
multi-byte UTF-8 character is kept as it is.**  A lead byte of `0x80` or more that the check
accepts starts the encoding of the scalar value it returns (`utf8GetCharValidated_sound`), and a
byte where no such encoding starts fails the check (`utf8GetCharValidated_encode`). -/
theorem uriEscaped_encodesKeepingUtf8 : ∀ s : Bytes, Uri.EncodesKeepingUtf8 s (uriEscaped true s)
  | [] => .nil
  | c :: rest => by
    by_cases hutf : 0x80 ≤ c.toNat ∧ (utf8GetCharValidated (c :: rest)).isSome
    · obtain ⟨hc, hv⟩ := hutf
      obtain ⟨wc, hwc⟩ := Option.isSome_iff_exists.1 hv
      obtain ⟨hs, hge, henc⟩ := utf8GetCharValidated_sound hc hwc
      have hcopy : uriEscaped true (c :: rest) =
          Rfc3629.encode wc ++ uriEscaped true (rest.drop (utf8Skip c - 1)) := by
        rw [uriEscaped, uriEscapeLoop.eq_3, if_pos ⟨hc, rfl, hv⟩, uriEscapeLoop_copy,
          ← List.cons_append, henc]
        rfl
      have hsplit : c :: rest = Rfc3629.encode wc ++ rest.drop (utf8Skip c - 1) := by
        rw [← henc, List.cons_append, List.take_append_drop]
      rw [hcopy, hsplit]
      exact .char hs hge (uriEscaped_encodesKeepingUtf8 _)
    · rw [uriEscaped_cons_of_not_utf8 fun ⟨hc, _, hv⟩ => hutf ⟨hc, hv⟩, isValid_eq_unreserved,
        percentEncode_eq, ← Uri.encodeByte]
      refine .byte (fun wc hs hge ⟨u, hu⟩ => hutf ?_) (uriEscaped_encodesKeepingUtf8 rest)
      obtain ⟨a, t, he, ha, -⟩ := encode_lead hs hge
      have hv := utf8GetCharValidated_encode hs u
      rw [he, List.cons_append] at hu hv
      obtain ⟨rfl, rfl⟩ := List.cons.inj hu
      exact ⟨ha, by rw [hv]; rfl⟩
termination_by s => s.length
decreasing_by all_goals simp_wf <;> omega

/-- **With UTF-8 allowed, the escaper writes a value exactly as standard percent-encoding with
well-formed UTF-8 characters kept**: that text and no other. -/
theorem uriEscaped_eq_iff (s t : Bytes) :
    uriEscaped true s = t ↔ Uri.EncodesKeepingUtf8 s t :=
  ⟨fun h => h ▸ uriEscaped_encodesKeepingUtf8 s,
    fun h => (uriEscaped_encodesKeepingUtf8 s).unique h⟩

/-- **With UTF-8 allowed, a well-formed multi-byte character is copied as it is, wherever it
stands**: the text of the whole is the text before it, the character, and the text after it;
and since the standard writes only ASCII, the text is not the standard one. -/
theorem uriEscaped_utf8 {c : Nat} (hc : Rfc3629.scalar c) (h : 0x80 ≤ c) (pre post : Bytes) :
    uriEscaped true (pre ++ Rfc3629.encode c ++ post) =
        uriEscaped true pre ++ Rfc3629.encode c ++ uriEscaped true post ∧
      uriEscaped true (pre ++ Rfc3629.encode c ++ post) ≠
        Uri.encode (pre ++ Rfc3629.encode c ++ post) := by
  have hsplit : uriEscaped true (pre ++ Rfc3629.encode c ++ post) =
      uriEscaped true pre ++ Rfc3629.encode c ++ uriEscaped true post := by
    simp only [List.append_assoc]
    exact (uriEscaped_encodesKeepingUtf8 _).unique ((uriEscaped_encodesKeepingUtf8 pre).append_char
      hc h (uriEscaped_encodesKeepingUtf8 post))
  refine ⟨hsplit, fun he => ?_⟩
  obtain ⟨a, t, hat, ha, -⟩ := encode_lead hc h
  have hmem : a ∈ uriEscaped true (pre ++ Rfc3629.encode c ++ post) := by
    rw [hsplit, hat]; simp
  have := Uri.encode_ascii _ a (he ▸ hmem)
  omega

/-- In the title `café!`, the `é` (the bytes `C3 A9`) is copied as it is, between the escaped
text before it and after it. -/
theorem uriEscaped_utf8_cafe :
    Rfc3629.scalar 0xE9 ∧ 0x80 ≤ 0xE9 ∧
      (uriEscaped true (ascii "caf" ++ Rfc3629.encode 0xE9 ++ ascii "!") =
          uriEscaped true (ascii "caf") ++ Rfc3629.encode 0xE9 ++ uriEscaped true (ascii "!") ∧
        uriEscaped true (ascii "caf" ++ Rfc3629.encode 0xE9 ++ ascii "!") ≠
          Uri.encode (ascii "caf" ++ Rfc3629.encode 0xE9 ++ ascii "!")) :=
  ⟨by decide, by decide, uriEscaped_utf8 (by decide) (by decide) _ _⟩

end GLib
