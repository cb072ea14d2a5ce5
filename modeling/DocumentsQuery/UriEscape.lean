/-
**Percent-escaping as GLib does it.**

Every value `get_query_uri` puts into the URI goes through
`g_string_append_uri_escaped (query_uri, value, NULL, TRUE)`.  This module models that GLib
routine with the arguments the call site gives it: no reserved character is let through, and
`allow_utf8` is set, so that a well-formed multi-byte UTF-8 character is copied as it is instead
of being escaped.  The UTF-8 check is GLib's own `g_utf8_get_char_validated`.

On the reading side, `Uri.percentDecode` is percent-decoding as RFC 3986 defines it.

Main definitions:

* `GLib.isValid`, `GLib.utf8GetCharValidated` — the two tests the escaper makes of a byte;
* `GLib.uriEscaped` — the text `g_string_append_uri_escaped` appends;
* `GLib.EscapesAs` — the shape of that text: unreserved characters, `%XX` escapes, and (when
  UTF-8 is allowed) whole UTF-8 characters;
* `Uri.percentDecode` — percent-decoding.

Main results:

* `GLib.uriEscaped_shape` — **the escaper writes only the three kinds of token**;
* `GLib.uriEscaped_mem` — every byte it writes is unreserved, `%`, or at least `0x80`, so none
  of the URI's delimiters `& ; = ? #` ever comes out of it (`GLib.uriEscaped_not_mem_delim`);
* `GLib.percentDecode_uriEscaped` — **percent-decoding gives back the escaped string**, for every
  byte string, with or without `allow_utf8`.
-/

import DocumentsQuery.Bytes

set_option relaxedAutoImplicit false
set_option autoImplicit false

namespace GLib

open GData

/-! ### The tests the escaper makes -/

/-- `g_ascii_isalnum`. -/
def asciiIsalnum (c : UInt8) : Bool :=
  (48 ≤ c.toNat && c.toNat ≤ 57) || (65 ≤ c.toNat && c.toNat ≤ 90) ||
    (97 ≤ c.toNat && c.toNat ≤ 122)

/-- `is_valid` of `gstring.c` with `reserved_chars_allowed` `NULL`, as at every call here: the
characters RFC 3986 calls unreserved. -/
def isValid (c : UInt8) : Bool :=
  asciiIsalnum c || c == '-'.toUInt8 || c == '.'.toUInt8 || c == '_'.toUInt8 ||
    c == '~'.toUInt8

/-- `hex`, the digits the escaper writes. -/
def hex : Bytes := ascii "0123456789ABCDEF"

/-- `g_utf8_skip`: the length of the UTF-8 sequence a byte starts. -/
def utf8Skip (c : UInt8) : Nat :=
  if c.toNat < 0xC0 then 1 else if c.toNat < 0xE0 then 2 else if c.toNat < 0xF0 then 3
  else if c.toNat < 0xF8 then 4 else if c.toNat < 0xFC then 5 else if c.toNat < 0xFE then 6
  else 1

/-- `min_code` of `g_utf8_get_char_extended`: the least code point a sequence of `len` bytes may
carry; a smaller one is overlong. -/
def utf8MinCode : Nat → Nat
  | 2 => 1 <<< 7
  | 3 => 1 <<< 11
  | 4 => 1 <<< 16
  | 5 => 1 <<< 21
  | _ => 1 <<< 26

/-- `g_utf8_get_char_extended (p, max_len)` with `max_len` the bytes left: the code point `p`
starts with, or `none` for both error results, `(gunichar) -1` (malformed) and `(gunichar) -2`
(cut short).  The lead byte's own bits are `c & 0x1f`, …, `c & 0x01`, that is `c % (0x80 >> len)`,
and a continuation byte is one with `(ch & 0xc0) == 0x80`. -/
def utf8GetCharExtended : Bytes → Option Nat
  | [] => none
  | c :: rest =>
    if c.toNat < 0x80 then some c.toNat
    else if c.toNat < 0xC0 ∨ 0xFE ≤ c.toNat then none
    else
      let len := utf8Skip c
      let tail := rest.take (len - 1)
      if tail.length < len - 1 ∨ ¬ tail.all (fun ch => ch.toNat / 64 = 2) then none
      else
        let wc := tail.foldl (fun wc ch => wc * 64 + ch.toNat % 64) (c.toNat % (0x80 >>> len))
        if wc < utf8MinCode len then none else some wc

/-- `UNICODE_VALID`: below `0x110000` and not a surrogate (`(c & 0xFFFFF800) != 0xD800`). -/
def unicodeValid (wc : Nat) : Bool := wc < 0x110000 && wc / 0x800 != 0x1B

/-- `g_utf8_get_char_validated (p, max_len)` with `max_len` the bytes left. -/
def utf8GetCharValidated (p : Bytes) : Option Nat :=
  (utf8GetCharExtended p).filter unicodeValid

/-! ### The escaper -/

/-- `%` and the two upper-case hexadecimal digits of a byte: `hex[c >> 4]`, `hex[c & 0xf]`. -/
def percentEncode (c : UInt8) : Bytes :=
  ['%'.toUInt8, hex.getD (c.toNat / 16) 0, hex.getD (c.toNat % 16) 0]

/-- The loop of `g_string_append_uri_escaped (string, unescaped, NULL, allow_utf8)`, as the text
it appends.  A lead byte of at least `0x80` that starts a validated UTF-8 character is appended
with the rest of that character (`g_string_append_len (string, unescaped, len)`); `copy` counts
the bytes of it still to append, so that each turn takes one byte.  Otherwise an unreserved byte
is appended as it is, and any other byte as `%XX`. -/
def uriEscapeLoop (allowUtf8 : Bool) : Nat → Bytes → Bytes
  | _, [] => []
  | copy + 1, c :: rest => c :: uriEscapeLoop allowUtf8 copy rest
  | 0, c :: rest =>
    if 0x80 ≤ c.toNat ∧ allowUtf8 ∧ (utf8GetCharValidated (c :: rest)).isSome then
      c :: uriEscapeLoop allowUtf8 (utf8Skip c - 1) rest
    else if isValid c then c :: uriEscapeLoop allowUtf8 0 rest
    else percentEncode c ++ uriEscapeLoop allowUtf8 0 rest

/-- The text `g_string_append_uri_escaped (string, unescaped, NULL, allow_utf8)` appends. -/
def uriEscaped (allowUtf8 : Bool) (unescaped : Bytes) : Bytes :=
  uriEscapeLoop allowUtf8 0 unescaped

/-- `g_string_append_uri_escaped (string, unescaped, NULL, allow_utf8)`. -/
def stringAppendUriEscaped (string unescaped : Bytes) (allowUtf8 : Bool) : Bytes :=
  string ++ uriEscaped allowUtf8 unescaped

end GLib

namespace Uri

open GData

/-! ### Percent-decoding -/

/-- The value of a hexadecimal digit, of either case. -/
def hexValue (c : UInt8) : Option Nat :=
  if 48 ≤ c.toNat ∧ c.toNat ≤ 57 then some (c.toNat - 48)
  else if 65 ≤ c.toNat ∧ c.toNat ≤ 70 then some (c.toNat - 55)
  else if 97 ≤ c.toNat ∧ c.toNat ≤ 102 then some (c.toNat - 87)
  else none

/-- Percent-decoding (RFC 3986, section 2.1): `%` and two hexadecimal digits stand for the byte
they spell, and every other byte for itself. -/
def percentDecode : Bytes → Bytes
  | [] => []
  | [c] => [c]
  | [c, h] => [c, h]
  | c :: h :: l :: rest =>
    if c = '%'.toUInt8 then
      match hexValue h, hexValue l with
      | some hi, some lo => UInt8.ofNat (hi * 16 + lo) :: percentDecode rest
      | _, _ => c :: percentDecode (h :: l :: rest)
    else c :: percentDecode (h :: l :: rest)
termination_by structural bs => bs

theorem ofNat_toNat (c : UInt8) : UInt8.ofNat c.toNat = c :=
  UInt8.toNat.inj (UInt8.toNat_ofNat_of_lt c.toNat_lt_size)

/-- A byte that is not `%` stands for itself. -/
theorem percentDecode_cons_of_ne {c : UInt8} (h : c ≠ '%'.toUInt8) (t : Bytes) :
    percentDecode (c :: t) = c :: percentDecode t := by
  match t with
  | [] => rfl
  | [_] => rfl
  | _ :: _ :: _ => simp [percentDecode, h]

theorem percentDecode_append_of_ne {p : Bytes} (h : ∀ x ∈ p, x ≠ '%'.toUInt8) (t : Bytes) :
    percentDecode (p ++ t) = p ++ percentDecode t := by
  induction p with
  | nil => rfl
  | cons c p ih =>
    simp only [List.mem_cons, forall_eq_or_imp] at h
    rw [List.cons_append, percentDecode_cons_of_ne h.1, ih h.2, List.cons_append]

theorem hexValue_hex {n : Nat} (h : n < 16) : hexValue (GLib.hex.getD n 0) = some n := by
  revert n; decide

/-- A `%XX` escape decodes to the byte it was written for. -/
theorem percentDecode_percentEncode (c : UInt8) (t : Bytes) :
    percentDecode (GLib.percentEncode c ++ t) = c :: percentDecode t := by
  have hc : c.toNat < 256 := c.toNat_lt_size
  rw [GLib.percentEncode, List.cons_append, List.cons_append, List.cons_append, List.nil_append,
    percentDecode, if_pos rfl, hexValue_hex (show c.toNat / 16 < 16 by omega),
    hexValue_hex (show c.toNat % 16 < 16 by omega)]
  dsimp only
  rw [show c.toNat / 16 * 16 + c.toNat % 16 = c.toNat by omega, ofNat_toNat]

end Uri

namespace GLib

open GData

/-! ### What the UTF-8 check lets through -/

theorem utf8Skip_ge_two {c : UInt8} (h1 : 0xC0 ≤ c.toNat) (h2 : c.toNat < 0xFE) :
    2 ≤ utf8Skip c := by
  rw [utf8Skip, if_neg (by omega)]
  split_ifs <;> decide

/-- A lead byte of at least `0x80` passes the UTF-8 check only with all `utf8Skip c - 1` bytes
of its character present, and each of them a continuation byte. -/
theorem utf8GetCharValidated_lead {c : UInt8} {rest : Bytes} (hc : 0x80 ≤ c.toNat)
    (h : (utf8GetCharValidated (c :: rest)).isSome) :
    2 ≤ utf8Skip c ∧ utf8Skip c - 1 ≤ rest.length ∧
      ∀ b ∈ rest.take (utf8Skip c - 1), 0x80 ≤ b.toNat := by
  have h' : (utf8GetCharExtended (c :: rest)).isSome := by
    cases hx : utf8GetCharExtended (c :: rest) <;> simp_all [utf8GetCharValidated]
  simp only [utf8GetCharExtended] at h'
  split_ifs at h' with h1 h2 h3 <;> simp at h'
  · omega
  simp only [not_or, not_not, List.length_take, List.all_eq_true, decide_eq_true_eq] at h2 h3
  refine ⟨utf8Skip_ge_two (by omega) (by omega), by omega, fun b hb => ?_⟩
  have := h3.2 b hb
  omega

/-- The check reads no byte past the character it starts. -/
theorem utf8GetCharValidated_take (c : UInt8) (rest : Bytes) :
    utf8GetCharValidated (c :: rest.take (utf8Skip c - 1)) = utf8GetCharValidated (c :: rest) := by
  simp [utf8GetCharValidated, utf8GetCharExtended, List.take_take]

/-- A whole multi-byte UTF-8 character, as the escaper copies it: a lead byte of at least `0x80`,
the `utf8Skip c - 1` bytes after it, and the UTF-8 check passed. -/
def IsUtf8Char (ch : Bytes) : Prop :=
  ∃ c rest, ch = c :: rest ∧ 0x80 ≤ c.toNat ∧ rest.length = utf8Skip c - 1 ∧
    (utf8GetCharValidated ch).isSome

/-- Every byte of a UTF-8 character copied by the escaper is at least `0x80`. -/
theorem IsUtf8Char.high {ch : Bytes} (h : IsUtf8Char ch) : ∀ b ∈ ch, 0x80 ≤ b.toNat := by
  obtain ⟨c, rest, rfl, hc, hlen, hv⟩ := h
  obtain ⟨-, -, hcont⟩ := utf8GetCharValidated_lead hc hv
  rw [← hlen, List.take_length] at hcont
  simpa [hc] using hcont

/-! ### The escaper, token by token -/

/-- `EscapesAs a s t`: the text `t` spells the bytes `s` the way the escaper writes them — an
unreserved byte as it is, any byte as `%XX`, and, when `a` allows UTF-8, a whole multi-byte UTF-8
character as it is. -/
inductive EscapesAs (allowUtf8 : Bool) : Bytes → Bytes → Prop
  | nil : EscapesAs allowUtf8 [] []
  | unreserved {c : UInt8} {s t : Bytes} :
      isValid c → EscapesAs allowUtf8 s t → EscapesAs allowUtf8 (c :: s) (c :: t)
  | percent (c : UInt8) {s t : Bytes} :
      EscapesAs allowUtf8 s t → EscapesAs allowUtf8 (c :: s) (percentEncode c ++ t)
  | utf8 {ch s t : Bytes} : allowUtf8 = true → IsUtf8Char ch →
      EscapesAs allowUtf8 s t → EscapesAs allowUtf8 (ch ++ s) (ch ++ t)

/-- Appending the rest of a character: with `k` bytes left to copy, the loop copies them and
goes on from the byte after. -/
theorem uriEscapeLoop_copy (a : Bool) :
    ∀ (k : Nat) (s : Bytes), uriEscapeLoop a k s = s.take k ++ uriEscapeLoop a 0 (s.drop k)
  | 0, s => by simp
  | k + 1, [] => by simp [uriEscapeLoop]
  | k + 1, c :: rest => by simp [uriEscapeLoop, uriEscapeLoop_copy a k rest]

/-- **The escaper writes only the three kinds of token.** -/
theorem uriEscaped_shape (a : Bool) : ∀ s : Bytes, EscapesAs a s (uriEscaped a s)
  | [] => .nil
  | c :: rest => by
    simp only [uriEscaped, uriEscapeLoop]
    split_ifs with hutf hval
    · obtain ⟨hc, ha, hv⟩ := hutf
      obtain ⟨-, hlen, -⟩ := utf8GetCharValidated_lead hc hv
      have hch : IsUtf8Char (c :: rest.take (utf8Skip c - 1)) :=
        ⟨c, _, rfl, hc, by simp [hlen], by rwa [utf8GetCharValidated_take]⟩
      have hrest := uriEscaped_shape a (rest.drop (utf8Skip c - 1))
      rw [uriEscapeLoop_copy, ← List.cons_append]
      conv => arg 2; rw [← List.take_append_drop (utf8Skip c - 1) rest, ← List.cons_append]
      exact .utf8 (by simpa using ha) hch hrest
    · exact .unreserved hval (uriEscaped_shape a rest)
    · exact .percent c (uriEscaped_shape a rest)
termination_by s => s.length
decreasing_by all_goals simp_wf <;> omega

/-! ### What escaped text contains -/

theorem isValid_hex {n : Nat} (h : n < 16) : isValid (hex.getD n 0) := by
  revert n; decide

theorem ne_percent_of_isValid {c : UInt8} (h : isValid c) : c ≠ '%'.toUInt8 := by
  rintro rfl; exact absurd h (by decide)

/-- Every byte of escaped text is unreserved, a `%`, or at least `0x80`. -/
theorem EscapesAs.mem {a : Bool} {s t : Bytes} (h : EscapesAs a s t) :
    ∀ x ∈ t, isValid x ∨ x = '%'.toUInt8 ∨ 0x80 ≤ x.toNat := by
  induction h with
  | nil => simp
  | unreserved hc _ ih =>
    intro x hx
    rcases List.mem_cons.1 hx with rfl | hx
    · exact .inl hc
    · exact ih x hx
  | percent c _ ih =>
    have hc : c.toNat < 256 := c.toNat_lt_size
    intro x hx
    simp only [percentEncode, List.cons_append, List.nil_append, List.mem_cons] at hx
    rcases hx with rfl | rfl | rfl | hx
    · exact .inr (.inl rfl)
    · exact .inl (isValid_hex (by omega))
    · exact .inl (isValid_hex (by omega))
    · exact ih x hx
  | utf8 _ hch _ ih =>
    intro x hx
    rcases List.mem_append.1 hx with hx | hx
    · exact .inr (.inr (hch.high x hx))
    · exact ih x hx

/-- Every byte `uriEscaped` writes is unreserved, a `%`, or at least `0x80`. -/
theorem uriEscaped_mem (a : Bool) (s : Bytes) :
    ∀ x ∈ uriEscaped a s, isValid x ∨ x = '%'.toUInt8 ∨ 0x80 ≤ x.toNat :=
  (uriEscaped_shape a s).mem

/-- None of the URI's delimiters `& ; = ? #` comes out of the escaper. -/
theorem uriEscaped_not_mem_delim (a : Bool) (s : Bytes) {d : UInt8} (hd : d ∈ ascii "&;=?#") :
    d ∉ uriEscaped a s := by
  have hdd : ∀ d ∈ ascii "&;=?#", ¬ isValid d ∧ d ≠ '%'.toUInt8 ∧ d.toNat < 0x80 := by decide
  obtain ⟨h1, h2, h3⟩ := hdd d hd
  intro hm
  rcases uriEscaped_mem a s d hm with h | h | h
  · exact h1 h
  · exact h2 h
  · omega

/-! ### Reading escaped text back -/

theorem ne_percent_of_high {x : UInt8} (h : 0x80 ≤ x.toNat) : x ≠ '%'.toUInt8 := by
  rintro rfl; exact absurd h (by decide)

/-- Decoding undoes the escaper token by token. -/
theorem EscapesAs.percentDecode {a : Bool} {s t : Bytes} (h : EscapesAs a s t) :
    Uri.percentDecode t = s := by
  induction h with
  | nil => rfl
  | unreserved hc _ ih => rw [Uri.percentDecode_cons_of_ne (ne_percent_of_isValid hc), ih]
  | percent c _ ih => rw [Uri.percentDecode_percentEncode, ih]
  | utf8 _ hch _ ih =>
    rw [Uri.percentDecode_append_of_ne (fun x hx => ne_percent_of_high (hch.high x hx)), ih]

/-- **Percent-decoding gives back the escaped string**, for every byte string, with or without
`allow_utf8`. -/
theorem percentDecode_uriEscaped (a : Bool) (s : Bytes) :
    Uri.percentDecode (uriEscaped a s) = s :=
  (uriEscaped_shape a s).percentDecode

end GLib

