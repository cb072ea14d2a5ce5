/-
**Byte strings and C strings.**

`get_query_uri` writes into a `GString`, and every value it reads is a `const gchar *`.  Both are
modelled as lists of bytes: a `GString` as the bytes it holds, a C string as the bytes before its
terminating NUL.  A C string that may be `NULL` is an `Option CStr`, so that the three states the
source distinguishes — unset, empty and non-empty — stay three.

Main definitions:

* `GData.Bytes` — a byte string;
* `GData.ascii` — the bytes of an ASCII literal of the C source;
* `GData.CStr` — a C string, which cannot hold a NUL byte.
-/

import Mathlib.Data.List.Basic

set_option relaxedAutoImplicit false
set_option autoImplicit false

namespace GData

/-- A byte string: the contents of a `GString`, or of a `gchar` array. -/
abbrev Bytes := List UInt8

/-- The bytes of a string literal of the C source; every literal there is ASCII. -/
def ascii (s : String) : Bytes := s.toList.map Char.toUInt8

@[simp] theorem ascii_append (s t : String) : ascii (s ++ t) = ascii s ++ ascii t := by
  simp [ascii]

/-- A C string: the bytes before the terminating NUL, which therefore holds none. -/
structure CStr where
  /-- the bytes of the string -/
  bytes : Bytes
  /-- the terminator ends the string at its first NUL -/
  no_nul : 0 ∉ bytes
deriving DecidableEq

/-- A C string is its bytes. -/
theorem CStr.bytes_injective : Function.Injective CStr.bytes
  | ⟨_, _⟩, ⟨_, _⟩, rfl => rfl

/-- The C string of an ASCII literal without NUL. -/
def CStr.ofAscii (s : String) (h : 0 ∉ ascii s) : CStr := ⟨ascii s, h⟩

@[simp] theorem CStr.ofAscii_bytes (s : String) (h : 0 ∉ ascii s) :
    (CStr.ofAscii s h).bytes = ascii s := rfl

end GData
