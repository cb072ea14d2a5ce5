/-
**The heap the query's strings and lists live in.**

`GDataDocumentsQueryPrivate` holds pointers: `folder_id` and `title` point to strings of the
query's own, which the setters release with `g_free` and replace with a `g_strdup` of the
argument, and the two address lists point to `GList` nodes whose `data` are
`GDataGDEmailAddress` objects.  This module is the memory those pointers point into: a heap of
blocks, each a string, a list node or an address object, where an allocation takes a fresh
address and `g_free` releases a block.  What C leaves undefined — reading or releasing a block
that is not allocated — has no result (`none`).

Main definitions:

* `GData.Block`, `GData.Heap` — blocks, and the heap, whose addresses are numbers, `0` being
  `NULL`, and whose next allocation address lies above every allocated block;
* `GData.Heap.alloc`, `GData.Heap.free`, `GData.Heap.write` — the heap operations;
* `GData.Heap.readString` — the string a nullable `const gchar *` points to;
* `GLib.gFree`, `GLib.gStrdup` — `g_free` and `g_strdup`.

Main results:

* `GLib.gFree_get`, `GLib.gStrdup_str` — what each does to the heap;
* `GLib.gStrdup_freed` — `g_strdup` of a released string has no result.
-/

import DocumentsQuery.Query

set_option relaxedAutoImplicit false
set_option autoImplicit false

namespace GData

/-- What an allocated block holds. -/
inductive Block
  /-- a string from `g_strdup`: its bytes before the NUL -/
  | str (s : CStr)
  /-- a `GList` node: `data`, `next` and `prev` -/
  | node (data next prev : Nat)
  /-- a `GDataGDEmailAddress` object from `gdata_gd_email_address_new` -/
  | emailAddress (a : GDEmailAddress)
deriving DecidableEq

/-- The heap: the block allocated at each address, and the address the next allocation takes,
above every allocated one.  `NULL` is never allocated. -/
structure Heap where
  /-- the block at an address, `none` where none is allocated -/
  get : Nat → Option Block
  /-- the address of the next allocation -/
  next : Nat
  /-- nothing is allocated at `NULL` -/
  get_null : get 0 = none
  /-- nothing is allocated from `next` on -/
  get_fresh : ∀ p, next ≤ p → get p = none
  /-- so the next allocation is not at `NULL` -/
  next_pos : 0 < next

namespace Heap

/-- The heap with nothing allocated. -/
def empty : Heap := ⟨fun _ => none, 1, rfl, fun _ _ => rfl, Nat.one_pos⟩

/-- An address holds an allocated block. -/
def live (h : Heap) (p : Nat) : Bool := (h.get p).isSome

theorem live_iff {h : Heap} {p : Nat} : h.live p ↔ ∃ b, h.get p = some b :=
  Option.isSome_iff_exists

theorem live_of_get {h : Heap} {p : Nat} {b : Block} (hp : h.get p = some b) : h.live p :=
  live_iff.2 ⟨b, hp⟩

theorem ne_null_of_live {h : Heap} {p : Nat} (hp : h.live p) : p ≠ 0 := by
  rintro rfl
  simp [live, h.get_null] at hp

theorem lt_next_of_live {h : Heap} {p : Nat} (hp : h.live p) : p < h.next := by
  by_contra hn
  simp [live, h.get_fresh p (by omega)] at hp

theorem not_live_next (h : Heap) : ¬h.live h.next := fun hp => (lt_next_of_live hp).false

/-- An allocation: the block goes at `next`, which moves up by one. -/
def alloc (h : Heap) (b : Block) : Heap × Nat :=
  (⟨Function.update h.get h.next (some b), h.next + 1,
    by rw [Function.update_noteq (by have := h.next_pos; omega), h.get_null],
    fun p hp => by rw [Function.update_noteq (by omega), h.get_fresh p (by omega)],
    by omega⟩, h.next)

/-- Releasing a block. -/
def free (h : Heap) (p : Nat) : Heap :=
  ⟨Function.update h.get p none, h.next,
    by by_cases h0 : (0 : Nat) = p <;> simp [Function.update_apply, h0, h.get_null],
    fun q hq => by by_cases hqp : q = p <;> simp [Function.update_apply, hqp, h.get_fresh q hq],
    h.next_pos⟩

/-- Writing over an allocated block. -/
def write (h : Heap) (p : Nat) (hp : h.live p) (b : Block) : Heap :=
  ⟨Function.update h.get p (some b), h.next,
    by rw [Function.update_noteq (ne_null_of_live hp).symm, h.get_null],
    fun q hq => by
      rw [Function.update_noteq (by have := lt_next_of_live hp; omega), h.get_fresh q hq],
    h.next_pos⟩

@[simp] theorem alloc_get (h : Heap) (b : Block) (p : Nat) :
    (h.alloc b).1.get p = if p = h.next then some b else h.get p :=
  Function.update_apply _ _ _ _

@[simp] theorem alloc_snd (h : Heap) (b : Block) : (h.alloc b).2 = h.next := rfl

@[simp] theorem alloc_next (h : Heap) (b : Block) : (h.alloc b).1.next = h.next + 1 := rfl

@[simp] theorem free_get (h : Heap) (p q : Nat) :
    (h.free p).get q = if q = p then none else h.get q :=
  Function.update_apply _ _ _ _

@[simp] theorem free_next (h : Heap) (p : Nat) : (h.free p).next = h.next := rfl

@[simp] theorem write_get (h : Heap) (p : Nat) (hp : h.live p) (b : Block) (q : Nat) :
    (h.write p hp b).get q = if q = p then some b else h.get q :=
  Function.update_apply _ _ _ _

@[simp] theorem write_next (h : Heap) (p : Nat) (hp : h.live p) (b : Block) :
    (h.write p hp b).next = h.next := rfl

/-- An allocation leaves every allocated block as it was. -/
theorem alloc_get_of_live {h : Heap} (b : Block) {p : Nat} (hp : h.live p) :
    (h.alloc b).1.get p = h.get p := by
  rw [alloc_get, if_neg (ne_of_lt (lt_next_of_live hp))]

/-- The string a nullable `const gchar *` points to: `some none` for `NULL`, and no answer at all
for a pointer to no allocated string, which C may not read. -/
def readString (h : Heap) (p : Nat) : Option (Option CStr) :=
  if p = 0 then some none
  else
    match h.get p with
    | some (.str s) => some (some s)
    | _ => none

@[simp] theorem readString_null (h : Heap) : h.readString 0 = some none := rfl

theorem readString_of_get {h : Heap} {p : Nat} {s : CStr} (hp : h.get p = some (.str s)) :
    h.readString p = some (some s) := by
  rw [readString, if_neg (ne_null_of_live (live_of_get hp)), hp]

/-- A string read back is either `NULL` or an allocated string. -/
theorem readString_eq_some {h : Heap} {p : Nat} {v : Option CStr} (hp : h.readString p = some v) :
    (p = 0 ∧ v = none) ∨ ∃ s, v = some s ∧ h.get p = some (.str s) := by
  unfold readString at hp
  split_ifs at hp with h0
  · exact .inl ⟨h0, (Option.some.inj hp).symm⟩
  · split at hp
    · next s hs => exact .inr ⟨s, (Option.some.inj hp).symm, hs⟩
    · cases hp

/-- A read depends on the block at the address only. -/
theorem readString_congr {h h' : Heap} {p : Nat} (hp : h'.get p = h.get p) :
    h'.readString p = h.readString p := by
  simp only [readString, hp]

end Heap

end GData

namespace GLib

open GData

/-! ### `g_free` and `g_strdup` -/

/-- `g_free`: nothing for `NULL`; otherwise the block is released, and releasing one that is not
allocated is undefined. -/
def gFree (h : Heap) (mem : Nat) : Option Heap :=
  if mem = 0 then some h else if h.live mem then some (h.free mem) else none

/-- `g_strdup`: `NULL` for `NULL`; otherwise a new block holding a copy of the string, which must
be allocated. -/
def gStrdup (h : Heap) (str : Nat) : Option (Heap × Nat) :=
  if str = 0 then some (h, 0)
  else
    match h.get str with
    | some (.str s) => some (h.alloc (.str s))
    | _ => none

@[simp] theorem gFree_null (h : Heap) : gFree h 0 = some h := rfl

theorem gFree_live {h : Heap} {mem : Nat} (hm : h.live mem) : gFree h mem = some (h.free mem) := by
  rw [gFree, if_neg (Heap.ne_null_of_live hm), if_pos hm]

/-- `g_free` of an allocated block or of `NULL` releases that block and nothing else. -/
theorem gFree_get {h : Heap} {mem : Nat} (hm : mem = 0 ∨ h.live mem) :
    ∃ h', gFree h mem = some h' ∧ h'.next = h.next ∧
      ∀ p, h'.get p = if p = mem then none else h.get p := by
  rcases hm with rfl | hm
  · exact ⟨h, rfl, rfl, fun p => by split_ifs with hp <;> simp [hp, h.get_null]⟩
  · exact ⟨_, gFree_live hm, rfl, Heap.free_get h mem⟩

@[simp] theorem gStrdup_null (h : Heap) : gStrdup h 0 = some (h, 0) := rfl

theorem gStrdup_str {h : Heap} {str : Nat} {s : CStr} (hs : h.get str = some (.str s)) :
    gStrdup h str = some (h.alloc (.str s)) := by
  rw [gStrdup, if_neg (Heap.ne_null_of_live (Heap.live_of_get hs)), hs]

/-- **`g_strdup` of a released string has no result**: it reads memory that is not allocated. -/
theorem gStrdup_freed (h : Heap) {str : Nat} (hs : str ≠ 0) : gStrdup (h.free str) str = none := by
  rw [gStrdup, if_neg hs, Heap.free_get, if_pos rfl]

/-- `g_strdup` of a string that reads back as `v` gives a pointer that reads back as `v`: `NULL`
for `NULL`, and otherwise a new block at the next address; no other block changes. -/
theorem gStrdup_spec {h : Heap} {str : Nat} {v : Option CStr} (hs : h.readString str = some v) :
    ∃ h' copy, gStrdup h str = some (h', copy) ∧ h'.readString copy = some v ∧
      h.next ≤ h'.next ∧ (copy = 0 ∨ copy = h.next) ∧ ∀ p, p ≠ copy → h'.get p = h.get p := by
  rcases Heap.readString_eq_some hs with ⟨rfl, rfl⟩ | ⟨s, rfl, hget⟩
  · exact ⟨h, 0, rfl, rfl, le_rfl, .inl rfl, fun _ _ => rfl⟩
  · exact ⟨_, _, gStrdup_str hget, Heap.readString_of_get (by simp), by simp, .inr rfl,
      fun p hp => by simp_all⟩

end GLib
