/-
**A heap shared with the caller: the query keeps its own copies.**

`DocumentsQuery.Lifetime` follows a run whose calls read the caller's strings from a heap that
nothing else changes.  A real caller shares the heap with the query and keeps using it between the
calls: it releases the string it has just passed, allocates new ones, rewrites its buffers.  The
query keeps no pointer into the caller's memory — `set_folder_id` and `set_title` keep a
`g_strdup` of their argument, `add_reader` and `add_collaborator` a new address object holding
the address — so none of this can reach it.

This module says so.  The blocks a query reaches from its private part are its two strings and,
walking its lists, each node and the address object it points to (`GData.Instance.reach`); a query
is read from those blocks only (`GData.Instance.Represents.congr_owned`).  The states a new query
reaches when its calls interleave, in any order, with any change the caller makes outside those
blocks are `GData.Instance.Reachable`; each comes with the value-level query the calls stand for.
The one call left out is the one `GData.Instance.setFolderId_getFolderId` shows undefined: a
setter handed the very string it releases.

Main definitions:

* `GData.Instance.reach` — the blocks a query reaches, walking its lists with
  `GData.Instance.cellsAt`;
* `GData.Instance.addressesAt` — the addresses a caller reads from a list a getter returns;
* `GData.Instance.Reachable` — the states of a query that shares its heap with the caller.

Main results:

* `GData.Instance.reach_eq` — the blocks a query reaches are the blocks it holds;
* `GData.Instance.Represents.congr_owned` — **only the query's own blocks are read**;
* `GData.Instance.reachable_represents` — every reachable state represents its value-level query;
* `GData.Instance.reachable_refines` — **in every interleaving with the caller, the query in
  memory behaves as the value model**: every call meeting the condition above has a result,
  `get_property` and `get_query_uri` read what the value model reads, and `finalize` has a
  result.
* `GData.Instance.reachable_getters` — every getter reads the value model in every reachable
  state.
-/

import DocumentsQuery.Lifetime

set_option relaxedAutoImplicit false
set_option autoImplicit false

namespace GData

namespace Instance

/-! ### The blocks a query reaches -/

/-- The blocks a query reaches from its private part: its two strings, and each node of its two
lists with the address object the node points to — what its caller reaches through the
getters. -/
def reach (self : Instance) : Option (List Nat) := do
  let collaborators ← cellsAt self.heap self.heap.next self.priv.collaboratorAddresses
  let readers ← cellsAt self.heap self.heap.next self.priv.readerAddresses
  pure (owned self.priv ⟨collaborators, readers⟩)

/-- The blocks a query reaches are the blocks it holds. -/
theorem reach_eq {m : Instance} {L : Layout} {q : DocumentsQuery} (hm : Represents m L q) :
    m.reach = some (owned m.priv L) := by
  simp [reach, cellsAt_eq hm.collaborators.glist hm.collaborators.glist.length_le,
    cellsAt_eq hm.readers.glist hm.readers.glist.length_le]

/-- The address object at `p`, as `GDATA_GD_EMAIL_ADDRESS (l->data)` reads it. -/
def addressAt (h : Heap) (p : Nat) : Option GDEmailAddress :=
  match h.get p with
  | some (.emailAddress a) => some a
  | _ => none

/-- The addresses of the list at `l`, as a caller of `get_collaborator_addresses` or
`get_reader_addresses` reads them: the address object each node's `data` points to, walking the
`next` links. -/
def addressesAt (h : Heap) (l : Nat) : Option (List GDEmailAddress) :=
  (cellsAt h h.next l).bind (List.mapM fun c => addressAt h c.2)

/-- A list of address objects reads back as its addresses. -/
theorem addressesAt_eq {h : Heap} {list : Nat} {cells : List (Nat × Nat)}
    {addresses : List GDEmailAddress} (hA : AddressList h list cells addresses) :
    addressesAt h list = some addresses := by
  rw [addressesAt, cellsAt_eq hA.glist hA.glist.length_le, Option.some_bind]
  have hd := hA.data
  clear hA
  induction hd with
  | nil => rfl
  | cons hca _ ih =>
    rw [List.mapM_cons, ih]
    simp [addressAt, hca]

/-- **Only the query's own blocks are read**: a heap that agrees with the query's on the blocks
it holds holds the same query. -/
theorem Represents.congr_owned {m : Instance} {L : Layout} {q : DocumentsQuery}
    (hm : Represents m L q) {heap : Heap}
    (hagree : ∀ p ∈ owned m.priv L, heap.get p = m.heap.get p) :
    Represents ⟨heap, m.priv⟩ L q :=
  ⟨hm.showDeleted, hm.showFolders, hm.exactTitle,
    (readString_congr_of_ne fun h0 => hagree _ (by simp [owned, h0])).trans hm.folderId,
    (readString_congr_of_ne fun h0 => hagree _ (by simp [owned, h0])).trans hm.title,
    hm.collaborators.congr fun p hp => hagree p (by simp [owned, hp]),
    hm.readers.congr fun p hp => hagree p (by simp [owned, hp]), hm.nodup⟩

/-! ### Interleaving with the caller -/

/-- The states a new query reaches in a heap it shares with its caller, each with the value-level
query the calls so far stand for.  A call whose string argument reads back — `NULL` or an
allocated string — and is not the string the call releases stands for the value-level call on
what it read; between calls, the caller may change the heap in any way that leaves the blocks the
query reaches as they were. -/
inductive Reachable : Instance → DocumentsQuery → Prop
  | init (heap : Heap) : Reachable (init heap) DocumentsQuery.init
  | call {m m' : Instance} {q : DocumentsQuery} {c : CallAt} {c' : Call} :
      Reachable m q → c.read m.heap = some c' → (c.arg = 0 ∨ c.arg ≠ c.frees m.priv) →
      c.apply m = some m' → Reachable m' (c'.apply q)
  | caller {m : Instance} {q : DocumentsQuery} {B : List Nat} (heap : Heap) :
      Reachable m q → m.reach = some B → (∀ p ∈ B, heap.get p = m.heap.get p) →
      Reachable ⟨heap, m.priv⟩ q

/-- Every reachable state represents the value-level query it is paired with. -/
theorem reachable_represents {m : Instance} {q : DocumentsQuery} (hr : Reachable m q) :
    ∃ L, Represents m L q := by
  induction hr with
  | init heap => exact ⟨_, (represents_init heap).1⟩
  | call _ hc halias happ ih =>
    obtain ⟨L, hm⟩ := ih
    obtain ⟨m', L', happ', hm', -⟩ := CallAt.apply_refines hm hc halias
    obtain rfl := Option.some.inj (happ.symm.trans happ')
    exact ⟨L', hm'⟩
  | caller heap _ hB hagree ih =>
    obtain ⟨L, hm⟩ := ih
    obtain rfl := Option.some.inj ((reach_eq hm).symm.trans hB)
    exact ⟨L, hm.congr_owned hagree⟩

/-- **In every interleaving with the caller, the query in memory behaves as the value model.**
From every state a new query reaches while its caller changes the heap outside the blocks the
query reaches: every call whose string argument reads back and is not the string it releases has a
result, and goes on to a reachable state; `get_property` reads every property, and
`get_query_uri` writes for every entry ID, parent step and buffer, what the value model gives for
the value-level query; and `finalize` has a result. -/
theorem reachable_refines {m : Instance} {q : DocumentsQuery} (hr : Reachable m q) :
    (∀ (c : CallAt) (c' : Call), c.read m.heap = some c' → (c.arg = 0 ∨ c.arg ≠ c.frees m.priv) →
      ∃ m', c.apply m = some m' ∧ Reachable m' (c'.apply q)) ∧
      (∀ p, m.getProperty p = some (q.getProperty p)) ∧
      (∀ entryId parent s, m.getQueryUri entryId parent s = some (q.getQueryUri entryId parent s)) ∧
      ∃ heap', m.finalize = some heap' := by
  obtain ⟨L, hm⟩ := reachable_represents hr
  refine ⟨fun c c' hc halias => ?_, getProperty_eq hm, getQueryUri_eq hm, ?_⟩
  · obtain ⟨m', -, happ, -⟩ := CallAt.apply_refines hm hc halias
    exact ⟨m', happ, hr.call hc halias happ⟩
  · obtain ⟨heap', hfin, -⟩ := finalize_spec hm
    exact ⟨heap', hfin⟩

/-- A query on the caller's string `a` at `1`, after `set_folder_id (query, "a")`, which keeps a
copy at `2`, and then the caller's `g_free` of its `a`: the query's copy is untouched. -/
theorem reachable_refines_setFolderId_free :
    Reachable ⟨((Heap.empty.alloc (.str (CStr.ofAscii "a" (by decide)))).1.alloc
        (.str (CStr.ofAscii "a" (by decide)))).1.free 1, ⟨0, 0, 0, 2, 0, 0, 0⟩⟩
        ((Call.setFolderId (some (CStr.ofAscii "a" (by decide)))).apply DocumentsQuery.init) ∧
      (∀ (c : CallAt) (c' : Call), c.read (⟨((Heap.empty.alloc (.str (CStr.ofAscii "a" (by decide)))).1.alloc
          (.str (CStr.ofAscii "a" (by decide)))).1.free 1, ⟨0, 0, 0, 2, 0, 0, 0⟩⟩ : Instance).heap = some c' →
        (c.arg = 0 ∨ c.arg ≠ c.frees (⟨((Heap.empty.alloc (.str (CStr.ofAscii "a" (by decide)))).1.alloc
          (.str (CStr.ofAscii "a" (by decide)))).1.free 1, ⟨0, 0, 0, 2, 0, 0, 0⟩⟩ : Instance).priv) →
        ∃ m', c.apply ⟨((Heap.empty.alloc (.str (CStr.ofAscii "a" (by decide)))).1.alloc
          (.str (CStr.ofAscii "a" (by decide)))).1.free 1, ⟨0, 0, 0, 2, 0, 0, 0⟩⟩ = some m' ∧
          Reachable m' (c'.apply ((Call.setFolderId (some (CStr.ofAscii "a" (by decide)))).apply DocumentsQuery.init))) ∧
      (∀ p, getProperty ⟨((Heap.empty.alloc (.str (CStr.ofAscii "a" (by decide)))).1.alloc
        (.str (CStr.ofAscii "a" (by decide)))).1.free 1, ⟨0, 0, 0, 2, 0, 0, 0⟩⟩ p =
        some (((Call.setFolderId (some (CStr.ofAscii "a" (by decide)))).apply DocumentsQuery.init).getProperty p)) ∧
      (∀ entryId parent s, getQueryUri ⟨((Heap.empty.alloc (.str (CStr.ofAscii "a" (by decide)))).1.alloc
        (.str (CStr.ofAscii "a" (by decide)))).1.free 1, ⟨0, 0, 0, 2, 0, 0, 0⟩⟩ entryId parent s =
        some (((Call.setFolderId (some (CStr.ofAscii "a" (by decide)))).apply DocumentsQuery.init).getQueryUri entryId parent s)) ∧
      ∃ heap', finalize ⟨((Heap.empty.alloc (.str (CStr.ofAscii "a" (by decide)))).1.alloc
        (.str (CStr.ofAscii "a" (by decide)))).1.free 1, ⟨0, 0, 0, 2, 0, 0, 0⟩⟩ = some heap' :=
  have hr : Reachable ⟨((Heap.empty.alloc (.str (CStr.ofAscii "a" (by decide)))).1.alloc
        (.str (CStr.ofAscii "a" (by decide)))).1.free 1, ⟨0, 0, 0, 2, 0, 0, 0⟩⟩
      ((Call.setFolderId (some (CStr.ofAscii "a" (by decide)))).apply DocumentsQuery.init) :=
    @Reachable.caller _ _ [2] _
      (@Reachable.call (init (Heap.empty.alloc (.str (CStr.ofAscii "a" (by decide)))).1)
        ⟨((Heap.empty.alloc (.str (CStr.ofAscii "a" (by decide)))).1.alloc (.str (CStr.ofAscii "a" (by decide)))).1,
          ⟨0, 0, 0, 2, 0, 0, 0⟩⟩
        DocumentsQuery.init (.setFolderId 1) (.setFolderId (some (CStr.ofAscii "a" (by decide)))) (.init _) rfl
        (.inr (by decide)) rfl)
      (by rfl) (by decide)
  ⟨hr, reachable_refines hr⟩

/-- **Every getter reads the value model, in every interleaving with the caller.**  In every
state a new query reaches, the flags are the value-level flags, the strings `get_folder_id` and
`get_title` point to read back as the value-level folder ID and title, and the lists
`get_collaborator_addresses` and `get_reader_addresses` return hold the value-level addresses, in
order. -/
theorem reachable_getters {m : Instance} {q : DocumentsQuery} (hr : Reachable m q) :
    m.priv.showDeleted = q.showDeleted ∧ m.priv.showFolders = q.showFolders ∧
      m.priv.exactTitle = q.exactTitle ∧
      m.heap.readString m.getFolderId = some q.folderId ∧
      m.heap.readString m.getTitle = some q.title ∧
      addressesAt m.heap m.getCollaboratorAddresses = some q.collaboratorAddresses ∧
      addressesAt m.heap m.getReaderAddresses = some q.readerAddresses :=
  let ⟨_, hm⟩ := reachable_represents hr
  ⟨hm.showDeleted, hm.showFolders, hm.exactTitle, hm.folderId, hm.title,
    addressesAt_eq hm.collaborators, addressesAt_eq hm.readers⟩

/-- The query of `GData.Instance.reachable_refines_setFolderId_free`: after the caller releases
its `a`, `get_folder_id` still points to the query's own `a`. -/
theorem reachable_getters_setFolderId_free :
    Reachable ⟨((Heap.empty.alloc (.str (CStr.ofAscii "a" (by decide)))).1.alloc
        (.str (CStr.ofAscii "a" (by decide)))).1.free 1, ⟨0, 0, 0, 2, 0, 0, 0⟩⟩
        ((Call.setFolderId (some (CStr.ofAscii "a" (by decide)))).apply DocumentsQuery.init) ∧
      (⟨((Heap.empty.alloc (.str (CStr.ofAscii "a" (by decide)))).1.alloc
        (.str (CStr.ofAscii "a" (by decide)))).1.free 1, ⟨0, 0, 0, 2, 0, 0, 0⟩⟩ : Instance).priv.showDeleted =
        ((Call.setFolderId (some (CStr.ofAscii "a" (by decide)))).apply DocumentsQuery.init).showDeleted ∧
      (⟨((Heap.empty.alloc (.str (CStr.ofAscii "a" (by decide)))).1.alloc
        (.str (CStr.ofAscii "a" (by decide)))).1.free 1, ⟨0, 0, 0, 2, 0, 0, 0⟩⟩ : Instance).priv.showFolders =
        ((Call.setFolderId (some (CStr.ofAscii "a" (by decide)))).apply DocumentsQuery.init).showFolders ∧
      (⟨((Heap.empty.alloc (.str (CStr.ofAscii "a" (by decide)))).1.alloc
        (.str (CStr.ofAscii "a" (by decide)))).1.free 1, ⟨0, 0, 0, 2, 0, 0, 0⟩⟩ : Instance).priv.exactTitle =
        ((Call.setFolderId (some (CStr.ofAscii "a" (by decide)))).apply DocumentsQuery.init).exactTitle ∧
      (⟨((Heap.empty.alloc (.str (CStr.ofAscii "a" (by decide)))).1.alloc
        (.str (CStr.ofAscii "a" (by decide)))).1.free 1, ⟨0, 0, 0, 2, 0, 0, 0⟩⟩ : Instance).heap.readString
          (⟨((Heap.empty.alloc (.str (CStr.ofAscii "a" (by decide)))).1.alloc
            (.str (CStr.ofAscii "a" (by decide)))).1.free 1, ⟨0, 0, 0, 2, 0, 0, 0⟩⟩ : Instance).getFolderId =
        some ((Call.setFolderId (some (CStr.ofAscii "a" (by decide)))).apply DocumentsQuery.init).folderId ∧
      (⟨((Heap.empty.alloc (.str (CStr.ofAscii "a" (by decide)))).1.alloc
        (.str (CStr.ofAscii "a" (by decide)))).1.free 1, ⟨0, 0, 0, 2, 0, 0, 0⟩⟩ : Instance).heap.readString
          (⟨((Heap.empty.alloc (.str (CStr.ofAscii "a" (by decide)))).1.alloc
            (.str (CStr.ofAscii "a" (by decide)))).1.free 1, ⟨0, 0, 0, 2, 0, 0, 0⟩⟩ : Instance).getTitle =
        some ((Call.setFolderId (some (CStr.ofAscii "a" (by decide)))).apply DocumentsQuery.init).title ∧
      addressesAt (⟨((Heap.empty.alloc (.str (CStr.ofAscii "a" (by decide)))).1.alloc
        (.str (CStr.ofAscii "a" (by decide)))).1.free 1, ⟨0, 0, 0, 2, 0, 0, 0⟩⟩ : Instance).heap
          (⟨((Heap.empty.alloc (.str (CStr.ofAscii "a" (by decide)))).1.alloc
            (.str (CStr.ofAscii "a" (by decide)))).1.free 1, ⟨0, 0, 0, 2, 0, 0, 0⟩⟩ : Instance).getCollaboratorAddresses =
        some ((Call.setFolderId (some (CStr.ofAscii "a" (by decide)))).apply DocumentsQuery.init).collaboratorAddresses ∧
      addressesAt (⟨((Heap.empty.alloc (.str (CStr.ofAscii "a" (by decide)))).1.alloc
        (.str (CStr.ofAscii "a" (by decide)))).1.free 1, ⟨0, 0, 0, 2, 0, 0, 0⟩⟩ : Instance).heap
          (⟨((Heap.empty.alloc (.str (CStr.ofAscii "a" (by decide)))).1.alloc
            (.str (CStr.ofAscii "a" (by decide)))).1.free 1, ⟨0, 0, 0, 2, 0, 0, 0⟩⟩ : Instance).getReaderAddresses =
        some ((Call.setFolderId (some (CStr.ofAscii "a" (by decide)))).apply DocumentsQuery.init).readerAddresses :=
  have hr : Reachable ⟨((Heap.empty.alloc (.str (CStr.ofAscii "a" (by decide)))).1.alloc
        (.str (CStr.ofAscii "a" (by decide)))).1.free 1, ⟨0, 0, 0, 2, 0, 0, 0⟩⟩
      ((Call.setFolderId (some (CStr.ofAscii "a" (by decide)))).apply DocumentsQuery.init) :=
    @Reachable.caller _ _ [2] _
      (@Reachable.call (init (Heap.empty.alloc (.str (CStr.ofAscii "a" (by decide)))).1)
        ⟨((Heap.empty.alloc (.str (CStr.ofAscii "a" (by decide)))).1.alloc (.str (CStr.ofAscii "a" (by decide)))).1,
          ⟨0, 0, 0, 2, 0, 0, 0⟩⟩
        DocumentsQuery.init (.setFolderId 1) (.setFolderId (some (CStr.ofAscii "a" (by decide)))) (.init _) rfl
        (.inr (by decide)) rfl)
      (by rfl) (by decide)
  ⟨hr, reachable_getters hr⟩

end Instance

end GData
