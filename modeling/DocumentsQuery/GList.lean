/-
**`GList` in the heap: `g_list_last` and `g_list_append`.**

`gdata_documents_query_add_reader` and `_add_collaborator` keep their addresses in a doubly
linked `GList` and grow it with `g_list_append`, which walks to the last node with
`g_list_last`, links a new node after it, and returns the list — or the new node, when the list
was empty.  `get_query_uri` walks the same nodes through their `next` links.

`GLib.IsGList h list prev cells` says that the heap holds, from `list`, a well-formed list whose
cells — the address of each node and its `data` — are `cells`.  The cells are determined by the
heap (`IsGList.unique`), so a list walked in finitely many steps visits each node once
(`IsGList.nodup`), and holds no more nodes than the heap has addresses: the loops below, run with
that many turns, never run out.

Main definitions:

* `GLib.IsGList` — a `GList` in the heap and its cells;
* `GLib.gListLast`, `GLib.gListAppend` — `g_list_last` and `g_list_append`.

Main results:

* `GLib.IsGList.nodup`, `GLib.IsGList.length_le` — a list has no node twice, and fewer nodes than
  the heap has addresses;
* `GLib.IsGList.congr` — a list is read from its own nodes only;
* `GLib.gListLast_eq` — `g_list_last` finds the last node;
* `GLib.gListAppend_spec` — **`g_list_append` appends**: the list gains one cell at its end, a
  new node holding the data, and no block outside the list's nodes changes.
-/

import Mathlib.Data.List.Nodup
import DocumentsQuery.Heap

set_option relaxedAutoImplicit false
set_option autoImplicit false

namespace GLib

open GData

/-! ### Lists in the heap -/

/-- `h` holds, from `list`, a `GList` whose cells — each a node's address and its `data` — are
`cells`: every node is allocated, links to the next cell's node and back to the one before it
(`prev` for the first), and the last links to `NULL`. -/
inductive IsGList (h : Heap) : Nat → Nat → List (Nat × Nat) → Prop
  | nil (prev : Nat) : IsGList h 0 prev []
  | cons {list prev data next : Nat} {cells : List (Nat × Nat)} :
      h.get list = some (.node data next prev) → IsGList h next list cells →
      IsGList h list prev ((list, data) :: cells)

namespace IsGList

variable {h : Heap}

/-- A list is empty exactly when it is `NULL`. -/
theorem null_iff {list prev : Nat} {cells : List (Nat × Nat)} (hl : IsGList h list prev cells) :
    list = 0 ↔ cells = [] := by
  cases hl with
  | nil => simp
  | cons hget _ => simpa using Heap.ne_null_of_live (Heap.live_of_get hget)

/-- Every cell of a list is a node holding the cell's `data`. -/
theorem get_node {list prev : Nat} {cells : List (Nat × Nat)} (hl : IsGList h list prev cells) :
    ∀ c ∈ cells, ∃ next prev', h.get c.1 = some (.node c.2 next prev') := by
  induction hl with
  | nil => simp
  | cons hget _ ih =>
    intro c hc
    rcases List.mem_cons.1 hc with rfl | hc
    · exact ⟨_, _, hget⟩
    · exact ih c hc

/-- Every node of a list is allocated. -/
theorem live {list prev : Nat} {cells : List (Nat × Nat)} (hl : IsGList h list prev cells) :
    ∀ c ∈ cells, h.live c.1 := fun c hc =>
  let ⟨_, _, hget⟩ := hl.get_node c hc
  Heap.live_of_get hget

/-- The cells of a list are determined by the heap and its first node. -/
theorem unique {list a b : Nat} {cells cells' : List (Nat × Nat)} (hl : IsGList h list a cells)
    (hl' : IsGList h list b cells') : cells = cells' := by
  induction hl generalizing b cells' with
  | nil => cases hl' with
    | nil => rfl
    | cons hget _ => simp [h.get_null] at hget
  | cons hget _ ih =>
    cases hl' with
    | nil => simp [h.get_null] at hget
    | cons hget' hrest' =>
      rw [hget] at hget'
      cases hget'
      rw [ih hrest']

/-- Each cell of a list starts a list of its own, shorter than the whole. -/
theorem exists_of_mem {list prev : Nat} {cells : List (Nat × Nat)} (hl : IsGList h list prev cells)
    {c : Nat × Nat} (hc : c ∈ cells) :
    ∃ prev' rest, IsGList h c.1 prev' (c :: rest) ∧ rest.length < cells.length := by
  induction hl with
  | nil => cases hc
  | cons hget hrest ih =>
    rcases List.mem_cons.1 hc with rfl | hc
    · exact ⟨_, _, .cons hget hrest, by simp⟩
    · obtain ⟨prev', rest, hsub, hlen⟩ := ih hc
      exact ⟨prev', rest, hsub, by simp; omega⟩

/-- **No node occurs twice in a list**: a node met again would start a shorter list with the same
cells. -/
theorem nodup {list prev : Nat} {cells : List (Nat × Nat)} (hl : IsGList h list prev cells) :
    (cells.map Prod.fst).Nodup := by
  induction hl with
  | nil => simp
  | cons hget hrest ih =>
    refine List.nodup_cons.2 ⟨fun hmem => ?_, ih⟩
    obtain ⟨c, hc, hc1⟩ := List.mem_map.1 hmem
    obtain ⟨_, rest, hsub, hlen⟩ := hrest.exists_of_mem hc
    rw [hc1] at hsub
    have := congrArg List.length ((IsGList.cons hget hrest).unique hsub)
    simp at this
    omega

/-- A list has no more nodes than the heap has addresses. -/
theorem length_le {list prev : Nat} {cells : List (Nat × Nat)} (hl : IsGList h list prev cells) :
    cells.length ≤ h.next := by
  have hsub : cells.map Prod.fst ⊆ List.range h.next := fun p hp => by
    obtain ⟨c, hc, rfl⟩ := List.mem_map.1 hp
    exact List.mem_range.2 (Heap.lt_next_of_live (hl.live c hc))
  simpa using (List.subperm_of_subset hl.nodup hsub).length_le

/-- A list is read from its own nodes only: a heap that agrees on them holds the same list. -/
theorem congr {h' : Heap} {list prev : Nat} {cells : List (Nat × Nat)}
    (hl : IsGList h list prev cells) (hagree : ∀ c ∈ cells, h'.get c.1 = h.get c.1) :
    IsGList h' list prev cells := by
  induction hl with
  | nil => exact .nil _
  | cons hget _ ih =>
    exact .cons ((hagree _ (List.mem_cons_self _ _)).trans hget)
      (ih fun c hc => hagree c (List.mem_cons_of_mem _ hc))

/-- The last node of a list links to `NULL`. -/
theorem get_last {list prev l dl : Nat} {pre : List (Nat × Nat)}
    (hl : IsGList h list prev (pre ++ [(l, dl)])) : ∃ pl, h.get l = some (.node dl 0 pl) := by
  induction pre generalizing list prev with
  | nil =>
    obtain _ | ⟨hget, hrest⟩ := hl
    obtain _ | _ := hrest
    exact ⟨_, hget⟩
  | cons c pre ih =>
    obtain _ | ⟨_, hrest⟩ := hl
    exact ih hrest

/-- Linking a new node after the last: when the last node now links to `n`, and `n` holds `d`,
links back to it and to `NULL` after it, the list has gained the cell `(n, d)`. -/
theorem snoc {h' : Heap} {list prev l dl pl n d : Nat} {pre : List (Nat × Nat)}
    (hl : IsGList h list prev (pre ++ [(l, dl)])) (hlast : h.get l = some (.node dl 0 pl))
    (hlast' : h'.get l = some (.node dl n pl)) (hn : h'.get n = some (.node d 0 l))
    (hagree : ∀ c ∈ pre, h'.get c.1 = h.get c.1) :
    IsGList h' list prev (pre ++ [(l, dl), (n, d)]) := by
  induction pre generalizing list prev with
  | nil =>
    obtain _ | ⟨hget, -⟩ := hl
    rw [hget] at hlast
    cases hlast
    exact .cons hlast' (.cons hn (.nil _))
  | cons c pre ih =>
    obtain _ | ⟨hget, hrest⟩ := hl
    exact .cons ((hagree _ (List.mem_cons_self _ _)).trans hget)
      (ih hrest fun c hc => hagree c (List.mem_cons_of_mem _ hc))

end IsGList

/-! ### `g_list_last` -/

/-- The loop of `g_list_last`: follow `next` until a node whose `next` is `NULL`.  The fuel bounds
the turns; running out of it stands for a loop that does not end. -/
def gListLastLoop (h : Heap) : Nat → Nat → Option Nat
  | 0, _ => none
  | fuel + 1, list =>
    match h.get list with
    | some (.node _ next _) => if next = 0 then some list else gListLastLoop h fuel next
    | _ => none

/-- `g_list_last`, with as many turns as the heap has addresses. -/
def gListLast (h : Heap) (list : Nat) : Option Nat :=
  if list = 0 then some 0 else gListLastLoop h h.next list

theorem gListLastLoop_eq {h : Heap} {list prev l dl : Nat} {pre : List (Nat × Nat)}
    (hl : IsGList h list prev (pre ++ [(l, dl)])) {fuel : Nat} (hfuel : pre.length < fuel) :
    gListLastLoop h fuel list = some l := by
  induction pre generalizing list prev fuel with
  | nil =>
    obtain _ | ⟨hget, hrest⟩ := hl
    obtain _ | _ := hrest
    obtain _ | fuel := fuel
    · cases hfuel
    · simp [gListLastLoop, hget]
  | cons c pre ih =>
    obtain _ | ⟨hget, hrest⟩ := hl
    obtain _ | fuel := fuel
    · cases hfuel
    · have hnext := mt hrest.null_iff.1 (by simp)
      simp only [gListLastLoop, hget, if_neg hnext]
      exact ih hrest (by simp at hfuel; omega)

/-- **`g_list_last` finds the last node** of a non-empty list. -/
theorem gListLast_eq {h : Heap} {list prev l dl : Nat} {pre : List (Nat × Nat)}
    (hl : IsGList h list prev (pre ++ [(l, dl)])) : gListLast h list = some l := by
  have hlen := hl.length_le
  rw [gListLast, if_neg (mt hl.null_iff.1 (by simp)), gListLastLoop_eq hl]
  simp at hlen
  omega

/-! ### `g_list_append` -/

/-- `list->next = next`, on an allocated node. -/
def setNext (h : Heap) (list next : Nat) : Option Heap :=
  match hp : h.get list with
  | some (.node data _ prev) => some (h.write list (Heap.live_of_get hp) (.node data next prev))
  | _ => none

/-- `list->prev = prev`, on an allocated node. -/
def setPrev (h : Heap) (list prev : Nat) : Option Heap :=
  match hp : h.get list with
  | some (.node data next _) => some (h.write list (Heap.live_of_get hp) (.node data next prev))
  | _ => none

theorem setNext_eq {h : Heap} {list data next prev : Nat}
    (hp : h.get list = some (.node data next prev)) (next' : Nat) :
    ∃ h', setNext h list next' = some h' ∧ h'.next = h.next ∧
      ∀ q, h'.get q = if q = list then some (.node data next' prev) else h.get q := by
  unfold setNext
  split
  · next hp' =>
    rw [hp] at hp'
    cases hp'
    exact ⟨_, rfl, rfl, Heap.write_get _ _ _ _⟩
  · next hne => exact absurd hp (hne data next prev)

theorem setPrev_eq {h : Heap} {list data next prev : Nat}
    (hp : h.get list = some (.node data next prev)) (prev' : Nat) :
    ∃ h', setPrev h list prev' = some h' ∧ h'.next = h.next ∧
      ∀ q, h'.get q = if q = list then some (.node data next prev') else h.get q := by
  unfold setPrev
  split
  · next hp' =>
    rw [hp] at hp'
    cases hp'
    exact ⟨_, rfl, rfl, Heap.write_get _ _ _ _⟩
  · next hne => exact absurd hp (hne data next prev)

/-- `g_list_append`: a new node holding `data` and linking to `NULL`; for an empty list the new
node is the list, and otherwise the last node links to it, it back to the last node, and the
list is returned as it was. -/
def gListAppend (h : Heap) (list data : Nat) : Option (Heap × Nat) :=
  let (h, newList) := h.alloc (.node data 0 0)
  if list = 0 then some (h, newList)
  else do
    let last ← gListLast h list
    let h ← setNext h last newList
    let h ← setPrev h newList last
    pure (h, list)

/-- **`g_list_append` appends**: the list gains the cell of a new node at the next address,
holding `data`, at its end; its first node is the new one when it was empty, and the same
otherwise; and no block changes but the list's own nodes and the new one. -/
theorem gListAppend_spec {h : Heap} {list : Nat} {cells : List (Nat × Nat)}
    (hl : IsGList h list 0 cells) (data : Nat) :
    ∃ h', gListAppend h list data = some (h', if list = 0 then h.next else list) ∧
      IsGList h' (if list = 0 then h.next else list) 0 (cells ++ [(h.next, data)]) ∧
      h'.next = h.next + 1 ∧ ∀ p, p ≠ h.next → p ∉ cells.map Prod.fst → h'.get p = h.get p := by
  have hfresh := Heap.not_live_next h
  by_cases h0 : list = 0
  · subst h0
    obtain rfl := hl.null_iff.1 rfl
    refine ⟨(h.alloc (.node data 0 0)).1, rfl, ?_, rfl, fun p hp _ => by simp [hp]⟩
    simpa using IsGList.cons (by simp) (.nil h.next)
  · obtain ⟨pre, ⟨l, dl⟩, hcells⟩ := List.eq_nil_or_concat cells |>.resolve_left
      (mt hl.null_iff.2 h0)
    rw [List.concat_eq_append] at hcells
    subst hcells
    set h₁ := (h.alloc (.node data 0 0)).1
    have hagree₁ : ∀ c ∈ pre ++ [(l, dl)], h₁.get c.1 = h.get c.1 := fun c hc =>
      Heap.alloc_get_of_live _ (hl.live c hc)
    have hl₁ := hl.congr hagree₁
    obtain ⟨pl, hlast⟩ := hl.get_last
    have hl_ne : l ≠ h.next := fun he => hfresh (he ▸ Heap.live_of_get hlast)
    obtain ⟨h₂, hset₂, hnext₂, hget₂⟩ :=
      setNext_eq (show h₁.get l = some (.node dl 0 pl) from (hagree₁ (l, dl) (by simp)).trans hlast)
        h.next
    obtain ⟨h₃, hset₃, hnext₃, hget₃⟩ :=
      setPrev_eq (show h₂.get h.next = some (.node data 0 0) by
        rw [hget₂, if_neg (Ne.symm hl_ne)]; simp [h₁]) l
    have hpre : ∀ c ∈ pre, c.1 ≠ l := fun c hc he => by
      have := hl.nodup
      rw [List.map_append, List.nodup_append] at this
      exact this.2.2 (List.mem_map_of_mem _ hc) (by simp [he])
    refine ⟨h₃, ?_, ?_, by rw [hnext₃, hnext₂]; rfl, fun p hp hpc => ?_⟩
    · simp only [gListAppend, if_neg h0]
      rw [gListLast_eq hl₁]
      simp [hset₂, hset₃, h₁]
    · rw [if_neg h0, List.append_assoc, List.singleton_append]
      refine hl.snoc hlast (by rw [hget₃, if_neg hl_ne, hget₂, if_pos rfl])
        (by rw [hget₃, if_pos rfl]) fun c hc => ?_
      have hc_ne : c.1 ≠ h.next := fun he => hfresh (he ▸ hl.live c (by simp [hc]))
      rw [hget₃, if_neg hc_ne, hget₂, if_neg (hpre c hc), hagree₁ c (by simp [hc])]
    · have hpl : p ≠ l := fun he => hpc (by simp [he])
      rw [hget₃, if_neg hp, hget₂, if_neg hpl, Heap.alloc_get, if_neg hp]

end GLib
