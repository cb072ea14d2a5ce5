/-
**The query in memory, and its refinement of the value model.**

`DocumentsQuery.Query` models the private part as values: a string is an `Option CStr`, a list a
`List GDEmailAddress`.  The C code holds pointers instead.  `set_folder_id` and `set_title`
`g_free` the string they hold and `g_strdup` the argument; `add_reader` and `add_collaborator`
make a new address object and `g_list_append` it.  This module models the calls as they act on
memory (`GData.Instance`), and relates the two levels: a query in memory *represents* a query
value (`GData.Instance.Represents`) when its flags are equal, its pointers read back as the
value's strings and lists, and no block is held twice.

Every call whose string argument is `NULL` or an allocated string refines the value-level call
on what it reads (`GData.CallAt.apply_refines`), and does so within its own memory
(`GData.Confined`): it releases only blocks it held, holds afterwards only blocks it held or has
just allocated, and leaves every other allocated block as it was.  One argument is excepted,
and there the code is wrong: `set_folder_id` and `set_title` release their string before they
copy the argument, so handing them the query's own string — as
`set_title (query, get_title (query), …)` does — copies a released block
(`GData.Instance.setFolderId_getFolderId`).

Main definitions:

* `GData.Priv`, `GData.Instance` — the private part as it lies in memory, with the heap;
* `GData.Instance.setFolderId`, …, `GData.Instance.addCollaborator`,
  `GData.Instance.setProperty` — the calls on memory, `add_reader` and `add_collaborator` both
  as `GData.Instance.addTo` of their role;
* `GData.CallAt`, `GData.CallAt.apply`, `GData.CallAt.read` — a call as C makes it, with
  pointers for strings, and the value-level call it stands for;
* `GData.Instance.owned`, `GData.Instance.Represents`, `GData.Confined` — the blocks a query
  holds, the representation relation, and what a call may do to memory.

Main results:

* `GData.Instance.replaceString_spec`, `GData.Instance.addAddress_accepted` — the two memory
  operations of the setters;
* `GData.Instance.addTo_refines` — both `add_*` calls refine the value model, one proof for the
  two roles;
* `GData.CallAt.apply_refines` — **every call refines the value model, within its own memory**;
* `GData.Instance.setFolderId_getFolderId` — **a setter handed the query's own string reads it
  after releasing it**.
-/

import Mathlib.Data.List.Forall2
import DocumentsQuery.GList

set_option relaxedAutoImplicit false
set_option autoImplicit false

namespace GData

/-! ### The query in memory -/

/-- `GDataDocumentsQueryPrivate` as it lies in memory: the strings and the lists are pointers. -/
structure Priv where
  /-- `show_deleted` -/
  showDeleted : Int
  /-- `show_folders` -/
  showFolders : Int
  /-- `exact_title` -/
  exactTitle : Int
  /-- `folder_id`, a string of the query's own or `NULL` -/
  folderId : Nat
  /-- `title`, a string of the query's own or `NULL` -/
  title : Nat
  /-- `collaborator_addresses`, the first node of a `GList` or `NULL` -/
  collaboratorAddresses : Nat
  /-- `reader_addresses`, the first node of a `GList` or `NULL` -/
  readerAddresses : Nat

/-- The list a role's calls append to: `collaborator_addresses` or `reader_addresses`. -/
def Priv.addresses (priv : Priv) : Role → Nat
  | .collaborator => priv.collaboratorAddresses
  | .reader => priv.readerAddresses

/-- The private part with the list of a role replaced. -/
def Priv.setAddresses (priv : Priv) : Role → Nat → Priv
  | .collaborator, list => { priv with collaboratorAddresses := list }
  | .reader, list => { priv with readerAddresses := list }

/-- A documents query in memory: its private part, and the heap its pointers point into. -/
structure Instance where
  /-- the heap -/
  heap : Heap
  /-- the private part -/
  priv : Priv

/-- A `GValue` as it lies in memory: a string value points to the value's own copy. -/
inductive ValueAt
  | boolean (v : Bool)
  | string (v : Nat)

/-- `g_value_get_boolean`. -/
def ValueAt.getBoolean : ValueAt → Int
  | .boolean v => if v then 1 else 0
  | .string _ => 0

/-- `g_value_get_string`: `NULL` for a value that holds no string. -/
def ValueAt.getString : ValueAt → Nat
  | .string v => v
  | .boolean _ => 0

namespace Instance

/-- `gdata_documents_query_init`: the private part is zero-filled. -/
def init (heap : Heap) : Instance := ⟨heap, ⟨0, 0, 0, 0, 0, 0, 0⟩⟩

/-- `gdata_documents_query_get_folder_id`: the pointer the query holds. -/
def getFolderId (self : Instance) : Nat := self.priv.folderId

/-- `gdata_documents_query_get_title`: the pointer the query holds. -/
def getTitle (self : Instance) : Nat := self.priv.title

/-- `gdata_documents_query_get_collaborator_addresses`: the first node of the list the query
holds. -/
def getCollaboratorAddresses (self : Instance) : Nat := self.priv.collaboratorAddresses

/-- `gdata_documents_query_get_reader_addresses`: the first node of the list the query holds. -/
def getReaderAddresses (self : Instance) : Nat := self.priv.readerAddresses

/-! ### The calls on memory -/

/-- `gdata_documents_query_set_show_deleted`. -/
def setShowDeleted (self : Instance) (showDeleted : Int) : Instance :=
  { self with priv := { self.priv with showDeleted } }

/-- `gdata_documents_query_set_show_folders`. -/
def setShowFolders (self : Instance) (showFolders : Int) : Instance :=
  { self with priv := { self.priv with showFolders } }

/-- What `set_folder_id` and `set_title` do to the string they hold: `g_free` it, then
`g_strdup` the argument. -/
def replaceString (heap : Heap) (old new : Nat) : Option (Heap × Nat) := do
  let heap ← GLib.gFree heap old
  GLib.gStrdup heap new

/-- `gdata_documents_query_set_folder_id`. -/
def setFolderId (self : Instance) (folderId : Nat) : Option Instance := do
  let (heap, folderId) ← replaceString self.heap self.priv.folderId folderId
  pure ⟨heap, { self.priv with folderId }⟩

/-- `gdata_documents_query_set_title`. -/
def setTitle (self : Instance) (title : Nat) (exactTitle : Int) : Option Instance := do
  let (heap, title) ← replaceString self.heap self.priv.title title
  pure ⟨heap, { self.priv with title, exactTitle }⟩

/-- The body `gdata_documents_query_add_reader` and `_add_collaborator` share, in memory:
`g_return_if_fail` returns on a `NULL` address and, reading its first byte, on an empty one;
otherwise `gdata_gd_email_address_new` makes a new address object (`NULL` label, not primary),
and `g_list_append` appends it. -/
def addAddress (relationType : CStr) (heap : Heap) (addresses emailAddress : Nat) :
    Option (Heap × Nat) :=
  if emailAddress = 0 then some (heap, addresses)
  else
    match heap.get emailAddress with
    | some (.str e) =>
      if he : e.bytes = [] then some (heap, addresses)
      else
        let (heap, address) := heap.alloc (.emailAddress ⟨e, some relationType, none, false, he⟩)
        GLib.gListAppend heap addresses address
    | _ => none

/-- `gdata_documents_query_add_reader` and `_add_collaborator`, for the list of `role` and its
relation type. -/
def addTo (role : Role) (self : Instance) (emailAddress : Nat) : Option Instance := do
  let (heap, addresses) ←
    addAddress role.relationType self.heap (self.priv.addresses role) emailAddress
  pure ⟨heap, self.priv.setAddresses role addresses⟩

/-- `gdata_documents_query_add_reader`: `reader_addresses`, relation type `reader`. -/
def addReader (self : Instance) (emailAddress : Nat) : Option Instance :=
  self.addTo .reader emailAddress

/-- `gdata_documents_query_add_collaborator`: `collaborator_addresses`, relation type
`collaborator`. -/
def addCollaborator (self : Instance) (emailAddress : Nat) : Option Instance :=
  self.addTo .collaborator emailAddress

/-- `gdata_documents_query_set_property`; the `title` case calls `set_title` with `exact_title`
`TRUE`. -/
def setProperty (self : Instance) : Property → ValueAt → Option Instance
  | .showDeleted, value => some (self.setShowDeleted value.getBoolean)
  | .showFolders, value => some (self.setShowFolders value.getBoolean)
  | .folderId, value => self.setFolderId value.getString
  | .exactTitle, value => some { self with priv := { self.priv with exactTitle := value.getBoolean } }
  | .title, value => self.setTitle value.getString 1

end Instance

/-- A call of the public interface as C makes it: a string argument is a pointer. -/
inductive CallAt
  | setShowDeleted (showDeleted : Int)
  | setShowFolders (showFolders : Int)
  | setFolderId (folderId : Nat)
  | setTitle (title : Nat) (exactTitle : Int)
  | addReader (emailAddress : Nat)
  | addCollaborator (emailAddress : Nat)
  | setProperty (property : Property) (value : ValueAt)

/-- The value a `GValue` in memory holds. -/
def ValueAt.read (h : Heap) : ValueAt → Option GValue
  | .boolean v => some (.boolean v)
  | .string v => (h.readString v).map .string

namespace CallAt

/-- What a call does to the query in memory; `none` where C leaves it undefined. -/
def apply : CallAt → Instance → Option Instance
  | .setShowDeleted b, m => some (m.setShowDeleted b)
  | .setShowFolders b, m => some (m.setShowFolders b)
  | .setFolderId f, m => m.setFolderId f
  | .setTitle t b, m => m.setTitle t b
  | .addReader e, m => m.addReader e
  | .addCollaborator e, m => m.addCollaborator e
  | .setProperty p v, m => m.setProperty p v

/-- The value-level call a call stands for, its strings read through the heap: none when a
string argument is neither `NULL` nor an allocated string. -/
def read (h : Heap) : CallAt → Option Call
  | .setShowDeleted b => some (.setShowDeleted b)
  | .setShowFolders b => some (.setShowFolders b)
  | .setFolderId f => (h.readString f).map .setFolderId
  | .setTitle t b => (h.readString t).map (.setTitle · b)
  | .addReader e => (h.readString e).map .addReader
  | .addCollaborator e => (h.readString e).map .addCollaborator
  | .setProperty p v => (v.read h).map (.setProperty p)

/-- The string a call reads, `NULL` when it reads none. -/
def arg : CallAt → Nat
  | .setFolderId p | .setTitle p _ | .addReader p | .addCollaborator p => p
  | .setProperty _ v => v.getString
  | _ => 0

/-- The string a call releases before it reads its argument, `NULL` when it releases none. -/
def frees (priv : Priv) : CallAt → Nat
  | .setFolderId _ | .setProperty .folderId _ => priv.folderId
  | .setTitle _ _ | .setProperty .title _ => priv.title
  | _ => 0

end CallAt

/-! ### Representation -/

/-- Where a query's lists lie: the cells of each, a node and its address object. -/
structure Layout where
  /-- the cells of `collaborator_addresses` -/
  collaborators : List (Nat × Nat)
  /-- the cells of `reader_addresses` -/
  readers : List (Nat × Nat)

/-- The cells of a role's list. -/
def Layout.cells (L : Layout) : Role → List (Nat × Nat)
  | .collaborator => L.collaborators
  | .reader => L.readers

/-- The layout with the cells of a role's list replaced. -/
def Layout.setCells (L : Layout) : Role → List (Nat × Nat) → Layout
  | .collaborator, cells => { L with collaborators := cells }
  | .reader, cells => { L with readers := cells }

/-- The blocks of the cells: each node and the address object it points to. -/
def Layout.blocks (cells : List (Nat × Nat)) : List Nat := cells.flatMap fun c => [c.1, c.2]

@[simp] theorem Layout.blocks_nil : Layout.blocks [] = [] := rfl

@[simp] theorem Layout.blocks_append (cells cells' : List (Nat × Nat)) :
    Layout.blocks (cells ++ cells') = Layout.blocks cells ++ Layout.blocks cells' :=
  List.flatMap_append _ _ _

@[simp] theorem Layout.blocks_cons (c : Nat × Nat) (cells : List (Nat × Nat)) :
    Layout.blocks (c :: cells) = c.1 :: c.2 :: Layout.blocks cells := rfl

theorem Layout.mem_blocks {p : Nat} {cells : List (Nat × Nat)} :
    p ∈ Layout.blocks cells ↔ ∃ c ∈ cells, p = c.1 ∨ p = c.2 := by
  simp [Layout.blocks, List.mem_flatMap, eq_comm]

/-- `h` holds at `list` a `GList` with the cells `cells`, whose `data` are address objects holding
`addresses`. -/
structure AddressList (h : Heap) (list : Nat) (cells : List (Nat × Nat))
    (addresses : List GDEmailAddress) : Prop where
  /-- the nodes form a list -/
  glist : GLib.IsGList h list 0 cells
  /-- each node's `data` is the address object of the address in the same place -/
  data : List.Forall₂ (fun c a => h.get c.2 = some (.emailAddress a)) cells addresses

namespace AddressList

variable {h h' : Heap} {list : Nat} {cells : List (Nat × Nat)} {addresses : List GDEmailAddress}

/-- The address objects are read from their own blocks only. -/
theorem data_congr {cells : List (Nat × Nat)} {addresses : List GDEmailAddress}
    (hd : List.Forall₂ (fun c a => h.get c.2 = some (.emailAddress a)) cells addresses)
    (hagree : ∀ c ∈ cells, h'.get c.2 = h.get c.2) :
    List.Forall₂ (fun c a => h'.get c.2 = some (.emailAddress a)) cells addresses := by
  induction hd with
  | nil => exact .nil
  | cons hca _ ih =>
    exact .cons ((hagree _ (List.mem_cons_self _ _)).trans hca)
      (ih fun c hc => hagree c (List.mem_cons_of_mem _ hc))

/-- Each cell's `data` is an address object. -/
theorem get_data (hA : AddressList h list cells addresses) :
    ∀ c ∈ cells, ∃ a, h.get c.2 = some (.emailAddress a) := by
  have hd := hA.data
  clear hA
  induction hd with
  | nil => simp
  | cons hca _ ih =>
    intro c hc
    rcases List.mem_cons.1 hc with rfl | hc
    · exact ⟨_, hca⟩
    · exact ih c hc

/-- Every block of the cells is allocated. -/
theorem live (hA : AddressList h list cells addresses) : ∀ p ∈ Layout.blocks cells, h.live p := by
  simp only [Layout.mem_blocks]
  rintro p ⟨c, hc, rfl | rfl⟩
  · exact hA.glist.live c hc
  · obtain ⟨a, ha⟩ := hA.get_data c hc
    exact Heap.live_of_get ha

/-- No cell's `data` is a node of the list: it holds an address object. -/
theorem data_not_mem (hA : AddressList h list cells addresses) :
    ∀ c ∈ cells, c.2 ∉ cells.map Prod.fst := fun c hc hm => by
  obtain ⟨c', hc', he⟩ := List.mem_map.1 hm
  obtain ⟨_, _, hnode⟩ := hA.glist.get_node c' hc'
  obtain ⟨a, ha⟩ := hA.get_data c hc
  rw [he, ha] at hnode
  cases hnode

/-- A list of addresses is read from its own blocks only. -/
theorem congr (hA : AddressList h list cells addresses)
    (hagree : ∀ p ∈ Layout.blocks cells, h'.get p = h.get p) :
    AddressList h' list cells addresses :=
  ⟨hA.glist.congr fun c hc => hagree _ (by simp only [Layout.mem_blocks]; exact ⟨c, hc, .inl rfl⟩),
    data_congr hA.data fun c hc =>
      hagree _ (by simp only [Layout.mem_blocks]; exact ⟨c, hc, .inr rfl⟩)⟩

end AddressList

namespace Instance

/-- The pointer itself, when it is not `NULL`. -/
def nonNull (p : Nat) : List Nat := if p = 0 then [] else [p]

@[simp] theorem mem_nonNull {p q : Nat} : q ∈ nonNull p ↔ q = p ∧ p ≠ 0 := by
  unfold nonNull; split_ifs with h <;> simp [h]

/-- The blocks a query holds: its two strings, and the node and the address object of each cell
of its lists. -/
def owned (priv : Priv) (L : Layout) : List Nat :=
  nonNull priv.folderId ++ nonNull priv.title ++ Layout.blocks (L.collaborators ++ L.readers)

/-- **The query in memory `m` stands for the query value `q`**, its lists laid out as `L`: the
flags are equal, the pointers read back as `q`'s strings and lists, and no block is held twice. -/
structure Represents (m : Instance) (L : Layout) (q : DocumentsQuery) : Prop where
  /-- `show_deleted` -/
  showDeleted : m.priv.showDeleted = q.showDeleted
  /-- `show_folders` -/
  showFolders : m.priv.showFolders = q.showFolders
  /-- `exact_title` -/
  exactTitle : m.priv.exactTitle = q.exactTitle
  /-- `folder_id` reads back as the folder ID -/
  folderId : m.heap.readString m.priv.folderId = some q.folderId
  /-- `title` reads back as the title -/
  title : m.heap.readString m.priv.title = some q.title
  /-- `collaborator_addresses` holds the collaborators -/
  collaborators : AddressList m.heap m.priv.collaboratorAddresses L.collaborators
    q.collaboratorAddresses
  /-- `reader_addresses` holds the readers -/
  readers : AddressList m.heap m.priv.readerAddresses L.readers q.readerAddresses
  /-- no block is held twice -/
  nodup : (owned m.priv L).Nodup

/-- A new query in any heap represents the new query value, and holds nothing. -/
theorem represents_init (heap : Heap) :
    Represents (init heap) ⟨[], []⟩ DocumentsQuery.init ∧ owned (init heap).priv ⟨[], []⟩ = [] :=
  ⟨⟨rfl, rfl, rfl, rfl, rfl, ⟨.nil 0, .nil⟩, ⟨.nil 0, .nil⟩, by simp [owned, nonNull, init]⟩,
    by simp [owned, nonNull, init]⟩

/-- A string pointer that reads back as a value is `NULL` or allocated. -/
theorem null_or_live_of_readString {h : Heap} {p : Nat} {v : Option CStr}
    (hp : h.readString p = some v) : p = 0 ∨ h.live p := by
  rcases Heap.readString_eq_some hp with ⟨rfl, -⟩ | ⟨s, -, hs⟩
  · exact .inl rfl
  · exact .inr (Heap.live_of_get hs)

/-- Every block a query holds is allocated. -/
theorem Represents.live {m : Instance} {L : Layout} {q : DocumentsQuery} (hm : Represents m L q) :
    ∀ p ∈ owned m.priv L, m.heap.live p := by
  intro p hp
  simp only [owned, List.mem_append, mem_nonNull, Layout.blocks_append] at hp
  rcases hp with (⟨rfl, h0⟩ | ⟨rfl, h0⟩) | hp | hp
  · exact (null_or_live_of_readString hm.folderId).resolve_left h0
  · exact (null_or_live_of_readString hm.title).resolve_left h0
  · exact hm.collaborators.live p hp
  · exact hm.readers.live p hp

/-- The list of a role holds the addresses of that role. -/
theorem Represents.addresses {m : Instance} {L : Layout} {q : DocumentsQuery}
    (hm : Represents m L q) (r : Role) :
    AddressList m.heap (m.priv.addresses r) (L.cells r) (q.addresses r) := by
  cases r
  exacts [hm.collaborators, hm.readers]

end Instance

/-! ### What a call may do to memory -/

/-- A change of heap from `h` to `h'`, by code that held the blocks `O` and afterwards holds `O'`,
stays within its own memory: it holds afterwards only blocks it held or has just allocated,
releases only blocks it held, and leaves every other allocated block as it was. -/
structure Confined (h : Heap) (O : List Nat) (h' : Heap) (O' : List Nat) : Prop where
  /-- what is held afterwards was held, or is new -/
  owned_new : ∀ p ∈ O', p ∈ O ∨ h.next ≤ p
  /-- allocation only moves up -/
  next_le : h.next ≤ h'.next
  /-- what is allocated afterwards: the blocks of others, and those now held -/
  live_iff : ∀ p, h'.live p ↔ (h.live p ∧ p ∉ O) ∨ p ∈ O'
  /-- the blocks of others are as they were -/
  frame : ∀ p, p ∉ O → h.live p → h'.get p = h.get p

namespace Confined

/-- Nothing changes. -/
theorem refl (h : Heap) (O : List Nat) (hO : ∀ p ∈ O, h.live p) : Confined h O h O :=
  ⟨fun p hp => .inl hp, le_rfl, fun p => ⟨fun hp => by by_cases hpO : p ∈ O <;> simp [hp, hpO],
    by rintro (⟨hp, -⟩ | hp); exacts [hp, hO p hp]⟩, fun _ _ _ => rfl⟩

/-- A change is confined when the held blocks split into those released or replaced (`X`, which
become `X'`) and those kept (`Y`), the new ones are allocated, the released ones are not, the
kept ones stay allocated, and no block outside the three changes. -/
theorem of_parts {h h' : Heap} {O O' : List Nat} (X X' Y : List Nat)
    (hO : ∀ p, p ∈ O ↔ p ∈ X ∨ p ∈ Y) (hO' : ∀ p, p ∈ O' ↔ p ∈ X' ∨ p ∈ Y)
    (hget : ∀ p, p ∉ X → p ∉ X' → p ∉ Y → h'.get p = h.get p)
    (hX' : ∀ p ∈ X', h'.live p ∧ (p ∈ X ∨ h.next ≤ p)) (hX : ∀ p ∈ X, p ∉ X' → ¬h'.live p)
    (hY : ∀ p ∈ Y, p ∉ X ∧ h'.live p) (hnext : h.next ≤ h'.next) : Confined h O h' O' := by
  have hlive : ∀ p, p ∉ X → p ∉ X' → p ∉ Y → (h'.live p ↔ h.live p) := fun p h₁ h₂ h₃ => by
    simp only [Heap.live, hget p h₁ h₂ h₃]
  refine ⟨fun p hp => ?_, hnext, fun p => ?_, fun p hp hl => ?_⟩
  · rcases (hO' p).1 hp with hp | hp
    · exact (hX' p hp).2.imp_left fun hx => (hO p).2 (.inl hx)
    · exact .inl ((hO p).2 (.inr hp))
  · constructor
    · intro hl
      by_cases h₁ : p ∈ X'
      · exact .inr ((hO' p).2 (.inl h₁))
      by_cases h₃ : p ∈ Y
      · exact .inr ((hO' p).2 (.inr h₃))
      by_cases h₂ : p ∈ X
      · exact absurd hl (hX p h₂ h₁)
      exact .inl ⟨(hlive p h₂ h₁ h₃).1 hl, fun hp => ((hO p).1 hp).elim h₂ h₃⟩
    · rintro (⟨hl, hp⟩ | hp)
      · have h₂ : p ∉ X := fun hx => hp ((hO p).2 (.inl hx))
        have h₃ : p ∉ Y := fun hy => hp ((hO p).2 (.inr hy))
        by_cases h₁ : p ∈ X'
        · exact (hX' p h₁).1
        · exact (hlive p h₂ h₁ h₃).2 hl
      · rcases (hO' p).1 hp with h | h
        · exact (hX' p h).1
        · exact (hY p h).2
  · have h₂ : p ∉ X := fun hx => hp ((hO p).2 (.inl hx))
    have h₃ : p ∉ Y := fun hy => hp ((hO p).2 (.inr hy))
    have h₁ : p ∉ X' := fun hx => ((hX' p hx).2.resolve_left h₂).not_lt (Heap.lt_next_of_live hl)
    exact hget p h₂ h₁ h₃

/-- Only which blocks are held matters, not in what order they are listed. -/
theorem congr {h h' : Heap} {O O' P P' : List Nat} (hc : Confined h O h' O')
    (hP : ∀ p, p ∈ P ↔ p ∈ O) (hP' : ∀ p, p ∈ P' ↔ p ∈ O') : Confined h P h' P' :=
  ⟨fun p hp => (hc.owned_new p ((hP' p).1 hp)).imp_left (hP p).2, hc.next_le,
    fun p => by rw [hc.live_iff, hP, hP'], fun p hp => hc.frame p (mt (hP p).2 hp)⟩

/-- A confined change of a heap that holds the caller's blocks beside the held ones, as they
were, keeps them so beside the blocks held afterwards. -/
theorem beside {heap h h' : Heap} {O O' : List Nat} (hc : Confined h O h' O')
    (hlive : ∀ p, h.live p ↔ heap.live p ∨ p ∈ O) (hframe : ∀ p, heap.live p → h.get p = heap.get p)
    (hcaller : ∀ p, heap.live p → p ∉ O) :
    (∀ p, h'.live p ↔ heap.live p ∨ p ∈ O') ∧ ∀ p, heap.live p → h'.get p = heap.get p := by
  refine ⟨fun p => ?_, fun p hl => ?_⟩
  · rw [hc.live_iff, hlive]
    constructor
    · rintro (⟨hl | ho, hno⟩ | ho)
      exacts [.inl hl, absurd ho hno, .inr ho]
    · rintro (hl | ho)
      exacts [.inl ⟨.inl hl, hcaller p hl⟩, .inr ho]
  · rw [hc.frame p (hcaller p hl) ((hlive p).2 (.inl hl)), hframe p hl]

end Confined

namespace Instance

/-! ### Releasing and copying a string -/

/-- `g_free` of a string held and `g_strdup` of an argument other than it: the copy reads back
as the argument, is `NULL` or new, the released block is gone, and no other block changes. -/
theorem replaceString_spec {heap : Heap} {old new : Nat} {v : Option CStr}
    (hold : old = 0 ∨ heap.live old) (hnew : heap.readString new = some v)
    (halias : new = 0 ∨ new ≠ old) :
    ∃ heap' copy, replaceString heap old new = some (heap', copy) ∧
      heap'.readString copy = some v ∧ heap.next ≤ heap'.next ∧ (copy = 0 ∨ copy = heap.next) ∧
      (∀ p, p ≠ old → p ≠ copy → heap'.get p = heap.get p) ∧
      (old ≠ 0 → old ≠ copy ∧ heap'.get old = none) := by
  obtain ⟨h₁, hfree, hnext₁, hget₁⟩ := GLib.gFree_get hold
  have hnew₁ : h₁.readString new = some v := by
    rcases halias with rfl | hne
    · rw [Heap.readString_null, ← Heap.readString_null heap, ← hnew]
    · exact (Heap.readString_congr (show h₁.get new = heap.get new by rw [hget₁, if_neg hne])).trans
        hnew
  obtain ⟨h₂, copy, hdup, hread, hnext₂, hcopy, hget₂⟩ := GLib.gStrdup_spec hnew₁
  have hcopy_ne : old ≠ 0 → old ≠ copy := fun h0 he => by
    have hlt := Heap.lt_next_of_live (hold.resolve_left h0)
    rcases hcopy with hc | hc <;> omega
  refine ⟨h₂, copy, by simp [replaceString, hfree, hdup], hread, by omega, hnext₁ ▸ hcopy,
    fun p hp hpc => by rw [hget₂ p hpc, hget₁, if_neg hp],
    fun h0 => ⟨hcopy_ne h0, by rw [hget₂ _ (hcopy_ne h0), hget₁, if_pos rfl]⟩⟩

/-- **`g_strdup` of the string just released**: a setter handed the string it holds reads it
after `g_free` released it, which C leaves undefined. -/
theorem replaceString_self (heap : Heap) {old : Nat} (hold : heap.live old) :
    replaceString heap old old = none := by
  simp [replaceString, GLib.gFree_live hold, GLib.gStrdup_freed heap (Heap.ne_null_of_live hold)]

/-! ### Appending an address -/

/-- An `add_*` call refused by `g_return_if_fail` changes nothing. -/
theorem addAddress_refused {heap : Heap} {addresses emailAddress : Nat} {v : Option CStr}
    (hv : heap.readString emailAddress = some v) (hr : DocumentsQuery.accepted v = none)
    (relationType : CStr) :
    addAddress relationType heap addresses emailAddress = some (heap, addresses) := by
  rcases Heap.readString_eq_some hv with ⟨rfl, -⟩ | ⟨s, rfl, hs⟩
  · rfl
  · have he : s.bytes = [] := by
      by_contra he
      simp [DocumentsQuery.accepted, he] at hr
    rw [addAddress, if_neg (Heap.ne_null_of_live (Heap.live_of_get hs)), hs]
    simp [he]

/-- An accepted `add_*` call appends a cell: a new address object at the next address, holding
the argument, and a new node after it; no block changes but the list's nodes and the two new
ones. -/
theorem addAddress_accepted {heap : Heap} {list emailAddress : Nat} {cells : List (Nat × Nat)}
    {addresses : List GDEmailAddress} (hA : AddressList heap list cells addresses) {s : CStr}
    (hs : heap.get emailAddress = some (.str s)) (he : s.bytes ≠ []) (relationType : CStr) :
    ∃ heap' list', addAddress relationType heap list emailAddress = some (heap', list') ∧
      AddressList heap' list' (cells ++ [(heap.next + 1, heap.next)])
        (DocumentsQuery.addAddress relationType addresses (some s)) ∧
      heap'.next = heap.next + 2 ∧
      ∀ p, p ≠ heap.next → p ≠ heap.next + 1 → p ∉ cells.map Prod.fst →
        heap'.get p = heap.get p := by
  set h₁ := (heap.alloc (.emailAddress ⟨s, some relationType, none, false, he⟩)).1
  have hagree₁ : ∀ p, heap.live p → h₁.get p = heap.get p := fun p hp => Heap.alloc_get_of_live _ hp
  have hl₁ := hA.glist.congr fun c hc => hagree₁ _ (hA.glist.live c hc)
  obtain ⟨h₂, happ, hl₂, hnext₂, hget₂⟩ := GLib.gListAppend_spec hl₁ heap.next
  have hfresh : heap.next ∉ cells.map Prod.fst := fun hm =>
    let ⟨c, hc, he⟩ := List.mem_map.1 hm
    Heap.not_live_next heap (he ▸ hA.glist.live c hc)
  refine ⟨h₂, if list = 0 then h₁.next else list, ?_, ⟨?_, ?_⟩, by rw [hnext₂]; rfl,
    fun p hp hp' hpc => ?_⟩
  · rw [addAddress, if_neg (Heap.ne_null_of_live (Heap.live_of_get hs)), hs]
    simp [he, happ, h₁]
  · simpa [h₁] using hl₂
  · rw [DocumentsQuery.addAddress, dif_neg he]
    refine List.rel_append (AddressList.data_congr hA.data fun c hc => ?_)
      (.cons (by rw [hget₂ _ (by simp [h₁]) hfresh]; simp [h₁]) .nil)
    obtain ⟨a, ha⟩ := hA.get_data c hc
    have hlt := Heap.lt_next_of_live (Heap.live_of_get ha)
    rw [hget₂ _ (by simp [h₁]; omega) (hA.data_not_mem c hc), hagree₁ _ (Heap.live_of_get ha)]
  · rw [hget₂ p (by simpa [h₁] using hp') hpc, Heap.alloc_get, if_neg hp]

/-! ### Each call, beside the blocks it keeps -/

theorem readString_congr_of_ne {h h' : Heap} {p : Nat} (hp : p ≠ 0 → h'.get p = h.get p) :
    h'.readString p = h.readString p := by
  by_cases h0 : p = 0
  · simp [h0]
  · exact Heap.readString_congr (hp h0)

/-- Replacing a held string beside other held blocks `Y`: the copy reads back as the argument,
`Y` is as it was, nothing is held twice, and the change is confined. -/
theorem replaceString_confined {heap : Heap} {old new : Nat} {v : Option CStr} {Y : List Nat}
    (hnodup : (nonNull old ++ Y).Nodup) (hY : ∀ p ∈ Y, heap.live p)
    (hold : old = 0 ∨ heap.live old) (hnew : heap.readString new = some v)
    (halias : new = 0 ∨ new ≠ old) :
    ∃ heap' copy, replaceString heap old new = some (heap', copy) ∧
      heap'.readString copy = some v ∧ (∀ p ∈ Y, heap'.get p = heap.get p) ∧
      (nonNull copy ++ Y).Nodup ∧ Confined heap (nonNull old ++ Y) heap' (nonNull copy ++ Y) := by
  obtain ⟨heap', copy, hrep, hread, hnext, hcopy, hget, hgone⟩ :=
    replaceString_spec hold hnew halias
  have hYne : ∀ p ∈ Y, p ≠ old ∧ p ≠ copy := fun p hp => by
    have hlt := Heap.lt_next_of_live (hY p hp)
    have h0 := Heap.ne_null_of_live (hY p hp)
    refine ⟨fun he => List.disjoint_of_nodup_append hnodup (by simp [← he, h0]) hp, ?_⟩
    rcases hcopy with rfl | rfl <;> omega
  have hcopy_live : copy ≠ 0 → heap'.live copy ∧ copy = heap.next := fun h0 =>
    ⟨(null_or_live_of_readString hread).resolve_left h0, hcopy.resolve_left h0⟩
  refine ⟨heap', copy, hrep, hread, fun p hp => hget p (hYne p hp).1 (hYne p hp).2, ?_,
    Confined.of_parts (nonNull old) (nonNull copy) Y (fun _ => List.mem_append)
      (fun _ => List.mem_append) (fun p h₁ h₂ _ => ?_) (fun p hp => ?_) (fun p hp _ => ?_)
      (fun p hp => ?_) hnext⟩
  · by_cases h0 : copy = 0
    · simpa [nonNull, h0] using hnodup.of_append_right
    · simpa [nonNull, h0] using ⟨fun hc => (hYne copy hc).2 rfl, hnodup.of_append_right⟩
  · by_cases h0 : p = 0
    · rw [h0, heap'.get_null, heap.get_null]
    · exact hget p (fun he => h₁ (mem_nonNull.2 ⟨he, he ▸ h0⟩))
        (fun he => h₂ (mem_nonNull.2 ⟨he, he ▸ h0⟩))
  · obtain ⟨rfl, h0⟩ := mem_nonNull.1 hp
    exact ⟨(hcopy_live h0).1, .inr (hcopy_live h0).2.ge⟩
  · obtain ⟨rfl, h0⟩ := mem_nonNull.1 hp
    simp [Heap.live, (hgone h0).2]
  · refine ⟨fun hp' => (hYne p hp).1 (mem_nonNull.1 hp').1, ?_⟩
    simpa [Heap.live, hget p (hYne p hp).1 (hYne p hp).2] using hY p hp

/-- An `add_*` call beside other held blocks `Y`: the list holds the value-level list after the
call, `Y` is as it was, nothing is held twice, and the change is confined. -/
theorem addAddress_confined {heap : Heap} {list emailAddress : Nat} {cells : List (Nat × Nat)}
    {addresses : List GDEmailAddress} {v : Option CStr} {Y : List Nat}
    (hA : AddressList heap list cells addresses) (hnodup : (Layout.blocks cells ++ Y).Nodup)
    (hY : ∀ p ∈ Y, heap.live p) (hv : heap.readString emailAddress = some v)
    (relationType : CStr) :
    ∃ heap' list' cells', addAddress relationType heap list emailAddress = some (heap', list') ∧
      AddressList heap' list' cells' (DocumentsQuery.addAddress relationType addresses v) ∧
      (∀ p ∈ Y, heap'.get p = heap.get p) ∧ (Layout.blocks cells' ++ Y).Nodup ∧
      Confined heap (Layout.blocks cells ++ Y) heap' (Layout.blocks cells' ++ Y) := by
  have hlive : ∀ p ∈ Layout.blocks cells ++ Y, heap.live p := fun p hp =>
    (List.mem_append.1 hp).elim (hA.live p) (hY p)
  by_cases hr : DocumentsQuery.accepted v = none
  · rw [DocumentsQuery.addAddress_of_accepted_eq_none hr]
    exact ⟨heap, list, cells, addAddress_refused hv hr relationType, hA, fun _ _ => rfl, hnodup,
      Confined.refl _ _ hlive⟩
  · obtain ⟨s, rfl, hs⟩ := (Heap.readString_eq_some hv).resolve_left (by rintro ⟨-, rfl⟩; exact hr rfl)
    have he : s.bytes ≠ [] := fun he => hr (by simp [DocumentsQuery.accepted, he])
    obtain ⟨heap', list', happ, hA', hnext, hget⟩ := addAddress_accepted hA hs he relationType
    have hfresh : ∀ p ∈ Layout.blocks cells ++ Y, p ≠ heap.next ∧ p ≠ heap.next + 1 := fun p hp => by
      have := Heap.lt_next_of_live (hlive p hp); omega
    have hnode : ∀ p ∈ Y, p ∉ cells.map Prod.fst := fun p hp hm => by
      obtain ⟨c, hc, rfl⟩ := List.mem_map.1 hm
      exact List.disjoint_of_nodup_append hnodup (Layout.mem_blocks.2 ⟨c, hc, .inl rfl⟩) hp
    have hY' : ∀ p ∈ Y, heap'.get p = heap.get p := fun p hp =>
      hget p (hfresh p (by simp [hp])).1 (hfresh p (by simp [hp])).2 (hnode p hp)
    have hperm : List.Perm (Layout.blocks (cells ++ [(heap.next + 1, heap.next)]) ++ Y)
        ([heap.next + 1, heap.next] ++ (Layout.blocks cells ++ Y)) := by
      simp only [Layout.blocks_append, Layout.blocks_cons, Layout.blocks_nil, List.append_assoc,
        List.cons_append, List.nil_append]
      exact List.perm_middle.trans (List.perm_middle.cons _)
    refine ⟨heap', list', _, happ, hA', hY', ?_,
      Confined.of_parts [] [heap.next + 1, heap.next] (Layout.blocks cells ++ Y) (by simp)
        (fun p => hperm.mem_iff.trans List.mem_append) (fun p _ h₂ h₃ => ?_) (fun p hp => ?_)
        (by simp) (fun p hp => ⟨List.not_mem_nil _, ?_⟩) (by omega)⟩
    · exact hperm.nodup_iff.2 (List.nodup_cons.2 ⟨List.not_mem_cons_of_ne_of_not_mem (by omega)
        fun h => (hfresh _ h).2 rfl, List.nodup_cons.2 ⟨fun h => (hfresh _ h).1 rfl, hnodup⟩⟩)
    · refine hget p (fun he => h₂ (by simp [he])) (fun he => h₂ (by simp [he])) fun hm => h₃ ?_
      obtain ⟨c, hc, rfl⟩ := List.mem_map.1 hm
      exact List.mem_append_left _ (Layout.mem_blocks.2 ⟨c, hc, .inl rfl⟩)
    · refine ⟨hA'.live p (by rw [Layout.blocks_append]; exact List.mem_append_right _ hp), .inr ?_⟩
      simp at hp
      omega
    · rcases List.mem_append.1 hp with hp | hp
      · exact hA'.live p (by simp [hp])
      · simpa [Heap.live, hY' p hp] using hY p hp

/-! ### Each call refines the value model -/

theorem owned_eq_folderId (priv : Priv) (L : Layout) :
    owned priv L =
      nonNull priv.folderId ++ (nonNull priv.title ++ Layout.blocks (L.collaborators ++ L.readers)) :=
  List.append_assoc _ _ _

theorem owned_perm_title (priv : Priv) (L : Layout) :
    List.Perm (owned priv L)
      (nonNull priv.title ++ (nonNull priv.folderId ++ Layout.blocks (L.collaborators ++ L.readers))) := by
  rw [owned, ← List.append_assoc]
  exact List.perm_append_comm.append_right _

theorem owned_perm (priv : Priv) (L : Layout) (r : Role) :
    List.Perm (owned priv L) (Layout.blocks (L.cells r) ++
      (nonNull priv.folderId ++ nonNull priv.title ++ Layout.blocks (L.cells r.other))) := by
  rw [owned, Layout.blocks_append]
  cases r
  · exact List.perm_append_comm.trans
      (by rw [List.append_assoc]; exact List.perm_append_comm.append_left _)
  · rw [← List.append_assoc]; exact List.perm_append_comm

section Refines

variable {m : Instance} {L : Layout} {q : DocumentsQuery}

/-- `set_folder_id` refines its value-level call when the argument is not the query's own folder
ID. -/
theorem setFolderId_refines (hm : Represents m L q) {folderId : Nat} {v : Option CStr}
    (hv : m.heap.readString folderId = some v)
    (halias : folderId = 0 ∨ folderId ≠ m.priv.folderId) :
    ∃ m', m.setFolderId folderId = some m' ∧ Represents m' L (q.setFolderId v) ∧
      Confined m.heap (owned m.priv L) m'.heap (owned m'.priv L) := by
  obtain ⟨heap', copy, hrep, hread, hY, hnodup', hconf⟩ :=
    replaceString_confined (owned_eq_folderId m.priv L ▸ hm.nodup)
      (fun p hp => hm.live p (by rw [owned_eq_folderId]; exact List.mem_append_right _ hp))
      (null_or_live_of_readString hm.folderId) hv halias
  refine ⟨⟨heap', { m.priv with folderId := copy }⟩, by simp [setFolderId, hrep],
    ⟨hm.showDeleted, hm.showFolders, hm.exactTitle, hread,
      (readString_congr_of_ne fun h0 => hY _ (by simp [h0])).trans hm.title,
      hm.collaborators.congr fun p hp => hY p (by simp [hp]),
      hm.readers.congr fun p hp => hY p (by simp [hp]),
      by rw [owned_eq_folderId]; exact hnodup'⟩,
    by rw [owned_eq_folderId, owned_eq_folderId]; exact hconf⟩

/-- `set_title` refines its value-level call when the argument is not the query's own title. -/
theorem setTitle_refines (hm : Represents m L q) {title : Nat} {v : Option CStr}
    (hv : m.heap.readString title = some v) (halias : title = 0 ∨ title ≠ m.priv.title)
    (exactTitle : Int) :
    ∃ m', m.setTitle title exactTitle = some m' ∧ Represents m' L (q.setTitle v exactTitle) ∧
      Confined m.heap (owned m.priv L) m'.heap (owned m'.priv L) := by
  have hperm := owned_perm_title m.priv L
  obtain ⟨heap', copy, hrep, hread, hY, hnodup', hconf⟩ :=
    replaceString_confined (hperm.nodup_iff.1 hm.nodup)
      (fun p hp => hm.live p (hperm.mem_iff.2 (List.mem_append_right _ hp)))
      (null_or_live_of_readString hm.title) hv halias
  have hperm' := owned_perm_title { m.priv with title := copy, exactTitle } L
  refine ⟨⟨heap', { m.priv with title := copy, exactTitle }⟩, by simp [setTitle, hrep],
    ⟨hm.showDeleted, hm.showFolders, rfl,
      (readString_congr_of_ne fun h0 => hY _ (by simp [h0])).trans hm.folderId, hread,
      hm.collaborators.congr fun p hp => hY p (by simp [hp]),
      hm.readers.congr fun p hp => hY p (by simp [hp]), hperm'.nodup_iff.2 hnodup'⟩,
    hconf.congr (fun _ => hperm.mem_iff) (fun _ => hperm'.mem_iff)⟩

/-- `add_collaborator` and `add_reader` refine their value-level calls: the list of the call's
role holds the value-level list after the call, the rest is as it was, and the change is
confined. -/
theorem addTo_refines (r : Role) (hm : Represents m L q) {emailAddress : Nat} {v : Option CStr}
    (hv : m.heap.readString emailAddress = some v) :
    ∃ m' L', m.addTo r emailAddress = some m' ∧
      Represents m' L'
        (q.setAddresses r (DocumentsQuery.addAddress r.relationType (q.addresses r) v)) ∧
      Confined m.heap (owned m.priv L) m'.heap (owned m'.priv L') := by
  have hperm := owned_perm m.priv L r
  obtain ⟨heap', list', cells', happ, hA', hY, hnodup', hconf⟩ :=
    addAddress_confined (hm.addresses r) (hperm.nodup_iff.1 hm.nodup)
      (fun p hp => hm.live p (hperm.mem_iff.2 (List.mem_append_right _ hp))) hv r.relationType
  have hfolder := (readString_congr_of_ne fun h0 => hY _ (by simp [h0])).trans hm.folderId
  have htitle := (readString_congr_of_ne fun h0 => hY _ (by simp [h0])).trans hm.title
  have hother := (hm.addresses r.other).congr fun p hp => hY p (by simp [hp])
  have hperm' := owned_perm (m.priv.setAddresses r list') (L.setCells r cells') r
  refine ⟨⟨heap', m.priv.setAddresses r list'⟩, L.setCells r cells', by simp [addTo, happ], ?_⟩
  cases r
  · exact ⟨⟨hm.showDeleted, hm.showFolders, hm.exactTitle, hfolder, htitle, hA', hother,
      hperm'.nodup_iff.2 hnodup'⟩, hconf.congr (fun _ => hperm.mem_iff) (fun _ => hperm'.mem_iff)⟩
  · exact ⟨⟨hm.showDeleted, hm.showFolders, hm.exactTitle, hfolder, htitle, hother, hA',
      hperm'.nodup_iff.2 hnodup'⟩, hconf.congr (fun _ => hperm.mem_iff) (fun _ => hperm'.mem_iff)⟩

/-- **A setter handed the query's own string reads it after releasing it.**  Whenever a folder
ID is set, `set_folder_id (query, get_folder_id (query))` has no defined result: `g_free`
releases the string and `g_strdup` then copies it.  Likewise `set_title (query,
get_title (query), exact_title)` whenever a title is set. -/
theorem setFolderId_getFolderId (hm : Represents m L q) :
    (q.folderId ≠ none → m.setFolderId m.getFolderId = none) ∧
      ∀ exactTitle, q.title ≠ none → m.setTitle m.getTitle exactTitle = none := by
  have hlive : ∀ {p : Nat} {v : Option CStr}, m.heap.readString p = some v → v ≠ none →
      m.heap.live p := fun hp hv => (null_or_live_of_readString hp).resolve_left fun h0 =>
    hv (by rw [h0, Heap.readString_null] at hp; exact (Option.some.inj hp).symm)
  refine ⟨fun hf => ?_, fun exactTitle ht => ?_⟩
  · simp [setFolderId, getFolderId, replaceString_self _ (hlive hm.folderId hf)]
  · simp [setTitle, getTitle, replaceString_self _ (hlive hm.title ht)]

/-- A query that holds its own copies of `abc`, at `2` as folder ID and at `3` as title, after
`set_folder_id (query, "abc")` and `set_title (query, "abc", FALSE)` with the caller's `abc` at
`1`. -/
theorem setFolderId_getFolderId_abc :
    Represents ⟨(((Heap.empty.alloc (.str (CStr.ofAscii "abc" (by decide)))).1.alloc
          (.str (CStr.ofAscii "abc" (by decide)))).1.alloc
          (.str (CStr.ofAscii "abc" (by decide)))).1, ⟨0, 0, 0, 2, 3, 0, 0⟩⟩ ⟨[], []⟩
        ⟨0, 0, 0, some (CStr.ofAscii "abc" (by decide)), some (CStr.ofAscii "abc" (by decide)),
          [], []⟩ ∧
      (some (CStr.ofAscii "abc" (by decide)) ≠ none →
        setFolderId ⟨(((Heap.empty.alloc (.str (CStr.ofAscii "abc" (by decide)))).1.alloc
          (.str (CStr.ofAscii "abc" (by decide)))).1.alloc
          (.str (CStr.ofAscii "abc" (by decide)))).1, ⟨0, 0, 0, 2, 3, 0, 0⟩⟩ 2 = none) ∧
      ∀ exactTitle : Int, some (CStr.ofAscii "abc" (by decide)) ≠ none →
        setTitle ⟨(((Heap.empty.alloc (.str (CStr.ofAscii "abc" (by decide)))).1.alloc
          (.str (CStr.ofAscii "abc" (by decide)))).1.alloc
          (.str (CStr.ofAscii "abc" (by decide)))).1, ⟨0, 0, 0, 2, 3, 0, 0⟩⟩ 3 exactTitle = none :=
  have hm : Represents ⟨(((Heap.empty.alloc (.str (CStr.ofAscii "abc" (by decide)))).1.alloc
        (.str (CStr.ofAscii "abc" (by decide)))).1.alloc
        (.str (CStr.ofAscii "abc" (by decide)))).1, ⟨0, 0, 0, 2, 3, 0, 0⟩⟩ ⟨[], []⟩
      ⟨0, 0, 0, some (CStr.ofAscii "abc" (by decide)), some (CStr.ofAscii "abc" (by decide)),
        [], []⟩ :=
    ⟨rfl, rfl, rfl, rfl, rfl, ⟨.nil 0, .nil⟩, ⟨.nil 0, .nil⟩, by decide⟩
  ⟨hm, setFolderId_getFolderId hm⟩

end Refines

end Instance

/-- A string `GValue` reads back as the string it points to. -/
theorem ValueAt.read_getString {h : Heap} {v : ValueAt} {gv : GValue} (hv : v.read h = some gv) :
    h.readString v.getString = some gv.getString := by
  cases v with
  | boolean b => cases hv; rfl
  | string p =>
    obtain ⟨w, hw, rfl⟩ := Option.map_eq_some'.1 hv
    exact hw

theorem ValueAt.read_getBoolean {h : Heap} {v : ValueAt} {gv : GValue} (hv : v.read h = some gv) :
    gv.getBoolean = v.getBoolean := by
  cases v with
  | boolean b => cases hv; rfl
  | string p =>
    obtain ⟨w, -, rfl⟩ := Option.map_eq_some'.1 hv
    rfl

open Instance in
/-- **Every call refines the value model, within its own memory.**  When a query in memory
represents `q`, and a call's string argument reads back — it is `NULL` or an allocated string —
and is not the string the call releases, the call has a result, which represents the value-level
call applied to `q`, and the change of memory is confined to the query's own blocks. -/
theorem CallAt.apply_refines {m : Instance} {L : Layout} {q : DocumentsQuery}
    (hm : Represents m L q) {c : CallAt} {c' : Call} (hc : c.read m.heap = some c')
    (halias : c.arg = 0 ∨ c.arg ≠ c.frees m.priv) :
    ∃ m' L', c.apply m = some m' ∧ Represents m' L' (c'.apply q) ∧
      Confined m.heap (owned m.priv L) m'.heap (owned m'.priv L') := by
  have hrefl := Confined.refl m.heap (owned m.priv L) hm.live
  cases c with
  | setShowDeleted b =>
    cases hc
    exact ⟨_, L, rfl, ⟨rfl, hm.2, hm.3, hm.4, hm.5, hm.6, hm.7, hm.8⟩, hrefl⟩
  | setShowFolders b =>
    cases hc
    exact ⟨_, L, rfl, ⟨hm.1, rfl, hm.3, hm.4, hm.5, hm.6, hm.7, hm.8⟩, hrefl⟩
  | setFolderId f =>
    obtain ⟨v, hv, rfl⟩ := Option.map_eq_some'.1 hc
    obtain ⟨m', h₁, h₂, h₃⟩ := setFolderId_refines hm hv halias
    exact ⟨m', L, h₁, h₂, h₃⟩
  | setTitle t b =>
    obtain ⟨v, hv, rfl⟩ := Option.map_eq_some'.1 hc
    obtain ⟨m', h₁, h₂, h₃⟩ := setTitle_refines hm hv halias b
    exact ⟨m', L, h₁, h₂, h₃⟩
  | addReader e =>
    obtain ⟨v, hv, rfl⟩ := Option.map_eq_some'.1 hc
    exact addTo_refines .reader hm hv
  | addCollaborator e =>
    obtain ⟨v, hv, rfl⟩ := Option.map_eq_some'.1 hc
    exact addTo_refines .collaborator hm hv
  | setProperty p v =>
    obtain ⟨gv, hgv, rfl⟩ := Option.map_eq_some'.1 hc
    cases p with
    | showDeleted =>
      exact ⟨_, L, rfl, ⟨(ValueAt.read_getBoolean hgv).symm, hm.2, hm.3, hm.4, hm.5, hm.6, hm.7,
        hm.8⟩, hrefl⟩
    | showFolders =>
      exact ⟨_, L, rfl, ⟨hm.1, (ValueAt.read_getBoolean hgv).symm, hm.3, hm.4, hm.5, hm.6, hm.7,
        hm.8⟩, hrefl⟩
    | exactTitle =>
      exact ⟨_, L, rfl, ⟨hm.1, hm.2, (ValueAt.read_getBoolean hgv).symm, hm.4, hm.5, hm.6, hm.7,
        hm.8⟩, hrefl⟩
    | folderId =>
      obtain ⟨m', h₁, h₂, h₃⟩ := setFolderId_refines hm (ValueAt.read_getString hgv) halias
      exact ⟨m', L, h₁, h₂, h₃⟩
    | title =>
      obtain ⟨m', h₁, h₂, h₃⟩ := setTitle_refines hm (ValueAt.read_getString hgv) halias 1
      exact ⟨m', L, h₁, h₂, h₃⟩

end GData
