/-
**A query's life in memory: its runs, its URI, and `finalize`.**

`DocumentsQuery.Memory` shows that each call on a query in memory refines its value-level call.
This module follows a whole life: a new query in a heap that holds the caller's strings, any run
of calls on those strings, `get_query_uri` reading the lists from memory, and `finalize`.

The run refines the value-level run, and touches none of the caller's blocks
(`GData.Instance.run_refines`).  `get_query_uri` walks each list node by node, with the `for`
loop of the source, and writes exactly the URI of the value model, and `get_property` reads
exactly its properties (`GData.Instance.run_getProperty_getQueryUri`), so every result about that
URI and those properties — the round trip of `DocumentsQuery.Decode` among them — holds of the
code that reads memory.

`finalize` releases the folder ID and the title, and nothing else.  The two `GList`s and the
`GDataGDEmailAddress` objects their nodes point to are never released: after any run, `finalize`
leaves allocated, beside the caller's blocks, exactly the cells of the two lists the query points
to, two blocks for each address an `add_*` call accepted (`GData.Instance.run_finalize`).

Main definitions:

* `GData.Instance.getQueryUri` — `get_query_uri` as it reads memory, with
  `GData.Instance.appendAddressesAt` for the `writer=` and `reader=` loops;
* `GData.Instance.getProperty` — `gdata_documents_query_get_property` as it reads memory;
* `GData.Instance.run` — a run of calls;
* `GData.Instance.cellsAt` — the cells of a list, walked through its `next` links;
* `GData.Instance.finalize` — `gdata_documents_query_finalize`.

Main results:

* `GData.Instance.appendAddressesAt_eq` — the loop over the nodes writes the value model's block;
* `GData.Instance.getQueryUri_eq` — **`get_query_uri` in memory writes the value model's URI**;
* `GData.Instance.run_refines` — **a run on the caller's strings refines the value-level run**;
* `GData.Instance.run_getProperty_getQueryUri` — **after any such run, memory reads back the
  value model**;
* `GData.Instance.finalize_spec`, `GData.Instance.run_finalize` — **`finalize` leaks both
  address lists**: the cells of the lists, two blocks for each accepted address.
-/

import DocumentsQuery.Memory
import DocumentsQuery.QueryUri

set_option relaxedAutoImplicit false
set_option autoImplicit false

namespace GData

namespace Instance

open UriState

/-! ### `get_query_uri` in memory -/

/-- `gdata_gd_email_address_get_address (l->data)` and `l->next`, read from the node at `l`. -/
def cellAt (h : Heap) (l : Nat) : Option (CStr × Nat) :=
  match h.get l with
  | some (.node data next _) =>
    match h.get data with
    | some (.emailAddress a) => some (a.address, next)
    | _ => none
  | _ => none

/-- The `for` loop of the `writer=` and `reader=` blocks: `;` and the escaped address of each node
until `NULL`.  The fuel bounds the turns; running out of it stands for a loop that does not end. -/
def appendRestAt (h : Heap) : Nat → Nat → UriState → Option UriState
  | 0, l, s => if l = 0 then some s else none
  | fuel + 1, l, s =>
    if l = 0 then some s
    else do
      let (address, next) ← cellAt h l
      appendRestAt h fuel next ((s.append [';'.toUInt8]).appendUriEscaped address)

/-- The `writer=` or `reader=` block in memory: nothing for an empty list; otherwise `APPEND_SEP`,
the name and the first address, then the loop over the nodes after it, with as many turns as the
heap has addresses. -/
def appendAddressesAt (h : Heap) (name : Bytes) (list : Nat) (s : UriState) : Option UriState :=
  if list = 0 then some s
  else do
    let (address, next) ← cellAt h list
    appendRestAt h h.next next ((s.appendSep.append name).appendUriEscaped address)

/-- `get_query_uri` as it reads memory: the folder ID and the title through their pointers, the
address lists node by node. -/
def getQueryUri (self : Instance) (entryId : Option CStr) (parent : UriState → Bytes × Bool)
    (s : UriState) : Option UriState := do
  let s ← match entryId with
    | none => do
      let folderId ← self.heap.readString self.priv.folderId
      pure (match folderId with
        | some folderId => (s.append (ascii "/folder%3A")).appendUriEscaped folderId
        | none => s)
    | some _ => pure s
  let s := s.chainUp parent
  match entryId with
  | some _ => pure s
  | none => do
    let s ← appendAddressesAt self.heap (ascii "writer=") self.priv.collaboratorAddresses s
    let s ← appendAddressesAt self.heap (ascii "reader=") self.priv.readerAddresses s
    let title ← self.heap.readString self.priv.title
    pure (s |> DocumentsQuery.appendTitle title self.priv.exactTitle
      |> DocumentsQuery.appendShowFlags self.priv.showDeleted self.priv.showFolders)

/-- The loop, on a list whose nodes point to address objects, writes `;` and each address. -/
theorem appendRestAt_eq {h : Heap} {l prev : Nat} {cells : List (Nat × Nat)}
    (hl : GLib.IsGList h l prev cells) {addresses : List GDEmailAddress}
    (hd : List.Forall₂ (fun c a => h.get c.2 = some (.emailAddress a)) cells addresses)
    {fuel : Nat} (hfuel : cells.length ≤ fuel) (s : UriState) :
    appendRestAt h fuel l s =
      some (addresses.foldl (fun s a => (s.append [';'.toUInt8]).appendUriEscaped a.address) s) := by
  induction hl generalizing fuel s addresses with
  | nil => cases hd; cases fuel <;> rfl
  | cons hget hrest ih =>
    obtain _ | ⟨hca, hd⟩ := hd
    obtain _ | fuel := fuel
    · cases hfuel
    · rw [appendRestAt, if_neg (Heap.ne_null_of_live (Heap.live_of_get hget))]
      simp only [cellAt, hget, hca, Option.bind_eq_bind, Option.some_bind, List.foldl_cons]
      exact ih hd (by simpa using hfuel) _

/-- **The loop over the nodes writes the value model's block**: on a list of address objects,
the `writer=` or `reader=` block in memory writes what `appendAddresses` writes for the
addresses. -/
theorem appendAddressesAt_eq {h : Heap} {list : Nat} {cells : List (Nat × Nat)}
    {addresses : List GDEmailAddress} (hA : AddressList h list cells addresses) (name : Bytes)
    (s : UriState) :
    appendAddressesAt h name list s = some (DocumentsQuery.appendAddresses name addresses s) := by
  obtain ⟨hl, hd⟩ := hA
  cases hl with
  | nil => cases hd; rfl
  | cons hget hrest =>
    obtain _ | ⟨hca, hd⟩ := hd
    rw [appendAddressesAt, if_neg (Heap.ne_null_of_live (Heap.live_of_get hget))]
    simp only [cellAt, hget, hca, Option.bind_eq_bind, Option.some_bind]
    exact appendRestAt_eq hrest hd hrest.length_le _

/-- **`get_query_uri` in memory writes the value model's URI**: for a query in memory that
represents `q`, every entry ID, parent step and buffer. -/
theorem getQueryUri_eq {m : Instance} {L : Layout} {q : DocumentsQuery} (hm : Represents m L q)
    (entryId : Option CStr) (parent : UriState → Bytes × Bool) (s : UriState) :
    m.getQueryUri entryId parent s = some (q.getQueryUri entryId parent s) := by
  cases entryId with
  | some e => cases hq : q.folderId <;> simp [getQueryUri, DocumentsQuery.getQueryUri, hq]
  | none =>
    simp only [getQueryUri, DocumentsQuery.getQueryUri, hm.folderId, hm.title,
      appendAddressesAt_eq hm.collaborators, appendAddressesAt_eq hm.readers, hm.exactTitle,
      hm.showDeleted, hm.showFolders, Option.bind_eq_bind, Option.some_bind]
    cases q.folderId <;> rfl

/-! ### `get_property` in memory -/

/-- `gdata_documents_query_get_property`: `g_value_set_boolean` keeps whether the field is
non-zero, and `g_value_set_string` copies the string the query holds. -/
def getProperty (self : Instance) : Property → Option GValue
  | .showDeleted => some (.boolean (self.priv.showDeleted != 0))
  | .showFolders => some (.boolean (self.priv.showFolders != 0))
  | .folderId => (self.heap.readString self.priv.folderId).map .string
  | .exactTitle => some (.boolean (self.priv.exactTitle != 0))
  | .title => (self.heap.readString self.priv.title).map .string

/-- `get_property` in memory reads what the value-level `get_property` reads. -/
theorem getProperty_eq {m : Instance} {L : Layout} {q : DocumentsQuery} (hm : Represents m L q)
    (p : Property) : m.getProperty p = some (q.getProperty p) := by
  cases p <;> simp [getProperty, DocumentsQuery.getProperty, hm.showDeleted, hm.showFolders,
    hm.exactTitle, hm.folderId, hm.title]

end Instance

namespace CallAt

/-- A call reads its argument's block only. -/
theorem read_congr {h h' : Heap} (c : CallAt) (hp : h'.get c.arg = h.get c.arg) :
    c.read h' = c.read h := by
  cases c with
  | setProperty p v =>
    cases v <;> simp only [arg, ValueAt.getString] at hp <;>
      simp [read, ValueAt.read, Heap.readString_congr hp]
  | _ => simp only [arg] at hp; simp [read, Heap.readString_congr hp]

/-- A call that reads back has a `NULL` or allocated argument. -/
theorem arg_null_or_live {h : Heap} {c : CallAt} {c' : Call} (hc : c.read h = some c') :
    c.arg = 0 ∨ h.live c.arg := by
  cases c with
  | setShowDeleted | setShowFolders => exact .inl rfl
  | setFolderId | setTitle | addReader | addCollaborator =>
    obtain ⟨v, hv, -⟩ := Option.map_eq_some'.1 hc
    exact Instance.null_or_live_of_readString hv
  | setProperty p v => exact Instance.null_or_live_of_readString (ValueAt.read_getString
      (Option.map_eq_some'.1 hc).choose_spec.1)

/-- The string a call releases is `NULL` or one the query holds. -/
theorem frees_null_or_owned (c : CallAt) (priv : Priv) (L : Layout) :
    c.frees priv = 0 ∨ c.frees priv ∈ Instance.owned priv L := by
  have hf : priv.folderId = 0 ∨ priv.folderId ∈ Instance.owned priv L := by
    by_cases h0 : priv.folderId = 0 <;> simp [Instance.owned, h0]
  have ht : priv.title = 0 ∨ priv.title ∈ Instance.owned priv L := by
    by_cases h0 : priv.title = 0 <;> simp [Instance.owned, h0]
  cases c with
  | setFolderId => exact hf
  | setTitle => exact ht
  | setProperty p v => cases p <;> first | exact hf | exact ht | exact .inl rfl
  | _ => exact .inl rfl

end CallAt

namespace Instance

/-! ### Runs -/

/-- The query in memory after a run of calls, applied in order; no result once a call has
none. -/
def run : List CallAt → Instance → Option Instance
  | [], m => some m
  | c :: calls, m => (c.apply m).bind (run calls)

/-- What a run from a new query in `heap` keeps: the query represents the value-level run, holds
only blocks allocated after `heap`'s, and has left the caller's blocks as they were. -/
structure RunInv (heap : Heap) (m : Instance) (L : Layout) (q : DocumentsQuery) : Prop where
  /-- the query represents `q` -/
  represents : Represents m L q
  /-- the blocks the query holds are new -/
  owned_new : ∀ p ∈ owned m.priv L, heap.next ≤ p
  /-- allocation has only moved up -/
  next_le : heap.next ≤ m.heap.next
  /-- what is allocated: the caller's blocks and the query's -/
  live_iff : ∀ p, m.heap.live p ↔ heap.live p ∨ p ∈ owned m.priv L
  /-- the caller's blocks are as they were -/
  frame : ∀ p, heap.live p → m.heap.get p = heap.get p

/-- The caller's blocks are not among the query's: those are all newer. -/
theorem RunInv.not_owned {heap : Heap} {m : Instance} {L : Layout} {q : DocumentsQuery}
    (hi : RunInv heap m L q) {p : Nat} (hl : heap.live p) : p ∉ owned m.priv L := fun ho =>
  absurd (hi.owned_new p ho) (not_le.2 (Heap.lt_next_of_live hl))

/-- One call on the caller's strings keeps the invariant. -/
theorem RunInv.apply {heap : Heap} {m : Instance} {L : Layout} {q : DocumentsQuery}
    (hi : RunInv heap m L q) {c : CallAt} {c' : Call} (hc : c.read heap = some c') :
    ∃ m' L', c.apply m = some m' ∧ RunInv heap m' L' (c'.apply q) := by
  have hlive : c.arg = 0 ∨ heap.live c.arg := CallAt.arg_null_or_live hc
  have hread : c.read m.heap = some c' := by
    rcases hlive with h0 | hl
    · rw [CallAt.read_congr c (by simp [h0, Heap.get_null]), hc]
    · rw [CallAt.read_congr c (hi.frame _ hl), hc]
  have halias : c.arg = 0 ∨ c.arg ≠ c.frees m.priv := hlive.imp_right fun hl he =>
    (c.frees_null_or_owned m.priv L).elim (fun h0 => Heap.ne_null_of_live hl (he.trans h0))
      (hi.not_owned hl ∘ (he ▸ ·))
  obtain ⟨m', L', happ, hm', hconf⟩ := CallAt.apply_refines hi.represents hread halias
  obtain ⟨hlive', hframe'⟩ := hconf.beside hi.live_iff hi.frame fun _ => hi.not_owned
  exact ⟨m', L', happ, hm', fun p hp =>
    (hconf.owned_new p hp).elim (hi.owned_new p) hi.next_le.trans,
    hi.next_le.trans hconf.next_le, hlive', hframe'⟩

/-- A run keeps the invariant. -/
theorem RunInv.of_run {heap : Heap} {calls : List CallAt} {cs : List Call}
    (hcalls : List.Forall₂ (fun c c' => c.read heap = some c') calls cs) :
    ∀ {m : Instance} {L : Layout} {q : DocumentsQuery}, RunInv heap m L q →
      ∃ m' L', run calls m = some m' ∧ RunInv heap m' L' (DocumentsQuery.run cs q) := by
  induction hcalls with
  | nil => exact fun hi => ⟨_, _, rfl, hi⟩
  | cons hc _ ih =>
    intro m L q hi
    obtain ⟨m₁, L₁, happ, hi₁⟩ := hi.apply hc
    obtain ⟨m₂, L₂, hrun, hi₂⟩ := ih hi₁
    exact ⟨m₂, L₂, by simp only [Instance.run, happ, Option.some_bind]; exact hrun, hi₂⟩

/-- A new query holds nothing. -/
theorem runInv_init (heap : Heap) : RunInv heap (init heap) ⟨[], []⟩ DocumentsQuery.init :=
  have hO : owned (init heap).priv ⟨[], []⟩ = [] := (represents_init heap).2
  ⟨(represents_init heap).1, fun p hp => absurd (hO ▸ hp) (List.not_mem_nil p), le_rfl,
    fun p => by rw [hO]; simp [init], fun _ _ => rfl⟩

/-- **A run on the caller's strings refines the value-level run.**  Start a new query in a heap
that holds the caller's strings, and make any calls whose string arguments are `NULL` or among
those strings: every call has a result; the query in memory then represents the value-level run
of the calls on what they read; what is allocated is the caller's blocks and the query's own; and
every block of the caller is as it was. -/
theorem run_refines (heap : Heap) {calls : List CallAt} {cs : List Call}
    (hcalls : List.Forall₂ (fun c c' => c.read heap = some c') calls cs) :
    ∃ m L, run calls (init heap) = some m ∧
      Represents m L (DocumentsQuery.run cs DocumentsQuery.init) ∧
      (∀ p, m.heap.live p ↔ heap.live p ∨ p ∈ owned m.priv L) ∧
      ∀ p, heap.live p → m.heap.get p = heap.get p :=
  let ⟨m, L, hrun, hi⟩ := RunInv.of_run hcalls (runInv_init heap)
  ⟨m, L, hrun, hi.represents, hi.live_iff, hi.frame⟩

/-- Four calls on the caller's string `a` at `1`: `add_reader`, `set_folder_id`,
`add_collaborator`, and `set_title (query, NULL, TRUE)`. -/
theorem run_refines_four :
    List.Forall₂ (fun c c' => c.read (Heap.empty.alloc (.str (CStr.ofAscii "a" (by decide)))).1 =
        some c')
      [CallAt.addReader 1, .setFolderId 1, .addCollaborator 1, .setTitle 0 1]
      [Call.addReader (some (CStr.ofAscii "a" (by decide))),
        .setFolderId (some (CStr.ofAscii "a" (by decide))),
        .addCollaborator (some (CStr.ofAscii "a" (by decide))), .setTitle none 1] ∧
      ∃ m L, run [CallAt.addReader 1, .setFolderId 1, .addCollaborator 1, .setTitle 0 1]
          (init (Heap.empty.alloc (.str (CStr.ofAscii "a" (by decide)))).1) = some m ∧
        Represents m L (DocumentsQuery.run
          [Call.addReader (some (CStr.ofAscii "a" (by decide))),
            .setFolderId (some (CStr.ofAscii "a" (by decide))),
            .addCollaborator (some (CStr.ofAscii "a" (by decide))), .setTitle none 1]
          DocumentsQuery.init) ∧
        (∀ p, m.heap.live p ↔
          (Heap.empty.alloc (.str (CStr.ofAscii "a" (by decide)))).1.live p ∨ p ∈ owned m.priv L) ∧
        ∀ p, (Heap.empty.alloc (.str (CStr.ofAscii "a" (by decide)))).1.live p →
          m.heap.get p = (Heap.empty.alloc (.str (CStr.ofAscii "a" (by decide)))).1.get p :=
  have hcalls : List.Forall₂
      (fun c c' => c.read (Heap.empty.alloc (.str (CStr.ofAscii "a" (by decide)))).1 = some c')
      [CallAt.addReader 1, .setFolderId 1, .addCollaborator 1, .setTitle 0 1]
      [Call.addReader (some (CStr.ofAscii "a" (by decide))),
        .setFolderId (some (CStr.ofAscii "a" (by decide))),
        .addCollaborator (some (CStr.ofAscii "a" (by decide))), .setTitle none 1] :=
    .cons rfl (.cons rfl (.cons rfl (.cons rfl .nil)))
  ⟨hcalls, run_refines _ hcalls⟩

/-- **After any run, memory reads back the value model.**  Start a new query in a heap that
holds the caller's strings and make any calls on `NULL` or those strings: then every property
that `get_property` reads from memory, and every URI that `get_query_uri` writes walking memory,
for every entry ID, parent step and buffer, is what the value model gives after the value-level
run. -/
theorem run_getProperty_getQueryUri (heap : Heap) {calls : List CallAt} {cs : List Call}
    (hcalls : List.Forall₂ (fun c c' => c.read heap = some c') calls cs) :
    ∃ m, run calls (init heap) = some m ∧
      (∀ p, m.getProperty p = some ((DocumentsQuery.run cs DocumentsQuery.init).getProperty p)) ∧
      ∀ entryId parent s, m.getQueryUri entryId parent s =
        some ((DocumentsQuery.run cs DocumentsQuery.init).getQueryUri entryId parent s) :=
  let ⟨m, _, hrun, hi⟩ := RunInv.of_run hcalls (runInv_init heap)
  ⟨m, hrun, getProperty_eq hi.represents, getQueryUri_eq hi.represents⟩

/-- `add_reader (query, "a")` then `set_title (query, "a", FALSE)`, on the caller's `a` at
`1`. -/
theorem run_getProperty_getQueryUri_two :
    List.Forall₂ (fun c c' => c.read (Heap.empty.alloc (.str (CStr.ofAscii "a" (by decide)))).1 =
        some c')
      [CallAt.addReader 1, .setTitle 1 0]
      [Call.addReader (some (CStr.ofAscii "a" (by decide))),
        .setTitle (some (CStr.ofAscii "a" (by decide))) 0] ∧
      ∃ m, run [CallAt.addReader 1, .setTitle 1 0]
          (init (Heap.empty.alloc (.str (CStr.ofAscii "a" (by decide)))).1) = some m ∧
        (∀ p, m.getProperty p = some ((DocumentsQuery.run
          [Call.addReader (some (CStr.ofAscii "a" (by decide))),
            .setTitle (some (CStr.ofAscii "a" (by decide))) 0] DocumentsQuery.init).getProperty p)) ∧
        ∀ entryId parent s, m.getQueryUri entryId parent s =
          some ((DocumentsQuery.run [Call.addReader (some (CStr.ofAscii "a" (by decide))),
            .setTitle (some (CStr.ofAscii "a" (by decide))) 0] DocumentsQuery.init).getQueryUri
              entryId parent s) :=
  have hcalls : List.Forall₂
      (fun c c' => c.read (Heap.empty.alloc (.str (CStr.ofAscii "a" (by decide)))).1 = some c')
      [CallAt.addReader 1, .setTitle 1 0]
      [Call.addReader (some (CStr.ofAscii "a" (by decide))),
        .setTitle (some (CStr.ofAscii "a" (by decide))) 0] :=
    .cons rfl (.cons rfl .nil)
  ⟨hcalls, run_getProperty_getQueryUri _ hcalls⟩

/-! ### Walking a list -/

/-- The cells of the list at `l`, walked through the `next` links for at most `fuel` nodes, as the
`for` loops of `get_query_uri` walk them, and a caller of `get_collaborator_addresses` or
`get_reader_addresses`. -/
def cellsAt (h : Heap) : Nat → Nat → Option (List (Nat × Nat))
  | 0, l => if l = 0 then some [] else none
  | fuel + 1, l =>
    if l = 0 then some []
    else
      match h.get l with
      | some (.node data next _) => (cellsAt h fuel next).map ((l, data) :: ·)
      | _ => none

/-- The walk finds the cells of a list, given a turn for each. -/
theorem cellsAt_eq {h : Heap} {l prev : Nat} {cells : List (Nat × Nat)}
    (hl : GLib.IsGList h l prev cells) {fuel : Nat} (hfuel : cells.length ≤ fuel) :
    cellsAt h fuel l = some cells := by
  induction hl generalizing fuel with
  | nil => cases fuel <;> rfl
  | cons hget _ ih =>
    obtain _ | fuel := fuel
    · cases hfuel
    · rw [cellsAt, if_neg (Heap.ne_null_of_live (Heap.live_of_get hget)), hget]
      simp [ih (Nat.le_of_succ_le_succ hfuel)]

/-! ### `finalize` -/

/-- `gdata_documents_query_finalize`: `g_free` of the folder ID and of the title.  The chain-up
releases what the parent class holds, none of which is in this model. -/
def finalize (self : Instance) : Option Heap := do
  let heap ← GLib.gFree self.heap self.priv.folderId
  GLib.gFree heap self.priv.title

@[simp] theorem Layout.length_blocks (cells : List (Nat × Nat)) :
    (Layout.blocks cells).length = 2 * cells.length := by
  induction cells with
  | nil => rfl
  | cons c cells ih => simp [ih]; omega

/-- **`finalize` releases the two strings and nothing else**: the change of memory is confined to
the query's blocks, and of those, the nodes and address objects of both lists stay allocated. -/
theorem finalize_spec {m : Instance} {L : Layout} {q : DocumentsQuery} (hm : Represents m L q) :
    ∃ heap', m.finalize = some heap' ∧
      Confined m.heap (owned m.priv L) heap' (Layout.blocks (L.collaborators ++ L.readers)) := by
  have hnodup := hm.nodup
  rw [owned] at hnodup
  have hdisj := List.disjoint_of_nodup_append hnodup
  have hne : m.priv.title ≠ 0 → m.priv.title ≠ m.priv.folderId := fun h0 he =>
    List.disjoint_of_nodup_append hnodup.of_append_left (mem_nonNull.2 ⟨he, he ▸ h0⟩)
      (mem_nonNull.2 ⟨rfl, h0⟩)
  obtain ⟨h₁, hfree₁, hnext₁, hget₁⟩ := GLib.gFree_get (null_or_live_of_readString hm.folderId)
  have ht : m.priv.title = 0 ∨ h₁.live m.priv.title :=
    (null_or_live_of_readString hm.title).elim .inl fun hl => .inr (by
      have h0 := Heap.ne_null_of_live hl
      simpa [Heap.live, hget₁, hne h0] using hl)
  obtain ⟨h₂, hfree₂, hnext₂, hget₂⟩ := GLib.gFree_get ht
  have hget : ∀ p, h₂.get p = if p = m.priv.title ∨ p = m.priv.folderId then none
      else m.heap.get p := fun p => by
    rw [hget₂, hget₁]; by_cases h₁ : p = m.priv.title <;> by_cases h₂ : p = m.priv.folderId <;>
      simp [h₁, h₂]
  refine ⟨h₂, by simp [finalize, hfree₁, hfree₂], Confined.of_parts
    (nonNull m.priv.folderId ++ nonNull m.priv.title) [] _ (fun p => by simp [owned, or_assoc])
    (by simp) (fun p h₁ _ _ => ?_) (by simp) (fun p hp _ => ?_) (fun p hp => ⟨fun hx => hdisj hx hp, ?_⟩)
    (by omega)⟩
  · by_cases h0 : p = 0
    · rw [h0, h₂.get_null, m.heap.get_null]
    · rw [hget, if_neg]
      simp only [List.mem_append, mem_nonNull, not_or, not_and, not_not] at h₁
      exact fun h => h.elim (fun he => h0 (he.trans (h₁.2 he))) (fun he => h0 (he.trans (h₁.1 he)))
  · simp only [Heap.live, hget]
    simp only [List.mem_append, mem_nonNull] at hp
    rw [if_pos (hp.elim (fun h => .inr h.1) (fun h => .inl h.1))]
    simp
  · have hl := hm.live p (List.mem_append_right _ hp)
    have hx : ¬(p = m.priv.title ∨ p = m.priv.folderId) := fun h => by
      have h0 := Heap.ne_null_of_live hl
      exact hdisj (by rcases h with rfl | rfl <;> simp [h0]) hp
    simpa [Heap.live, hget, hx] using hl

/-- **`finalize` leaks both address lists.**  After any run on the caller's strings from a new
query, `finalize` leaves allocated the caller's blocks, as they were, and the blocks `leaked`,
none of them the caller's: the node and the address object of each cell of the two lists the
query points to — two blocks for each address an `add_collaborator` or `add_reader` call
accepted, which nothing releases. -/
theorem run_finalize (heap : Heap) {calls : List CallAt} {cs : List Call}
    (hcalls : List.Forall₂ (fun c c' => c.read heap = some c') calls cs) :
    ∃ (m : Instance) (leaked : List Nat) (heap' : Heap), run calls (init heap) = some m ∧
      m.finalize = some heap' ∧
      (∀ p, heap'.live p ↔ heap.live p ∨ p ∈ leaked) ∧
      (∀ p, heap.live p → heap'.get p = heap.get p) ∧ (∀ p ∈ leaked, ¬ heap.live p) ∧
      leaked.Nodup ∧
      (∃ C R, cellsAt m.heap m.heap.next m.priv.collaboratorAddresses = some C ∧
        cellsAt m.heap m.heap.next m.priv.readerAddresses = some R ∧
        leaked = Layout.blocks (C ++ R)) ∧
      leaked.length =
        2 * ((cs.filterMap Call.collaborator).length + (cs.filterMap Call.reader).length) := by
  obtain ⟨m, L, hrun, hi⟩ := RunInv.of_run hcalls (runInv_init heap)
  obtain ⟨heap', hfin, hconf⟩ := finalize_spec hi.represents
  obtain ⟨hlive', hframe'⟩ := hconf.beside hi.live_iff hi.frame fun _ => hi.not_owned
  have hlen : ∀ r, ((DocumentsQuery.run cs DocumentsQuery.init).addresses r).length =
      (cs.filterMap (Call.appends r)).length := fun r => by
    have hinit : DocumentsQuery.init.addresses r = [] := by cases r <;> rfl
    simpa [hinit] using congrArg List.length (DocumentsQuery.run_addresses r cs DocumentsQuery.init)
  have hA := hi.represents
  refine ⟨m, Layout.blocks (L.collaborators ++ L.readers), heap', hrun, hfin, hlive', hframe',
    fun p hp hl => hi.not_owned hl (List.mem_append_right _ hp),
    by simpa [owned] using hA.nodup.of_append_right,
    ⟨_, _, cellsAt_eq hA.collaborators.glist hA.collaborators.glist.length_le,
      cellsAt_eq hA.readers.glist hA.readers.glist.length_le, rfl⟩, ?_⟩
  rw [Layout.length_blocks, List.length_append, hA.collaborators.data.length_eq,
    hA.readers.data.length_eq]
  exact congrArg (2 * ·) (congrArg₂ (· + ·) (hlen .collaborator) (hlen .reader))

/-- The four calls of `GData.Instance.run_refines_four`, then `finalize`: the reader and the
collaborator each leave their node and address object allocated. -/
theorem run_finalize_four :
    List.Forall₂ (fun c c' => c.read (Heap.empty.alloc (.str (CStr.ofAscii "a" (by decide)))).1 =
        some c')
      [CallAt.addReader 1, .setFolderId 1, .addCollaborator 1, .setTitle 0 1]
      [Call.addReader (some (CStr.ofAscii "a" (by decide))),
        .setFolderId (some (CStr.ofAscii "a" (by decide))),
        .addCollaborator (some (CStr.ofAscii "a" (by decide))), .setTitle none 1] ∧
      ∃ (m : Instance) (leaked : List Nat) (heap' : Heap),
        run [CallAt.addReader 1, .setFolderId 1, .addCollaborator 1, .setTitle 0 1]
          (init (Heap.empty.alloc (.str (CStr.ofAscii "a" (by decide)))).1) = some m ∧
        m.finalize = some heap' ∧
        (∀ p, heap'.live p ↔
          (Heap.empty.alloc (.str (CStr.ofAscii "a" (by decide)))).1.live p ∨ p ∈ leaked) ∧
        (∀ p, (Heap.empty.alloc (.str (CStr.ofAscii "a" (by decide)))).1.live p →
          heap'.get p = (Heap.empty.alloc (.str (CStr.ofAscii "a" (by decide)))).1.get p) ∧
        (∀ p ∈ leaked, ¬ (Heap.empty.alloc (.str (CStr.ofAscii "a" (by decide)))).1.live p) ∧
        leaked.Nodup ∧
        (∃ C R, cellsAt m.heap m.heap.next m.priv.collaboratorAddresses = some C ∧
          cellsAt m.heap m.heap.next m.priv.readerAddresses = some R ∧
          leaked = Layout.blocks (C ++ R)) ∧
        leaked.length = 2 * ((List.filterMap Call.collaborator
          [Call.addReader (some (CStr.ofAscii "a" (by decide))),
            .setFolderId (some (CStr.ofAscii "a" (by decide))),
            .addCollaborator (some (CStr.ofAscii "a" (by decide))), .setTitle none 1]).length +
          (List.filterMap Call.reader
          [Call.addReader (some (CStr.ofAscii "a" (by decide))),
            .setFolderId (some (CStr.ofAscii "a" (by decide))),
            .addCollaborator (some (CStr.ofAscii "a" (by decide))), .setTitle none 1]).length) :=
  have hcalls : List.Forall₂
      (fun c c' => c.read (Heap.empty.alloc (.str (CStr.ofAscii "a" (by decide)))).1 = some c')
      [CallAt.addReader 1, .setFolderId 1, .addCollaborator 1, .setTitle 0 1]
      [Call.addReader (some (CStr.ofAscii "a" (by decide))),
        .setFolderId (some (CStr.ofAscii "a" (by decide))),
        .addCollaborator (some (CStr.ofAscii "a" (by decide))), .setTitle none 1] :=
    .cons rfl (.cons rfl (.cons rfl (.cons rfl .nil)))
  ⟨hcalls, run_finalize _ hcalls⟩

end Instance

end GData
