/-
**The documents query object and the calls that write to it.**

`GDataDocumentsQueryPrivate` holds three `gboolean`s, two nullable strings and two lists of
`GDataGDEmailAddress`es.  The public interface writes to it in two ways: the typed setters
(`gdata_documents_query_set_show_deleted`, …, `_add_collaborator`) and the GObject property
writes that `g_object_set` routes through `gdata_documents_query_set_property`.  A run of the
object is a list of such calls (`GData.Call`), applied in order from a new query.

A `gboolean` is a C `int`, and the setters store whatever `int` they are given; only a `GValue`
turns a boolean into `0` or `1`.  So the flags are `Int`s here, and
`GData.DocumentsQuery.BoolsNormal` names the states in which each holds `FALSE` or `TRUE`.

Main definitions:

* `GData.GDEmailAddress`, `GData.DocumentsQuery` — the data;
* `GData.DocumentsQuery.setShowDeleted`, …, `GData.DocumentsQuery.addCollaborator` —
  the setters;
* `GData.DocumentsQuery.setProperty`, `GData.DocumentsQuery.getProperty`,
  `GData.Property.default` — the property table and the declared defaults;
* `GData.Role`, `GData.DocumentsQuery.addresses`, `GData.Call.appends` — the two members of
  the `add_*` family, the list each writes to, and the address a call appends to it;
* `GData.Call`, `GData.Call.apply`, `GData.DocumentsQuery.run` — runs;
* `GData.Call.writes` — what a call writes to each property.

Main results:

* `GData.DocumentsQuery.run_addresses` — each address list is the log of the accepted `add_*`
  calls of its role;
* `GData.DocumentsQuery.run_boolsNormal` — a run whose `gboolean` arguments are `FALSE` or
  `TRUE` keeps every flag `FALSE` or `TRUE`;
* `GData.DocumentsQuery.getProperty_init` — a new query reads back the declared defaults;
* `GData.DocumentsQuery.getProperty_setProperty`,
  `GData.DocumentsQuery.getProperty_setProperty_of_ne` — a property read returns the last
  write, and a write leaves every other property alone, with one exception: a write of `title`
  also sets `exact-title` to `TRUE`;
* `GData.DocumentsQuery.run_getProperty` — **the last write wins**: after any run, a property
  reads back what the last call that wrote to it wrote, a write of `title` counting as a write
  of `TRUE` to `exact-title`.
-/

import DocumentsQuery.Bytes

set_option relaxedAutoImplicit false
set_option autoImplicit false

namespace GData

/-! ### The data -/

/-- Modelled from the spec: `GDataGDEmailAddress`, whose source is not in this tree.  An e-mail
address with a relation type, a label and a primary flag; the address is never empty, since
`gdata_gd_email_address_new` refuses an empty or absent one. -/
structure GDEmailAddress where
  /-- the address itself, the only field the URI reads -/
  address : CStr
  /-- `relation_type`, such as `"reader"` -/
  relationType : Option CStr
  /-- `label` -/
  label : Option CStr
  /-- `is_primary` -/
  isPrimary : Bool
  /-- `gdata_gd_email_address_new` refuses an empty address -/
  address_ne : address.bytes ≠ []
deriving DecidableEq

/-- `GDataDocumentsQueryPrivate`. -/
structure DocumentsQuery where
  /-- `show_deleted` -/
  showDeleted : Int
  /-- `show_folders` -/
  showFolders : Int
  /-- `exact_title` -/
  exactTitle : Int
  /-- `folder_id`, `NULL` when unset -/
  folderId : Option CStr
  /-- `title`, `NULL` when unset -/
  title : Option CStr
  /-- `collaborator_addresses` -/
  collaboratorAddresses : List GDEmailAddress
  /-- `reader_addresses` -/
  readerAddresses : List GDEmailAddress
deriving DecidableEq

namespace DocumentsQuery

/-- A new query: the private part is zero-filled, so every flag is `FALSE`, every string `NULL`
and both lists empty. -/
def init : DocumentsQuery := ⟨0, 0, 0, none, none, [], []⟩

/-! ### The setters -/

/-- `gdata_documents_query_set_show_deleted`. -/
def setShowDeleted (self : DocumentsQuery) (showDeleted : Int) : DocumentsQuery :=
  { self with showDeleted }

/-- `gdata_documents_query_set_show_folders`. -/
def setShowFolders (self : DocumentsQuery) (showFolders : Int) : DocumentsQuery :=
  { self with showFolders }

/-- `gdata_documents_query_set_folder_id`. -/
def setFolderId (self : DocumentsQuery) (folderId : Option CStr) : DocumentsQuery :=
  { self with folderId }

/-- `gdata_documents_query_set_title`: both fields at once. -/
def setTitle (self : DocumentsQuery) (title : Option CStr) (exactTitle : Int) : DocumentsQuery :=
  { self with title, exactTitle }

/-- The body `gdata_documents_query_add_reader` and `_add_collaborator` share:
`g_return_if_fail` refuses a `NULL` or empty address, and otherwise the new
`GDataGDEmailAddress` (with `NULL` label, not primary) is appended to the list. -/
def addAddress (relationType : CStr) (addresses : List GDEmailAddress) :
    Option CStr → List GDEmailAddress
  | some e => if h : e.bytes = [] then addresses else addresses ++ [⟨e, some relationType, none, false, h⟩]
  | none => addresses

/-- `"reader"`. -/
def reader : CStr := CStr.ofAscii "reader" (by decide)

/-- `"collaborator"`. -/
def collaborator : CStr := CStr.ofAscii "collaborator" (by decide)

/-- `gdata_documents_query_add_reader`. -/
def addReader (self : DocumentsQuery) (emailAddress : Option CStr) : DocumentsQuery :=
  { self with readerAddresses := addAddress reader self.readerAddresses emailAddress }

/-- `gdata_documents_query_add_collaborator`. -/
def addCollaborator (self : DocumentsQuery) (emailAddress : Option CStr) : DocumentsQuery :=
  { self with collaboratorAddresses := addAddress collaborator self.collaboratorAddresses emailAddress }

/-- The address an `add_*` call accepts: one that is neither `NULL` nor empty. -/
def accepted : Option CStr → Option CStr
  | some e => if e.bytes = [] then none else some e
  | none => none

end DocumentsQuery

/-- The two address lists of a query, by the relation type of their addresses. -/
inductive Role
  | collaborator
  | reader
deriving DecidableEq

namespace Role

/-- The relation type `add_collaborator` and `add_reader` give their addresses. -/
def relationType : Role → CStr
  | .collaborator => DocumentsQuery.collaborator
  | .reader => DocumentsQuery.reader

/-- The other list. -/
def other : Role → Role
  | .collaborator => .reader
  | .reader => .collaborator

end Role

namespace DocumentsQuery

/-- The list of role `r`: `collaborator_addresses` or `reader_addresses`. -/
def addresses (q : DocumentsQuery) : Role → List GDEmailAddress
  | .collaborator => q.collaboratorAddresses
  | .reader => q.readerAddresses

/-- The query with the list of role `r` replaced. -/
def setAddresses (q : DocumentsQuery) : Role → List GDEmailAddress → DocumentsQuery
  | .collaborator, l => { q with collaboratorAddresses := l }
  | .reader, l => { q with readerAddresses := l }

/-- `addAddress` appends the argument to the addresses exactly when it is accepted. -/
theorem map_address_addAddress (r : CStr) (l : List GDEmailAddress) (e : Option CStr) :
    (addAddress r l e).map (·.address) = l.map (·.address) ++ (accepted e).toList := by
  cases e with
  | none => simp [addAddress, accepted]
  | some e => by_cases h : e.bytes = [] <;> simp [addAddress, accepted, h]

/-- A refused address leaves the list exactly as it was. -/
theorem addAddress_of_accepted_eq_none {r : CStr} {l : List GDEmailAddress} {e : Option CStr}
    (h : accepted e = none) : addAddress r l e = l := by
  cases e with
  | none => rfl
  | some e => by_cases he : e.bytes = [] <;> simp_all [addAddress, accepted]

end DocumentsQuery

/-! ### The property table -/

/-- A `GValue` of one of the two types this class's properties have. -/
inductive GValue
  | boolean (v : Bool)
  | string (v : Option CStr)
deriving DecidableEq

/-- `g_value_get_boolean`: a `GValue` keeps a boolean as `0` or `1`. -/
def GValue.getBoolean : GValue → Int
  | .boolean v => if v then 1 else 0
  | .string _ => 0

/-- `g_value_get_string`. -/
def GValue.getString : GValue → Option CStr
  | .string v => v
  | .boolean _ => none

/-- The properties the class installs, `PROP_SHOW_DELETED` to `PROP_TITLE`. -/
inductive Property
  | showDeleted
  | showFolders
  | exactTitle
  | folderId
  | title
deriving DecidableEq

/-- The properties of type `G_TYPE_BOOLEAN`; the other two are strings. -/
def Property.isBoolean : Property → Bool
  | .showDeleted | .showFolders | .exactTitle => true
  | .folderId | .title => false

/-- The default each property's `GParamSpec` declares in `gdata_documents_query_class_init`:
`FALSE` for the three booleans, `NULL` for the two strings. -/
def Property.default : Property → GValue
  | .showDeleted | .showFolders | .exactTitle => .boolean false
  | .folderId | .title => .string none

/-- Whether a `GValue` holds a boolean. -/
def GValue.isBoolean : GValue → Bool
  | .boolean _ => true
  | .string _ => false

namespace DocumentsQuery

/-- `gdata_documents_query_set_property`.  Note the `title` case: it calls `set_title` with
`exact_title` `TRUE`. -/
def setProperty (self : DocumentsQuery) : Property → GValue → DocumentsQuery
  | .showDeleted, value => self.setShowDeleted value.getBoolean
  | .showFolders, value => self.setShowFolders value.getBoolean
  | .folderId, value => self.setFolderId value.getString
  | .exactTitle, value => { self with exactTitle := value.getBoolean }
  | .title, value => self.setTitle value.getString 1

/-- `gdata_documents_query_get_property`; `g_value_set_boolean` stores `v_boolean != FALSE`. -/
def getProperty (self : DocumentsQuery) : Property → GValue
  | .showDeleted => .boolean (self.showDeleted != 0)
  | .showFolders => .boolean (self.showFolders != 0)
  | .folderId => .string self.folderId
  | .exactTitle => .boolean (self.exactTitle != 0)
  | .title => .string self.title

/-- **A new query reads back every property's declared default**, which has the property's
type: the zero-filled private part agrees with the `GParamSpec`s of `class_init`. -/
theorem getProperty_init (p : Property) :
    init.getProperty p = p.default ∧ p.default.isBoolean = p.isBoolean := by
  cases p <;> exact ⟨rfl, rfl⟩

/-- A property write leaves both address lists alone. -/
@[simp] theorem setProperty_collaboratorAddresses (q : DocumentsQuery) (p : Property)
    (v : GValue) :
    (q.setProperty p v).collaboratorAddresses = q.collaboratorAddresses := by
  cases p <;> rfl

@[simp] theorem setProperty_readerAddresses (q : DocumentsQuery) (p : Property) (v : GValue) :
    (q.setProperty p v).readerAddresses = q.readerAddresses := by
  cases p <;> rfl

/-- A property read returns the value last written to it, when that value has the property's
type, as `g_object_set` makes sure it has. -/
theorem getProperty_setProperty (q : DocumentsQuery) (p : Property) (v : GValue)
    (hv : v.isBoolean = p.isBoolean) : (q.setProperty p v).getProperty p = v := by
  cases p <;> cases v <;> first
    | rfl
    | (rename_i b; cases b <;> rfl)
    | exact absurd hv (by simp [GValue.isBoolean, Property.isBoolean])

/-- A property write leaves every other property alone, except that a write of `title` also
writes `exact-title`. -/
theorem getProperty_setProperty_of_ne (q : DocumentsQuery) {p p' : Property} (v : GValue)
    (hne : p ≠ p') (htitle : ¬(p = .title ∧ p' = .exactTitle)) :
    (q.setProperty p v).getProperty p' = q.getProperty p' := by
  cases p <;> cases p' <;> first | rfl | exact (hne rfl).elim | exact (htitle ⟨rfl, rfl⟩).elim

/-- Writes of two different properties commute, unless they are `title` and `exact-title`. -/
theorem setProperty_comm (q : DocumentsQuery) {p p' : Property} (v v' : GValue) (hne : p ≠ p')
    (htitle : ¬(p = .title ∧ p' = .exactTitle)) (htitle' : ¬(p = .exactTitle ∧ p' = .title)) :
    (q.setProperty p v).setProperty p' v' = (q.setProperty p' v').setProperty p v := by
  cases p <;> cases p' <;> first
    | rfl
    | exact (hne rfl).elim
    | exact (htitle ⟨rfl, rfl⟩).elim
    | exact (htitle' ⟨rfl, rfl⟩).elim

/-- The `title` write does not commute with the `exact-title` write: written after it, it sets
`exact-title` back to `TRUE`, so `g_object_set` with `"exact-title", FALSE, "title", "x"` leaves
`exact-title` `TRUE`, and the other order leaves it `FALSE`. -/
theorem setProperty_title_after_exactTitle :
    ((init.setProperty .exactTitle (.boolean false)).setProperty .title
        (.string (some (CStr.ofAscii "x" (by decide))))).getProperty .exactTitle = .boolean true ∧
      ((init.setProperty .title (.string (some (CStr.ofAscii "x" (by decide))))).setProperty
        .exactTitle (.boolean false)).getProperty .exactTitle = .boolean false ∧
      (init.setProperty .exactTitle (.boolean false)).setProperty .title
          (.string (some (CStr.ofAscii "x" (by decide)))) ≠
        (init.setProperty .title (.string (some (CStr.ofAscii "x" (by decide))))).setProperty
          .exactTitle (.boolean false) := by
  decide

end DocumentsQuery

/-! ### Runs -/

/-- A call of the public interface that writes to the query: a typed setter, or a property write
through `g_object_set`. -/
inductive Call
  | setShowDeleted (showDeleted : Int)
  | setShowFolders (showFolders : Int)
  | setFolderId (folderId : Option CStr)
  | setTitle (title : Option CStr) (exactTitle : Int)
  | addReader (emailAddress : Option CStr)
  | addCollaborator (emailAddress : Option CStr)
  | setProperty (property : Property) (value : GValue)

namespace Call

/-- What a call does to the query. -/
def apply : Call → DocumentsQuery → DocumentsQuery
  | .setShowDeleted b, q => q.setShowDeleted b
  | .setShowFolders b, q => q.setShowFolders b
  | .setFolderId f, q => q.setFolderId f
  | .setTitle t b, q => q.setTitle t b
  | .addReader e, q => q.addReader e
  | .addCollaborator e, q => q.addCollaborator e
  | .setProperty p v, q => q.setProperty p v

/-- The address a call appends to `collaborator_addresses`: that of an accepted
`add_collaborator`. -/
def collaborator : Call → Option CStr
  | .addCollaborator e => DocumentsQuery.accepted e
  | _ => none

/-- The address a call appends to `reader_addresses`: that of an accepted `add_reader`. -/
def reader : Call → Option CStr
  | .addReader e => DocumentsQuery.accepted e
  | _ => none

/-- The address a call appends to the list of role `r`. -/
def appends : Role → Call → Option CStr
  | .collaborator => collaborator
  | .reader => reader

/-- The `gboolean` arguments of the call are `FALSE` or `TRUE`, as the setters' documentation
asks.  A property write needs nothing: its `GValue` already holds `0` or `1`. -/
def BoolArgsNormal : Call → Prop
  | .setShowDeleted b | .setShowFolders b | .setTitle _ b => b = 0 ∨ b = 1
  | _ => True

/-- A call that appends nothing to a list leaves it exactly as it was. -/
theorem apply_addresses_of_none (r : Role) {c : Call} (h : c.appends r = none)
    (q : DocumentsQuery) : (c.apply q).addresses r = q.addresses r := by
  cases c with
  | addCollaborator e => cases r; exacts [DocumentsQuery.addAddress_of_accepted_eq_none h, rfl]
  | addReader e => cases r; exacts [rfl, DocumentsQuery.addAddress_of_accepted_eq_none h]
  | setProperty p v => cases r <;> cases p <;> rfl
  | _ => cases r <;> rfl

/-- Only an accepted `add_*` call of a list's role changes it, and it appends. -/
theorem apply_addresses (r : Role) (c : Call) (q : DocumentsQuery) :
    ((c.apply q).addresses r).map (·.address) =
      (q.addresses r).map (·.address) ++ (c.appends r).toList := by
  cases r <;> cases c
  all_goals first
    | exact DocumentsQuery.map_address_addAddress _ _ _
    | simp [appends, collaborator, reader, apply_addresses_of_none]

end Call

namespace DocumentsQuery

/-- The query after a run of calls, applied in order. -/
def run (calls : List Call) (q : DocumentsQuery) : DocumentsQuery :=
  calls.foldl (fun q c => c.apply q) q

@[simp] theorem run_nil (q : DocumentsQuery) : run [] q = q := rfl

@[simp] theorem run_cons (c : Call) (calls : List Call) (q : DocumentsQuery) :
    run (c :: calls) q = run calls (c.apply q) := rfl

/-- Each address list is the log of the accepted `add_*` calls of its role. -/
theorem run_addresses (r : Role) (calls : List Call) (q : DocumentsQuery) :
    ((run calls q).addresses r).map (·.address) =
      (q.addresses r).map (·.address) ++ calls.filterMap (Call.appends r) := by
  induction calls generalizing q with
  | nil => simp
  | cons c calls ih =>
    rw [run_cons, ih, Call.apply_addresses, List.filterMap_cons]
    cases c.appends r <;> simp

/-- **The two address lists are append-only logs of the accepted calls.**  After any run from a
new query, the addresses in `collaborator_addresses` are the arguments of the accepted
`add_collaborator` calls in call order, and likewise for `reader_addresses`; a call that appends
nothing to a list leaves it exactly as it was; and every address in either list is non-empty. -/
theorem run_addresses_log (calls : List Call) :
    (run calls init).collaboratorAddresses.map (·.address) = calls.filterMap Call.collaborator ∧
      (run calls init).readerAddresses.map (·.address) = calls.filterMap Call.reader ∧
      (∀ (c : Call) (q : DocumentsQuery), c.collaborator = none →
        (c.apply q).collaboratorAddresses = q.collaboratorAddresses) ∧
      (∀ (c : Call) (q : DocumentsQuery), c.reader = none →
        (c.apply q).readerAddresses = q.readerAddresses) ∧
      ∀ a ∈ (run calls init).collaboratorAddresses ++ (run calls init).readerAddresses,
        a.address.bytes ≠ [] :=
  ⟨run_addresses .collaborator calls init, run_addresses .reader calls init,
    fun _ q h => Call.apply_addresses_of_none .collaborator h q,
    fun _ q h => Call.apply_addresses_of_none .reader h q, fun a _ => a.address_ne⟩

/-- Every `gboolean` field of the query holds `FALSE` or `TRUE`. -/
structure BoolsNormal (q : DocumentsQuery) : Prop where
  /-- `show_deleted` is `FALSE` or `TRUE` -/
  showDeleted : q.showDeleted = 0 ∨ q.showDeleted = 1
  /-- `show_folders` is `FALSE` or `TRUE` -/
  showFolders : q.showFolders = 0 ∨ q.showFolders = 1
  /-- `exact_title` is `FALSE` or `TRUE` -/
  exactTitle : q.exactTitle = 0 ∨ q.exactTitle = 1

theorem boolsNormal_init : init.BoolsNormal := ⟨.inl rfl, .inl rfl, .inl rfl⟩

theorem getBoolean_normal (v : GValue) : v.getBoolean = 0 ∨ v.getBoolean = 1 := by
  cases v with
  | boolean b => cases b <;> simp [GValue.getBoolean]
  | string => simp [GValue.getBoolean]

/-- One call keeps the flags `FALSE` or `TRUE` when its own `gboolean` arguments are. -/
theorem BoolsNormal.apply {q : DocumentsQuery} (hq : q.BoolsNormal) {c : Call}
    (hc : c.BoolArgsNormal) : (c.apply q).BoolsNormal := by
  obtain ⟨h₁, h₂, h₃⟩ := hq
  cases c with
  | setShowDeleted b => exact ⟨hc, h₂, h₃⟩
  | setShowFolders b => exact ⟨h₁, hc, h₃⟩
  | setTitle t b => exact ⟨h₁, h₂, hc⟩
  | setFolderId | addReader | addCollaborator => exact ⟨h₁, h₂, h₃⟩
  | setProperty p v =>
    cases p with
    | showDeleted => exact ⟨getBoolean_normal v, h₂, h₃⟩
    | showFolders => exact ⟨h₁, getBoolean_normal v, h₃⟩
    | exactTitle => exact ⟨h₁, h₂, getBoolean_normal v⟩
    | folderId => exact ⟨h₁, h₂, h₃⟩
    | title => exact ⟨h₁, h₂, .inr rfl⟩

/-- **A run whose `gboolean` arguments are `FALSE` or `TRUE` keeps every flag `FALSE` or
`TRUE`.** -/
theorem run_boolsNormal {calls : List Call} (h : ∀ c ∈ calls, c.BoolArgsNormal)
    {q : DocumentsQuery} (hq : q.BoolsNormal) : (run calls q).BoolsNormal := by
  induction calls generalizing q with
  | nil => exact hq
  | cons c calls ih =>
    exact ih (fun c' hc' => h c' (List.mem_cons_of_mem _ hc'))
      (hq.apply (h c (List.mem_cons_self _ _)))

/-- A run of `set_title (query, NULL, TRUE)` and a write of `show-folders`. -/
theorem run_boolsNormal_setTitle :
    (∀ c ∈ [Call.setTitle none 1, .setProperty .showFolders (.boolean true)], c.BoolArgsNormal) ∧
      init.BoolsNormal ∧
      (run [Call.setTitle none 1, .setProperty .showFolders (.boolean true)] init).BoolsNormal :=
  have h : ∀ c ∈ [Call.setTitle none 1, .setProperty .showFolders (.boolean true)],
      c.BoolArgsNormal := by
    simp [Call.BoolArgsNormal]
  ⟨h, boolsNormal_init, run_boolsNormal h boolsNormal_init⟩

end DocumentsQuery

/-! ### The last write wins -/

/-- What `get_property` reads back from a property after `set_property` wrote `v` to it. -/
def GValue.stored (p : Property) (v : GValue) : GValue :=
  if p.isBoolean then .boolean (v.getBoolean != 0) else .string v.getString

namespace Call

/-- The value a call writes to a property, as `get_property` reads it back, or `none` when the
call leaves the property alone.  `set_title` writes both `title` and `exact-title`, and so does a
write of `title`, whose `exact-title` is `TRUE`. -/
def writes : Call → Property → Option GValue
  | .setShowDeleted b, .showDeleted => some (.boolean (b != 0))
  | .setShowFolders b, .showFolders => some (.boolean (b != 0))
  | .setFolderId f, .folderId => some (.string f)
  | .setTitle t _, .title => some (.string t)
  | .setTitle _ b, .exactTitle => some (.boolean (b != 0))
  | .setProperty p v, p' =>
    if p = p' then some (GValue.stored p v)
    else if p = .title ∧ p' = .exactTitle then some (.boolean true) else none
  | _, _ => none

/-- After one call a property reads back what the call wrote to it, or what it read before. -/
theorem getProperty_apply (c : Call) (q : DocumentsQuery) (p : Property) :
    (c.apply q).getProperty p = (c.writes p).getD (q.getProperty p) := by
  cases c with
  | setProperty p' v => cases p' <;> cases p <;> rfl
  | _ => cases p <;> rfl

end Call

namespace DocumentsQuery

/-- **The last write wins**: after a run, each property reads back what the last call that wrote
to it wrote, and what it read before the run when no call did. -/
theorem run_getProperty (calls : List Call) (q : DocumentsQuery) (p : Property) :
    (run calls q).getProperty p = (calls.filterMap (·.writes p)).getLastD (q.getProperty p) := by
  induction calls generalizing q with
  | nil => rfl
  | cons c calls ih =>
    rw [run_cons, ih, Call.getProperty_apply, List.filterMap_cons]
    cases c.writes p with
    | none => rfl
    | some v => exact (List.getLastD_cons _ _ _).symm

end DocumentsQuery

end GData
