/-
**`get_query_uri`: what the documents query adds to the request URI.**

`gdata_query_get_query_uri` starts a `GString` with the feed URI, sets `params_started` to
whether that URI already holds a `?`, and calls the class's `get_query_uri`.  The documents step
appends the folder path segment, chains up to the parent class's step, and then — unless the
query looks up a single entry — appends its own parameters, each after `APPEND_SEP`.

The parent class's step is not in this tree; it is a parameter here, seen as what it does to the
buffer: from the URI built so far and the flag, the text it appends and the flag it leaves.

Main definitions:

* `GData.UriState` — the `GString` and `*params_started`;
* `GData.DocumentsQuery.getQueryUri` — the step, block by block as the source writes it;
* `GData.DocumentsQuery.folderSegment`, `GData.DocumentsQuery.paramTexts` — the text of the folder
  segment and of each parameter.

Main results:

* `GData.DocumentsQuery.getQueryUri_none` — **the step in closed form**: the feed URI, the folder
  segment, the parent's text, and the parameters joined by `&` after one `?` or `&`;
* `GData.DocumentsQuery.getQueryUri_some` — with an entry ID the step is the parent's step alone.
-/

import DocumentsQuery.UriEscape
import DocumentsQuery.Query

set_option relaxedAutoImplicit false
set_option autoImplicit false

namespace GData

/-- What `get_query_uri` writes to: the `GString` `query_uri` and `*params_started`. -/
structure UriState where
  /-- the URI built so far -/
  queryUri : Bytes
  /-- whether a parameter has been written, so that the next one follows a `&` -/
  paramsStarted : Bool
deriving DecidableEq

namespace UriState

/-- `g_string_append` and `g_string_append_c`. -/
def append (s : UriState) (text : Bytes) : UriState :=
  { s with queryUri := s.queryUri ++ text }

/-- `g_string_append_uri_escaped (query_uri, value, NULL, TRUE)`. -/
def appendUriEscaped (s : UriState) (value : CStr) : UriState :=
  { s with queryUri := GLib.stringAppendUriEscaped s.queryUri value.bytes true }

/-- The separator `APPEND_SEP` writes: `?` before the first parameter, `&` before the others. -/
def sep (paramsStarted : Bool) : UInt8 := if paramsStarted then '&'.toUInt8 else '?'.toUInt8

/-- `APPEND_SEP`. -/
def appendSep (s : UriState) : UriState :=
  { queryUri := s.queryUri ++ [sep s.paramsStarted], paramsStarted := true }

/-- The chain-up to the parent class's `get_query_uri`, given as the text it appends and the
flag it leaves. -/
def chainUp (s : UriState) (parent : UriState → Bytes × Bool) : UriState :=
  { queryUri := s.queryUri ++ (parent s).1, paramsStarted := (parent s).2 }

@[simp] theorem append_queryUri (s : UriState) (t : Bytes) :
    (s.append t).queryUri = s.queryUri ++ t := rfl

@[simp] theorem append_paramsStarted (s : UriState) (t : Bytes) :
    (s.append t).paramsStarted = s.paramsStarted := rfl

theorem appendUriEscaped_eq (s : UriState) (v : CStr) :
    s.appendUriEscaped v = s.append (GLib.uriEscaped true v.bytes) := rfl

@[simp] theorem append_append (s : UriState) (t t' : Bytes) :
    (s.append t).append t' = s.append (t ++ t') := by
  simp [append]

@[simp] theorem append_nil (s : UriState) : s.append [] = s := by
  simp [append]

end UriState

namespace DocumentsQuery

open UriState

/-! ### The step, as the source writes it -/

/-- The `writer=` and `reader=` blocks, which differ only in the name and the list: nothing for
an empty list; otherwise `APPEND_SEP`, the name and the first address escaped, then `;` and the
escaped address for each address after it. -/
def appendAddresses (name : Bytes) (addresses : List GDEmailAddress) (s : UriState) : UriState :=
  match addresses with
  | [] => s
  | a :: rest =>
    rest.foldl (fun s a => (s.append [';'.toUInt8]).appendUriEscaped a.address)
      ((s.appendSep.append name).appendUriEscaped a.address)

/-- The `title=` block, with `&title-exact=true` after it when `exact_title == TRUE`. -/
def appendTitle (title : Option CStr) (exactTitle : Int) (s : UriState) : UriState :=
  match title with
  | none => s
  | some t =>
    let s := (s.appendSep.append (ascii "title=")).appendUriEscaped t
    if exactTitle = 1 then s.append (ascii "&title-exact=true") else s

/-- The last block, always written: `showdeleted` and `showfolders`, each `true` when the flag
`== TRUE`. -/
def appendShowFlags (showDeleted showFolders : Int) (s : UriState) : UriState :=
  let s := s.appendSep
  let s :=
    if showDeleted = 1 then s.append (ascii "showdeleted=true")
    else s.append (ascii "showdeleted=false")
  if showFolders = 1 then s.append (ascii "&showfolders=true")
  else s.append (ascii "&showfolders=false")

/-- `get_query_uri` of `GDataDocumentsQuery`: `entryId` is the parent's `entry_id`
(`gdata_query_get_entry_id`) and `parent` the parent class's step. -/
def getQueryUri (self : DocumentsQuery) (entryId : Option CStr)
    (parent : UriState → Bytes × Bool) (s : UriState) : UriState :=
  let s :=
    match entryId, self.folderId with
    | none, some folderId => (s.append (ascii "/folder%3A")).appendUriEscaped folderId
    | _, _ => s
  let s := s.chainUp parent
  match entryId with
  | some _ => s
  | none =>
    s |> appendAddresses (ascii "writer=") self.collaboratorAddresses
      |> appendAddresses (ascii "reader=") self.readerAddresses
      |> appendTitle self.title self.exactTitle
      |> appendShowFlags self.showDeleted self.showFolders

/-! ### The step in closed form -/

/-- Joining by a separator: the first piece, then the separator before each piece after it. -/
theorem intercalate_cons {α : Type} (x : α) (t : List α) (ts : List (List α)) :
    [x].intercalate (t :: ts) = t ++ ts.flatMap (x :: ·) := by
  induction ts generalizing t with
  | nil => simp [List.intercalate]
  | cons t' ts ih =>
    rw [List.intercalate, List.intersperse_cons₂, List.flatten_cons, List.flatten_cons,
      ← List.intercalate, ih]
    simp

/-- One parameter: `APPEND_SEP`, then its text. -/
def emit (s : UriState) (text : Bytes) : UriState := s.appendSep.append text

/-- Parameters one after the other. -/
def emitAll (s : UriState) (texts : List Bytes) : UriState := texts.foldl emit s

@[simp] theorem append_mk (u : Bytes) (p : Bool) (t : Bytes) :
    (⟨u, p⟩ : UriState).append t = ⟨u ++ t, p⟩ := rfl

@[simp] theorem emit_mk (u : Bytes) (p : Bool) (t : Bytes) :
    emit ⟨u, p⟩ t = ⟨u ++ sep p :: t, true⟩ := by
  simp [emit, appendSep]

@[simp] theorem emitAll_nil (s : UriState) : emitAll s [] = s := rfl

@[simp] theorem emitAll_cons' (s : UriState) (t : Bytes) (ts : List Bytes) :
    emitAll s (t :: ts) = emitAll (emit s t) ts := rfl

theorem emitAll_append (s : UriState) (ts ts' : List Bytes) :
    emitAll s (ts ++ ts') = emitAll (emitAll s ts) ts' := List.foldl_append _ _ _ _

theorem emitAll_started (v : Bytes) (ts : List Bytes) :
    emitAll ⟨v, true⟩ ts = ⟨v ++ ts.flatMap ('&'.toUInt8 :: ·), true⟩ := by
  induction ts generalizing v with
  | nil => simp
  | cons t ts ih => simp [ih, sep]

/-- **A run of parameters** is one separator, chosen by the flag, and then the texts joined by
`&`; the flag is left set. -/
theorem emitAll_cons (u : Bytes) (p : Bool) (t : Bytes) (ts : List Bytes) :
    emitAll ⟨u, p⟩ (t :: ts) = ⟨u ++ sep p :: ['&'.toUInt8].intercalate (t :: ts), true⟩ := by
  simp [emitAll_started, intercalate_cons]

/-- The escaped addresses, joined by `;`. -/
def addressList (addresses : List GDEmailAddress) : Bytes :=
  [';'.toUInt8].intercalate (addresses.map fun a => GLib.uriEscaped true a.address.bytes)

/-- The `;` loop appends `;` and the escaped address for each address. -/
theorem foldl_appendSemicolon (rest : List GDEmailAddress) (s : UriState) :
    rest.foldl (fun s a => (s.append [';'.toUInt8]).appendUriEscaped a.address) s =
      s.append (rest.flatMap fun a => ';'.toUInt8 :: GLib.uriEscaped true a.address.bytes) := by
  induction rest generalizing s with
  | nil => simp
  | cons a rest ih => rw [List.foldl_cons, ih, appendUriEscaped_eq]; simp

theorem appendAddresses_nil (name : Bytes) (s : UriState) : appendAddresses name [] s = s := rfl

/-- A non-empty list of addresses is one parameter: the name and the joined list. -/
theorem appendAddresses_cons (name : Bytes) (a : GDEmailAddress) (rest : List GDEmailAddress)
    (s : UriState) :
    appendAddresses name (a :: rest) s = emit s (name ++ addressList (a :: rest)) := by
  rw [appendAddresses, foldl_appendSemicolon, appendUriEscaped_eq]
  simp [emit, addressList, intercalate_cons, List.flatMap_map]

/-- The text of the `writer=` or `reader=` parameter, when the list is not empty. -/
def addressParam (name : Bytes) (addresses : List GDEmailAddress) : List Bytes :=
  if addresses = [] then [] else [name ++ addressList addresses]

theorem appendAddresses_eq (name : Bytes) (addresses : List GDEmailAddress) (s : UriState) :
    appendAddresses name addresses s = emitAll s (addressParam name addresses) := by
  cases addresses with
  | nil => rfl
  | cons a rest => simp [addressParam, appendAddresses_cons]

/-- The texts of the `title=` and `title-exact=true` parameters. -/
def titleParams (title : Option CStr) (exactTitle : Int) : List Bytes :=
  match title with
  | none => []
  | some t =>
    (ascii "title=" ++ GLib.uriEscaped true t.bytes) ::
      (if exactTitle = 1 then [ascii "title-exact=true"] else [])

theorem appendTitle_eq (title : Option CStr) (exactTitle : Int) (s : UriState) :
    appendTitle title exactTitle s = emitAll s (titleParams title exactTitle) := by
  cases title with
  | none => rfl
  | some t =>
    have hamp : ascii "&title-exact=true" = '&'.toUInt8 :: ascii "title-exact=true" := rfl
    obtain ⟨u, p⟩ := s
    by_cases h : exactTitle = 1 <;>
      simp [appendTitle, titleParams, h, appendSep, appendUriEscaped_eq, hamp, sep]

/-- The texts of the `showdeleted` and `showfolders` parameters. -/
def showParams (showDeleted showFolders : Int) : List Bytes :=
  [ascii (if showDeleted = 1 then "showdeleted=true" else "showdeleted=false"),
    ascii (if showFolders = 1 then "showfolders=true" else "showfolders=false")]

theorem appendShowFlags_eq (showDeleted showFolders : Int) (s : UriState) :
    appendShowFlags showDeleted showFolders s = emitAll s (showParams showDeleted showFolders) := by
  have ht : ascii "&showfolders=true" = '&'.toUInt8 :: ascii "showfolders=true" := rfl
  have hf : ascii "&showfolders=false" = '&'.toUInt8 :: ascii "showfolders=false" := rfl
  obtain ⟨u, p⟩ := s
  by_cases h₁ : showDeleted = 1 <;> by_cases h₂ : showFolders = 1 <;>
    simp [appendShowFlags, showParams, h₁, h₂, appendSep, ht, hf, sep]

/-- The folder path segment: nothing when `folder_id` is unset. -/
def folderSegment (folderId : Option CStr) : Bytes :=
  match folderId with
  | none => []
  | some f => ascii "/folder%3A" ++ GLib.uriEscaped true f.bytes

/-- The texts of the parameters the step writes after the parent's, in order. -/
def paramTexts (q : DocumentsQuery) : List Bytes :=
  addressParam (ascii "writer=") q.collaboratorAddresses ++
    addressParam (ascii "reader=") q.readerAddresses ++ titleParams q.title q.exactTitle ++
    showParams q.showDeleted q.showFolders

/-- **The step in closed form**, for a query over a collection: the folder segment, the parent's
text, and the parameters. -/
theorem getQueryUri_none (q : DocumentsQuery) (parent : UriState → Bytes × Bool)
    (s : UriState) :
    q.getQueryUri none parent s =
      emitAll ((s.append (folderSegment q.folderId)).chainUp parent) q.paramTexts := by
  have hf : (match (none : Option CStr), q.folderId with
      | none, some folderId => (s.append (ascii "/folder%3A")).appendUriEscaped folderId
      | _, _ => s) = s.append (folderSegment q.folderId) := by
    cases q.folderId <;> simp [folderSegment, appendUriEscaped_eq]
  simp only [getQueryUri, hf, appendAddresses_eq, appendTitle_eq, appendShowFlags_eq, paramTexts,
    emitAll_append]

/-- With an entry ID the step is the parent's step alone. -/
theorem getQueryUri_some (q : DocumentsQuery) (e : CStr) (parent : UriState → Bytes × Bool)
    (s : UriState) : q.getQueryUri (some e) parent s = s.chainUp parent := by
  cases q.folderId <;> rfl

/-- **A single-entry lookup ignores every documents filter**: two queries with the same entry ID
give the same URI and flag, which are what the parent's step alone makes of them. -/
theorem getQueryUri_entryId_noninterference (q₁ q₂ : DocumentsQuery) (e : CStr)
    (parent : UriState → Bytes × Bool) (s : UriState) :
    q₁.getQueryUri (some e) parent s = q₂.getQueryUri (some e) parent s ∧
      q₁.getQueryUri (some e) parent s = s.chainUp parent :=
  ⟨by rw [getQueryUri_some, getQueryUri_some], getQueryUri_some q₁ e parent s⟩

end DocumentsQuery

end GData
