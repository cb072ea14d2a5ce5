/-
**Reading the URI back.**

`GData.DocumentsQuery.getQueryUri_none` gives the step's text.  This module reads that text the
way a server does — split the query at `&`, each parameter at its first `=`, each value at `;`,
and percent-decode every piece — and shows that what comes back is what the query stands for:
`GData.DocumentsQuery.params`, the parameters the query's fields ask for, named and ordered as
the documents API expects them.

The one difference between the two is the reading of a `gboolean`.  The spec counts a flag as
true when it is not `FALSE`; `get_query_uri` tests `== TRUE`.  Both are instances of
`GData.DocumentsQuery.paramsBy`, and they agree on the states `BoolsNormal` describes.

Main definitions:

* `Uri.decodeParam`, `Uri.decodeQuery` — the server's reading of a query string;
* `GData.DocumentsQuery.paramsBy`, `GData.DocumentsQuery.params` — what a query stands for.

Main results:

* `GData.DocumentsQuery.decodeQuery_paramTexts` — the parameters decode to
  `paramsBy (· == 1)`, for every query;
* `GData.DocumentsQuery.getQueryUri_decodes` — **the whole round trip**: the URI is the feed
  URI, the folder segment (which decodes to the folder ID), the parent's text and one `?` or `&`
  followed by the parameters, with no other `?` and no `#`, and the parameters decode to `params`;
* `GData.DocumentsQuery.mem_paramsBy_addresses`, …, `GData.DocumentsQuery.mem_paramsBy_show` —
  what a query stands for, read parameter by parameter;
* `GData.DocumentsQuery.getQueryUri_flags_iff` — each flag is rendered `true` exactly when it
  holds `TRUE`, and `false` for every other value.
-/

import DocumentsQuery.QueryUri

set_option relaxedAutoImplicit false
set_option autoImplicit false

namespace Uri

open GData

/-! ### The server's reading -/

/-- A parameter as a server reads it: the name before the first `=`, and the value after it,
split at `;`, each piece percent-decoded. -/
def decodeParam (t : Bytes) : Bytes × List Bytes :=
  (t.takeWhile (· != '='.toUInt8),
    (((t.dropWhile (· != '='.toUInt8)).drop 1).splitOn ';'.toUInt8).map percentDecode)

/-- A query string as a server reads it: the parameters between the `&`s. -/
def decodeQuery (t : Bytes) : List (Bytes × List Bytes) :=
  (t.splitOn '&'.toUInt8).map decodeParam

theorem decodeParam_append {name : Bytes} (h : '='.toUInt8 ∉ name) (value : Bytes) :
    decodeParam (name ++ '='.toUInt8 :: value) =
      (name, (value.splitOn ';'.toUInt8).map percentDecode) := by
  have hp : ∀ a ∈ name, (a != '='.toUInt8) = true := fun a ha => by
    simpa using ne_of_mem_of_not_mem ha h
  simp [decodeParam, List.takeWhile_append_of_pos hp, List.dropWhile_append_of_pos hp]

end Uri

namespace GData

namespace DocumentsQuery

open UriState

/-! ### No delimiter inside a parameter -/

theorem mem_intercalate {α : Type} {x s : α} {ts : List (List α)}
    (h : x ∈ [s].intercalate ts) : x = s ∨ ∃ t ∈ ts, x ∈ t := by
  cases ts with
  | nil => simp [List.intercalate] at h
  | cons t ts =>
    rw [intercalate_cons] at h
    simp only [List.mem_append, List.mem_flatMap, List.mem_cons] at h
    rcases h with h | ⟨t', ht', rfl | h⟩
    · exact .inr ⟨t, List.mem_cons_self _ _, h⟩
    · exact .inl rfl
    · exact .inr ⟨t', List.mem_cons_of_mem _ ht', h⟩

/-- The parameter texts that hold no value. -/
def fixedParams : List Bytes :=
  [ascii "title-exact=true", ascii "showdeleted=true", ascii "showdeleted=false",
    ascii "showfolders=true", ascii "showfolders=false"]

/-- What a parameter text can be: one of the two address lists, the title, or a fixed text. -/
theorem mem_paramTexts {q : DocumentsQuery} {t : Bytes} (ht : t ∈ q.paramTexts) :
    t = ascii "writer=" ++ addressList q.collaboratorAddresses ∨
      t = ascii "reader=" ++ addressList q.readerAddresses ∨
      (∃ v, q.title = some v ∧ t = ascii "title=" ++ GLib.uriEscaped true v.bytes) ∨
      t ∈ fixedParams := by
  simp only [paramTexts, addressParam, titleParams, showParams, List.mem_append] at ht
  rcases ht with ((ht | ht) | ht) | ht
  · split_ifs at ht <;> simp_all
  · split_ifs at ht <;> simp_all
  · cases hq : q.title with
    | none => simp [hq] at ht
    | some v =>
      rw [hq] at ht
      split_ifs at ht <;> simp only [List.mem_cons, List.mem_singleton, List.not_mem_nil,
        or_false] at ht <;> rcases ht with rfl | rfl <;> simp [fixedParams]
  · simp only [List.mem_cons, List.mem_singleton, List.not_mem_nil, or_false] at ht
    rcases ht with rfl | rfl <;> split_ifs <;> simp [fixedParams]

theorem not_mem_addressList {d : UInt8} (hd : d ∈ ascii "&=?#") (l : List GDEmailAddress) :
    d ∉ addressList l := by
  intro hm
  rcases mem_intercalate hm with rfl | ⟨t, ht, hdt⟩
  · exact absurd hd (by decide)
  · obtain ⟨a, -, rfl⟩ := List.mem_map.1 ht
    exact GLib.uriEscaped_not_mem_delim true _
      ((by decide : ∀ d ∈ ascii "&=?#", d ∈ ascii "&;=?#") d hd) hdt

/-- No parameter text holds a `&`, a `?` or a `#`. -/
theorem paramTexts_not_mem {d : UInt8} (hd : d ∈ ascii "&?#") (q : DocumentsQuery) :
    ∀ t ∈ q.paramTexts, d ∉ t := by
  have hlit : ∀ l ∈ ascii "writer=" :: ascii "reader=" :: ascii "title=" :: fixedParams, d ∉ l :=
    (by decide : ∀ d ∈ ascii "&?#", ∀ l ∈ ascii "writer=" :: ascii "reader=" :: ascii "title=" ::
      fixedParams, d ∉ l) d hd
  have hesc : ∀ s, d ∉ GLib.uriEscaped true s := fun s =>
    GLib.uriEscaped_not_mem_delim true s ((by decide : ∀ d ∈ ascii "&?#", d ∈ ascii "&;=?#") d hd)
  have hlist : ∀ l, d ∉ addressList l :=
    not_mem_addressList ((by decide : ∀ d ∈ ascii "&?#", d ∈ ascii "&=?#") d hd)
  intro t ht
  rcases mem_paramTexts ht with rfl | rfl | ⟨v, -, rfl⟩ | ht
  · simp [hlist, hlit]
  · simp [hlist, hlit]
  · simp [hesc, hlit]
  · exact hlit t (by simp [ht])

theorem paramTexts_ne_nil (q : DocumentsQuery) : q.paramTexts ≠ [] := by
  simp [paramTexts, showParams]

/-! ### What a query stands for -/

/-- The parameters a query stands for, each a name and its values, in the order the documents API
takes them: `writer` with the collaborators' addresses and `reader` with the readers' when there
are any, `title` (and `title-exact`) when a title is set, and the two visibility flags always.
`truth` decides when a `gboolean` counts as true. -/
def paramsBy (truth : Int → Bool) (q : DocumentsQuery) : List (Bytes × List Bytes) :=
  (if q.collaboratorAddresses = [] then [] else
    [(ascii "writer", q.collaboratorAddresses.map (·.address.bytes))]) ++
  (if q.readerAddresses = [] then [] else
    [(ascii "reader", q.readerAddresses.map (·.address.bytes))]) ++
  (match q.title with
    | none => []
    | some t => (ascii "title", [t.bytes]) ::
        if truth q.exactTitle then [(ascii "title-exact", [ascii "true"])] else []) ++
  [(ascii "showdeleted", [ascii (if truth q.showDeleted then "true" else "false")]),
    (ascii "showfolders", [ascii (if truth q.showFolders then "true" else "false")])]

/-- What a query stands for, as the spec reads it: a `gboolean` is true when it is not
`FALSE`. -/
def params (q : DocumentsQuery) : List (Bytes × List Bytes) := q.paramsBy (· != 0)

/-- On flags that hold `FALSE` or `TRUE`, testing `== TRUE` is testing `!= FALSE`. -/
theorem paramsBy_eq_params {q : DocumentsQuery} (hq : q.BoolsNormal) :
    q.paramsBy (· == 1) = q.params := by
  have key : ∀ x : Int, x = 0 ∨ x = 1 → (x == 1) = (x != 0) := by
    rintro x (rfl | rfl) <;> rfl
  simp only [params, paramsBy, key _ hq.showDeleted, key _ hq.showFolders, key _ hq.exactTitle]

/-! ### Decoding the parameters -/

theorem decodeParam_addressList {name : Bytes} (h : '='.toUInt8 ∉ name)
    {l : List GDEmailAddress} (hl : l ≠ []) :
    Uri.decodeParam (name ++ '='.toUInt8 :: addressList l) = (name, l.map (·.address.bytes)) := by
  rw [Uri.decodeParam_append h, addressList, List.splitOn_intercalate _ _ ?_ (by simpa using hl)]
  · simp [GLib.percentDecode_uriEscaped]
  · intro t ht
    obtain ⟨a, -, rfl⟩ := List.mem_map.1 ht
    exact GLib.uriEscaped_not_mem_delim true _ (by decide)

theorem decodeParam_uriEscaped {name : Bytes} (h : '='.toUInt8 ∉ name) (v : Bytes) :
    Uri.decodeParam (name ++ '='.toUInt8 :: GLib.uriEscaped true v) = (name, [v]) := by
  have hsplit := List.splitOn_intercalate [GLib.uriEscaped true v] ';'.toUInt8
    (by simpa using GLib.uriEscaped_not_mem_delim true v (by decide)) (by simp)
  simp only [List.intercalate, List.intersperse_single, List.flatten_cons, List.flatten_nil,
    List.append_nil] at hsplit
  rw [Uri.decodeParam_append h, hsplit]
  simp [GLib.percentDecode_uriEscaped]

theorem map_decodeParam_addressParam {name : Bytes} (h : '='.toUInt8 ∉ name)
    (l : List GDEmailAddress) :
    (addressParam (name ++ ['='.toUInt8]) l).map Uri.decodeParam =
      if l = [] then [] else [(name, l.map (·.address.bytes))] := by
  by_cases hl : l = [] <;> simp [addressParam, hl, decodeParam_addressList h]

theorem map_decodeParam_titleParams (title : Option CStr) (exactTitle : Int) :
    (titleParams title exactTitle).map Uri.decodeParam =
      match title with
      | none => []
      | some t => (ascii "title", [t.bytes]) ::
          if exactTitle == 1 then [(ascii "title-exact", [ascii "true"])] else [] := by
  cases title with
  | none => rfl
  | some t =>
    have ht : ascii "title=" = ascii "title" ++ ['='.toUInt8] := rfl
    have hexact : Uri.decodeParam (ascii "title-exact=true") =
        (ascii "title-exact", [ascii "true"]) := by decide
    have hname : '='.toUInt8 ∉ ascii "title" := by decide
    by_cases h : exactTitle = 1 <;>
      simp [titleParams, h, ht, hexact, decodeParam_uriEscaped hname]

theorem map_decodeParam_showParams (showDeleted showFolders : Int) :
    (showParams showDeleted showFolders).map Uri.decodeParam =
      [(ascii "showdeleted", [ascii (if showDeleted == 1 then "true" else "false")]),
        (ascii "showfolders", [ascii (if showFolders == 1 then "true" else "false")])] := by
  by_cases h₁ : showDeleted = 1 <;> by_cases h₂ : showFolders = 1 <;> simp [showParams, h₁, h₂] <;>
    decide

/-- **The parameters decode to what the query stands for**, with `gboolean`s read as `get_query_uri`
reads them. -/
theorem decodeQuery_paramTexts (q : DocumentsQuery) :
    Uri.decodeQuery (['&'.toUInt8].intercalate q.paramTexts) = q.paramsBy (· == 1) := by
  rw [Uri.decodeQuery, List.splitOn_intercalate _ _
    (fun t ht => paramTexts_not_mem (by decide) q t ht) (paramTexts_ne_nil q)]
  have hw : ascii "writer=" = ascii "writer" ++ ['='.toUInt8] := rfl
  have hr : ascii "reader=" = ascii "reader" ++ ['='.toUInt8] := rfl
  simp only [paramTexts, List.map_append, hw, hr,
    map_decodeParam_addressParam (show '='.toUInt8 ∉ ascii "writer" by decide),
    map_decodeParam_addressParam (show '='.toUInt8 ∉ ascii "reader" by decide),
    map_decodeParam_titleParams, map_decodeParam_showParams, paramsBy]

end DocumentsQuery

/-- The parameter that carries the list of role `r`: `writer` for the collaborators, `reader`
for the readers. -/
def Role.param : Role → Bytes
  | .collaborator => ascii "writer"
  | .reader => ascii "reader"

namespace DocumentsQuery

open UriState

/-! ### Reading a parameter by name -/

/-- There is a parameter for a list exactly when the list is not empty, and it lists the
addresses: `writer` for the collaborators, `reader` for the readers. -/
theorem mem_paramsBy_addresses (truth : Int → Bool) (q : DocumentsQuery) (r : Role)
    (vs : List Bytes) :
    (r.param, vs) ∈ q.paramsBy truth ↔
      q.addresses r ≠ [] ∧ vs = (q.addresses r).map (·.address.bytes) := by
  have hw : ∀ n ∈ [ascii "reader", ascii "title", ascii "title-exact", ascii "showdeleted",
      ascii "showfolders"], ascii "writer" ≠ n := by decide
  have hr : ∀ n ∈ [ascii "writer", ascii "title", ascii "title-exact", ascii "showdeleted",
      ascii "showfolders"], ascii "reader" ≠ n := by decide
  cases r <;> cases ht : q.title <;> simp [paramsBy, ht, hw, hr, addresses, Role.param]

/-- There is a `title` parameter exactly when a title is set, and its value is the title. -/
theorem mem_paramsBy_title (truth : Int → Bool) (q : DocumentsQuery) (vs : List Bytes) :
    (ascii "title", vs) ∈ q.paramsBy truth ↔ ∃ t, q.title = some t ∧ vs = [t.bytes] := by
  have ht : ∀ n ∈ [ascii "writer", ascii "reader", ascii "title-exact", ascii "showdeleted",
      ascii "showfolders"], ascii "title" ≠ n := by decide
  cases hq : q.title <;> simp [paramsBy, hq, ht]

theorem mem_paramsBy_titleExact (truth : Int → Bool) (q : DocumentsQuery) :
    (ascii "title-exact", [ascii "true"]) ∈ q.paramsBy truth ↔
      q.title.isSome ∧ truth q.exactTitle = true := by
  have ht : ∀ n ∈ [ascii "writer", ascii "reader", ascii "title", ascii "showdeleted",
      ascii "showfolders"], ascii "title-exact" ≠ n := by decide
  cases hq : q.title <;> simp [paramsBy, hq, ht]

/-- The two visibility parameters are always there, `true` or `false` as `truth` reads each
flag. -/
theorem mem_paramsBy_show (truth : Int → Bool) (q : DocumentsQuery) (vs : List Bytes) :
    ((ascii "showdeleted", vs) ∈ q.paramsBy truth ↔
        vs = [ascii (if truth q.showDeleted then "true" else "false")]) ∧
      ((ascii "showfolders", vs) ∈ q.paramsBy truth ↔
        vs = [ascii (if truth q.showFolders then "true" else "false")]) := by
  have hd : ∀ n ∈ [ascii "writer", ascii "reader", ascii "title", ascii "title-exact",
      ascii "showfolders"], ascii "showdeleted" ≠ n := by decide
  have hf : ∀ n ∈ [ascii "writer", ascii "reader", ascii "title", ascii "title-exact",
      ascii "showdeleted"], ascii "showfolders" ≠ n := by decide
  constructor <;> cases ht : q.title <;> simp [paramsBy, ht, hd, hf]

/-! ### The round trip -/

/-- The step down to bytes: the feed URI, the folder segment, the parent's text, one separator
chosen by the flag the parent leaves, and the parameters joined by `&`; the flag is left set. -/
theorem getQueryUri_none_eq (q : DocumentsQuery) (parent : UriState → Bytes × Bool) (U : Bytes)
    (p : Bool) :
    q.getQueryUri none parent ⟨U, p⟩ =
      ⟨U ++ folderSegment q.folderId ++ (parent ⟨U ++ folderSegment q.folderId, p⟩).1 ++
        sep (parent ⟨U ++ folderSegment q.folderId, p⟩).2 ::
          ['&'.toUInt8].intercalate q.paramTexts, true⟩ := by
  obtain ⟨t, ts, h⟩ := List.exists_cons_of_ne_nil (paramTexts_ne_nil q)
  rw [getQueryUri_none, append_mk, chainUp, h, emitAll_cons]

theorem not_mem_intercalate_paramTexts {d : UInt8} (hd : d ∈ ascii "?#") (q : DocumentsQuery) :
    d ∉ ['&'.toUInt8].intercalate q.paramTexts := by
  intro hm
  rcases mem_intercalate hm with rfl | ⟨t, ht, hdt⟩
  · exact absurd hd (by decide)
  · exact paramTexts_not_mem ((by decide : ∀ d ∈ ascii "?#", d ∈ ascii "&?#") d hd) q t ht hdt

theorem sep_ne_hash (b : Bool) : sep b ≠ '#'.toUInt8 := by
  cases b <;> decide

/-- **Decoding the documents part of the URI gives back the query.**  For a query over a
collection whose flags hold `FALSE` or `TRUE`, any feed URI `U` and flag `p`, and any parent
step, the URI is `U`, then the folder segment `F`, then the parent's text `B`, then `S`: `F` is
empty exactly when no folder is set and otherwise decodes to the folder ID, `S` starts with the
separator the parent's flag asks for and holds no other `?` and no `#`, and the parameters after
its first byte decode to what the query stands for. -/
theorem getQueryUri_decodes (q : DocumentsQuery) (hq : q.BoolsNormal) (U : Bytes) (p : Bool)
    (parent : UriState → Bytes × Bool) :
    ∃ S, q.getQueryUri none parent ⟨U, p⟩ = ⟨U ++ folderSegment q.folderId ++
        (parent ⟨U ++ folderSegment q.folderId, p⟩).1 ++ S, true⟩ ∧
      (folderSegment q.folderId = [] ↔ q.folderId = none) ∧
      (∀ f, q.folderId = some f →
        ∃ e, folderSegment q.folderId = ascii "/folder%3A" ++ e ∧ Uri.percentDecode e = f.bytes) ∧
      S.head? = some (if (parent ⟨U ++ folderSegment q.folderId, p⟩).2 then '&'.toUInt8
        else '?'.toUInt8) ∧
      '?'.toUInt8 ∉ S.tail ∧ '#'.toUInt8 ∉ S ∧
      Uri.decodeQuery S.tail = q.params := by
  refine ⟨_, getQueryUri_none_eq q parent U p, ?_,
    fun f hf => ⟨_, by simp [folderSegment, hf], GLib.percentDecode_uriEscaped true f.bytes⟩,
    rfl, not_mem_intercalate_paramTexts (by decide) q, ?_, ?_⟩
  · cases hf : q.folderId <;> simp [folderSegment, hf, ascii]
  · intro h
    rcases List.mem_cons.1 h with h | h
    · exact sep_ne_hash _ h.symm
    · exact not_mem_intercalate_paramTexts (by decide) q h
  · rw [List.tail_cons, decodeQuery_paramTexts, paramsBy_eq_params hq]

/-- The round trip on the feed URI `feed` for a query over the folder `abc` with one
collaborator, one reader and the title `Q3 report` matched exactly, under a parent step that
writes `?q=x` and leaves the parameters started. -/
theorem getQueryUri_decodes_run :
    (run [.setFolderId (some (CStr.ofAscii "abc" (by decide))),
          .addCollaborator (some (CStr.ofAscii "a@x.com" (by decide))),
          .addReader (some (CStr.ofAscii "b@y.com" (by decide))),
          .setTitle (some (CStr.ofAscii "Q3 report" (by decide))) 1] init).BoolsNormal ∧
      ∃ S, (run [.setFolderId (some (CStr.ofAscii "abc" (by decide))),
          .addCollaborator (some (CStr.ofAscii "a@x.com" (by decide))),
          .addReader (some (CStr.ofAscii "b@y.com" (by decide))),
          .setTitle (some (CStr.ofAscii "Q3 report" (by decide))) 1] init).getQueryUri none
            (fun _ => (ascii "?q=x", true)) ⟨ascii "feed", false⟩ =
          ⟨ascii "feed" ++ folderSegment (some (CStr.ofAscii "abc" (by decide))) ++ ascii "?q=x" ++ S,
            true⟩ ∧
        (folderSegment (some (CStr.ofAscii "abc" (by decide))) = [] ↔
          some (CStr.ofAscii "abc" (by decide)) = none) ∧
        (∀ f, some (CStr.ofAscii "abc" (by decide)) = some f →
          ∃ e, folderSegment (some (CStr.ofAscii "abc" (by decide))) = ascii "/folder%3A" ++ e ∧
            Uri.percentDecode e = f.bytes) ∧
        S.head? = some (if true then '&'.toUInt8 else '?'.toUInt8) ∧
        '?'.toUInt8 ∉ S.tail ∧ '#'.toUInt8 ∉ S ∧
        Uri.decodeQuery S.tail = (run [.setFolderId (some (CStr.ofAscii "abc" (by decide))),
          .addCollaborator (some (CStr.ofAscii "a@x.com" (by decide))),
          .addReader (some (CStr.ofAscii "b@y.com" (by decide))),
          .setTitle (some (CStr.ofAscii "Q3 report" (by decide))) 1] init).params :=
  have hq : (run [.setFolderId (some (CStr.ofAscii "abc" (by decide))),
          .addCollaborator (some (CStr.ofAscii "a@x.com" (by decide))),
          .addReader (some (CStr.ofAscii "b@y.com" (by decide))),
          .setTitle (some (CStr.ofAscii "Q3 report" (by decide))) 1] init).BoolsNormal :=
    ⟨.inl rfl, .inl rfl, .inr rfl⟩
  ⟨hq, getQueryUri_decodes _ hq (ascii "feed") false fun _ => (ascii "?q=x", true)⟩

/-- **Each flag is rendered `true` exactly when it holds `TRUE`, and `false` otherwise**:
the parameters decode to `paramsBy (· == 1)`, so `showdeleted=true` when `show_deleted == 1` and
`showdeleted=false` for every other value, likewise `showfolders`, and `title-exact=true` when a
title is set and `exact_title == 1` — whatever `int` the setters were given. -/
theorem getQueryUri_flags_iff (q : DocumentsQuery) (U : Bytes) (p : Bool)
    (parent : UriState → Bytes × Bool) :
    ∃ S, q.getQueryUri none parent ⟨U, p⟩ = ⟨U ++ folderSegment q.folderId ++
        (parent ⟨U ++ folderSegment q.folderId, p⟩).1 ++ S, true⟩ ∧
      Uri.decodeQuery S.tail = q.paramsBy (· == 1) ∧
      ((ascii "showdeleted", [ascii "true"]) ∈ Uri.decodeQuery S.tail ↔ q.showDeleted = 1) ∧
      ((ascii "showdeleted", [ascii "false"]) ∈ Uri.decodeQuery S.tail ↔ q.showDeleted ≠ 1) ∧
      ((ascii "showfolders", [ascii "true"]) ∈ Uri.decodeQuery S.tail ↔ q.showFolders = 1) ∧
      ((ascii "showfolders", [ascii "false"]) ∈ Uri.decodeQuery S.tail ↔ q.showFolders ≠ 1) ∧
      ((ascii "title-exact", [ascii "true"]) ∈ Uri.decodeQuery S.tail ↔
        q.title.isSome ∧ q.exactTitle = 1) := by
  have htf : ascii "true" ≠ ascii "false" := by decide
  have hd := fun vs => (mem_paramsBy_show (· == 1) q vs).1
  have hf := fun vs => (mem_paramsBy_show (· == 1) q vs).2
  refine ⟨_, getQueryUri_none_eq q parent U p, ?_⟩
  rw [List.tail_cons, decodeQuery_paramTexts, hd, hd, hf, hf, mem_paramsBy_titleExact]
  by_cases h₁ : q.showDeleted = 1 <;> by_cases h₂ : q.showFolders = 1 <;> simp [h₁, h₂, htf, htf.symm]

/-- `set_show_deleted (query, 2)`: the getter reports a non-zero value, and the URI says
`showdeleted=false`. -/
theorem setShowDeleted_two_renders_false :
    (init.setShowDeleted 2).showDeleted ≠ 0 ∧
      ((init.setShowDeleted 2).getQueryUri none (fun s => ([], s.paramsStarted)) ⟨[], false⟩).queryUri =
        ascii "?showdeleted=false&showfolders=false" := by
  decide

end DocumentsQuery

end GData
