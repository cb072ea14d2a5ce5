/-
**What the URI tells a server.**

Two consequences of the round trip of `DocumentsQuery.Decode`, read parameter by parameter with
`GData.DocumentsQuery.mem_paramsBy_addresses` and its companions.

The first follows a whole run of public calls into the URI.  `run_addresses` says
what a run leaves in the address lists, and `decodeQuery_paramTexts` what a server reads back;
together, the `writer` parameter a server reads lists the addresses of the accepted
`add_collaborator` calls in the order they were made, whatever else the run did, and `reader`
those of the accepted `add_reader` calls.

The second is that no two filter states share a URI.  Two queries over the same folder whose
steps write the same URI agree on everything the URI carries: the addresses of both lists, the
title, and the truth of each flag as `get_query_uri` tests it (`== TRUE`), the exact-title flag
only when a title is set.  What the URI does not carry — an address's relation type, or a flag
of `2` against one of `0` — it cannot tell apart.

Main results:

* `GData.DocumentsQuery.run_getQueryUri_addresses` — **after any run from a new query, the
  address parameters of the URI are the logs of the accepted calls**;
* `GData.DocumentsQuery.getQueryUri_injective` — **two queries over the same folder with the
  same URI agree on every filter the URI carries**.
-/

import DocumentsQuery.Decode

set_option relaxedAutoImplicit false
set_option autoImplicit false

namespace GData

namespace DocumentsQuery

/-! ### The URI of a run -/

/-- **After any run from a new query, the address parameters of the URI are the logs of the
accepted calls**: for every feed URI, flag and parent step, a server finds a `writer` parameter
exactly when some `add_collaborator` call was accepted, and its values are the accepted
addresses in call order; likewise `reader` for `add_reader`. -/
theorem run_getQueryUri_addresses (calls : List Call) (U : Bytes) (p : Bool)
    (parent : UriState → Bytes × Bool) :
    ∃ S, (run calls init).getQueryUri none parent ⟨U, p⟩ =
        ⟨U ++ folderSegment (run calls init).folderId ++
          (parent ⟨U ++ folderSegment (run calls init).folderId, p⟩).1 ++ S, true⟩ ∧
      (∀ vs, (ascii "writer", vs) ∈ Uri.decodeQuery S.tail ↔
        calls.filterMap Call.collaborator ≠ [] ∧
          vs = (calls.filterMap Call.collaborator).map (·.bytes)) ∧
      (∀ vs, (ascii "reader", vs) ∈ Uri.decodeQuery S.tail ↔
        calls.filterMap Call.reader ≠ [] ∧ vs = (calls.filterMap Call.reader).map (·.bytes)) := by
  have hlog : ∀ r vs, (r.param, vs) ∈ (run calls init).paramsBy (· == 1) ↔
      calls.filterMap (Call.appends r) ≠ [] ∧ vs = (calls.filterMap (Call.appends r)).map (·.bytes) :=
    fun r vs => by
      have hinit : init.addresses r = [] := by cases r <;> rfl
      have hr := run_addresses r calls init
      rw [hinit, List.map_nil, List.nil_append] at hr
      rw [mem_paramsBy_addresses, ← hr]
      simp [Function.comp_def]
  refine ⟨_, getQueryUri_none_eq _ parent U p, fun vs => ?_, fun vs => ?_⟩ <;>
    rw [List.tail_cons, decodeQuery_paramTexts]
  exacts [hlog .collaborator vs, hlog .reader vs]

/-! ### Distinct filters give distinct URIs -/

/-- Two queries over the same folder whose steps write the same URI stand for the same
parameters: the parent's text is the same, so the parameter texts are. -/
theorem paramsBy_eq_of_getQueryUri_eq {q q' : DocumentsQuery} (hf : q.folderId = q'.folderId)
    {U : Bytes} {p : Bool} {parent : UriState → Bytes × Bool}
    (h : q.getQueryUri none parent ⟨U, p⟩ = q'.getQueryUri none parent ⟨U, p⟩) :
    q.paramsBy (· == 1) = q'.paramsBy (· == 1) := by
  rw [getQueryUri_none_eq, getQueryUri_none_eq, hf] at h
  have htexts := (List.cons.inj (List.append_cancel_left (congrArg UriState.queryUri h))).2
  rw [← decodeQuery_paramTexts, ← decodeQuery_paramTexts, htexts]

/-- An address list is read back from its parameter: whether it is there, and its values. -/
theorem addresses_eq_of_iff {l l' : List GDEmailAddress}
    (h : ∀ vs, l ≠ [] ∧ vs = l.map (·.address.bytes) ↔ l' ≠ [] ∧ vs = l'.map (·.address.bytes)) :
    l.map (·.address) = l'.map (·.address) := by
  have hbytes : l.map (·.address.bytes) = l'.map (·.address.bytes) := by
    by_cases hl : l = []
    · by_cases hl' : l' = []
      · simp [hl, hl']
      · exact (((h _).2 ⟨hl', rfl⟩).1 hl).elim
    · exact ((h _).1 ⟨hl, rfl⟩).2
  refine List.map_injective_iff.2 CStr.bytes_injective ?_
  simpa [Function.comp_def] using hbytes

/-- The title is read back from its parameter. -/
theorem title_eq_of_iff {t t' : Option CStr}
    (h : ∀ vs, (∃ v, t = some v ∧ vs = [v.bytes]) ↔ ∃ v, t' = some v ∧ vs = [v.bytes]) :
    t = t' := by
  cases t with
  | none =>
    cases t' with
    | none => rfl
    | some v' => obtain ⟨_, h', -⟩ := (h [v'.bytes]).2 ⟨v', rfl, rfl⟩; cases h'
  | some v =>
    obtain ⟨v', rfl, hv⟩ := (h [v.bytes]).1 ⟨v, rfl, rfl⟩
    rw [CStr.bytes_injective (List.singleton_injective hv)]

/-- **Two queries over the same folder with the same URI agree on every filter the URI
carries**: the addresses of both lists, the title, the truth of each flag as `get_query_uri`
tests it, and, when a title is set, that of the exact-title flag. -/
theorem getQueryUri_injective {q q' : DocumentsQuery} (hf : q.folderId = q'.folderId)
    (U : Bytes) (p : Bool) (parent : UriState → Bytes × Bool)
    (h : q.getQueryUri none parent ⟨U, p⟩ = q'.getQueryUri none parent ⟨U, p⟩) :
    q.collaboratorAddresses.map (·.address) = q'.collaboratorAddresses.map (·.address) ∧
      q.readerAddresses.map (·.address) = q'.readerAddresses.map (·.address) ∧
      q.title = q'.title ∧ (q.title.isSome → (q.exactTitle == 1) = (q'.exactTitle == 1)) ∧
      (q.showDeleted == 1) = (q'.showDeleted == 1) ∧
      (q.showFolders == 1) = (q'.showFolders == 1) := by
  have hp := paramsBy_eq_of_getQueryUri_eq hf h
  have hmem : ∀ x, x ∈ q.paramsBy (· == 1) ↔ x ∈ q'.paramsBy (· == 1) := fun x => by rw [hp]
  have hlist : ∀ r, (q.addresses r).map (·.address) = (q'.addresses r).map (·.address) := fun r =>
    addresses_eq_of_iff fun vs => (mem_paramsBy_addresses _ q r vs).symm.trans
      ((hmem _).trans (mem_paramsBy_addresses _ q' r vs))
  have htitle : q.title = q'.title := title_eq_of_iff fun vs =>
    (mem_paramsBy_title _ q vs).symm.trans ((hmem _).trans (mem_paramsBy_title _ q' vs))
  have hexact := (mem_paramsBy_titleExact _ q).symm.trans
    ((hmem _).trans (mem_paramsBy_titleExact _ q'))
  have hflag : ∀ b b' : Bool, [ascii (if b then "true" else "false")] =
      [ascii (if b' then "true" else "false")] → b = b' := by decide
  have hshow := fun vs => (mem_paramsBy_show (· == 1) q vs)
  have hshow' := fun vs => (mem_paramsBy_show (· == 1) q' vs)
  refine ⟨hlist .collaborator, hlist .reader, htitle, fun hs => ?_,
    hflag _ _ ((hshow' _).1.1 ((hmem _).1 ((hshow _).1.2 rfl))),
    hflag _ _ ((hshow' _).2.1 ((hmem _).1 ((hshow _).2.2 rfl)))⟩
  rw [← htitle] at hexact
  simpa [hs] using hexact

/-- A new query and one with `show_deleted` set to `2` give the same URI, and agree on every
filter it carries: `2 == TRUE` is false, as `0 == TRUE` is. -/
theorem getQueryUri_injective_init_two :
    init.folderId = (init.setShowDeleted 2).folderId ∧
      init.getQueryUri none (fun s => ([], s.paramsStarted)) ⟨[], false⟩ =
        (init.setShowDeleted 2).getQueryUri none (fun s => ([], s.paramsStarted)) ⟨[], false⟩ ∧
      (init.collaboratorAddresses.map (·.address) =
          (init.setShowDeleted 2).collaboratorAddresses.map (·.address) ∧
        init.readerAddresses.map (·.address) =
          (init.setShowDeleted 2).readerAddresses.map (·.address) ∧
        init.title = (init.setShowDeleted 2).title ∧
        (init.title.isSome → (init.exactTitle == 1) = ((init.setShowDeleted 2).exactTitle == 1)) ∧
        (init.showDeleted == 1) = ((init.setShowDeleted 2).showDeleted == 1) ∧
        (init.showFolders == 1) = ((init.setShowDeleted 2).showFolders == 1)) :=
  have hf : init.folderId = (init.setShowDeleted 2).folderId := rfl
  have h : init.getQueryUri none (fun s => ([], s.paramsStarted)) ⟨[], false⟩ =
      (init.setShowDeleted 2).getQueryUri none (fun s => ([], s.paramsStarted)) ⟨[], false⟩ := by
    decide
  ⟨hf, h, getQueryUri_injective hf [] false _ h⟩

end DocumentsQuery

end GData
