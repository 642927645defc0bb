import TemplateShare.Proofs.Decimal
import TemplateShare.Proofs.Session.Passwords
import TemplateShare.Proofs.Wire.Gzip
import TemplateShare.Proofs.Wire.Payload
import TemplateShare.Store

/-! # What the store takes from a session's requests

A request that writes a session names its document, or the place for new ones, the revision that it
is to become, and, packed or not, the session's document as it is sent.

* **`Store.target?_eq_document`** — what the path of a document names.
* **`Store.bodyDocument?_writeRequest`**, **`Store.bodyDocument?_updateRequest`** — the document in
  the body.
* **`Store.requestedRevision?_updateRequest`** — the revision. -/

namespace TemplateShare

namespace Request

variable (r : Request) {name other : String}

/-- A header of another name is not found. -/
theorem header?_withHeader_of_not_same (value : String) (h : Header.same other name = false) :
    (r.withHeader other value).header? name = r.header? name := by
  simp [header?, withHeader, List.find?_append, h]

/-- An optional header of another name is not found. -/
theorem header?_withOptionalHeader_of_not_same (value : Option String)
    (h : Header.same other name = false) :
    (r.withOptionalHeader other value).header? name = r.header? name := by
  cases value with
  | none => rfl
  | some v => exact r.header?_withHeader_of_not_same v h

/-- A new header is found, if there has been none of its name. -/
theorem header?_withHeader_self (value : String) (h : r.header? name = none) :
    (r.withHeader name value).header? name = some value := by
  have hnone : r.headers.find? (fun x => Header.same x.1 name) = none := Option.map_eq_none_iff.1 h
  simp [header?, withHeader, List.find?_append, hnone]

@[simp] theorem body_withOptionalHeader (value : Option String) :
    (r.withOptionalHeader name value).body = r.body := by
  cases value <;> rfl

@[simp] theorem method_withOptionalHeader (value : Option String) :
    (r.withOptionalHeader name value).method = r.method := by
  cases value <;> rfl

end Request

namespace Sync

variable (o : Options) (s : Session)

@[simp] theorem method_fetchRequest (id : String) (password : Option String) :
    (fetchRequest id password).method = .get := by
  rw [fetchRequest, Request.method_withOptionalHeader]

/-- **The two forms of a request that writes a session**: packed and not packed. -/
theorem writeRequest_eq (id : Option String) :
    writeRequest o s id =
      let body := Utf8.encode (Wire.encode s.snapshot).text
      if o.compressThreshold < body.length then
        ⟨.post, documentPath id, [],
          [(Header.contentType, "application/json"), (Header.contentEncoding, "gzip")],
          Gzip.compress body⟩
      else ⟨.post, documentPath id, [], [(Header.contentType, "application/json")], body⟩ := rfl

@[simp] theorem method_writeRequest (id : Option String) :
    (writeRequest o s id).method = .post := by
  rw [writeRequest_eq]
  dsimp only
  split <;> rfl

/-- A write says nothing of a revision. -/
theorem header?_writeRequest_revision (id : Option String) :
    (writeRequest o s id).header? Header.revision = none := by
  have hpacked : [(Header.contentType, "application/json"), (Header.contentEncoding, "gzip")].find?
      (fun h => Header.same h.1 Header.revision) = none := by decide
  have hplain : [(Header.contentType, "application/json")].find?
      (fun h => Header.same h.1 Header.revision) = none := by decide
  rw [writeRequest_eq]
  dsimp only
  split
  · rw [Request.header?, hpacked]
    rfl
  · rw [Request.header?, hplain]
    rfl

@[simp] theorem method_updateRequest (id : String) (revision : Nat) (password : Option String) :
    (updateRequest o s id revision password).method = .post := by
  have hwrite := method_writeRequest o s (some id)
  unfold updateRequest
  generalize writeRequest o s (some id) = r at hwrite
  cases s.pendingProtection <;> simpa [Request.withHeader] using hwrite

/-- An update has the body of a write. -/
theorem body_updateRequest (id : String) (revision : Nat) (password : Option String) :
    (updateRequest o s id revision password).body = (writeRequest o s (some id)).body := by
  unfold updateRequest
  generalize writeRequest o s (some id) = r
  cases s.pendingProtection <;> simp [Request.withHeader]

/-- **An update has the headers of a write** besides its revision and the passwords. -/
theorem header?_updateRequest (id : String) (revision : Nat) (password : Option String)
    {name : String} (hrevision : Header.same Header.revision name = false)
    (hsecrets : ∀ secret ∈ Header.secrets, Header.same secret name = false) :
    (updateRequest o s id revision password).header? name =
      (writeRequest o s (some id)).header? name := by
  have hpassword := hsecrets Header.password (by simp [Header.secrets])
  have hopen := hsecrets Header.openPassword (by simp [Header.secrets])
  have hmodify := hsecrets Header.modifyPassword (by simp [Header.secrets])
  unfold updateRequest
  generalize writeRequest o s (some id) = r
  cases s.pendingProtection <;>
    simp only [Request.header?_withOptionalHeader_of_not_same _ _ hpassword,
      Request.header?_withOptionalHeader_of_not_same _ _ hopen,
      Request.header?_withOptionalHeader_of_not_same _ _ hmodify,
      Request.header?_withHeader_of_not_same _ _ hrevision] <;>
    rfl

/-- **An update names its revision.** -/
theorem header?_updateRequest_revision (id : String) (revision : Nat) (password : Option String) :
    (updateRequest o s id revision password).header? Header.revision =
      some (toString revision) := by
  have hwrite := header?_writeRequest_revision o s (some id)
  have hpassword : Header.same Header.password Header.revision = false := by decide
  have hopen : Header.same Header.openPassword Header.revision = false := by decide
  have hmodify : Header.same Header.modifyPassword Header.revision = false := by decide
  unfold updateRequest
  generalize writeRequest o s (some id) = r at hwrite
  have hquery (q : List (String × String)) :
      Request.header? { r with query := q } Header.revision = none := hwrite
  cases s.pendingProtection <;>
    simp only [Request.header?_withOptionalHeader_of_not_same _ _ hpassword,
      Request.header?_withOptionalHeader_of_not_same _ _ hopen,
      Request.header?_withOptionalHeader_of_not_same _ _ hmodify,
      Request.header?_withHeader_self _ _ (hquery _)]

end Sync

namespace Store

/-! ## Targets -/

/-- **The path of a document names it**, if its id is valid, and nothing else. -/
theorem target?_documentPath (id : String) :
    target? (documentPath (some id)) =
      if DocumentId.isValid id then some (.document id) else none := by
  have hne : documentPath (some id) ≠ documentPath none := fun h =>
    (nomatch documentPath_injective h)
  have hpath : (documentPath (some id)).toList = (documentPath (some "")).toList ++ id.toList := by
    simp [documentPath]
  have hprefix : (documentPath (some "")).toList.isPrefixOf (documentPath (some id)).toList =
      true := by
    rw [hpath, List.isPrefixOf_iff_prefix]
    exact List.prefix_append _ _
  have hdrop : String.ofList ((documentPath (some id)).toList.drop
      (documentPath (some "")).toList.length) = id := by
    rw [hpath, List.drop_left, String.ofList_toList]
  rw [target?, if_neg hne]
  dsimp only
  rw [if_pos hprefix, hdrop]

/-- The place for new documents. -/
theorem target?_documentPath_none : target? (documentPath none) = some .collection :=
  if_pos rfl

/-- **What names a document is its path.** -/
theorem target?_eq_document {path id : String} (h : target? path = some (.document id)) :
    path = documentPath (some id) ∧ DocumentId.isValid id = true := by
  unfold target? at h
  split at h
  · cases h
  · dsimp only at h
    split at h
    · next hprefix =>
      split at h
      · next hvalid =>
        obtain ⟨rest, hrest⟩ := List.isPrefixOf_iff_prefix.1 hprefix
        obtain rfl := Target.document.inj (Option.some.inj h)
        refine ⟨?_, hvalid⟩
        rw [← hrest, List.drop_left, ← String.toList_inj, ← hrest]
        simp [documentPath]
      · cases h
    · cases h

/-! ## Bodies -/

/-- The document of a body depends on the body and on how it is packed. -/
theorem bodyDocument?_congr {r r' : Request} (hbody : r.body = r'.body)
    (hpacked : r.header? Header.contentEncoding = r'.header? Header.contentEncoding) :
    bodyDocument? r = bodyDocument? r' := by
  rw [bodyDocument?, bodyDocument?, bodyText?, bodyText?, hbody, hpacked]

/-- **The store takes a session's document from the request that writes it**, packed or not. -/
theorem bodyDocument?_writeRequest {s : Session} (h : s.registry.WellFormed) (o : Sync.Options)
    (id : Option String) :
    bodyDocument? (Sync.writeRequest o s id) = some s.snapshot.sent := by
  have hsnapshot : s.snapshot.registry.WellFormed := by
    rw [Registry.WellFormed, Session.snapshot_names]
    exact h
  have hpacked : [(Header.contentType, "application/json"), (Header.contentEncoding, "gzip")].find?
      (fun h => Header.same h.1 Header.contentEncoding) = some (Header.contentEncoding, "gzip") := by
    decide
  have hplain : [(Header.contentType, "application/json")].find?
      (fun h => Header.same h.1 Header.contentEncoding) = none := by decide
  -- Packed or not, the body is the payload of the document.
  have htext : bodyText? (Sync.writeRequest o s id) = some (Wire.encode s.snapshot).text := by
    rw [Sync.writeRequest_eq]
    generalize (Wire.encode s.snapshot).text = text
    dsimp only
    split
    · simp [bodyText?, Request.header?, hpacked, Gzip.decompress_compress, Except.toOption]
    · simp [bodyText?, Request.header?, hplain, Except.toOption]
  simp only [bodyDocument?, htext, Option.bind_eq_bind, Option.bind_some,
    Wire.parse_text hsnapshot, Except.toOption, Wire.decode_encode hsnapshot]

/-- **The store takes a session's document from an update of it.** -/
theorem bodyDocument?_updateRequest {s : Session} (h : s.registry.WellFormed) (o : Sync.Options)
    (id : String) (revision : Nat) (password : Option String) :
    bodyDocument? (Sync.updateRequest o s id revision password) = some s.snapshot.sent := by
  rw [← bodyDocument?_writeRequest h o (some id)]
  exact bodyDocument?_congr (Sync.body_updateRequest o s id revision password)
    (Sync.header?_updateRequest o s id revision password (by decide) (by decide))

/-- The document of a body is well-formed. -/
theorem wellFormed_of_bodyDocument? {r : Request} {dt : DataTemplate}
    (h : bodyDocument? r = some dt) : dt.registry.WellFormed := by
  simp only [bodyDocument?, Option.bind_eq_bind, Option.bind_eq_some_iff] at h
  obtain ⟨text, -, p, -, hdecode⟩ := h
  cases hp : p.decode with
  | error e =>
    rw [hp] at hdecode
    cases hdecode
  | ok x =>
    rw [hp] at hdecode
    obtain rfl := Option.some.inj hdecode
    exact Wire.wellFormed_of_decode hp

/-! ## Revisions -/

/-- **An update asks for its revision**, if it has 64 bits. -/
theorem requestedRevision?_updateRequest (o : Sync.Options) (s : Session) (id : String)
    (revision : Nat) (password : Option String) :
    requestedRevision? (Sync.updateRequest o s id revision password) =
      if revision < Nat.pow 2 64 then some revision else none := by
  have hdigits : (toString revision).toList = Nat.toDigits 10 revision := String.toList_ofList
  have hspace : ∀ x ∈ (toString revision).toList, Text.isSpace x = false := by
    intro x hx
    rw [hdigits] at hx
    exact Decimal.isSpace_of_isDigit (Decimal.isDigit_of_mem_digits hx)
  rw [requestedRevision?, Sync.header?_updateRequest_revision]
  dsimp only
  rw [Text.trim_of_not_space hspace, hdigits, Decimal.below?_digits]

end Store

end TemplateShare
