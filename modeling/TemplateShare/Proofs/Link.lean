import TemplateShare.Link
import TemplateShare.Proofs.Url.Parser
import TemplateShare.Proofs.Wire.Payload

/-! # Links open to what they were made from

A link is a URL with pairs in place of its query, whatever URL it was made on. It is read as a URL,
not as an id, and its pairs are those it was made with; keys in lower case stay as they are, and a
text in Base64 has no blank that could stand for a `+`.

* **`Link.parse_withPairs`** — a link is read by the entries it was made with.
* **`Link.parse_link`** — a link opens to what it was made from. -/

namespace TemplateShare

open Url

/-! ## Texts -/

namespace Text

/-- A character that does not occur is not replaced. -/
theorem replaceChar_of_notMem {c : Char} {new s : String} (h : c ∉ s.toList) :
    replaceChar c new s = s := by
  have hsame : s.toList.flatMap (fun x => if x = c then new.toList else [x]) = s.toList := by
    generalize s.toList = t at h
    induction t with
    | nil => rfl
    | cons x t ih =>
      rw [List.mem_cons, not_or] at h
      rw [List.flatMap_cons, if_neg (Ne.symm h.1), ih h.2]
      rfl
  rw [replaceChar, hsame, String.ofList_toList]

end Text

/-- A printable character other than a blank is no white space. -/
theorem Url.isSpace_of_controlSet {c : Char} (h : controlSet c = false) (hc : c ≠ ' ') :
    Text.isSpace c = false := by
  have hascii : c.toNat < 0x7F := by
    simp only [controlSet, Bool.or_eq_false_iff, decide_eq_false_iff_not] at h
    omega
  exact Text.forall_of_codes
    (p := fun c => controlSet c = false → c ≠ ' ' → Text.isSpace c = false) (by decide) hascii h hc

/-- A tidy text has no white space at its ends. -/
theorem Url.IsTidy.trim_ofList {s : List Char} (h : IsTidy s) :
    Text.trim (String.ofList s) = String.ofList s := by
  refine Text.trim_of_ends (fun c hc => ?_) fun c hc => ?_ <;> rw [String.toList_ofList] at hc
  · exact isSpace_of_controlSet (h.chars c (List.mem_of_head? hc)) fun heq => h.head (heq ▸ hc)
  · exact isSpace_of_controlSet (h.chars c (List.mem_of_getLast? hc)) fun heq => h.last (heq ▸ hc)

namespace Link

/-! ## Entries -/

variable {base : String} {u : Url}

/-- A text with a colon is no id. -/
theorem isValid_of_colon {s : List Char} (h : ':' ∈ s) :
    DocumentId.isValid (String.ofList s) = false := by
  have hall : s.all DocumentId.isIdChar = false :=
    List.all_eq_false.2 ⟨':', h, by decide⟩
  simp [DocumentId.isValid, hall]

/-- **A link is read by its entries**, which are the pairs it was made with. -/
theorem parse_withPairs (h : Url.parse base = .ok u) {pairs : List (String × String)}
    (hkeys : ∀ p ∈ pairs, lowerKey p.1 = p.1) : parse (u.withPairs pairs).text =
      match value? pairs "dt" with
      | some id =>
        if DocumentId.isValid id then .ok (.remote id)
        else .error (.validation (.invalidRemoteId id))
      | none => (liftEncoding (inlineOf pairs)).map .inline := by
  obtain ⟨htidy, hcolon, v, hv, hpairs⟩ := Url.parse_withPairs h pairs
  have hlower : pairs.map (fun p => (lowerKey p.1, p.2)) = pairs := by
    conv_rhs => rw [← List.map_id pairs]
    exact List.map_congr_left fun p hp => Prod.ext (hkeys p hp) rfl
  have hentries : entries (u.withPairs pairs).text = .ok pairs := by
    unfold entries
    rw [hv]
    dsimp only
    rw [hpairs, hlower]
  have htrim : Text.trim (u.withPairs pairs).text = (u.withPairs pairs).text := htidy.trim_ofList
  have hid : DocumentId.isValid (u.withPairs pairs).text = false := isValid_of_colon hcolon
  unfold parse
  rw [htrim]
  cases hdt : value? pairs "dt" <;>
    simp only [hid, hentries, hdt, Bool.false_eq_true, if_false]

/-! ## Documents -/

/-- A text that a link carries is read. -/
theorem textEntry_encodeField {es : List (String × String)} {key s : String}
    (h : value? es key = some (Wire.encodeField s)) : textEntry es key = .ok s := by
  have hblank : ' ' ∉ (Wire.encodeField s).toList := fun hmem =>
    absurd (Wire.not_space_of_mem_encodeField hmem) (by decide)
  rw [textEntry, h, Option.getD_some, Text.replaceChar_of_notMem hblank,
    Wire.decodeField_encodeField]

/-- **The entries of a document are read as the document.** -/
theorem inlineOf_inlineEntries {dt : DataTemplate} (h : dt.isSingle = true) :
    inlineOf (inlineEntries dt) = .ok dt.sent := by
  have hdata : textEntry (inlineEntries dt) "data" = .ok dt.activeBuffers.data :=
    textEntry_encodeField rfl
  have htemplate : textEntry (inlineEntries dt) "template" = .ok (Wire.expandTabs dt.template) :=
    textEntry_encodeField rfl
  have hvars : textEntry (inlineEntries dt) "vars" = .ok (Wire.expandTabs dt.activeBuffers.vars) :=
    textEntry_encodeField rfl
  have hsome : (textKeys.all fun k => (value? (inlineEntries dt) k).isNone) = false := rfl
  unfold inlineOf
  rw [hsome, hdata, htemplate, hvars, DataTemplate.sent,
    DataTemplate.rewritten_eq (DataTemplate.datasets_of_isSingle h)]
  rfl

/-- **A link opens to what it was made from**, whatever the URL it was made on: the link that
carries a document to the document with blanks for tabs, and the link to a document in the store to
its id. No link carries a document that does not have the short form. -/
theorem parse_link (base : String) :
    (∀ u, Url.parse base = .ok u →
      (∀ dt : DataTemplate, dt.isSingle = true →
        ∃ link, inline base dt = .ok link ∧ parse link = .ok (.inline dt.sent)) ∧
      (∀ id, DocumentId.isValid id = true →
        ∃ link, remote base id = .ok link ∧ parse link = .ok (.remote id))) ∧
    ∀ dt : DataTemplate, dt.isSingle = false →
      inline base dt = .error (.validation .notInlinable) := by
  refine ⟨fun u h => ?_, fun dt hlong => by rw [inline, hlong]; rfl⟩
  have hserver : Endpoint.serverUrl base = .ok u := by
    rw [Endpoint.serverUrl, h]
  constructor
  · intro dt hsingle
    refine ⟨(u.withPairs (inlineEntries dt)).text, ?_, ?_⟩
    · rw [inline, if_pos hsingle, hserver]
      rfl
    · -- The keys are in lower case already, in which they are looked up.
      have hkeys : ∀ p ∈ inlineEntries dt, lowerKey p.1 = p.1 := by
        intro p hp
        have hmem : p.1 ∈ (inlineEntries dt).map Prod.fst := List.mem_map_of_mem hp
        exact lowerKey_of_mem_textKeys hmem
      rw [parse_withPairs h hkeys]
      show (liftEncoding (inlineOf (inlineEntries dt))).map Target.inline = _
      rw [inlineOf_inlineEntries hsingle]
      rfl
  · intro id hid
    refine ⟨(u.withPairs [("dt", id)]).text, ?_, ?_⟩
    · rw [remote, DocumentId.check_eq_ok.2 hid, hserver]
      rfl
    · have hkeys : ∀ p ∈ [("dt", id)], lowerKey p.1 = p.1 := by
        intro p hp
        rw [List.mem_singleton.1 hp]
        exact (by decide : lowerKey "dt" = "dt")
      rw [parse_withPairs h hkeys]
      exact if_pos hid

/-- On a base with an address, a port, a path, a query and a fragment, links to a document whose
tabs stand in all of its texts and to an id. -/
theorem parse_link_addressed :
    (∃ link, inline "HTTPS://me@[::1]:8443/a/../b?x=1&y#top"
        (.single "a\tb" "k:\tv" "+\t{{a}}") = .ok link ∧
      parse link = .ok (.inline (.single "a\tb" "k:  v" "+  {{a}}"))) ∧
    ∃ link, remote "HTTPS://me@[::1]:8443/a/../b?x=1&y#top" "abc_-9" = .ok link ∧
      parse link = .ok (.remote "abc_-9") := by
  obtain ⟨u, hu⟩ : ∃ u, Url.parse "HTTPS://me@[::1]:8443/a/../b?x=1&y#top" = .ok u := ⟨_, rfl⟩
  obtain ⟨hinline, hremote⟩ := (parse_link _).1 u hu
  exact ⟨hinline (.single "a\tb" "k:\tv" "+\t{{a}}") (by decide), hremote "abc_-9" (by decide)⟩

end Link

end TemplateShare
