import TemplateShare.Endpoint
import TemplateShare.Proofs.Decimal
import TemplateShare.Proofs.Session.Passwords
import TemplateShare.Proofs.Url.Join
import TemplateShare.Proofs.Url.Slash

/-! # Requests stay below the address of a store

Where a server's URL has a host, requests go to places right below its path: scheme, user, host and
port are those of the server, nothing is left of its query and its fragment, and it does not matter
whether the path was written with a slash at its end.

* **`Endpoint.below`** — a place below a URL, with a query of its own.
* **`Endpoint.url_withSlash`** — where a request goes whose path is a place.
* **`Endpoint.requests_below`** — where the requests of a session go. -/

namespace TemplateShare

namespace Url

/-! ## Servers -/

/-- **Places are joined to every URL that has a host.** -/
theorem isBase_of_host {text : String} {u : Url} (h : parse text = .ok u)
    (hhost : u.host?.isSome = true) : u.IsBase := by
  obtain ⟨scheme, s, -, hread⟩ := parse_eq_ok.1 h
  obtain ⟨a, t, rfl⟩ := exists_eq_located hread hhost
  obtain ⟨q, f, heq⟩ := located_eq scheme a t
  rw [heq]
  refine ⟨rfl, fun hfile => ?_⟩
  rw [show kindOf scheme = .file from hfile]
  exact isLocal_startPath t

/-! ## Queries -/

/-- Letters and digits stand for themselves in a pair. -/
theorem formText_eq_self {s : List Char} (h : ∀ c ∈ s, c.isAlphanum = true) :
    formText (String.ofList s) = s := by
  have hascii {c : Char} (hc : c ∈ s) : c.toNat < 0x7B :=
    Nat.lt_succ_of_le (toNat_of_isAlphanum (h c hc)).2
  have hoctet {c : Char} (hc : c ∈ s) : formOctet (UInt8.ofNat c.toNat) = [c] :=
    Text.forall_of_codes
      (p := fun c => c.isAlphanum = true → formOctet (UInt8.ofNat c.toNat) = [c])
      (by decide) (hascii hc) (h c hc)
  rw [formText, Utf8.encode_ofList_ascii fun c hc => Nat.lt_trans (hascii hc) (by decide),
    List.flatMap_map, List.flatMap_congr fun c hc => hoctet hc, List.flatMap_singleton']

end Url

/-! ## Requests -/

namespace Sync

@[simp] theorem query_fetchRequest (id : String) (password : Option String) :
    (fetchRequest id password).query = [] := by
  cases password <;> rfl

@[simp] theorem query_writeRequest (o : Options) (s : Session) (id : Option String) :
    (writeRequest o s id).query = [] := by
  unfold writeRequest
  dsimp only
  split <;> rfl

@[simp] theorem query_updateRequest (o : Options) (s : Session) (id : String) (revision : Nat)
    (password : Option String) :
    (updateRequest o s id revision password).query = [("rev", toString revision)] := by
  have hoptional (r : Request) (name : String) (value : Option String) :
      (r.withOptionalHeader name value).query = r.query := by
    cases value <;> rfl
  have hwrite := query_writeRequest o s (some id)
  unfold updateRequest
  generalize writeRequest o s (some id) = r at hwrite
  cases s.pendingProtection <;> simp [hoptional, Request.withHeader, hwrite]

end Sync

namespace Endpoint

open Url (cleaned closed IsPlace)

variable {text : String} {u : Url} {r : Request}

/-- **A place below a URL**: behind its path and a slash, with a query of its own. -/
def below (u : Url) (place : String) (query : Option String) : Url :=
  { u with
    path := closed u.path ++ place.toList
    query := query.map String.toList
    fragment := none }

/-! ## Addresses -/

/-- The URL of a server is any URL. -/
theorem serverUrl_eq_ok : serverUrl text = .ok u ↔ Url.parse text = .ok u := by
  unfold serverUrl
  cases Url.parse text <;> simp

/-- The path of an address is closed. -/
theorem withSlash_eq (h : u.isOpaque = false) : withSlash u = { u with path := closed u.path } := by
  unfold withSlash closed
  split
  · rfl
  · rw [if_neg (by simp [h])]

/-! ## Where requests go -/

/-- New documents go to a place. -/
theorem isPlace_document : IsPlace "document".toList :=
  ⟨["document".toList], by simp, by
    rintro t ht
    rw [List.mem_singleton.1 ht]
    exact ⟨by decide, by decide⟩, rfl⟩

/-- So do those that have an id. -/
theorem isPlace_document_append {id : String} (h : DocumentId.isValid id = true) :
    IsPlace ("document/" ++ id).toList := by
  simp only [DocumentId.isValid, Bool.and_eq_true, Bool.not_eq_true', List.isEmpty_eq_false_iff,
    List.all_eq_true] at h
  refine ⟨["document".toList, id.toList], by simp, ?_, ?_⟩
  · intro t ht
    rcases List.mem_cons.1 ht with rfl | ht
    · exact ⟨by decide, by decide⟩
    · rw [List.mem_singleton.1 ht]
      exact ⟨h.1.1, h.2⟩
  · rw [String.toList_append, List.intercalate_cons_cons, List.intercalate_singleton]
    rfl

/-- **A request for a place goes right below the path** of an address. -/
theorem url_withSlash {place : String} (hu : u.IsBase) (hplace : IsPlace place.toList)
    (hpath : r.path = "/" ++ place) :
    url ⟨withSlash u⟩ r = .ok ((below u place none).appendPairs r.query) := by
  have hrelative : r.path.toList.dropWhile (· == '/') = place.toList := by
    rw [hpath, String.toList_append]
    refine Url.dropWhile_append_stop (by simp) fun c hc => ?_
    obtain ⟨d, s, hcons, hd⟩ := hplace.exists_cons
    rw [hcons] at hc
    cases hc
    simpa using (Url.of_isIdChar hd).1.1
  have hjoin : Url.join { u with path := closed u.path } (String.ofList place.toList) =
      .ok (below u place none) :=
    Url.join_place hu.closed (Url.getLast?_closed u.path) hplace
  rw [url, hrelative, withSlash_eq hu.plain, hjoin]
  rfl

/-- A request for a document goes to its id. -/
theorem url_document {id : String} (hu : u.IsBase) (hid : DocumentId.isValid id = true)
    (hpath : r.path = documentPath (some id)) :
    url ⟨withSlash u⟩ r = .ok ((below u ("document/" ++ id) none).appendPairs r.query) := by
  refine url_withSlash hu (isPlace_document_append hid) ?_
  rw [hpath, ← String.append_assoc]
  rfl

/-- The number of a revision in a query. -/
theorem appendPairs_below (u : Url) (place : String) (n : Nat) :
    (below u place none).appendPairs [("rev", toString n)] =
      below u place (some ("rev=" ++ toString n)) := by
  have hkey : Url.formText "rev" = "rev".toList := Url.formText_eq_self (by decide)
  have hdigits : Url.formText (toString n) = (toString n).toList := by
    have hchars : ∀ c ∈ (toString n).toList, c.isAlphanum = true := by
      intro c hc
      rw [Nat.toString_eq_repr, Nat.toList_repr] at hc
      simp [Char.isAlphanum, Decimal.isDigit_of_mem_digits hc]
    have hself := Url.formText_eq_self hchars
    rwa [String.ofList_toList] at hself
  have hpair : Url.appendTo [] [("rev", toString n)] = ("rev=" ++ toString n).toList := by
    show Url.formText "rev" ++ ['='] ++ Url.formText (toString n) = _
    rw [hkey, hdigits, String.toList_append]
    rfl
  rw [Url.appendPairs, if_neg (by simp), show (below u place none).query.getD [] = [] from rfl,
    hpair]
  rfl

/-- **Requests stay below the URL of a server** that has a host: those for a document with an id and
those for new ones, whatever they are of. They stay where they are if a slash is put behind the path
of the URL. -/
theorem requests_below (h : serverUrl text = .ok u) (hhost : u.host?.isSome = true) :
    ∃ e, ofText text = .ok e ∧
      (∀ id, DocumentId.isValid id = true → ∀ password,
        e.url (Sync.fetchRequest id password) = .ok (below u ("document/" ++ id) none)) ∧
      (∀ o s, e.url (Sync.writeRequest o s none) = .ok (below u "document" none)) ∧
      (∀ o s id, DocumentId.isValid id = true → ∀ revision password,
        e.url (Sync.updateRequest o s id revision password) =
          .ok (below u ("document/" ++ id) (some ("rev=" ++ toString revision)))) ∧
      ∀ other, Url.AddsSlash u.kind (cleaned text) (cleaned other) → ofText other = .ok e := by
  have hparse := serverUrl_eq_ok.1 h
  have hu := Url.isBase_of_host hparse hhost
  refine ⟨⟨withSlash u⟩, ?_, ?_, ?_, ?_, ?_⟩
  · rw [ofText, h]
    rfl
  · intro id hid password
    rw [url_document hu hid (Sync.path_fetchRequest id password), Sync.query_fetchRequest]
    rfl
  · intro o s
    rw [url_withSlash hu isPlace_document (Sync.path_writeRequest o s none),
      Sync.query_writeRequest]
    rfl
  · intro o s id hid revision password
    rw [url_document hu hid (Sync.path_updateRequest o s id revision password),
      Sync.query_updateRequest, appendPairs_below]
  · intro other hadds
    rw [ofText, serverUrl_eq_ok.2 (Url.parse_slash hparse hhost hadds)]
    show Except.ok (Endpoint.mk (withSlash _)) = _
    rw [withSlash_of_getLast? (Url.getLast?_closed u.path), withSlash_eq hu.plain]

/-- For a server whose URL has a user, a port, a query and a fragment, and with a slash put behind
its path. -/
theorem requests_below_queried :
    ∃ e, ofText "HTTPS://me:pw@Example.com:8443/jfx?old=1#top" = .ok e ∧
      (e.url (Sync.fetchRequest "abc_-9" none)).map Url.text =
        .ok "https://me:pw@example.com:8443/jfx/document/abc_-9" ∧
      (e.url (Sync.writeRequest ⟨1024, ⟨0, 0⟩⟩ {} none)).map Url.text =
        .ok "https://me:pw@example.com:8443/jfx/document" ∧
      (e.url (Sync.updateRequest ⟨1024, ⟨0, 0⟩⟩ {} "abc_-9" 7 none)).map Url.text =
        .ok "https://me:pw@example.com:8443/jfx/document/abc_-9?rev=7" ∧
      ofText "HTTPS://me:pw@Example.com:8443/jfx/?old=1#top" = .ok e := by
  obtain ⟨u, hserver, hu⟩ : ∃ u, serverUrl "HTTPS://me:pw@Example.com:8443/jfx?old=1#top" = .ok u ∧
      u = {
        scheme := "https".toList
        authority := some ⟨"me".toList, some "pw".toList, .domain "example.com".toList, some 8443⟩
        path := "/jfx".toList
        query := some "old=1".toList
        fragment := some "top".toList } := ⟨_, rfl, rfl⟩
  subst hu
  obtain ⟨e, he, hfetch, hcreate, hupdate, hslash⟩ := requests_below hserver rfl
  refine ⟨e, he, ?_, ?_, ?_, hslash _ ⟨"HTTPS://me:pw@Example.com:8443/jfx".toList,
    "?old=1#top".toList, rfl, rfl, by decide, by rintro c ⟨⟩; rfl⟩⟩
  · rw [hfetch "abc_-9" (by decide) none]
    rfl
  · rw [hcreate]
    rfl
  · rw [hupdate ⟨1024, ⟨0, 0⟩⟩ {} "abc_-9" (by decide) 7 none]
    rfl

end Endpoint

end TemplateShare
