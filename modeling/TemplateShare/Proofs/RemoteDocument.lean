import TemplateShare.Proofs.Portable.Reading
import TemplateShare.RemoteDocument

/-! # Reading stored documents back

What a reader takes from the text that the store keeps of a document. The bookkeeping stands behind
the texts of the user, in the same mapping, and no text can take its place.

* **`Sha256.isHashText_hex`** — hashes are made of letters and digits.
* **`RemoteDocument.print_eq`** — the text of the store as a laid out document.
* **`RemoteDocument.parse_print`** — what is read back, whenever anything is. -/

namespace TemplateShare

open Yaml Scanner

/-! ## Hashes -/

/-- **A text that can stand between quotes as it is**: letters, digits and low lines. -/
def IsHashText (s : String) : Prop := s.toList ≠ [] ∧ ∀ x ∈ s.toList, IsNameChar x

namespace Hex

/-- Digits in lower case are letters or digits. -/
theorem isNameChar_lower {width n : Nat} {x : Char} (h : x ∈ lower width n) : IsNameChar x := by
  induction width generalizing n with
  | zero => cases h
  | succ width ih =>
    rw [lower, List.mem_append, List.mem_singleton] at h
    rcases h with h | rfl
    · exact ih h
    · exact (by decide : ∀ k < 16, IsNameChar (lowerDigit k)) _ (Nat.mod_lt n (by decide))

end Hex

/-- **A digest is made of letters and digits.** -/
theorem Sha256.isHashText_hex (s : String) : IsHashText (Sha256.hex s) := by
  unfold Sha256.hex
  constructor
  · rw [String.toList_ofList]
    unfold Sha256.digest State.words Sha256.octets
    dsimp only
    rw [List.flatMap_cons, List.cons_append, List.flatMap_cons]
    intro h
    have hlen := congrArg List.length h
    rw [List.length_append, Hex.length_lower] at hlen
    simp at hlen
  · intro x hx
    rw [String.toList_ofList, List.mem_flatMap] at hx
    obtain ⟨b, -, hx⟩ := hx
    exact Hex.isNameChar_lower hx

namespace RemoteDocument

/-! ## The layout of a stored document -/

/-- A text in quotes as it is written. -/
def quotedText (value : String) : Written :=
  ⟨'"' :: (value.toList ++ ['"']), .doubleQuoted, value.toList⟩

/-- The entry of a text in quotes, in front of more entries. -/
def quotedEntry (key value : String) (more : Entries) : Entries :=
  .cons (.word key) (.scalar (quotedText value)) 0 more

/-- The entry of a text in quotes, if there is one. -/
def optionalEntry (key : String) (value : Option String) (more : Entries) : Entries :=
  match value with
  | none => more
  | some v => quotedEntry key v more

/-- **The bookkeeping of the store.** -/
def bookkeeping (revision : Nat) (hash : String) (openHash modifyHash : Option String)
    (clock : Int) : Entries :=
  .cons (.word "revision") (.scalar (.digits revision)) 0 <|
    quotedEntry "dt_hash" hash <| optionalEntry "dt_password" openHash <|
      optionalEntry "dt_mpassword" modifyHash <| quotedEntry "updated" (toString clock) .nil

variable {dt : DataTemplate} {revision : Nat} {hash : String} {openHash modifyHash : Option String}
  {clock : Int}

/-- A line with a text in quotes is an entry. -/
theorem quotedLine_chars (key value : String) {more : Entries} {r t : List Char}
    (h : '\n' :: r = more.chars 0 ++ t) :
    '\n' :: ((quotedLine key value).toList ++ r) = (quotedEntry key value more).chars 0 ++ t := by
  rw [quotedEntry, Entries.chars, Layout.chars]
  simp only [quotedLine, String.toList_append, List.append_assoc, List.cons_append,
    List.replicate_zero, List.nil_append, quotedText, Written.word]
  rw [← h]
  rfl

/-- A line that may be missing is an entry that may be missing. -/
theorem optionalLine_chars (key : String) (value : Option String) {more : Entries} {r t : List Char}
    (h : '\n' :: r = more.chars 0 ++ t) :
    '\n' :: ((optionalLine key value).toList ++ r) = (optionalEntry key value more).chars 0 ++ t := by
  cases value with
  | none => exact h
  | some v => exact quotedLine_chars key v h

/-- The line of the revision is an entry. -/
theorem revisionLine_chars (revision : Nat) {more : Entries} {r t : List Char}
    (h : '\n' :: r = more.chars 0 ++ t) :
    '\n' :: ("revision: ".toList ++ ((toString revision).toList ++ '\n' :: r)) =
      (Entries.cons (.word "revision") (.scalar (.digits revision)) 0 more).chars 0 ++ t := by
  rw [Entries.chars, Layout.chars]
  simp only [List.append_assoc, List.cons_append, List.replicate_zero, List.nil_append,
    Written.digits, Written.word, Nat.toString_eq_repr, Nat.toList_repr]
  rw [← h]
  rfl

/-- **The text of the store is a laid out document.** -/
theorem print_eq (dt : DataTemplate) (revision : Nat) (hash : String)
    (openHash modifyHash : Option String) (clock : Int) :
    (print dt revision hash openHash modifyHash clock).toList =
      (Portable.entries dt 1 (bookkeeping revision hash openHash modifyHash clock)).document [] := by
  have hlast := quotedLine_chars "updated" (toString clock) (Portable.nil_chars 0 [])
  have hmodify := optionalLine_chars "dt_mpassword" modifyHash hlast
  have hopen := optionalLine_chars "dt_password" openHash hmodify
  have hhash := quotedLine_chars "dt_hash" hash hopen
  have hrevision := revisionLine_chars revision hhash
  have hbody := Portable.body_chars dt 1 hrevision
  rw [Entries.document, List.nil_append, bookkeeping, ← hbody]
  simp only [print, hashedPart, revisionLine, String.toList_append, String.toList_ofList,
    List.append_assoc, List.append_nil]
  rfl

/-! ## It reads as it is said to -/

/-- A text in quotes reads as itself. -/
theorem quotedEntry_fits {key value : String} (hne : key.toList ≠ [])
    (hkey : ∀ x ∈ key.toList, IsNameChar x)
    (hvalue : ∀ x ∈ value.toList, IsNameChar x ∨ x = '-') {more : Entries} (hmore : more.Fits 0) :
    (quotedEntry key value more).Fits 0 := by
  rw [quotedEntry, Entries.Fits, Layout.Fits]
  have hspelled : ∀ x ∈ value.toList, x ≠ ' ' → IsSpelled true [x] x := by
    intro x hx _
    rcases hvalue x hx with hname | rfl
    · exact hname.isSpelled true
    · exact isSpelled_self rfl (by decide) fun _ => by decide
  have hquoted := isValue_doubleQuoted (show (fun c : Char => [c]) ' ' = [' '] from rfl) hspelled 0
  rw [List.flatMap_singleton'] at hquoted
  exact ⟨isKey_name hne hkey 0, hquoted, hmore⟩

/-- A hash that may be missing reads as itself. -/
theorem optionalEntry_fits {key : String} {value : Option String} (hne : key.toList ≠ [])
    (hkey : ∀ x ∈ key.toList, IsNameChar x) (hvalue : ∀ v ∈ value, IsHashText v) {more : Entries}
    (hmore : more.Fits 0) : (optionalEntry key value more).Fits 0 := by
  cases value with
  | none => exact hmore
  | some v => exact quotedEntry_fits hne hkey (fun x hx => .inl ((hvalue v rfl).2 x hx)) hmore

/-- A signed number is made of digits and a sign. -/
theorem toString_int_chars (i : Int) : ∀ x ∈ (toString i).toList, IsNameChar x ∨ x = '-' := by
  have hdigits (n : Nat) : ∀ x ∈ (toString n).toList, IsNameChar x := by
    intro x hx
    rw [Nat.toString_eq_repr, Nat.toList_repr] at hx
    left
    rw [Char.isAlphanum, Decimal.isDigit_of_mem_digits hx, Bool.or_true]
  intro x hx
  cases i with
  | ofNat n => exact .inl (hdigits n x hx)
  | negSucc n =>
    have hsign : (toString (Int.negSucc n)).toList = '-' :: (toString (n + 1)).toList := by
      show ("-" ++ toString (n + 1)).toList = _
      rw [String.toList_append]
      rfl
    rw [hsign, List.mem_cons] at hx
    rcases hx with rfl | hx
    · exact .inr rfl
    · exact .inl (hdigits _ x hx)

/-- **A stored document reads as it is said to.** -/
theorem bookkeeping_fits (revision : Nat) (clock : Int) (hhash : IsHashText hash)
    (hopen : ∀ h ∈ openHash, IsHashText h) (hmodify : ∀ h ∈ modifyHash, IsHashText h) :
    (bookkeeping revision hash openHash modifyHash clock).Fits 0 := by
  have hlast : (quotedEntry "updated" (toString clock) .nil).Fits 0 :=
    quotedEntry_fits (by decide) (by decide) (toString_int_chars clock)
      (by rw [Entries.Fits]; trivial)
  rw [bookkeeping, Entries.Fits, Layout.Fits]
  refine ⟨isKey_name (by decide) (by decide) 0, isValue_digits 0 revision, ?_⟩
  refine quotedEntry_fits (by decide) (by decide) (fun x hx => .inl (hhash.2 x hx)) ?_
  exact optionalEntry_fits (by decide) (by decide) hopen
    (optionalEntry_fits (by decide) (by decide) hmodify hlast)

/-! ## What the store adds can be read -/

/-- A line with a text in quotes is admissible if the text is. -/
theorem all_isAdmissible_quotedLine {key value : String}
    (hkey : key.toList.all isAdmissible = true)
    (hvalue : ∀ x ∈ value.toList, IsNameChar x ∨ x = '-') :
    (quotedLine key value).toList.all isAdmissible = true := by
  have hall : value.toList.all isAdmissible = true := by
    rw [List.all_eq_true]
    intro x hx
    rcases hvalue x hx with h | rfl
    · exact h.isAdmissible
    · decide
  have hopen : (": \"".toList).all isAdmissible = true := by decide
  have hclose : ("\"\n".toList).all isAdmissible = true := by decide
  simp only [quotedLine, String.toList_append, List.all_append, hkey, hall, hopen, hclose,
    Bool.and_self]

/-- A number has only admissible characters. -/
theorem all_isAdmissible_toString (n : Nat) : (toString n).toList.all isAdmissible = true := by
  rw [List.all_eq_true, Nat.toString_eq_repr, Nat.toList_repr]
  intro x hx
  have hname : IsNameChar x := by
    left
    rw [Char.isAlphanum, Decimal.isDigit_of_mem_digits hx, Bool.or_true]
  exact hname.isAdmissible

/-- **The store adds only admissible characters.** -/
theorem all_isAdmissible_print (hhash : IsHashText hash) (hopen : ∀ h ∈ openHash, IsHashText h)
    (hmodify : ∀ h ∈ modifyHash, IsHashText h) :
    (print dt revision hash openHash modifyHash clock).toList.all isAdmissible =
      (Portable.body .plain dt).all isAdmissible := by
  have hrevision := all_isAdmissible_toString revision
  have hstart : ("\nrevision: ".toList).all isAdmissible = true := by decide
  have hend : ("\n".toList).all isAdmissible = true := by decide
  have hline {key value : String} (hkey : key.toList.all isAdmissible = true)
      (hvalue : IsHashText value) : (quotedLine key value).toList.all isAdmissible = true :=
    all_isAdmissible_quotedLine hkey fun x hx => .inl (hvalue.2 x hx)
  have hhashLine : (quotedLine "dt_hash" hash).toList.all isAdmissible = true :=
    hline (by decide) hhash
  have hclock : (quotedLine "updated" (toString clock)).toList.all isAdmissible = true :=
    all_isAdmissible_quotedLine (by decide) (toString_int_chars clock)
  have hopenLine : ∀ h ∈ openHash, (quotedLine "dt_password" h).toList.all isAdmissible = true :=
    fun h hh => hline (by decide) (hopen h hh)
  have hmodifyLine :
      ∀ h ∈ modifyHash, (quotedLine "dt_mpassword" h).toList.all isAdmissible = true :=
    fun h hh => hline (by decide) (hmodify h hh)
  cases openHash <;> cases modifyHash <;>
    simp_all [print, hashedPart, revisionLine, optionalLine, -List.all_eq_true]

/-- The store adds only short keys. -/
theorem bookkeeping_short (revision : Nat) (hash : String) (openHash modifyHash : Option String)
    (clock : Int) : (bookkeeping revision hash openHash modifyHash clock).Short := by
  have hquoted {key : String} (hkey : key.toList.length ≤ 1024) (value : String) {more : Entries}
      (hmore : more.Short) : (quotedEntry key value more).Short := by
    rw [quotedEntry, Entries.short_cons, Layout.Short]
    exact ⟨hkey, trivial, hmore⟩
  have hoptional {key : String} (hkey : key.toList.length ≤ 1024) (value : Option String)
      {more : Entries} (hmore : more.Short) : (optionalEntry key value more).Short := by
    cases value with
    | none => exact hmore
    | some v => exact hquoted hkey v hmore
  rw [bookkeeping, Entries.short_cons, Layout.Short]
  refine ⟨by decide, trivial, hquoted (by decide) hash ?_⟩
  refine hoptional (by decide) openHash (hoptional (by decide) modifyHash ?_)
  exact hquoted (by decide) _ (by rw [Entries.Short]; trivial)

/-! ## Reading it back -/

/-- The text of the store is a document if and only if the document in it can be read back. -/
theorem parse_document_iff (hdt : dt.registry.WellFormed) (hhash : IsHashText hash)
    (hopen : ∀ h ∈ openHash, IsHashText h) (hmodify : ∀ h ∈ modifyHash, IsHashText h)
    (revision : Nat) (clock : Int) (d : Document) :
    Document.parse (print dt revision hash openHash modifyHash clock).toList = .ok d ↔
      Portable.IsReadable dt ∧ d = (Layout.block 0
        (Portable.entries dt 1 (bookkeeping revision hash openHash modifyHash clock))).toDocument := by
  have hfits := Portable.entries_fits hdt 1 (bookkeeping_fits revision clock hhash hopen hmodify)
  have hdocument := Entries.parse_document (.inl rfl) (Entries.noConfusion) hfits d
  have hshort := Portable.entries_short dt 1 (bookkeeping revision hash openHash modifyHash clock)
  have hreadable : (Portable.body .plain dt).all isAdmissible = true ∧
      (Portable.templateEntries dt 0).Short ↔ Portable.IsReadable dt :=
    ⟨fun h => ⟨h.1, h.2⟩, fun h => ⟨h.1, h.2⟩⟩
  -- The bookkeeping itself can always be read, so all depends on the document.
  rw [← print_eq, all_isAdmissible_print hhash hopen hmodify, hshort,
    and_iff_left (bookkeeping_short revision hash openHash modifyHash clock), hreadable] at hdocument
  exact hdocument

/-- An optional text in quotes is there. -/
theorem optional_quotedText (d : Document) (v : String) :
    d.optional d.text (Layout.scalar (quotedText v)).node = .ok (some v) := by
  rw [Layout.node, d.optional_text (show ScalarStyle.doubleQuoted ≠ .plain by decide), quotedText,
    String.ofList_toList]

/-- Its value is the text. -/
theorem optional_value_quotedText (d : Document) (v : String) :
    d.optional (d.value .free 1) (Layout.scalar (quotedText v)).node =
      .ok (some (.text v.toList)) := by
  rw [Layout.node]
  show some <$> d.value .free 1 (quotedText v).node = _
  rw [d.value_node]
  rfl

/-- **What a reader takes from the document** that the text of the store is. -/
theorem parse_of_document (hdt : dt.registry.WellFormed) (hhash : IsHashText hash) {d : Document}
    (hd : Document.parse (print dt revision hash openHash modifyHash clock).toList = .ok d)
    (hroot : d.entries d.root = .ok
      (Portable.entries dt 1 (bookkeeping revision hash openHash modifyHash clock)).fields) :
    parse (print dt revision hash openHash modifyHash clock) =
      if revision < Nat.pow 2 64 then
        .ok ⟨dt.reloaded, hash, some revision, instantOf? (.text (toString clock).toList),
          openHash.isSome || modifyHash.isSome⟩
      else .error (.malformed .unreadable) := by
  have htemplate := Portable.read_templateEntries d hdt 1
  have hrevision : d.optional d.natural64 (Layout.scalar (.digits revision)).node =
      if revision < Nat.pow 2 64 then .ok (some revision) else .error .shape := by
    rw [Layout.node]
    exact d.optional_digits revision
  have hfilter : (some hash).filter (!·.isEmpty) = some hash := by
    simp [Option.filter, ← String.toList_eq_nil_iff, hhash.1]
  unfold parse
  rw [hd]
  simp only [bind, Except.bind, hroot]
  -- The entries that may be missing are looked up case by case; the revision decides last.
  cases openHash <;> cases modifyHash <;>
    simp only [Portable.entries, bookkeeping, quotedEntry, optionalEntry, Entries.fields, field,
      field?, Document.optionalField, Written.word, String.ofList_toList, List.filter, bind,
      Except.bind, htemplate, optional_quotedText, hrevision, optional_value_quotedText,
      String.reduceBEq]
  all_goals
    by_cases hlimit : revision < Nat.pow 2 64
    · rw [if_pos hlimit, if_pos hlimit]
      simp only [Portable.ofYaml, pure, Except.pure, hfilter, Portable.toTemplate_writtenFields hdt]
      rfl
    · rw [if_neg hlimit, if_neg hlimit]
      rfl

/-- **What a reader takes from a stored document**: the document without the white space at the ends
of its texts, and the store's own revision and hash. There is nothing to read where the document
cannot be read back, or the revision has more than 64 bits. -/
theorem parse_print (hdt : dt.registry.WellFormed) (hhash : IsHashText hash)
    (hopen : ∀ h ∈ openHash, IsHashText h) (hmodify : ∀ h ∈ modifyHash, IsHashText h)
    (x : RemoteDocument) :
    parse (print dt revision hash openHash modifyHash clock) = .ok x ↔
      (Portable.IsReadable dt ∧ revision < Nat.pow 2 64) ∧
        x = ⟨dt.reloaded, hash, some revision, instantOf? (.text (toString clock).toList),
          openHash.isSome || modifyHash.isSome⟩ := by
  have hdocument := parse_document_iff hdt hhash hopen hmodify revision clock
  constructor
  · intro h
    cases hd : Document.parse (print dt revision hash openHash modifyHash clock).toList with
    | error e =>
      unfold parse at h
      rw [hd] at h
      cases h
    | ok d =>
      obtain ⟨hreadable, hblock⟩ := (hdocument d).1 hd
      rw [parse_of_document hdt hhash hd (by rw [hblock]; exact Document.entries_node _ 0 _)] at h
      split at h
      · next hlimit => exact ⟨⟨hreadable, hlimit⟩, (Except.ok.inj h).symm⟩
      · cases h
  · rintro ⟨⟨hreadable, hlimit⟩, rfl⟩
    have hd := (hdocument _).2 ⟨hreadable, rfl⟩
    rw [parse_of_document hdt hhash hd (Document.entries_node _ 0 _), if_pos hlimit]

/-- **A stored document that is read is well-formed.** -/
theorem wellFormed_of_parse {text : String} {x : RemoteDocument} (h : parse text = .ok x) :
    x.template.registry.WellFormed := by
  obtain ⟨⟨fields, hash, revision, updated, openHash, modifyHash⟩, -, h⟩ := Except.bind_eq_ok.1 h
  dsimp only at h
  split at h
  · cases h
  · obtain ⟨template, htemplate, h⟩ := Except.bind_eq_ok.1 h
    obtain rfl := Except.ok.inj h
    exact Portable.wellFormed_of_toTemplate htemplate

end RemoteDocument

end TemplateShare
