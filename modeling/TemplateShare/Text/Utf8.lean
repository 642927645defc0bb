/-! # UTF-8

Texts as octets and back. `Utf8.decode` reads octets and says, where they are no text, at which
octet the fault lies and how many octets belong to it. -/

namespace TemplateShare

/-- A sequence of octets. -/
abbrev Bytes := List UInt8

namespace Utf8

/-- **Why octets are no text**: the number of octets that are in order, and how many octets after
them cannot be read; none if the text breaks off within a character. -/
structure Fault where
  validUpTo : Nat
  length : Option Nat
deriving DecidableEq, Repr

/-- The wording of a fault. -/
def Fault.message (f : Fault) : String :=
  match f.length with
  | some n =>
    "invalid utf-8 sequence of " ++ toString n ++ " bytes from index " ++ toString f.validUpTo
  | none => "incomplete utf-8 byte sequence from index " ++ toString f.validUpTo

/-- The octets of a text. -/
def encode (s : String) : Bytes := s.toByteArray.data.toList

/-- Whether an octet continues a character. -/
def continues (b : UInt8) : Bool := 0x80 ≤ b && b ≤ 0xBF

/-- How many octets a first octet announces, with the bounds of the second. -/
def announced? (b : UInt8) : Option (Nat × UInt8 × UInt8) :=
  if b < 0x80 then some (1, 0, 0)
  else if 0xC2 ≤ b && b ≤ 0xDF then some (2, 0x80, 0xBF)
  else if b == 0xE0 then some (3, 0xA0, 0xBF)
  else if b == 0xED then some (3, 0x80, 0x9F)
  else if 0xE1 ≤ b && b ≤ 0xEF then some (3, 0x80, 0xBF)
  else if b == 0xF0 then some (4, 0x90, 0xBF)
  else if 0xF1 ≤ b && b ≤ 0xF3 then some (4, 0x80, 0xBF)
  else if b == 0xF4 then some (4, 0x80, 0x8F)
  else none

/-- **The first fault** of octets that start at index `i`. A character is given up at the first
octet that cannot belong to it. -/
def fault? (i : Nat) : Bytes → Option Fault
  | [] => none
  | b :: bs =>
    match announced? b with
    | none => some ⟨i, some 1⟩
    | some (1, _, _) => fault? (i + 1) bs
    | some (n, low, high) =>
      match bs with
      | [] => some ⟨i, none⟩
      | b₂ :: bs =>
        if b₂ < low || high < b₂ then some ⟨i, some 1⟩
        else if n = 2 then fault? (i + 2) bs
        else
          match bs with
          | [] => some ⟨i, none⟩
          | b₃ :: bs =>
            if !continues b₃ then some ⟨i, some 2⟩
            else if n = 3 then fault? (i + 3) bs
            else
              match bs with
              | [] => some ⟨i, none⟩
              | b₄ :: bs => if !continues b₄ then some ⟨i, some 3⟩ else fault? (i + 4) bs

/-- **Read octets as a text.** -/
def decode (b : Bytes) : Except Fault String :=
  match String.fromUTF8? ⟨b.toArray⟩ with
  | some s => .ok s
  | none => .error ((fault? 0 b).getD ⟨0, none⟩)

/-- **Read octets as a text** in which every fault becomes a replacement character; `fuel` bounds
the number of faults. -/
def decodeLossy : Nat → Bytes → List Char
  | 0, _ => []
  | fuel + 1, b =>
    match decode b, fault? 0 b with
    | .ok s, _ => s.toList
    | .error _, none => []
    | .error _, some f =>
      let before := match decode (b.take f.validUpTo) with
        | .ok s => s.toList
        | .error _ => []
      let rest := match f.length with
        | some n => decodeLossy fuel (b.drop (f.validUpTo + n))
        | none => []
      before ++ '\ufffd' :: rest

/-- Octets as a text in which every fault becomes a replacement character. -/
def decodeLenient (b : Bytes) : List Char := decodeLossy (b.length + 1) b

/-- Decoding undoes encoding. -/
@[simp] theorem decode_encode (s : String) : decode (encode s) = .ok s := by
  simp [decode, encode, String.fromUTF8?, s.isValidUTF8, String.fromUTF8]

end Utf8

end TemplateShare
