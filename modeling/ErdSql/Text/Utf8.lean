import ErdSql.Text.Quoted

/-!
# UTF-8

Decoding a sequence of bytes as UTF-8.  A sequence that is no UTF-8 is refused with the bytes
at fault: the longest beginning of a character that can still be completed, or the one byte
that begins no character.
-/

namespace ErdSql
namespace Text

/-- Why a sequence of bytes is no UTF-8. -/
inductive Utf8Reason where
  /-- No character begins with the byte. -/
  | invalidStart
  /-- A character begins, and the next byte does not continue it. -/
  | invalidContinuation
  /-- A character begins, and the bytes end before it does. -/
  | unexpectedEnd
deriving DecidableEq, Repr

/-- The first place at which a sequence of bytes is no UTF-8. -/
structure Utf8Fault where
  position : Nat
  first : UInt8
  length : Nat
  reason : Utf8Reason
deriving DecidableEq, Repr

def Utf8Reason.text : Utf8Reason → String
  | .invalidStart => "invalid start byte"
  | .invalidContinuation => "invalid continuation byte"
  | .unexpectedEnd => "unexpected end of data"

/-- The fault in words; a single byte is shown, several are given by their positions. -/
def Utf8Fault.message (fault : Utf8Fault) : String :=
  let place :=
    if fault.length = 1 then
      "byte 0x" ++ hex 2 fault.first.toNat ++ " in position " ++ toString fault.position
    else
      "bytes in position " ++ toString fault.position ++ "-" ++
        toString (fault.position + fault.length - 1)
  "'utf-8' codec can't decode " ++ place ++ ": " ++ fault.reason.text

/-- What the first byte of a character outside ASCII announces: how many bytes follow, the
payload of the first byte, and the bounds of the second byte. -/
structure Utf8Lead where
  follow : Nat
  payload : Nat
  low : Nat
  high : Nat

def Utf8Lead.ofByte? (b : Nat) : Option Utf8Lead :=
  if 0xC2 ≤ b ∧ b ≤ 0xDF then some ⟨1, b - 0xC0, 0x80, 0xBF⟩
  else if b = 0xE0 then some ⟨2, 0, 0xA0, 0xBF⟩
  else if b = 0xED then some ⟨2, b - 0xE0, 0x80, 0x9F⟩
  else if 0xE1 ≤ b ∧ b ≤ 0xEF then some ⟨2, b - 0xE0, 0x80, 0xBF⟩
  else if b = 0xF0 then some ⟨3, 0, 0x90, 0xBF⟩
  else if 0xF1 ≤ b ∧ b ≤ 0xF3 then some ⟨3, b - 0xF0, 0x80, 0xBF⟩
  else if b = 0xF4 then some ⟨3, 4, 0x80, 0x8F⟩
  else none

/-- The bytes that continue a character, at most `follow` of them. -/
def continuation : Nat → Nat → Nat → List UInt8 → List Nat
  | 0, _, _, _ => []
  | _ + 1, _, _, [] => []
  | follow + 1, low, high, b :: bs =>
      if low ≤ b.toNat ∧ b.toNat ≤ high then
        b.toNat :: continuation follow 0x80 0xBF bs
      else
        []

/-- Decodes the bytes from the given position on; `done` holds the characters so far, the last
one first. -/
def decodeUtf8From (position : Nat) (done : List Char) (bytes : List UInt8) :
    Except Utf8Fault String :=
  match bytes with
  | [] => .ok (String.ofList done.reverse)
  | b :: bs =>
      if b.toNat < 0x80 then
        decodeUtf8From (position + 1) (Char.ofNat b.toNat :: done) bs
      else
        match Utf8Lead.ofByte? b.toNat with
        | none => .error ⟨position, b, 1, .invalidStart⟩
        | some lead =>
            let tail := continuation lead.follow lead.low lead.high bs
            if tail.length = lead.follow then
              let n := tail.foldl (fun acc t => acc * 64 + (t - 0x80)) lead.payload
              decodeUtf8From (position + 1 + lead.follow) (Char.ofNat n :: done)
                (bs.drop lead.follow)
            else if tail.length = bs.length then
              .error ⟨position, b, 1 + tail.length, .unexpectedEnd⟩
            else
              .error ⟨position, b, 1 + tail.length, .invalidContinuation⟩
termination_by bytes.length
decreasing_by all_goals (simp only [List.length_cons, List.length_drop]; omega)

def decodeUtf8 (bytes : List UInt8) : Except Utf8Fault String :=
  decodeUtf8From 0 [] bytes

end Text
end ErdSql
