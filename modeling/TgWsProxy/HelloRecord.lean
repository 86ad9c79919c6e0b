import TgWsProxy.ClientInit

/-!
# The record of a ClientHello

A ClientHello comes in a TLS record: a type, two version bytes, two bytes with
the length of the body, and the body.
-/

namespace TgWsProxy

open Lib

/-- The record of a TLS handshake message. -/
structure HelloRecord where
  major : UInt8
  minor : UInt8
  body : Bytes
  fits : body.length < 65536

namespace HelloRecord

def header (record : HelloRecord) : Bytes :=
  [record.major, record.minor] ++ natToBe 2 record.body.length

def encode (record : HelloRecord) : Bytes :=
  [tlsRecordHandshake] ++ record.header ++ record.body

/-- The version bytes, read as a length. -/
def versionLen (record : HelloRecord) : Nat :=
  beNat [record.major, record.minor]

theorem length_header (record : HelloRecord) : record.header.length = 4 := by
  simp [header]

theorem length_encode (record : HelloRecord) :
    record.encode.length = 5 + record.body.length := by
  simp [encode, length_header]
  omega

theorem recordLen_eq (record : HelloRecord) :
    beNat (slice ([tlsRecordHandshake] ++ record.header) 3 5) =
      record.body.length := by
  have cut : slice ([tlsRecordHandshake] ++ record.header) 3 5 =
      natToBe 2 record.body.length := by
    have whole : (natToBe 2 record.body.length).length = 2 := by simp
    simp [slice, header, List.take_of_length_le (Nat.le_of_eq whole)]
  rw [cut]
  exact beNat_natToBe record.fits

theorem rustRecordLen_eq (record : HelloRecord) :
    beNat [record.header.getD 0 0, record.header.getD 1 0] =
      record.versionLen :=
  rfl

end HelloRecord

/-- What a client sends before its first byte: nothing, or a PROXY line within
the limit of `asyncio`. -/
inductive ProxyPreamble : Bool → Bytes → Prop where
  | off : ProxyPreamble false []
  | line {line : Bytes} : 0x0A ∉ line → line.length ≤ 65536 →
      ProxyPreamble true (line ++ [0x0A])

/-- The hello was checked, with this result, while `further` was not read. -/
def Checked {Fault : Type} {world : Surroundings InitOp (InitOp.Reply Fault)}
    (unread : world.State → Bytes) (clientHello further : Bytes)
    (verdict : Option HelloVerdict) (performed : Program.Performed world) :
    Prop :=
  ∃ before, performed = ⟨before, .verifyClientHello clientHello, .ok verdict⟩ ∧
    unread before = further

/-- The first newline of a stream. -/
theorem takeWhile_newline {line : Bytes} (clean : 0x0A ∉ line) (rest : Bytes) :
    (line ++ 0x0A :: rest).takeWhile (fun byte => decide (byte ≠ 0x0A)) =
      line := by
  induction line with
  | nil => rfl
  | cons byte line induction =>
      rw [List.mem_cons, not_or] at clean
      have other : decide (byte ≠ 0x0A) = true :=
        decide_eq_true (Ne.symm clean.1)
      rw [List.cons_append, List.takeWhile_cons, if_pos other,
        induction clean.2]

end TgWsProxy
