import TgWsProxy.Utils
import TgWsProxy.Lib.Framing

/-!
# MTProto transport packets

The three transports which a client may choose delimit their own packets.  The
abridged transport has a header of one byte, or of four if the first is 0x7F or
0xFF, which counts words of four bytes; the intermediate transports have a
four-byte length whose top bit is a flag.  A length of zero ends the framing.

This is the format itself, against which both splitters are compared.
-/

namespace TgWsProxy

open Lib

/-- Length of a packet with the given header and payload lengths. -/
def packetLenOf (headerLen payloadLen : Nat) : Nat :=
  if payloadLen = 0 then 0 else headerLen + payloadLen

theorem header_le_packetLenOf {headerLen payloadLen : Nat}
    (positive : packetLenOf headerLen payloadLen ≠ 0) :
    headerLen < packetLenOf headerLen payloadLen := by
  unfold packetLenOf at positive ⊢
  split <;> simp_all
  omega

theorem packetLenOf_eq_zero {headerLen payloadLen : Nat} :
    packetLenOf headerLen payloadLen = 0 ↔ payloadLen = 0 := by
  unfold packetLenOf
  split
  · simp_all
  · omega

def extendedMark (first : UInt8) : Prop := first = 0x7F ∨ first = 0xFF

instance (first : UInt8) : Decidable (extendedMark first) :=
  inferInstanceAs (Decidable (first = 0x7F ∨ first = 0xFF))

def abridgedLen : Bytes → Option Nat
  | [] => none
  | first :: rest =>
      if extendedMark first then
        match rest with
        | low :: middle :: high :: _ =>
            some (packetLenOf 4 (leNat [low, middle, high] * 4))
        | _ => none
      else some (packetLenOf 1 ((first &&& 0x7F).toNat * 4))

def intermediateLen : Bytes → Option Nat
  | b0 :: b1 :: b2 :: b3 :: _ =>
      some (packetLenOf 4 (leNat [b0, b1, b2, b3] % 2 ^ 31))
  | _ => none

/-- Nothing can be framed for a protocol which is not known. -/
def unknownLen : Bytes → Option Nat
  | [] => none
  | _ :: _ => some 0

theorem abridgedLen_append {seen : Bytes} {len : Nat} (later : Bytes)
    (announced : abridgedLen seen = some len) :
    abridgedLen (seen ++ later) = some len := by
  match seen with
  | [] => simp [abridgedLen] at announced
  | first :: rest =>
      by_cases extended : extendedMark first
      · match rest with
        | low :: middle :: high :: rest =>
            simpa [abridgedLen, extended] using announced
        | [] | [_] | [_, _] => simp [abridgedLen, extended] at announced
      · simpa [abridgedLen, extended] using announced

theorem abridgedLen_inside {seen : Bytes} {len : Nat} (later : Bytes)
    (unknown : abridgedLen seen = none)
    (announced : abridgedLen (seen ++ later) = some len) (positive : len ≠ 0) :
    seen.length < len := by
  match seen with
  | [] =>
      simp only [List.length_nil]
      omega
  | first :: rest =>
      by_cases extended : extendedMark first
      · have short : rest.length < 3 := by
          match rest with
          | low :: middle :: high :: rest =>
              simp [abridgedLen, extended] at unknown
          | [] | [_] | [_, _] => simp
        have long : 4 < len := by
          match tail : rest ++ later with
          | low :: middle :: high :: _ =>
              simp only [List.cons_append, abridgedLen, extended, if_true,
                tail, Option.some.injEq] at announced
              subst announced
              exact header_le_packetLenOf positive
          | [] | [_] | [_, _] =>
              simp [abridgedLen, extended, tail] at announced
        simp only [List.length_cons]
        omega
      · simp [abridgedLen, extended] at unknown

theorem intermediateLen_append {seen : Bytes} {len : Nat} (later : Bytes)
    (announced : intermediateLen seen = some len) :
    intermediateLen (seen ++ later) = some len := by
  match seen with
  | b0 :: b1 :: b2 :: b3 :: rest => simpa [intermediateLen] using announced
  | [] | [_] | [_, _] | [_, _, _] => simp [intermediateLen] at announced

theorem intermediateLen_inside {seen : Bytes} {len : Nat} (later : Bytes)
    (unknown : intermediateLen seen = none)
    (announced : intermediateLen (seen ++ later) = some len)
    (positive : len ≠ 0) : seen.length < len := by
  have short : seen.length < 4 := by
    match seen with
    | b0 :: b1 :: b2 :: b3 :: rest => simp [intermediateLen] at unknown
    | [] | [_] | [_, _] | [_, _, _] => simp
  have long : 4 < len := by
    match whole : seen ++ later with
    | b0 :: b1 :: b2 :: b3 :: rest =>
        simp only [whole, intermediateLen, Option.some.injEq] at announced
        subst announced
        exact header_le_packetLenOf positive
    | [] | [_] | [_, _] | [_, _, _] =>
        simp [whole, intermediateLen] at announced
  omega

theorem unknownLen_append {seen : Bytes} {len : Nat} (later : Bytes)
    (announced : unknownLen seen = some len) :
    unknownLen (seen ++ later) = some len := by
  cases seen with
  | nil => simp [unknownLen] at announced
  | cons first rest => simpa [unknownLen] using announced

/-- The packet framing which belongs to a protocol integer. -/
def transportFraming (proto : Nat) : Framing UInt8 :=
  if proto = protoAbridgedInt then
    { packetLen := abridgedLen
      packetLen_nil := rfl
      stable := abridgedLen_append
      header_inside := abridgedLen_inside }
  else if proto = protoIntermediateInt ∨ proto = protoPaddedIntermediateInt then
    { packetLen := intermediateLen
      packetLen_nil := rfl
      stable := intermediateLen_append
      header_inside := intermediateLen_inside }
  else
    { packetLen := unknownLen
      packetLen_nil := rfl
      stable := unknownLen_append
      header_inside := by
        intro seen len later unknown announced positive
        cases seen with
        | nil =>
            simp only [List.length_nil]
            omega
        | cons first rest => simp [unknownLen] at unknown }

end TgWsProxy
