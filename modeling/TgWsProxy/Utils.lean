import TgWsProxy.Bytes

/-!
# Protocol constants

The constants of `proxy/utils.py` and `utils.rs`, which agree.
-/

namespace TgWsProxy

def zero64 : Bytes := List.replicate 64 0
def handshakeLen : Nat := 64
def skipLen : Nat := 8
def prekeyLen : Nat := 32
def keyLen : Nat := 32
def ivLen : Nat := 16
def protoTagPos : Nat := 56
def dcIdxPos : Nat := 60

def protoTagAbridged : Bytes := [0xef, 0xef, 0xef, 0xef]
def protoTagIntermediate : Bytes := [0xee, 0xee, 0xee, 0xee]
def protoTagSecure : Bytes := [0xdd, 0xdd, 0xdd, 0xdd]

def protoAbridgedInt : Nat := 0xEFEFEFEF
def protoIntermediateInt : Nat := 0xEEEEEEEE
def protoPaddedIntermediateInt : Nat := 0xDDDDDDDD

def reservedFirstBytes : List UInt8 := [0xEF]

def reservedStarts : List Bytes :=
  [[0x48, 0x45, 0x41, 0x44], [0x50, 0x4F, 0x53, 0x54],
    [0x47, 0x45, 0x54, 0x20], [0xee, 0xee, 0xee, 0xee],
    [0xdd, 0xdd, 0xdd, 0xdd], [0x16, 0x03, 0x01, 0x02]]

def reservedContinue : Bytes := [0x00, 0x00, 0x00, 0x00]

/-- `DC_DEFAULT_IPS`. -/
def dcDefaultIps : List (Int × String) :=
  [(1, "149.154.175.50"), (2, "149.154.167.51"), (3, "149.154.175.100"),
    (4, "149.154.167.91"), (5, "149.154.171.5"), (203, "91.105.192.100")]

/-- No address makes the path of a WebSocket of Telegram that of a CF proxy. -/
theorem slash_dst_ne {dc : Nat} {dst : String}
    (found : dcDefaultIps.lookup (dc : Int) = some dst) :
    "/" ++ dst ≠ "/apiws" := by
  have member : dst ∈ dcDefaultIps.map Prod.snd := by
    obtain ⟨before, after, split, -⟩ := List.lookup_eq_some_iff.mp found
    rw [split]
    simp
  have apart : ∀ dst ∈ dcDefaultIps.map Prod.snd, "/" ++ dst ≠ "/apiws" := by
    decide
  exact apart dst member

def wsDomains (dc : Int) (isMedia : Bool) : List String :=
  let dc := if dc = 203 then 2 else dc
  let plain := "kws" ++ toString dc ++ ".web.telegram.org"
  let media := "kws" ++ toString dc ++ "-1.web.telegram.org"
  if isMedia then [media, plain] else [plain, media]

/-- The three `continue` tests on a random draw, made in this order by both
`_generate_relay_init` and `generate_relay_init`. -/
def reservedDraw (rnd : Bytes) : Bool :=
  reservedFirstBytes.contains (rnd.headD 0) ||
    reservedStarts.contains (rnd.take 4) ||
    slice rnd 4 8 == reservedContinue

private theorem reservedDraw_take (rnd : Bytes) :
    reservedDraw (rnd.take 8) = reservedDraw rnd := by
  have first : (rnd.take 8).headD 0 = rnd.headD 0 := by
    cases rnd <;> rfl
  have start : (rnd.take 8).take 4 = rnd.take 4 := by
    simp [List.take_take]
  have continuation : slice (rnd.take 8) 4 8 = slice rnd 4 8 := by
    simp [slice, List.take_take]
  rw [reservedDraw, first, start, continuation, reservedDraw]

/-- The tests read only the first eight bytes. -/
theorem reservedDraw_congr {left right : Bytes}
    (same : left.take 8 = right.take 8) :
    reservedDraw left = reservedDraw right := by
  rw [← reservedDraw_take left, same, reservedDraw_take]

/-- The rejection loop of both generators, run on a list of random draws:
`none` while every draw so far was rejected. -/
def drawUnreserved : List Bytes → Option Bytes
  | [] => none
  | rnd :: draws => if reservedDraw rnd then drawUnreserved draws else some rnd

theorem drawUnreserved_spec {draws : List Bytes} {rnd : Bytes}
    (drawn : drawUnreserved draws = some rnd) :
    rnd ∈ draws ∧ reservedDraw rnd = false := by
  induction draws with
  | nil => simp [drawUnreserved] at drawn
  | cons first draws induction =>
      cases rejected : reservedDraw first with
      | true =>
          simp only [drawUnreserved, rejected, if_true] at drawn
          obtain ⟨member, accepted⟩ := induction drawn
          exact ⟨List.mem_cons_of_mem _ member, accepted⟩
      | false =>
          simp only [drawUnreserved, rejected, Bool.false_eq_true, if_false,
            Option.some.injEq] at drawn
          subst drawn
          exact ⟨List.mem_cons_self, rejected⟩

/-- The loop ends at the first draw which is not rejected. -/
theorem drawUnreserved_of_mem {draws : List Bytes}
    (someAccepted : ∃ rnd ∈ draws, reservedDraw rnd = false) :
    ∃ rnd, drawUnreserved draws = some rnd := by
  induction draws with
  | nil => simp at someAccepted
  | cons first draws induction =>
      cases rejected : reservedDraw first with
      | true =>
          obtain ⟨rnd, member, accepted⟩ := someAccepted
          rcases List.mem_cons.mp member with rfl | later
          · simp [rejected] at accepted
          · obtain ⟨found, drawn⟩ := induction ⟨rnd, later, accepted⟩
            exact ⟨found, by simp [drawUnreserved, rejected, drawn]⟩
      | false => exact ⟨first, by simp [drawUnreserved, rejected]⟩

/-- The protocol integer chosen by `_handle_client` and `handle_client`. -/
def protoIntOfTag (protoTag : Bytes) : Nat :=
  if protoTag = protoTagAbridged then protoAbridgedInt
  else if protoTag = protoTagIntermediate then protoIntermediateInt
  else protoPaddedIntermediateInt

end TgWsProxy
