import Daft.Protocol.Wire
import Mathlib.Data.List.Chain

/-!
# The host client

`DaftClient` numbers the requests of one session, starting at 1; the next
session starts at 1 again. What a session puts on the wire depends only on the
calls made, so a sequence of sessions is a sequence of packets.
-/

namespace Daft.Host

/-- The sequence counter of a `DaftClient`. -/
structure DaftClient where
  nextSeq : Nat := 1
  deriving DecidableEq

/-- `_seq`. -/
def DaftClient.seq (c : DaftClient) : Nat × DaftClient :=
  let next := (c.nextSeq + 1) &&& 0xFFFF
  (c.nextSeq, { nextSeq := if next = 0 then 1 else next })

/-- One call of `request` or `ping` that `encode_packet` does not reject. -/
structure Request where
  msg : UInt8
  payload : List UInt8 := []
  fits : payload.length ≤ maxPayloadSize

/-- The packet that `write_packet` sends, as it arrives. -/
def Request.packet (call : Request) (seq : Nat) : Packet :=
  { msgId := call.msg, seq := UInt16.ofNat seq, payloadLen := call.payload.length.toUInt16,
    payload := Payload.ofBytes call.payload }

/-- The packets of a session from the client state `c` on. -/
def DaftClient.issue : DaftClient → List Request → List Packet
  | _, [] => []
  | c, call :: calls => call.packet c.seq.1 :: c.seq.2.issue calls

/-- The packets of sessions each constructed afresh, as `with_client` does. -/
def packets (sessions : List (List Request)) : List Packet :=
  (sessions.map (DaftClient.issue {})).flatten

/-! ## Numbering -/

/-- The number of the `k`-th request of a session, counted from 0. -/
def seqAt (k : Nat) : Nat := k % 65535 + 1

/-- The client after `k` requests. -/
def DaftClient.after (k : Nat) : DaftClient := { nextSeq := seqAt k }

/-- The number a client gives after `k` requests. -/
@[simp] theorem DaftClient.seq_after (k : Nat) : (after k).seq = (seqAt k, after (k + 1)) := by
  have low : (seqAt k + 1) &&& 0xFFFF = (seqAt k + 1) % 2 ^ 16 :=
    Nat.and_two_pow_sub_one_eq_mod (seqAt k + 1) 16
  simp only [seq, after, low, Prod.mk.injEq, true_and, DaftClient.mk.injEq]
  by_cases wraps : (seqAt k + 1) % 2 ^ 16 = 0
  · rw [if_pos wraps]
    simp only [seqAt] at wraps ⊢
    omega
  · rw [if_neg wraps]
    simp only [seqAt] at wraps ⊢
    omega

/-- The requests of a client are numbered in a row. -/
theorem DaftClient.issue_after (k : Nat) (calls : List Request) :
    (after k).issue calls = calls.mapIdx fun i call => call.packet (seqAt (k + i)) := by
  induction calls generalizing k with
  | nil => rfl
  | cons call calls ih =>
    have shifted : ∀ i, k + 1 + i = k + (i + 1) := by omega
    simp only [issue, seq_after, List.mapIdx_cons, ih, shifted, Nat.add_zero]

/-- A fresh client numbers from 1 on. -/
theorem DaftClient.issue_eq (calls : List Request) :
    issue {} calls = calls.mapIdx fun i call => call.packet (seqAt i) := by
  have fresh : ({} : DaftClient) = after 0 := rfl
  rw [fresh, issue_after]
  simp

/-- Every number fits its field. -/
theorem toNat_seqAt (k : Nat) : (UInt16.ofNat (seqAt k)).toNat = seqAt k := by
  rw [UInt16.toNat_ofNat', seqAt]
  omega

/-- Numbers come again after 65535 requests, and not before. -/
theorem seqAt_injective_mod {k l : Nat} (same : UInt16.ofNat (seqAt k) = UInt16.ofNat (seqAt l)) :
    k % 65535 = l % 65535 := by
  have sameNat := congrArg UInt16.toNat same
  simp only [UInt16.toNat_ofNat', seqAt] at sameNat
  omega

end Daft.Host
