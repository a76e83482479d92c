/-
# MatterTimeCtl.Host — the SNTP measurement that the host clock is trusted by.

`sntpOffset` is one exchange with a time server, in exact arithmetic: the answers of the sockets, the random
source and the clock are the fields of an `Exchange`, and times are rational seconds since the Unix epoch.
A server's instant is a number of 2⁻³² seconds since 1900; its encoding keeps the seconds modulo
2³², so that from February 2036 on the field starts again from 0.  `sntpOffset_right_iff` compares the result with
the offset that was to be measured.
-/
import Mathlib

namespace MatterTimeCtl.Host

/-! ## Big-endian bytes -/

/-- `from_be_bytes`. -/
def fromBeBytes (bytes : List UInt8) : Nat := bytes.foldl (fun n b => n * 256 + b.toNat) 0

/-- `n`, modulo what fits, in `width` bytes. -/
def toBeBytes : Nat → Nat → List UInt8
  | 0, _ => []
  | width + 1, n => toBeBytes width (n / 256) ++ [UInt8.ofNat n]

@[simp] theorem length_toBeBytes (width n : Nat) : (toBeBytes width n).length = width := by
  induction width generalizing n with
  | zero => rfl
  | succ width ih => rw [toBeBytes, List.length_append, ih, List.length_singleton]

theorem fromBeBytes_toBeBytes {width n : Nat} (h : n < 256 ^ width) :
    fromBeBytes (toBeBytes width n) = n := by
  induction width generalizing n with
  | zero =>
      rw [pow_zero] at h
      obtain rfl : n = 0 := by omega
      rfl
  | succ width ih =>
      rw [pow_succ] at h
      have hrest : fromBeBytes (toBeBytes width (n / 256)) = n / 256 := ih (by omega)
      rw [fromBeBytes] at hrest ⊢
      rw [toBeBytes, List.foldl_append, hrest, List.foldl_cons, List.foldl_nil, UInt8.toNat_ofNat']
      omega

/-! ## The exchange -/

/-- The servers that are asked, in this order. -/
def ntpServers : List String := ["time.apple.com:123", "pool.ntp.org:123"]

/-- Accept the host clock when it is within this many seconds of NTP time. -/
def maxOffsetSeconds : ℚ := 1

/-- Seconds between the NTP era (1900) and the Unix epoch (1970). -/
def ntpUnixOffset : ℚ := 2208988800

/-- The fraction field is in units of 2⁻³² seconds. -/
def ntpFractionScale : ℚ := 2 ^ 32

/-- What the sockets, the random source and the clock answer in one exchange. -/
structure Exchange where
  bound : Bool
  timeoutSet : Bool
  connected : Bool
  nonce : Vector UInt8 8
  sentAt : ℚ
  sent : Bool
  /-- The datagram that came in time. -/
  received : Option (List UInt8)
  receivedAt : ℚ

/-- Leap indicator 0, version 4, mode 3, and the nonce for a transmit timestamp. -/
def request (nonce : Vector UInt8 8) : List UInt8 :=
  0b00100011 :: List.replicate 39 0 ++ nonce.toList

/-- The bytes of a slice. -/
def slice (bytes : List UInt8) (start stop : Nat) : List UInt8 := (bytes.drop start).take (stop - start)

/-- One SNTP client exchange: the offset of the local clock relative to the server, positive when the local
clock is ahead. -/
def sntpOffset (x : Exchange) : Option ℚ := do
  guard x.bound
  guard x.timeoutSet
  guard x.connected
  guard x.sent
  let datagram ← x.received
  -- the socket fills a buffer of 48 bytes, and what is left of the datagram is dropped
  let response := datagram.take 48
  guard (48 ≤ response.length)
  let leap := response.getD 0 0 >>> 6
  let mode := response.getD 0 0 &&& 0x07
  let stratum := response.getD 1 0
  guard (¬ (mode ≠ 4 ∨ leap = 3 ∨ ¬ (1 ≤ stratum ∧ stratum ≤ 15)))
  guard (slice response 24 32 = x.nonce.toList)
  let seconds : ℚ := fromBeBytes (slice response 40 44)
  let fraction : ℚ := fromBeBytes (slice response 44 48) / ntpFractionScale
  let serverTime := seconds + fraction - ntpUnixOffset
  guard (¬ serverTime ≤ 0)
  return (x.sentAt + x.receivedAt) / 2 - serverTime

/-- The first server with a measurement decides; without one, the host's own opinion does. -/
def clockIsNtpSynchronized (exchange : String → Exchange) (timedatectl : Bool) : Bool :=
  match ntpServers.findSome? fun server => sntpOffset (exchange server) with
  | some offset => |offset| ≤ maxOffsetSeconds
  | none => timedatectl

/-! ## What a server says -/

/-- An instant in seconds since the Unix epoch; instants are counted in 2⁻³² seconds since 1900. -/
def unixSeconds (instant : Nat) : ℚ := instant / 2 ^ 32 - 2208988800

/-- 1970-01-01T00:00:00Z. -/
def unixEpochInstant : Nat := 2208988800 * 2 ^ 32

/-- 2036-02-07T06:28:16Z, when the seconds since 1900 no longer fit 32 bits. -/
def eraEnd : Nat := 2 ^ 32 * 2 ^ 32

/-- An instant as a timestamp: seconds since 1900 modulo 2³², and the fraction. -/
def encodeInstant (instant : Nat) : List UInt8 :=
  toBeBytes 4 (instant / 2 ^ 32 % 2 ^ 32) ++ toBeBytes 4 (instant % 2 ^ 32)

/-- The datagram is a server's reply to the request with this nonce, sent at `instant`. -/
structure RepliesAt (nonce : Vector UInt8 8) (instant : Nat) (datagram : List UInt8) : Prop where
  complete : 48 ≤ datagram.length
  mode : datagram.getD 0 0 &&& 0x07 = 4
  leap : datagram.getD 0 0 >>> 6 ≠ 3
  stratum : 1 ≤ datagram.getD 1 0 ∧ datagram.getD 1 0 ≤ 15
  /-- The transmit timestamp of the request is the originate timestamp of the reply. -/
  originate : slice datagram 24 32 = slice (request nonce) 40 48
  transmit : slice datagram 40 48 = encodeInstant instant

/-- Every step of the exchange succeeds, and a server's reply comes in. -/
structure Exchange.Answered (x : Exchange) (instant : Nat) : Prop where
  bound : x.bound = true
  timeoutSet : x.timeoutSet = true
  connected : x.connected = true
  sent : x.sent = true
  reply : ∃ datagram, x.received = some datagram ∧ RepliesAt x.nonce instant datagram

/-! ## What is measured -/

theorem slice_request (nonce : Vector UInt8 8) : slice (request nonce) 40 48 = nonce.toList := by
  have hlength : ((0b00100011 : UInt8) :: List.replicate 39 0).length = 40 := by simp
  have hdrop : (request nonce).drop 40 = nonce.toList := List.drop_left' hlength
  rw [slice, hdrop]
  exact List.take_of_length_le (by simp)

theorem slice_take {bytes : List UInt8} {start stop n : Nat} (h : stop ≤ n) :
    slice (bytes.take n) start stop = slice bytes start stop := by
  unfold slice
  rw [List.drop_take, List.take_take, Nat.min_eq_left (by omega)]

theorem getD_take {bytes : List UInt8} {i n : Nat} (h : i < n) :
    (bytes.take n).getD i 0 = bytes.getD i 0 := by
  rw [List.getD_eq_getElem?_getD, List.getElem?_take_of_lt h, List.getD_eq_getElem?_getD]

theorem slice_slice {bytes : List UInt8} {start stop i j : Nat} (h : start + j ≤ stop) :
    slice (slice bytes start stop) i j = slice bytes (start + i) (start + j) := by
  unfold slice
  rw [List.drop_take, List.drop_drop, List.take_take]
  congr 1
  omega

/-- The two fields of the transmit timestamp. -/
theorem RepliesAt.fields {nonce : Vector UInt8 8} {instant : Nat} {datagram : List UInt8}
    (h : RepliesAt nonce instant datagram) :
    fromBeBytes (slice datagram 40 44) = instant / 2 ^ 32 % 2 ^ 32 ∧
      fromBeBytes (slice datagram 44 48) = instant % 2 ^ 32 := by
  have first : slice datagram 40 44 = slice (slice datagram 40 48) 0 4 :=
    (slice_slice (i := 0) (j := 4) (by decide)).symm
  have second : slice datagram 44 48 = slice (slice datagram 40 48) 4 8 :=
    (slice_slice (i := 4) (j := 8) (by decide)).symm
  rw [first, second, h.transmit, encodeInstant]
  constructor
  · rw [slice, List.drop_zero, List.take_left' (length_toBeBytes 4 _)]
    exact fromBeBytes_toBeBytes (by omega)
  · rw [slice, List.drop_left' (length_toBeBytes 4 _), List.take_of_length_le (by simp)]
    exact fromBeBytes_toBeBytes (by omega)

/-- The fields spell the instant, without its era. -/
theorem unixSeconds_mod (instant : Nat) :
    ((instant / 2 ^ 32 % 2 ^ 32 : Nat) : ℚ) + ((instant % 2 ^ 32 : Nat) : ℚ) / ntpFractionScale -
      ntpUnixOffset = unixSeconds (instant % eraEnd) := by
  have split : instant % eraEnd = 2 ^ 32 * (instant / 2 ^ 32 % 2 ^ 32) + instant % 2 ^ 32 := by
    unfold eraEnd
    omega
  unfold unixSeconds ntpFractionScale ntpUnixOffset
  rw [split]
  push_cast
  ring

/-- The local clock at the middle of the exchange. -/
def Exchange.midpoint (x : Exchange) : ℚ := (x.sentAt + x.receivedAt) / 2

/-- **What is measured**: the offset to the instant without its era, unless that lies at or before 1970. -/
theorem sntpOffset_eq {x : Exchange} {instant : Nat} (h : x.Answered instant) :
    sntpOffset x = if unixSeconds (instant % eraEnd) ≤ 0 then none
      else some (x.midpoint - unixSeconds (instant % eraEnd)) := by
  obtain ⟨datagram, received, reply⟩ := h.reply
  have length : (datagram.take 48).length = 48 := by
    rw [List.length_take, Nat.min_eq_left reply.complete]
  have nonce : slice datagram 24 32 = x.nonce.toList := reply.originate.trans (slice_request x.nonce)
  obtain ⟨seconds, fraction⟩ := reply.fields
  unfold sntpOffset
  simp only [h.bound, h.timeoutSet, h.connected, h.sent, received, length, le_refl, guard_true,
    Option.pure_def, Option.bind_eq_bind, Option.bind_some, getD_take (i := 0) (n := 48) (by omega),
    getD_take (i := 1) (n := 48) (by omega), reply.mode, reply.leap, reply.stratum, ne_eq,
    not_true_eq_false, and_self, or_self, not_false_eq_true,
    slice_take (n := 48) (show 32 ≤ 48 by omega), slice_take (n := 48) (show 44 ≤ 48 by omega),
    slice_take (n := 48) (le_refl 48), nonce, seconds, fraction, unixSeconds_mod]
  split
  · rename_i early
    rw [guard, if_neg (not_not.mpr early)]
    rfl
  · rename_i late
    rw [guard, if_pos late]
    rfl

theorem unixSeconds_le_zero {instant : Nat} : unixSeconds instant ≤ 0 ↔ instant ≤ unixEpochInstant := by
  unfold unixSeconds unixEpochInstant
  rw [sub_nonpos, div_le_iff₀ (by positivity)]
  exact_mod_cast Iff.rfl

theorem unixSeconds_injective : Function.Injective unixSeconds := by
  intro s t h
  unfold unixSeconds at h
  rw [sub_left_inj, div_left_inj' (by positivity)] at h
  exact_mod_cast h

/-- **The offset is right** exactly for instants between 1970 and the end of the first era. -/
theorem sntpOffset_right_iff {x : Exchange} {instant : Nat} (answered : x.Answered instant)
    (since1970 : unixEpochInstant ≤ instant) :
    sntpOffset x = some (x.midpoint - unixSeconds instant) ↔
      unixEpochInstant < instant ∧ instant < eraEnd := by
  rw [sntpOffset_eq answered, ite_eq_iff']
  have apart : instant % eraEnd = instant ↔ instant < eraEnd := by
    unfold eraEnd
    omega
  by_cases early : unixSeconds (instant % eraEnd) ≤ 0
  · have small := unixSeconds_le_zero.mp early
    simp only [early, reduceCtorEq, true_implies, not_true_eq_false, false_implies, and_true, false_iff,
      not_and]
    unfold unixEpochInstant eraEnd at *
    omega
  · have large := mt unixSeconds_le_zero.mpr early
    simp only [early, false_implies, true_and, not_false_eq_true, true_implies, Option.some.injEq,
      sub_right_inj, unixSeconds_injective.eq_iff, apart]
    unfold unixEpochInstant eraEnd at *
    omega

/-- After the first era the gate is down to the host's own opinion, whatever the servers say, until the
wrapped seconds come to 1970 again. -/
theorem clockIsNtpSynchronized_after_era {exchange : String → Exchange} {timedatectl : Bool}
    (answered : ∀ server ∈ ntpServers, ∃ instant, (exchange server).Answered instant ∧
      eraEnd ≤ instant ∧ instant ≤ eraEnd + unixEpochInstant) :
    clockIsNtpSynchronized exchange timedatectl = timedatectl := by
  have unmeasured : ntpServers.findSome? (fun server => sntpOffset (exchange server)) = none := by
    rw [List.findSome?_eq_none_iff]
    intro server hserver
    obtain ⟨instant, hanswered, after, before⟩ := answered server hserver
    have early : unixSeconds (instant % eraEnd) ≤ 0 := by
      rw [unixSeconds_le_zero]
      unfold unixEpochInstant eraEnd at *
      omega
    rw [sntpOffset_eq hanswered, if_pos early]
  rw [clockIsNtpSynchronized, unmeasured]

/-! ## A server of stratum 1 -/

/-- The reply of a server that is its own reference. -/
def replyAt (nonce : Vector UInt8 8) (instant : Nat) : List UInt8 :=
  ([0b00100100, 1] ++ List.replicate 22 0) ++
    (nonce.toList ++ (encodeInstant instant ++ encodeInstant instant))

/-- An exchange with it, at an instant of the host's clock. -/
def exchangeAt (instant : Nat) (local_ : ℚ) : Exchange where
  bound := true
  timeoutSet := true
  connected := true
  nonce := #v[1, 2, 3, 4, 5, 6, 7, 8]
  sentAt := local_
  sent := true
  received := some (replyAt #v[1, 2, 3, 4, 5, 6, 7, 8] instant)
  receivedAt := local_

theorem length_encodeInstant (instant : Nat) : (encodeInstant instant).length = 8 := by
  simp [encodeInstant]

theorem repliesAt_replyAt (nonce : Vector UInt8 8) (instant : Nat) :
    RepliesAt nonce instant (replyAt nonce instant) where
  complete := by simp [replyAt, length_encodeInstant]
  mode := by
    show (0b00100100 : UInt8) &&& 0x07 = 4
    decide
  leap := by
    show (0b00100100 : UInt8) >>> 6 ≠ 3
    decide
  stratum := by
    show (1 : UInt8) ≤ 1 ∧ (1 : UInt8) ≤ 15
    decide
  originate := by
    have hdrop : (replyAt nonce instant).drop 24 =
        nonce.toList ++ (encodeInstant instant ++ encodeInstant instant) := List.drop_left' (by simp)
    rw [slice_request, slice, hdrop]
    exact List.take_left' (by simp)
  transmit := by
    have hdrop : (replyAt nonce instant).drop 40 = encodeInstant instant := by
      rw [replyAt, ← List.append_assoc, ← List.append_assoc]
      exact List.drop_left' (by simp [length_encodeInstant])
    rw [slice, hdrop]
    exact List.take_of_length_le (length_encodeInstant instant).le

theorem answered_exchangeAt (instant : Nat) (local_ : ℚ) :
    (exchangeAt instant local_).Answered instant :=
  ⟨rfl, rfl, rfl, rfl, _, rfl, repliesAt_replyAt _ instant⟩

/-- 2026-11-01T12:00:00Z. -/
def noonInstant : Nat := (1793534400 + 2208988800) * 2 ^ 32

theorem noon_measured_iff : sntpOffset (exchangeAt noonInstant 1793534401) =
      some ((exchangeAt noonInstant 1793534401).midpoint - unixSeconds noonInstant) ↔
    unixEpochInstant < noonInstant ∧ noonInstant < eraEnd :=
  sntpOffset_right_iff (answered_exchangeAt noonInstant 1793534401) (by decide)

/-- At the turn of the era a right host clock is not measured at all. -/
theorem era_end_not_measured : (exchangeAt eraEnd 2085978496).Answered eraEnd ∧
    unixEpochInstant ≤ eraEnd ∧
    sntpOffset (exchangeAt eraEnd 2085978496) ≠
      some ((exchangeAt eraEnd 2085978496).midpoint - unixSeconds eraEnd) := by
  have answered := answered_exchangeAt eraEnd 2085978496
  have early : unixSeconds (eraEnd % eraEnd) ≤ 0 := by
    rw [Nat.mod_self, unixSeconds_le_zero]
    exact Nat.zero_le _
  refine ⟨answered, by decide, ?_⟩
  rw [sntpOffset_eq answered, if_pos early]
  exact nofun

end MatterTimeCtl.Host
