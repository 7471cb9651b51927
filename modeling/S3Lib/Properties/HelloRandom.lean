import S3Lib.Model.Secrets

/-! # The layout of a hello random

`ssl_fill_hello_random` succeeds exactly when the buffer has room for a downgrade sentinel and
the random source succeeds. Its result is then, byte for byte, the layout of `helloRandomByte`:
the time, big-endian, in the first four bytes when the role's mode bit asks for it, random bytes
elsewhere, and the sentinel over the last eight bytes.
-/

namespace S3Lib.HelloRandom

open S3Lib

/-- The sentinel a downgrade writes over the last eight bytes. -/
def downgradeSentinel : Downgrade → Option (List UInt8)
  | .none => none
  | .to12 => some tls12downgrade
  | .to11 => some tls11downgrade

/-- The byte at offset `i` before a sentinel is written: the `(3 - i)`-th byte of the time for
`i < 4` when the time is sent, else the next byte of the random source. -/
def helloBody (sendTime : Bool) (time : Nat) (rand : RandSource) (i : Nat) : UInt8 :=
  if sendTime then
    if i < 4 then UInt8.ofNat (time / 2 ^ (8 * (3 - i))) else rand.byte (i - 4)
  else rand.byte i

/-- The byte at offset `i` of a hello random of `len` bytes. -/
def helloRandomByte (sendTime : Bool) (time : Nat) (rand : RandSource) (len : Nat)
    (dgrd : Downgrade) (i : Nat) : UInt8 :=
  match downgradeSentinel dgrd with
  | some sentinel => if len - 8 ≤ i then sentinel.getD (i - (len - 8)) 0 else helloBody sendTime time rand i
  | none => helloBody sendTime time rand i

/-- The number a byte string spells, big-endian. -/
def beValue (bytes : List UInt8) : Nat := bytes.foldl (fun acc b => acc * 256 + b.toNat) 0

private theorem getElem?_l2n (time i : Nat) (lt : i < 4) :
    (l2n time)[i]? = some (UInt8.ofNat (time / 2 ^ (8 * (3 - i)))) := by
  rcases (show i = 0 ∨ i = 1 ∨ i = 2 ∨ i = 3 by omega) with rfl | rfl | rfl | rfl <;> simp [l2n]

/-- `l2n` spells the low 32 bits of its argument. -/
private theorem beValue_l2n (time : Nat) : beValue (l2n time) = time % 2 ^ 32 := by
  simp only [beValue, l2n, List.foldl, toNat_uint8_ofNat]
  omega

private theorem getElem?_randBytes (rand : RandSource) (n i : Nat) (lt : i < n) :
    (randBytes rand n)[i]? = some (rand.byte i) := by
  simp [randBytes, lt]

private theorem length_helloFill (sendTime : Bool) (time : Nat) (rand : RandSource) (len : Nat)
    (room : 4 ≤ len) : (helloFill sendTime time rand len).length = len := by
  cases sendTime <;> simp [helloFill, l2n]
  omega

/-- Before the sentinel the buffer holds `helloBody` at every offset. -/
private theorem getElem?_helloFill (sendTime : Bool) (time : Nat) (rand : RandSource) (len i : Nat)
    (lt : i < len) : (helloFill sendTime time rand len)[i]? = some (helloBody sendTime time rand i) := by
  cases sendTime
  · simp [helloFill, helloBody, getElem?_randBytes _ _ _ lt]
  · by_cases small : i < 4
    · rw [helloFill, if_pos rfl, List.getElem?_append_left (by simpa [l2n] using small),
        getElem?_l2n _ _ small]
      simp [helloBody, small]
    · rw [helloFill, if_pos rfl, List.getElem?_append_right (by simp [l2n]; omega),
        getElem?_randBytes _ _ _ (by simp [l2n]; omega)]
      simp [helloBody, small, l2n]

/-- A sentinel written over the end of a buffer. -/
private theorem getElem?_memcpyAt_end (dst src : List UInt8) (i : Nat) (fits : src.length ≤ dst.length) :
    (memcpyAt dst (dst.length - src.length) src)[i]? =
      if dst.length - src.length ≤ i then src[i - (dst.length - src.length)]? else dst[i]? := by
  have ends : dst.length - src.length + src.length = dst.length := by omega
  rw [memcpyAt, ends, List.drop_length, List.append_nil]
  split_ifs with h
  · rw [List.getElem?_append_right (by simp; omega)]
    simp only [List.length_take]
    congr 1
    omega
  · rw [List.getElem?_append_left (by simp; omega), List.getElem?_take_of_lt (by omega)]

private theorem length_memcpyAt_end (dst src : List UInt8) (fits : src.length ≤ dst.length) :
    (memcpyAt dst (dst.length - src.length) src).length = dst.length := by
  simp [memcpyAt]
  omega

/-- The sentinel, if any, covers the last eight bytes and nothing else. -/
private theorem writeDowngrade_spec (dgrd : Downgrade) (buf : List UInt8) (len i : Nat)
    (hlen : buf.length = len) (room : 8 ≤ len) :
    (writeDowngrade dgrd buf len).length = len ∧
      (writeDowngrade dgrd buf len)[i]? = match downgradeSentinel dgrd with
        | some sentinel => if len - 8 ≤ i then sentinel[i - (len - 8)]? else buf[i]?
        | none => buf[i]? := by
  subst hlen
  cases dgrd with
  | none => simp [writeDowngrade, downgradeSentinel]
  | to12 => exact ⟨length_memcpyAt_end _ _ room, getElem?_memcpyAt_end _ _ _ room⟩
  | to11 => exact ⟨length_memcpyAt_end _ _ room, getElem?_memcpyAt_end _ _ _ room⟩

/-- Both sentinels are eight bytes long. -/
private theorem length_downgradeSentinel {dgrd : Downgrade} {sentinel : List UInt8}
    (h : downgradeSentinel dgrd = some sentinel) : sentinel.length = 8 := by
  cases dgrd <;> simp [downgradeSentinel] at h <;> subst h <;> rfl

/-- `ssl_fill_hello_random` in three cases: too short for the time, no success of the random
source or no room for a sentinel, and success. -/
private theorem sslFillHelloRandom_eq (s : Ssl) (server : Bool) (time : Nat) (rand : RandSource)
    (result : List UInt8) (dgrd : Downgrade) :
    sslFillHelloRandom s server time rand result dgrd =
      if result.length < 4 then (0, result)
      else
        let buf := helloFill (if server then s.mode.sendServerhelloTime else s.mode.sendClienthelloTime)
          time rand result.length
        if 0 < rand.ret then
          if result.length ≤ 8 then (0, buf) else (rand.ret, writeDowngrade dgrd buf result.length)
        else (rand.ret, buf) := by
  have noRoom : ((!decide (tls11downgrade.length < result.length) ||
      !decide (tls12downgrade.length < result.length)) = true) ↔ result.length ≤ 8 := by
    simp [tls11downgrade, tls12downgrade]
  simp only [sslFillHelloRandom, noRoom, gt_iff_lt]

/-- A successful fill with its sentinel holds `helloRandomByte` at every offset. -/
private theorem getElem?_filled (dgrd : Downgrade) (sendTime : Bool) (time : Nat) (rand : RandSource)
    {len i : Nat} (room : 8 ≤ len) (lt : i < len) :
    (writeDowngrade dgrd (helloFill sendTime time rand len) len)[i]? =
      some (helloRandomByte sendTime time rand len dgrd i) := by
  rw [(writeDowngrade_spec dgrd _ _ i (length_helloFill _ _ _ _ (by omega)) room).2, helloRandomByte]
  cases h : downgradeSentinel dgrd with
  | none => exact getElem?_helloFill _ _ _ _ _ lt
  | some sentinel =>
    have := length_downgradeSentinel h
    split_ifs
    · simp [List.getElem?_eq_getElem (show i - (len - 8) < sentinel.length by omega)]
    · exact getElem?_helloFill _ _ _ _ _ lt

/-- When the time is sent and no sentinel covers it, the first four bytes are `l2n` of the time. -/
private theorem take_four_filled (dgrd : Downgrade) (time : Nat) (rand : RandSource) {len : Nat}
    (room : 8 ≤ len) (uncovered : dgrd = .none ∨ 12 ≤ len) :
    (writeDowngrade dgrd (helloFill true time rand len) len).take 4 = l2n time := by
  apply List.ext_getElem?
  intro n
  rw [List.getElem?_take]
  split_ifs with small
  · rw [getElem?_filled dgrd true time rand room (by omega), getElem?_l2n _ _ small, helloRandomByte]
    cases h : downgradeSentinel dgrd with
    | none => simp [helloBody, small]
    | some sentinel =>
      have : n < len - 8 := by
        rcases uncovered with rfl | _
        · simp [downgradeSentinel] at h
        · omega
      simp [helloBody, small, show ¬len - 8 ≤ n by omega]
  · simp [l2n]
    omega

/-- `ssl_fill_hello_random` returns a positive value exactly when the buffer is longer than a
sentinel and the random source succeeds; the buffer it then leaves is the layout of
`helloRandomByte`, and when the time is sent and no sentinel covers it, its first four bytes
spell the low 32 bits of the time. -/
theorem sslFillHelloRandom_layout (s : Ssl) (server : Bool) (time : Nat) (rand : RandSource)
    (result : List UInt8) (dgrd : Downgrade) :
    let len := result.length
    let r := sslFillHelloRandom s server time rand result dgrd
    let sendTime := if server then s.mode.sendServerhelloTime else s.mode.sendClienthelloTime
    (0 < r.1 ↔ 8 < len ∧ 0 < rand.ret) ∧
      (0 < r.1 → r.2.length = len ∧
        (∀ i < len, r.2[i]? = some (helloRandomByte sendTime time rand len dgrd i)) ∧
        (sendTime = true → (dgrd = .none ∨ 12 ≤ len) → beValue (r.2.take 4) = time % 2 ^ 32)) := by
  dsimp only
  generalize hsend : (if server = true then s.mode.sendServerhelloTime
    else s.mode.sendClienthelloTime) = sendTime
  have hr := sslFillHelloRandom_eq s server time rand result dgrd
  rw [hsend] at hr
  by_cases success : 8 < result.length ∧ 0 < rand.ret
  · obtain ⟨room, ok⟩ := success
    have eq : sslFillHelloRandom s server time rand result dgrd =
        (rand.ret, writeDowngrade dgrd (helloFill sendTime time rand result.length) result.length) := by
      simp only [hr, if_neg (show ¬result.length < 4 by omega), if_pos ok,
        if_neg (show ¬result.length ≤ 8 by omega)]
    rw [eq]
    refine ⟨by simp [ok, room], fun _ => ⟨?_, fun i lt => getElem?_filled _ _ _ _ (by omega) lt,
      fun sent uncovered => ?_⟩⟩
    · exact (writeDowngrade_spec dgrd _ _ 0 (length_helloFill _ _ _ _ (by omega)) (by omega)).1
    · subst sent
      rw [take_four_filled dgrd time rand (by omega) uncovered, beValue_l2n]
  · have : (sslFillHelloRandom s server time rand result dgrd).1 ≤ 0 := by
      rw [hr]
      split_ifs <;> simp <;> omega
    exact ⟨by omega, by omega⟩

end S3Lib.HelloRandom
