import S3Lib.Model.Lifecycle

/-! # Hello randoms and the master secret

`ssl_fill_hello_random`, `ssl_generate_master_secret` and `ssl_get_algorithm2`, which picks the
handshake digest and PRF the key schedule uses. The random source, the clock, the
allocator and the key schedule are outside `s3_lib.c`: what they do in one call is an argument
(`RandSource`, `KdfEnv`), and the key schedule's input is logged as an `Event`. The byte-order
macros `s2n` and `l2n` of `ssl_local.h` are not under `src/`.
-/

namespace S3Lib

/-- `UInt8.ofNat` keeps the low byte. -/
@[simp] theorem toNat_uint8_ofNat (n : Nat) : (UInt8.ofNat n).toNat = n % 256 := rfl

/-- The `DOWNGRADE` argument of `ssl_fill_hello_random`. -/
inductive Downgrade where
  | none
  | to12
  | to11
deriving DecidableEq, Repr

/-- `tls11downgrade`: the TLSv1.3 downgrade sentinel for TLSv1.1 and below. -/
def tls11downgrade : List UInt8 := [0x44, 0x4f, 0x57, 0x4e, 0x47, 0x52, 0x44, 0x00]

/-- `tls12downgrade`: the TLSv1.3 downgrade sentinel for TLSv1.2. -/
def tls12downgrade : List UInt8 := [0x44, 0x4f, 0x57, 0x4e, 0x47, 0x52, 0x44, 0x01]

/-- What `RAND_bytes_ex` does in one call: what it returns, and the byte it writes at each
offset of its buffer. -/
structure RandSource where
  ret : Int
  byte : Nat → UInt8

/-- The `n` bytes that `RAND_bytes_ex` writes. -/
def randBytes (rand : RandSource) (n : Nat) : List UInt8 := (List.range n).map rand.byte

@[simp] theorem length_randBytes (rand : RandSource) (n : Nat) : (randBytes rand n).length = n := by
  simp [randBytes]

/-- Modelled from the spec: `l2n(l, c)` of `ssl_local.h` writes the low 32 bits of `l`,
big-endian. -/
def l2n (l : Nat) : List UInt8 :=
  [UInt8.ofNat (l / 2 ^ 24), UInt8.ofNat (l / 2 ^ 16), UInt8.ofNat (l / 2 ^ 8), UInt8.ofNat l]

/-- Modelled from the spec: `s2n(s, c)` of `ssl_local.h` writes the low 16 bits of `s`,
big-endian. -/
def s2n (s : Nat) : List UInt8 := [UInt8.ofNat (s / 2 ^ 8), UInt8.ofNat s]

@[simp] theorem length_s2n (s : Nat) : (s2n s).length = 2 := rfl

/-- `memcpy(dst + off, src, len(src))`. -/
def memcpyAt (dst : List UInt8) (off : Nat) (src : List UInt8) : List UInt8 :=
  dst.take off ++ src ++ dst.drop (off + src.length)

/-- The buffer after the `send_time` branch of `ssl_fill_hello_random`: `l2n(Time, p)` and then
`len - 4` random bytes, or `len` random bytes. -/
def helloFill (sendTime : Bool) (time : Nat) (rand : RandSource) (len : Nat) : List UInt8 :=
  if sendTime then l2n time ++ randBytes rand (len - 4) else randBytes rand len

/-- The `memcpy` of the downgrade sentinel over the last bytes of the `len`-byte buffer. -/
def writeDowngrade (dgrd : Downgrade) (result : List UInt8) (len : Nat) : List UInt8 :=
  match dgrd with
  | .to12 => memcpyAt result (len - tls12downgrade.length) tls12downgrade
  | .to11 => memcpyAt result (len - tls11downgrade.length) tls11downgrade
  | .none => result

/-- `ssl_fill_hello_random(s, server, result, len, dgrd)` on a buffer of `len` bytes, with
`time(NULL)` returning `time`: what it returns and the buffer it leaves. -/
def sslFillHelloRandom (s : Ssl) (server : Bool) (time : Nat) (rand : RandSource)
    (result : List UInt8) (dgrd : Downgrade) : Int × List UInt8 :=
  let len := result.length
  if len < 4 then (0, result)
  else
    let sendTime := if server then s.mode.sendServerhelloTime else s.mode.sendClienthelloTime
    let result := helloFill sendTime time rand len
    let ret := rand.ret
    if ret > 0 then
      if !decide (tls11downgrade.length < len) || !decide (tls12downgrade.length < len) then
        (0, result)
      else (ret, writeDowngrade dgrd result len)
    else (ret, result)

/-- The bytes of an optional buffer: none for `NULL`. -/
def Buf.bytesOf : Option Buf → List UInt8
  | none => []
  | some b => b.bytes

@[simp] theorem Buf.bytesOf_none : Buf.bytesOf none = [] := rfl

@[simp] theorem Buf.bytesOf_some (b : Buf) : Buf.bytesOf (some b) = b.bytes := rfl

theorem Buf.lenOf_eq_length (p : Option Buf) : Buf.lenOf p = (Buf.bytesOf p).length := by
  cases p <;> rfl

/-- What the allocator and the key schedule do in one `ssl_generate_master_secret` call: where
`OPENSSL_malloc` puts the PSK premaster (`none` when it fails), and whether
`generate_master_secret` succeeds on the premaster it is given. -/
structure KdfEnv where
  alloc : Option Nat
  kdfOk : List UInt8 → Bool

/-- The code after the `err:` label of `ssl_generate_master_secret`: release or cleanse the
caller's premaster over `pmslen` bytes, and on a client forget the stored premaster. -/
def masterSecretErr (s : Ssl) (pms : Option Buf) (pmslen : Nat) (freePms : Bool) (ret : Int)
    (events : List Event) : Ssl × Int × List Event :=
  let released := match pms with
    | none => []
    | some b => if freePms then [Event.clearFree b pmslen] else [Event.cleanse b pmslen]
  let s :=
    if s.server then s else { s with s3 := { s.s3 with tmp := { s.s3.tmp with pms := none } } }
  (s, ret, events ++ released)

/-- `ssl_generate_master_secret(s, pms, pmslen, free_pms)`, where `pmslen` is the length of the
buffer `pms`; `none` when `s->s3.tmp.new_cipher` is `NULL`. -/
def sslGenerateMasterSecret (k : Consts) (env : KdfEnv) (s : Ssl) (pms : Option Buf)
    (freePms : Bool) : Option (Ssl × Int × List Event) := do
  let c ← s.s3.tmp.newCipher
  let algK := c.algorithmMkey
  if algK &&& k.psk ≠ 0 then
    let psklen := Buf.lenOf s.s3.tmp.psk
    let plain := algK &&& k.kPSK ≠ 0
    let pmslen := if plain then psklen else Buf.lenOf pms
    match env.alloc with
    | none => pure (masterSecretErr s pms pmslen freePms 0 [])
    | some addr =>
      let other := if plain then List.replicate pmslen 0 else Buf.bytesOf pms
      let pskpms : Buf := ⟨addr, s2n pmslen ++ other ++ s2n psklen ++ Buf.bytesOf s.s3.tmp.psk⟩
      let events := opensslClearFree s.s3.tmp.psk psklen ++
        [.generateMasterSecret pskpms.bytes, .clearFree pskpms (4 + pmslen + psklen)]
      let s := { s with s3 := { s.s3 with tmp := { s.s3.tmp with psk := none } } }
      pure (masterSecretErr s pms pmslen freePms (if env.kdfOk pskpms.bytes then 1 else 0) events)
  else
    pure (masterSecretErr s pms (Buf.lenOf pms) freePms (if env.kdfOk (Buf.bytesOf pms) then 1 else 0)
      [.generateMasterSecret (Buf.bytesOf pms)])

/-- The `algorithm2` bits of `ssl_local.h` that `ssl_get_algorithm2` compares with (not under
`src/`). -/
structure Alg2Consts where
  handshakeMacDefault : Nat
  tls1Prf : Nat
  handshakeMacSha256 : Nat
  tls1PrfSha256 : Nat
  handshakeMacSha384 : Nat
  tls1PrfSha384 : Nat

/-- `ssl_get_algorithm2(s)`, where `sha256Prf` is whether the method's `enc_flags` have
`SSL_ENC_FLAG_SHA256_PRF`: the suite's `algorithm2`, with the legacy digest and PRF moved to
SHA-256 on such a method, and the SHA-384 pair of a PSK suite moved back to the legacy ones on
another; `-1` when no suite is negotiated. -/
def sslGetAlgorithm2 (k : Consts) (a : Alg2Consts) (sha256Prf : Bool) (s : Ssl) : Int :=
  match s.s3.tmp.newCipher with
  | none => -1
  | some c =>
    if sha256Prf then
      if c.algorithm2 = a.handshakeMacDefault ||| a.tls1Prf then a.handshakeMacSha256 ||| a.tls1PrfSha256
      else c.algorithm2
    else if c.algorithmMkey &&& k.psk ≠ 0 then
      if c.algorithm2 = a.handshakeMacSha384 ||| a.tls1PrfSha384 then a.handshakeMacDefault ||| a.tls1Prf
      else c.algorithm2
    else c.algorithm2

end S3Lib
