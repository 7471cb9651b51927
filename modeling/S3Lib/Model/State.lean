import Mathlib.Algebra.Group.Int
import Mathlib.Algebra.Group.Nat.Basic
import Mathlib.Data.List.Basic

/-! # Connection, context and `s3` state of `s3_lib.c`

The fields of `SSL`, `SSL_CTX`, `CERT`, `SSL_SESSION` and `s->s3` that the functions of
`s3_lib.c` read or write. A heap buffer is named by its address and carries its bytes; a pointer
field and its length field (`s3.tmp.pms`/`pmslen`, `s3.tmp.psk`/`psklen`) are one optional
buffer whose length is the length field. Objects the file only passes on (certificates, stores,
keys, callbacks) are handles. Header constants that are not under `src/` are the fields of
`Consts`, so every result holds for all of their values. A `memset` to zero of `s->s3` is the
structure `{}`: every field defaults to zero.
-/

namespace S3Lib

/-- A heap buffer: its address and the bytes it holds. -/
structure Buf where
  addr : Nat
  bytes : List UInt8
deriving DecidableEq, Repr

/-- The length field that goes with an optional buffer: `0` for `NULL`. -/
def Buf.lenOf : Option Buf → Nat
  | none => 0
  | some b => b.bytes.length

@[simp] theorem Buf.lenOf_none : Buf.lenOf none = 0 := rfl

@[simp] theorem Buf.lenOf_some (b : Buf) : Buf.lenOf (some b) = b.bytes.length := rfl

/-- What a call does besides changing the connection: buffer releases, and the calls into the
record layer, the handshake state machine and the key schedule. `clearFree buf len` is
`OPENSSL_clear_free(buf, len)`, which zeroes `len` bytes and then releases; `free` is
`OPENSSL_free`, a release without zeroing; `cleanse buf len` is `OPENSSL_cleanse(buf, len)`,
which zeroes in place. `generateMasterSecret` and `generateHandshakeSecret` are
`s->method->ssl3_enc->generate_master_secret` and `tls13_generate_handshake_secret` over the bytes
they are given; `sendCloseNotify` is `ssl3_send_alert(s, SSL3_AL_WARNING, SSL_AD_CLOSE_NOTIFY)`;
`dispatchAlert`, `readBytes` and `writeBytes` are `ssl_dispatch_alert`, `ssl_read_bytes` (peeking
or not) and `ssl_write_bytes` of `s->method`; `statemSetRenegotiate` is
`ossl_statem_set_renegotiate(s)`, which starts a renegotiation. -/
inductive Event where
  | clearFree (buf : Buf) (len : Nat)
  | free (buf : Buf)
  | cleanse (buf : Buf) (len : Nat)
  | generateMasterSecret (input : List UInt8)
  | generateHandshakeSecret (input : List UInt8)
  | sendCloseNotify
  | dispatchAlert
  | readBytes (peek : Bool)
  | writeBytes
  | statemSetRenegotiate
deriving DecidableEq, Repr

/-- An `SSL_CIPHER`, with the fields the file reads. -/
structure Suite where
  id : Nat
  algorithmMkey : Nat
  algorithmAuth : Nat
  algorithmEnc : Nat
  minTls : Int
  maxTls : Int
  minDtls : Int
  maxDtls : Int
  algorithm2 : Nat
  strengthBits : Int
deriving DecidableEq, Repr

/-- Constants of `ssl_local.h`, `ssl.h`, `tls1.h` and `limits.h` that the file uses: `SSL_PSK`
(the key exchanges that use a pre-shared key), `SSL_kPSK`, `SSL_kECDHE`, `SSL_kSRP`,
`SSL_aECDSA`, `SSL_aNULL`, `SSL_aSRP`, `SSL_CHACHA20POLY1305`, `TLSEXT_NAMETYPE_host_name`,
`TLSEXT_MAXLEN_host_name`, `SSL_CERT_SET_SERVER`, `LONG_MAX` and `SSL3_VERSION`, in this order. -/
structure Consts where
  psk : Nat
  kPSK : Nat
  kECDHE : Nat
  kSRP : Nat
  aECDSA : Nat
  aNULL : Nat
  aSRP : Nat
  chacha20Poly1305 : Nat
  nametypeHostName : Int
  maxlenHostName : Nat
  certSetServer : Int
  longMax : Nat
  ssl3Version : Int

/-- The values that the headers of this release give the constants. -/
def Consts.release : Consts where
  psk := 0x1C8
  kPSK := 0x8
  kECDHE := 0x4
  kSRP := 0x20
  aECDSA := 0x8
  aNULL := 0x4
  aSRP := 0x40
  chacha20Poly1305 := 0x80000
  nametypeHostName := 0
  maxlenHostName := 255
  certSetServer := 3
  longMax := 2 ^ 63 - 1
  ssl3Version := 0x300

/-- A fixed-size array member of a C struct: `size` is its `sizeof`, which no write changes. -/
structure FixedBytes where
  size : Nat
  bytes : List UInt8
  length_bytes : bytes.length = size
deriving DecidableEq, Repr

/-- `memcpy` of `n` bytes from `src + off`: bytes past the end of `src`, where `memcpy` is
undefined, read as zero. -/
def readBytes (src : List UInt8) (off n : Nat) : List UInt8 :=
  (src.drop off ++ List.replicate n 0).take n

@[simp] theorem length_readBytes (src : List UInt8) (off n : Nat) :
    (readBytes src off n).length = n := by
  simp [readBytes]

theorem readBytes_append (xs ys : List UInt8) :
    readBytes (xs ++ ys) xs.length ys.length = ys := by
  simp [readBytes, List.drop_left]

theorem readBytes_zero_append (xs ys : List UInt8) : readBytes (xs ++ ys) 0 xs.length = xs := by
  simp [readBytes, List.take_left']

/-- `memcpy(dst, src + off, sizeof(dst))` into a fixed-size array. -/
def FixedBytes.copy (dst : FixedBytes) (src : List UInt8) (off : Nat) : FixedBytes :=
  ⟨dst.size, readBytes src off dst.size, length_readBytes _ _ _⟩

@[simp] theorem FixedBytes.size_copy (dst : FixedBytes) (src : List UInt8) (off : Nat) :
    (dst.copy src off).size = dst.size := rfl

@[simp] theorem FixedBytes.bytes_copy (dst : FixedBytes) (src : List UInt8) (off : Nat) :
    (dst.copy src off).bytes = readBytes src off dst.size := rfl

/-- A `TLS_GROUP_INFO` entry of a context's group list. -/
structure GroupInfo where
  groupId : UInt16
  tlsname : String
deriving DecidableEq, Repr

/-- The fields of a `CERT` that the file reads or writes: `dh_tmp_auto`, `ctype`/`ctype_len` (the
certificate types a server requests), `key->chain` and `key` (the current certificate/key
pair). -/
structure Cert where
  dhTmpAuto : Int := 0
  ctype : Option (List UInt8) := none
  keyChain : Nat := 0
  key : Nat := 0
deriving DecidableEq, Repr

/-- The SRP fields of an `SSL_CTX`; `pwdFromInfoCb` is whether
`SRP_give_srp_client_pwd_callback` is `srp_password_from_info_cb`. -/
structure SrpCtx where
  login : Option (List UInt8) := none
  info : Option (List UInt8) := none
  srpMask : Nat := 0
  strength : Int := 0
  srpCbArg : Nat := 0
  pwdFromInfoCb : Bool := false
deriving DecidableEq, Repr

/-- The fields of an `SSL_CTX` that the file reads or writes. The ticket keys are
`ext.tick_key_name`, `ext.secure->tick_hmac_key` and `ext.secure->tick_aes_key`; `groupList` is
`group_list`, the groups the context knows. -/
structure SslCtx where
  cert : Cert := {}
  servernameArg : Nat := 0
  tickKeyName : FixedBytes
  tickHmacKey : FixedBytes
  tickAesKey : FixedBytes
  statusType : Int := 0
  statusArg : Nat := 0
  statusCb : Nat := 0
  srpCtx : SrpCtx := {}
  supportedgroups : List UInt16 := []
  extraCerts : Option (List Nat) := none
  groupList : List GroupInfo := []
deriving DecidableEq, Repr

/-- A context whose ticket keys have OpenSSL's sizes (16, 32 and 32 bytes) and are zero, with no
groups and every other field zero. -/
def SslCtx.zeroKeys : SslCtx where
  tickKeyName := ⟨16, List.replicate 16 0, List.length_replicate _ _⟩
  tickHmacKey := ⟨32, List.replicate 32 0, List.length_replicate _ _⟩
  tickAesKey := ⟨32, List.replicate 32 0, List.length_replicate _ _⟩

/-- The fields of an `SSL_SESSION` that the file reads. -/
structure Session where
  kexGroup : UInt16
deriving DecidableEq, Repr

/-- `s->shutdown`: the `SSL_SENT_SHUTDOWN` and `SSL_RECEIVED_SHUTDOWN` bits. -/
structure Shutdown where
  sent : Bool := false
  received : Bool := false
deriving DecidableEq, Repr

/-- The bits of `s->options` that the file tests. -/
structure Options where
  cipherServerPreference : Bool := false
  prioritizeChacha : Bool := false
deriving DecidableEq, Repr

/-- The bits of `s->mode` that the file tests. -/
structure Mode where
  sendClienthelloTime : Bool := false
  sendServerhelloTime : Bool := false
deriving DecidableEq, Repr

/-- `s->s3.tmp`: `pms`/`pmslen` is the stored premaster secret and `psk`/`psklen` the stored
pre-shared key; `cert` is the certificate/key pair chosen for the negotiated suite; `peerSigalg`
and `sigalg` are `peer_sigalg->hash` and `sigalg->hash`, `none` when no signature algorithm is
set. -/
structure S3Tmp where
  newCipher : Option Suite := none
  maskK : Nat := 0
  maskA : Nat := 0
  pms : Option Buf := none
  psk : Option Buf := none
  pkey : Option Nat := none
  ctype : Option Buf := none
  certReq : Bool := false
  cert : Option Nat := none
  ciphersRaw : Option Buf := none
  peerSigalgs : Option Buf := none
  peerCertSigalgs : Option Buf := none
  peerSigalg : Option Int := none
  sigalg : Option Int := none
deriving DecidableEq, Repr

/-- `s->s3`. -/
structure S3 where
  tmp : S3Tmp := {}
  peerTmp : Option Nat := none
  alpnSelected : Option Buf := none
  alpnProposed : Option Buf := none
  renegotiate : Bool := false
  numRenegotiations : Nat := 0
  totalRenegotiations : Nat := 0
  flags : Nat := 0
  alertDispatch : Bool := false
  inReadAppData : Nat := 0
  didKex : Bool := false
  groupId : UInt16 := 0
  isProbablySafari : Bool := false
deriving DecidableEq, Repr

/-- The `s->ext` fields that the file reads or writes. -/
structure SslExt where
  hostname : Option (List UInt8) := none
  debugArg : Nat := 0
  statusType : Int := 0
  ocspExts : Nat := 0
  ocspIds : Nat := 0
  ocspResp : Option Buf := none
  ocspRespLen : Nat := 0
  supportedgroups : List UInt16 := []
  peerSupportedgroups : List UInt16 := []
  peerEcpointformats : Option (List UInt8) := none
  npn : Option Buf := none
deriving DecidableEq, Repr

/-- An `SSL` connection. `isDtls` and `isTls13` are the values of the `SSL_IS_DTLS` and
`SSL_IS_TLS13` macros, `inBefore` that of `SSL_in_before`; `handshakeFunc` and
`pskServerCallback` are whether `s->handshake_func` and `s->psk_server_callback` are set;
`srpMask` is `s->srp_ctx.srp_Mask`. -/
structure Ssl where
  s3 : S3 := {}
  version : Int := 0
  server : Bool := false
  isDtls : Bool := false
  isTls13 : Bool := false
  hit : Bool := false
  quietShutdown : Bool := false
  inBefore : Bool := false
  shutdown : Shutdown := {}
  handshakeFunc : Bool := false
  options : Options := {}
  mode : Mode := {}
  pskServerCallback : Bool := false
  srpMask : Nat := 0
  session : Option Session := none
  ctx : SslCtx
  cert : Cert := {}
  ext : SslExt := {}
deriving DecidableEq, Repr

end S3Lib
