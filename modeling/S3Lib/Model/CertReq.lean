import S3Lib.Model.Ctrl

/-! # `ssl3_get_req_cert_type`

The certificate types a server lists in its CertificateRequest. A list stored by
`SSL_CTRL_SET_CLIENT_CERT_TYPES` is copied as it is. Otherwise the types follow from the key
exchange of the negotiated suite, the protocol version and the signature algorithms that
`ssl_set_sig_mask` disables. The packet is a `WPacket` with a fixed room: a write that does not fit
fails and writes nothing, and a failed write makes the function return `0` with the packet as the
earlier writes left it.
-/

namespace S3Lib

/-- The constants of `ssl3.h`, `tls1.h` and `ssl_local.h` that `ssl3_get_req_cert_type` reads (not
under `src/`), and whether GOST support is compiled in (`OPENSSL_NO_GOST` undefined). The
version fields are `TLS1_VERSION` and `TLS1_2_VERSION`; `kBDHE` and `kBDHTPSK` are `SSL_kBDHE` and
`SSL_kBDHTPSK`, the key exchanges of the BIGN suites. -/
structure CertTypeConsts where
  gost : Bool
  tls1Version : Int
  tls12Version : Int
  kGOST : Nat
  kGOST18 : Nat
  kBDHE : Nat
  kBDHTPSK : Nat
  kDHE : Nat
  aRSA : Nat
  aDSS : Nat
  aECDSA : Nat
  tlsCtGost01Sign : UInt8
  tlsCtGost12IanaSign : UInt8
  tlsCtGost12Iana512Sign : UInt8
  tlsCtGost12LegacySign : UInt8
  tlsCtGost12Legacy512Sign : UInt8
  tlsCtBignSign : UInt8
  ssl3CtRsaEphemeralDh : UInt8
  ssl3CtDssEphemeralDh : UInt8
  ssl3CtRsaSign : UInt8
  ssl3CtDssSign : UInt8
  tlsCtEcdsaSign : UInt8

/-- A `WPACKET` as `ssl3_get_req_cert_type` sees it: the bytes written so far and how many more
fit before a write fails. -/
structure WPacket where
  written : List UInt8
  room : Nat
deriving DecidableEq, Repr

/-- `WPACKET_put_bytes_u8(pkt, b)`: fails, writing nothing, when no room is left. -/
def WPacket.putBytesU8 (pkt : WPacket) (b : UInt8) : Option WPacket :=
  if pkt.room = 0 then none else some ⟨pkt.written ++ [b], pkt.room - 1⟩

/-- `WPACKET_memcpy(pkt, src, len)`: all of `src`, or nothing when it does not fit. -/
def WPacket.memcpy (pkt : WPacket) (src : List UInt8) : Option WPacket :=
  if src.length ≤ pkt.room then some ⟨pkt.written ++ src, pkt.room - src.length⟩ else none

/-- `return WPACKET_...(pkt, ...);`: `1` and the new packet, or `0` and the old one. -/
def WPacket.retOf (pkt : WPacket) : Option WPacket → Int × WPacket
  | some pkt => (1, pkt)
  | none => (0, pkt)

/-- `if (... !WPACKET_put_bytes_u8(pkt, b)) return 0;`: a failure ends the function with the
packet as it is. -/
def putOrFail (pkt : WPacket) (b : UInt8) : Except WPacket WPacket :=
  match pkt.putBytesU8 b with
  | some pkt => .ok pkt
  | none => .error pkt

/-- `if (!WPACKET_put_bytes_u8(pkt, b1) || ... || !WPACKET_put_bytes_u8(pkt, bn)) return 0;`. -/
def putAllOrFail (pkt : WPacket) (bytes : List UInt8) : Except WPacket WPacket :=
  bytes.foldlM putOrFail pkt

/-- The writes of `ssl3_get_req_cert_type` once no list is stored, for the key exchanges `algK` of
the negotiated suite and the disabled signature algorithms `algA`; `.error pkt` where a failed
write returns `0`. -/
def reqCertTypeWrites (k : Consts) (t : CertTypeConsts) (version : Int) (algK algA : Nat)
    (pkt : WPacket) : Except WPacket (Int × WPacket) := do
  let pkt ← if t.gost && decide (t.tls1Version ≤ version) && algK &&& t.kGOST != 0 then
      putAllOrFail pkt [t.tlsCtGost01Sign, t.tlsCtGost12IanaSign, t.tlsCtGost12Iana512Sign,
        t.tlsCtGost12LegacySign, t.tlsCtGost12Legacy512Sign]
    else pure pkt
  let pkt ← if t.gost && decide (t.tls12Version ≤ version) && algK &&& t.kGOST18 != 0 then
      putAllOrFail pkt [t.tlsCtGost12IanaSign, t.tlsCtGost12Iana512Sign]
    else pure pkt
  if decide (t.tls1Version ≤ version) && algK &&& t.kBDHE != 0 then
    return pkt.retOf (pkt.putBytesU8 t.tlsCtBignSign)
  if decide (t.tls1Version ≤ version) && algK &&& t.kBDHTPSK != 0 then
    return pkt.retOf (pkt.putBytesU8 t.tlsCtBignSign)
  let pkt ← if version == k.ssl3Version && algK &&& t.kDHE != 0 then do
      let pkt ← putOrFail pkt t.ssl3CtRsaEphemeralDh
      if algA &&& t.aDSS == 0 then putOrFail pkt t.ssl3CtDssEphemeralDh else pure pkt
    else pure pkt
  let pkt ← if algA &&& t.aRSA == 0 then putOrFail pkt t.ssl3CtRsaSign else pure pkt
  let pkt ← if algA &&& t.aDSS == 0 then putOrFail pkt t.ssl3CtDssSign else pure pkt
  let pkt ← if decide (t.tls1Version ≤ version) && algA &&& t.aECDSA == 0 then
      putOrFail pkt t.tlsCtEcdsaSign
    else pure pkt
  return (1, pkt)

/-- What the writes return: their own value, or `0` where a failed write ended them. -/
def writesResult : Except WPacket (Int × WPacket) → Int × WPacket
  | .ok r => r
  | .error pkt => (0, pkt)

/-- `ssl3_get_req_cert_type(s, pkt)`, with `ssl_set_sig_mask` giving the mask `sigMask`; `none`
where it reads the key exchange through a `NULL` `new_cipher`. -/
def ssl3GetReqCertType (k : Consts) (t : CertTypeConsts) (sigMask : Nat) (s : Ssl) (pkt : WPacket) :
    Option (Int × WPacket) :=
  match s.cert.ctype with
  | some ctype => some (pkt.retOf (pkt.memcpy ctype))
  | none =>
    s.s3.tmp.newCipher.map fun c =>
      writesResult (reqCertTypeWrites k t s.version c.algorithmMkey sigMask pkt)

/-- The OpenSSL values of the certificate types (`ssl3.h`, `tls1.h`) and of the masks
(`ssl_local.h`), with GOST support compiled in. The BIGN values of the bee2evp headers are not
under `src/`; the ones here are stand-ins. -/
def CertTypeConsts.sample : CertTypeConsts where
  gost := true
  tls1Version := 0x301
  tls12Version := 0x303
  kGOST := 0x10
  kGOST18 := 0x200
  kBDHE := 0x1000
  kBDHTPSK := 0x2000
  kDHE := 0x2
  aRSA := 0x1
  aDSS := 0x2
  aECDSA := 0x8
  tlsCtGost01Sign := 22
  tlsCtGost12IanaSign := 67
  tlsCtGost12Iana512Sign := 68
  tlsCtGost12LegacySign := 238
  tlsCtGost12Legacy512Sign := 239
  tlsCtBignSign := 231
  ssl3CtRsaEphemeralDh := 5
  ssl3CtDssEphemeralDh := 6
  ssl3CtRsaSign := 1
  ssl3CtDssSign := 2
  tlsCtEcdsaSign := 64

end S3Lib
