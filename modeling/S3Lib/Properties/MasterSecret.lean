import S3Lib.Model.Secrets

/-! # The premaster that `ssl_generate_master_secret` hands to the key schedule

For a PSK suite the key schedule receives `other_secret` and the PSK, each behind a 2-byte
big-endian length: reading the input back as two length-prefixed vectors gives exactly the two
and consumes it whole. The stored PSK is forgotten once the buffer is allocated, and a client
forgets its stored premaster on every path.
-/

namespace S3Lib.MasterSecret

open S3Lib

/-- The inputs of the key-schedule calls in an event log. -/
def kdfInputs (events : List Event) : List (List UInt8) :=
  events.filterMap fun
    | .generateMasterSecret input => some input
    | _ => none

@[simp] theorem kdfInputs_append (xs ys : List Event) :
    kdfInputs (xs ++ ys) = kdfInputs xs ++ kdfInputs ys :=
  List.filterMap_append _ _ _

/-- Releasing a buffer calls no key schedule. -/
@[simp] theorem kdfInputs_opensslClearFree (p : Option Buf) (len : Nat) :
    kdfInputs (opensslClearFree p len) = [] := by
  cases p <;> rfl

/-- Reads a vector behind a 2-byte big-endian length: the vector and what follows it. -/
def parseVector16 : List UInt8 → Option (List UInt8 × List UInt8)
  | hi :: lo :: rest =>
    let n := hi.toNat * 256 + lo.toNat
    if n ≤ rest.length then some (rest.take n, rest.drop n) else none
  | _ => none

/-- Reads a PSK premaster: two length-prefixed vectors and nothing after them. -/
def parsePskPremaster (bytes : List UInt8) : Option (List UInt8 × List UInt8) := do
  let (other, rest) ← parseVector16 bytes
  let (psk, rest) ← parseVector16 rest
  if rest = [] then some (other, psk) else none

/-- `s2n` of a short vector's length reads back as that length. -/
private theorem parseVector16_s2n (xs rest : List UInt8) (short : xs.length < 2 ^ 16) :
    parseVector16 (s2n xs.length ++ (xs ++ rest)) = some (xs, rest) := by
  have len : (UInt8.ofNat (xs.length / 2 ^ 8)).toNat * 256 + (UInt8.ofNat xs.length).toNat =
      xs.length := by
    simp only [toNat_uint8_ofNat]
    omega
  simp only [s2n, List.cons_append, List.nil_append, parseVector16, len]
  simp

private theorem parsePskPremaster_s2n (other psk : List UInt8) (otherShort : other.length < 2 ^ 16)
    (pskShort : psk.length < 2 ^ 16) :
    parsePskPremaster (s2n other.length ++ other ++ s2n psk.length ++ psk) = some (other, psk) := by
  have inner := parseVector16_s2n psk [] pskShort
  rw [List.append_nil] at inner
  rw [parsePskPremaster, List.append_assoc, List.append_assoc, parseVector16_s2n other _ otherShort]
  simp [inner]

/-- The releases after the `err:` label call no key schedule. -/
@[simp] theorem kdfInputs_masterSecretErr (s : Ssl) (pms : Option Buf) (pmslen : Nat)
    (freePms : Bool) (ret : Int) (events : List Event) :
    kdfInputs (masterSecretErr s pms pmslen freePms ret events).2.2 = kdfInputs events := by
  unfold masterSecretErr
  cases pms <;> [skip; cases freePms] <;> simp [kdfInputs]

/-- The releases after the `err:` label leave the stored PSK where it is. -/
@[simp] theorem masterSecretErr_psk (s : Ssl) (pms : Option Buf) (pmslen : Nat) (freePms : Bool)
    (ret : Int) (events : List Event) :
    (masterSecretErr s pms pmslen freePms ret events).1.s3.tmp.psk = s.s3.tmp.psk := by
  unfold masterSecretErr
  dsimp only
  split_ifs <;> rfl

/-- A client leaves `ssl_generate_master_secret` with no stored premaster. -/
private theorem masterSecretErr_pms (s : Ssl) (pms : Option Buf) (pmslen : Nat) (freePms : Bool)
    (ret : Int) (events : List Event) (client : s.server = false) :
    (masterSecretErr s pms pmslen freePms ret events).1.s3.tmp.pms = none := by
  simp [masterSecretErr, client]

section Branches

variable (k : Consts) (env : KdfEnv) (s : Ssl) (pms : Option Buf) (freePms : Bool) {c : Suite}
  (cipher : s.s3.tmp.newCipher = some c)

include cipher

/-- A suite without a PSK hands the premaster to the key schedule as it is. -/
theorem sslGenerateMasterSecret_of_not_psk (usesPsk : c.algorithmMkey &&& k.psk = 0) :
    sslGenerateMasterSecret k env s pms freePms = some (masterSecretErr s pms (Buf.lenOf pms) freePms
      (if env.kdfOk (Buf.bytesOf pms) then 1 else 0) [.generateMasterSecret (Buf.bytesOf pms)]) := by
  simp only [sslGenerateMasterSecret, cipher, Option.bind_eq_bind, Option.some_bind, usesPsk, ne_eq,
    not_true_eq_false, if_false]
  rfl

/-- When the PSK premaster cannot be allocated, only the `err:` releases happen. -/
theorem sslGenerateMasterSecret_of_alloc_fail (usesPsk : c.algorithmMkey &&& k.psk ≠ 0)
    (failed : env.alloc = none) :
    sslGenerateMasterSecret k env s pms freePms = some (masterSecretErr s pms
      (if c.algorithmMkey &&& k.kPSK ≠ 0 then Buf.lenOf s.s3.tmp.psk else Buf.lenOf pms) freePms 0 []) := by
  simp only [sslGenerateMasterSecret, cipher, Option.bind_eq_bind, Option.some_bind, if_pos usesPsk, failed]
  rfl

/-- A PSK suite builds the PSK premaster, clear-frees the stored PSK, calls the key schedule on
the premaster, and clear-frees it whatever the key schedule returns. -/
theorem sslGenerateMasterSecret_of_psk (usesPsk : c.algorithmMkey &&& k.psk ≠ 0) (addr : Nat)
    (allocated : env.alloc = some addr) :
    let psklen := Buf.lenOf s.s3.tmp.psk
    let plain := c.algorithmMkey &&& k.kPSK ≠ 0
    let pmslen := if plain then psklen else Buf.lenOf pms
    let input := s2n pmslen ++ (if plain then List.replicate pmslen 0 else Buf.bytesOf pms) ++
      s2n psklen ++ Buf.bytesOf s.s3.tmp.psk
    sslGenerateMasterSecret k env s pms freePms = some (masterSecretErr
      { s with s3 := { s.s3 with tmp := { s.s3.tmp with psk := none } } } pms pmslen freePms
      (if env.kdfOk input then 1 else 0)
      (opensslClearFree s.s3.tmp.psk psklen ++
        [.generateMasterSecret input, .clearFree ⟨addr, input⟩ (4 + pmslen + psklen)])) := by
  intro psklen plain pmslen input
  simp only [sslGenerateMasterSecret, cipher, Option.bind_eq_bind, Option.some_bind, if_pos usesPsk,
    allocated]
  rfl

end Branches

/-- The `other_secret` of a PSK premaster: `psklen` zeros for plain PSK, else the premaster. -/
def otherSecret (k : Consts) (c : Suite) (s : Ssl) (pms : Option Buf) : List UInt8 :=
  if c.algorithmMkey &&& k.kPSK ≠ 0 then List.replicate (Buf.bytesOf s.s3.tmp.psk).length 0
  else Buf.bytesOf pms

/-- What `ssl_generate_master_secret` promises of a call on `s` with suite `c` that left `r`. A
PSK suite whose buffer is allocated hands the key schedule one input, `other_secret` and the PSK
each behind its 2-byte length and nothing else, and forgets the stored PSK whatever the key
schedule returns; any other suite hands the key schedule the premaster unchanged; a client forgets
its stored premaster on every path. -/
structure PremasterSound (k : Consts) (env : KdfEnv) (s : Ssl) (pms : Option Buf) (c : Suite)
    (r : Ssl × Int × List Event) : Prop where
  psk_input : c.algorithmMkey &&& k.psk ≠ 0 → env.alloc.isSome →
    ∃ input, kdfInputs r.2.2 = [input] ∧
      input.length = 4 + (otherSecret k c s pms).length + (Buf.bytesOf s.s3.tmp.psk).length ∧
      parsePskPremaster input = some (otherSecret k c s pms, Buf.bytesOf s.s3.tmp.psk)
  psk_cleared : c.algorithmMkey &&& k.psk ≠ 0 → env.alloc.isSome → r.1.s3.tmp.psk = none
  plain_input : c.algorithmMkey &&& k.psk = 0 → kdfInputs r.2.2 = [Buf.bytesOf pms]
  client_pms : s.server = false → r.1.s3.tmp.pms = none

/-- Every call of `ssl_generate_master_secret` with a suite and short secrets keeps the promises
of `PremasterSound`, whatever the allocator and the key schedule do. -/
theorem sslGenerateMasterSecret_psk_layout (k : Consts) (env : KdfEnv) (s : Ssl) (pms : Option Buf)
    (freePms : Bool) (c : Suite) (cipher : s.s3.tmp.newCipher = some c)
    (pskShort : (Buf.bytesOf s.s3.tmp.psk).length < 2 ^ 16)
    (pmsShort : (Buf.bytesOf pms).length < 2 ^ 16) :
    ∃ r, sslGenerateMasterSecret k env s pms freePms = some r ∧ PremasterSound k env s pms c r := by
  by_cases usesPsk : c.algorithmMkey &&& k.psk = 0
  · rw [sslGenerateMasterSecret_of_not_psk k env s pms freePms cipher usesPsk]
    exact ⟨_, rfl, fun h => absurd usesPsk h, fun h => absurd usesPsk h,
      fun _ => by rw [kdfInputs_masterSecretErr]; rfl, masterSecretErr_pms _ _ _ _ _ _⟩
  · cases allocated : env.alloc with
    | none =>
      rw [sslGenerateMasterSecret_of_alloc_fail k env s pms freePms cipher usesPsk allocated]
      exact ⟨_, rfl, by simp [allocated], by simp [allocated], fun h => absurd h usesPsk,
        masterSecretErr_pms _ _ _ _ _ _⟩
    | some addr =>
      rw [sslGenerateMasterSecret_of_psk k env s pms freePms cipher usesPsk addr allocated]
      refine ⟨_, rfl, fun _ _ => ?_, by simp, fun h => absurd h usesPsk,
        fun client => masterSecretErr_pms _ _ _ _ _ _ client⟩
      rw [kdfInputs_masterSecretErr, kdfInputs_append, kdfInputs_opensslClearFree]
      refine ⟨_, rfl, ?_, ?_⟩
      · simp only [List.length_append, length_s2n, otherSecret, Buf.lenOf_eq_length]
        split_ifs <;> simp <;> omega
      · simp only [otherSecret, Buf.lenOf_eq_length]
        split_ifs
        · simpa using parsePskPremaster_s2n (List.replicate _ 0) _ (by simpa using pskShort) pskShort
        · exact parsePskPremaster_s2n _ _ pmsShort pskShort

/-- An ECDHE-PSK suite of this release. -/
def ecdhePskSuite : Suite :=
  ⟨0x0300C037, 0x80, 0x10, 0x1, 0x0301, 0x0303, 0, 0, 0, 128⟩

theorem sslGenerateMasterSecret_ecdhe_psk_client :
    let s : Ssl := { ctx := SslCtx.zeroKeys,
                     s3 := { tmp := { newCipher := some ecdhePskSuite, psk := some ⟨1, [7, 7, 7]⟩ } } }
    let pms : Option Buf := some ⟨2, [9, 9]⟩
    (s.s3.tmp.newCipher = some ecdhePskSuite ∧ (Buf.bytesOf s.s3.tmp.psk).length < 2 ^ 16 ∧
      (Buf.bytesOf pms).length < 2 ^ 16) ∧
    ∃ r, sslGenerateMasterSecret Consts.release ⟨some 3, fun _ => true⟩ s pms true = some r ∧
      PremasterSound Consts.release ⟨some 3, fun _ => true⟩ s pms ecdhePskSuite r :=
  ⟨⟨rfl, by decide, by decide⟩,
    sslGenerateMasterSecret_psk_layout _ _ _ _ true _ rfl (by decide) (by decide)⟩

end S3Lib.MasterSecret
