import S3Lib.Model.CertReq

/-! # The cipher catalog

`tls13_ciphers`, `ssl3_ciphers` and `ssl3_scsvs`, sorted once by `ssl_sort_cipher_list`, and their
lookups: by id (a binary search in each table), by standard name (a linear scan) and by the two
bytes of a wire code. The ids of the entries are header macros of `ssl3.h` and `tls1.h`, not under
`src/`, except those of the national suites: the tables are a parameter.
-/

namespace S3Lib

/-- An `SSL_CIPHER` of the catalog: the suite and its `stdname`, `NULL` for none. -/
structure CatalogEntry where
  suite : Suite
  stdname : Option String
deriving DecidableEq, Repr

/-- `tls13_ciphers`, `ssl3_ciphers` and `ssl3_scsvs`. -/
structure Catalog where
  tls13 : List CatalogEntry
  ssl3 : List CatalogEntry
  scsvs : List CatalogEntry
deriving DecidableEq, Repr

/-- `SSL3_CK_CIPHERSUITE_FLAG` (`ssl3.h`, not under `src/`): the tag of a real cipher-suite id,
which the literal ids of the national suites carry. -/
def ssl3CkCiphersuiteFlag : Nat := 0x03000000

/-- `cipher_compare(a, b)`. -/
def cipherCompare (a b : CatalogEntry) : Int :=
  if a.suite.id = b.suite.id then 0 else if a.suite.id < b.suite.id then -1 else 1

/-- `qsort(base, n, size, cmp)` (libc): an order of the entries in which `cmp` is not positive
between neighbours. Among entries that compare equal the order is unspecified; the model takes
that of a merge sort. -/
def qsort (cmp : CatalogEntry → CatalogEntry → Int) (tbl : List CatalogEntry) : List CatalogEntry :=
  tbl.mergeSort fun a b => decide (cmp a b ≤ 0)

/-- `ssl_sort_cipher_list()`. -/
def sslSortCipherList (cat : Catalog) : Catalog :=
  ⟨qsort cipherCompare cat.tls13, qsort cipherCompare cat.ssl3, qsort cipherCompare cat.scsvs⟩

/-- `ssl3_num_ciphers()`. -/
def ssl3NumCiphers (cat : Catalog) : Nat := cat.ssl3.length

/-- `ssl3_get_cipher(u)`: the table read from its end. -/
def ssl3GetCipher (cat : Catalog) (u : Nat) : Option CatalogEntry :=
  if u < cat.ssl3.length then cat.ssl3[cat.ssl3.length - 1 - u]? else none

/-- Modelled from the spec: `OBJ_bsearch_ssl_cipher_id` (`obj_dat.c`) is a binary search; here
the loop of `OBJ_bsearch_` over `[lo, hi)`, comparing the key with `cipher_compare`. -/
def bsearchCipherId (id : Nat) (tbl : List CatalogEntry) (lo hi : Nat) : Option CatalogEntry :=
  if lo < hi then
    match tbl[(lo + hi) / 2]? with
    | none => none
    | some p =>
      if id < p.suite.id then bsearchCipherId id tbl lo ((lo + hi) / 2)
      else if p.suite.id < id then bsearchCipherId id tbl ((lo + hi) / 2 + 1) hi
      else some p
  else none
termination_by hi - lo

/-- `OBJ_bsearch_ssl_cipher_id(&c, tbl, n)` with `c.id = id`. -/
def objBsearchSslCipherId (id : Nat) (tbl : List CatalogEntry) : Option CatalogEntry :=
  bsearchCipherId id tbl 0 tbl.length

/-- `ssl3_get_cipher_by_id(id)`. -/
def ssl3GetCipherById (cat : Catalog) (id : Nat) : Option CatalogEntry :=
  match objBsearchSslCipherId id cat.tls13 with
  | some cp => some cp
  | none =>
    match objBsearchSslCipherId id cat.ssl3 with
    | some cp => some cp
    | none => objBsearchSslCipherId id cat.scsvs

/-- `ssl3_get_cipher_by_std_name(stdname)`: the tables in order, each scanned from its start,
skipping entries with no standard name. -/
def ssl3GetCipherByStdName (cat : Catalog) (stdname : String) : Option CatalogEntry :=
  [cat.tls13, cat.ssl3, cat.scsvs].findSome? fun tbl =>
    tbl.find? fun c => c.stdname == some stdname

/-- `ssl3_get_cipher_by_char(p)`. -/
def ssl3GetCipherByChar (cat : Catalog) (p0 p1 : UInt8) : Option CatalogEntry :=
  ssl3GetCipherById cat (ssl3CkCiphersuiteFlag ||| (p0.toNat <<< 8) ||| p1.toNat)

/-- `WPACKET_put_bytes_u16(pkt, v)`: two bytes, big-endian; fails, writing nothing, when they do
not fit. -/
def WPacket.putBytesU16 (pkt : WPacket) (v : Nat) : Option WPacket :=
  if pkt.room < 2 then none
  else some ⟨pkt.written ++ [UInt8.ofNat (v / 2 ^ 8), UInt8.ofNat v], pkt.room - 2⟩

/-- `ssl3_put_cipher_by_char(c, pkt, len)`: what it returns, the packet, and what it stores in
`*len` (`none` where it leaves it alone). -/
def ssl3PutCipherByChar (c : CatalogEntry) (pkt : WPacket) : Int × WPacket × Option Nat :=
  if c.suite.id &&& 0xff000000 != ssl3CkCiphersuiteFlag then (1, pkt, some 0)
  else
    match pkt.putBytesU16 (c.suite.id &&& 0xffff) with
    | none => (0, pkt, none)
    | some pkt => (1, pkt, some 2)

/-- A catalog with two of the national suites, out of order, and the two signalling suites. The
suites' algorithm masks are left `0`; the standard names of the national suites are
`BTLS1_RFC_...` macros not under `src/`, and the ones here are stand-ins; `SSL3_CK_SCSV` and
`SSL3_CK_FALLBACK_SCSV` take their OpenSSL values. -/
def Catalog.sample : Catalog where
  tls13 := []
  ssl3 :=
    [⟨⟨0x0300ff16, 0, 0, 0, 0x303, 0x303, 0, 0, 0, 256⟩, some "TLS_DHE_BIGN_WITH_BELT_DWP_HBELT"⟩,
     ⟨⟨0x0300ff15, 0, 0, 0, 0x303, 0x303, 0, 0, 0, 256⟩, some "TLS_DHE_BIGN_WITH_BELT_CTR_MAC_HBELT"⟩]
  scsvs :=
    [⟨⟨0x030000ff, 0, 0, 0, 0, 0, 0, 0, 0, 0⟩, some "TLS_EMPTY_RENEGOTIATION_INFO_SCSV"⟩,
     ⟨⟨0x03005600, 0, 0, 0, 0, 0, 0, 0, 0, 0⟩, some "TLS_FALLBACK_SCSV"⟩]

end S3Lib
