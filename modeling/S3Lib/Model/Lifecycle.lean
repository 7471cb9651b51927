import S3Lib.Model.State

/-! # `ssl3_free` and `ssl3_clear`

Both release the buffers that `s->s3` owns and then zero `s->s3`. Each release is an `Event`;
the releases of reference-counted keys, of the key block, of the digest list and of the CA
names go to functions outside `s3_lib.c` and are not logged.
-/

namespace S3Lib

/-- `OPENSSL_free(p)`; freeing `NULL` does nothing. -/
def opensslFree : Option Buf → List Event
  | none => []
  | some b => [.free b]

/-- `OPENSSL_clear_free(p, len)`; freeing `NULL` does nothing. -/
def opensslClearFree : Option Buf → Nat → List Event
  | none, _ => []
  | some b, len => [.clearFree b len]

@[simp] theorem opensslFree_none : opensslFree none = [] := rfl

@[simp] theorem opensslFree_some (b : Buf) : opensslFree (some b) = [.free b] := rfl

@[simp] theorem opensslClearFree_none (len : Nat) : opensslClearFree none len = [] := rfl

@[simp] theorem opensslClearFree_some (b : Buf) (len : Nat) :
    opensslClearFree (some b) len = [.clearFree b len] := rfl

/-- The buffer releases that `ssl3_free` and `ssl3_clear` both make, in their order. -/
def s3Releases (s : Ssl) : List Event :=
  opensslFree s.s3.tmp.ctype ++ opensslFree s.s3.tmp.ciphersRaw ++
    opensslClearFree s.s3.tmp.pms (Buf.lenOf s.s3.tmp.pms) ++ opensslFree s.s3.tmp.peerSigalgs ++
    opensslFree s.s3.tmp.peerCertSigalgs ++ opensslFree s.s3.alpnSelected ++
    opensslFree s.s3.alpnProposed

/-- `ssl3_free(s)` for a connection `s`. -/
def ssl3Free (s : Ssl) : Ssl × List Event :=
  ({ s with s3 := {} }, s3Releases s ++ opensslFree s.s3.tmp.psk)

/-- `ssl3_clear(s)`, where `wbioOk` is what `ssl_free_wbio_buffer(s)` returns. -/
def ssl3Clear (k : Consts) (wbioOk : Bool) (s : Ssl) : Ssl × Int × List Event :=
  let zeroed := { s with s3 := {} }
  if !wbioOk then (zeroed, 0, s3Releases s)
  else
    ({ zeroed with version := k.ssl3Version, ext := { s.ext with npn := none } }, 1,
      s3Releases s ++ opensslFree s.ext.npn)

@[simp] theorem ssl3Clear_s3 (k : Consts) (wbioOk : Bool) (s : Ssl) :
    (ssl3Clear k wbioOk s).1.s3 = {} := by
  cases wbioOk <;> rfl

end S3Lib
