import S3Lib.Model.Lifecycle

/-! # Erasure of secret buffers

Every release of a buffer is an `Event`: `clearFree` zeroes the bytes it is given before the
release, `free` does not. `ssl3_free` and `ssl3_clear` clear-free the stored premaster, but not
the stored PSK: `ssl3_free` releases it with a plain `OPENSSL_free`, and `ssl3_clear` drops it in
the `memset` of `s->s3` with no release at all.
-/

namespace S3Lib.Erasure

open S3Lib

private theorem cleanse_not_mem_opensslFree (p : Option Buf) (b : Buf) (len : Nat) :
    Event.cleanse b len ∉ opensslFree p := by
  cases p <;> simp

private theorem cleanse_not_mem_opensslClearFree (p : Option Buf) (n : Nat) (b : Buf) (len : Nat) :
    Event.cleanse b len ∉ opensslClearFree p n := by
  cases p <;> simp

/-- `ssl3_free` and `ssl3_clear` release only with `OPENSSL_free` and `OPENSSL_clear_free`. -/
private theorem cleanse_not_mem_s3Releases (s : Ssl) (b : Buf) (len : Nat) :
    Event.cleanse b len ∉ s3Releases s := by
  simp [s3Releases, cleanse_not_mem_opensslFree, cleanse_not_mem_opensslClearFree]

/-- The releases of `ssl3_clear` read nothing of the stored PSK. -/
private theorem ssl3Clear_events_psk (k : Consts) (wbioOk : Bool) (s : Ssl) (psk : Option Buf) :
    (ssl3Clear k wbioOk { s with s3 := { s.s3 with tmp := { s.s3.tmp with psk := psk } } }).2.2 =
      (ssl3Clear k wbioOk s).2.2 := by
  cases wbioOk <;> rfl

/-- A stored PSK is never zeroed by `ssl3_free` or `ssl3_clear`: `ssl3_free` releases it with a
plain `OPENSSL_free` and no cleanse, and `ssl3_clear` makes the same releases as if no PSK were
stored, and then no PSK is stored. -/
theorem ssl3Free_ssl3Clear_psk_unzeroed (k : Consts) (wbioOk : Bool) (s : Ssl) (b : Buf)
    (stored : s.s3.tmp.psk = some b) :
    (Event.free b ∈ (ssl3Free s).2 ∧ (∀ len, Event.cleanse b len ∉ (ssl3Free s).2) ∧
      (ssl3Free s).1.s3.tmp.psk = none) ∧
    ((ssl3Clear k wbioOk s).2.2 =
        (ssl3Clear k wbioOk { s with s3 := { s.s3 with tmp := { s.s3.tmp with psk := none } } }).2.2 ∧
      (ssl3Clear k wbioOk s).1.s3.tmp.psk = none) := by
  refine ⟨⟨by simp [ssl3Free, stored], fun len => ?_, rfl⟩, (ssl3Clear_events_psk k wbioOk s none).symm,
    by simp⟩
  simp [ssl3Free, stored, cleanse_not_mem_s3Releases]

theorem ssl3Free_ssl3Clear_psk_stored :
    let b : Buf := ⟨1, [0x2a, 0x2a]⟩
    let s : Ssl := { ctx := SslCtx.zeroKeys, s3 := { tmp := { psk := some b } } }
    s.s3.tmp.psk = some b ∧
      (Event.free b ∈ (ssl3Free s).2 ∧ (∀ len, Event.cleanse b len ∉ (ssl3Free s).2) ∧
        (ssl3Free s).1.s3.tmp.psk = none) ∧
      ((ssl3Clear Consts.release true s).2.2 =
          (ssl3Clear Consts.release true
            { s with s3 := { s.s3 with tmp := { s.s3.tmp with psk := none } } }).2.2 ∧
        (ssl3Clear Consts.release true s).1.s3.tmp.psk = none) :=
  ⟨rfl, ssl3Free_ssl3Clear_psk_unzeroed _ _ _ _ rfl⟩

end S3Lib.Erasure
