import S3Lib.Model.CtxCtrl

/-! # The session-ticket key blob

`SSL_CTRL_SET_TLSEXT_TICKET_KEYS` splits a blob of `tickKeylen` bytes into the key name, the HMAC
key and the AES key at fixed offsets, and `SSL_CTRL_GET_TLSEXT_TICKET_KEYS` concatenates them in
the same order: each undoes the other, a blob of another length is refused without a change,
and a `NULL` buffer asks for the length.
-/

namespace S3Lib.TicketKeys

open S3Lib

/-- Reading inside the source copies its bytes. -/
private theorem readBytes_of_le {src : List UInt8} {off n : Nat} (inside : off + n ≤ src.length) :
    readBytes src off n = (src.drop off).take n := by
  rw [readBytes, List.take_append_of_le_length (by simp; omega)]

/-- Three reads at consecutive offsets that cover the source give it back. -/
private theorem readBytes_three (src : List UInt8) (a b c : Nat) (covers : src.length = a + b + c) :
    readBytes src 0 a ++ readBytes src a b ++ readBytes src (a + b) c = src := by
  have last : (src.drop (a + b)).take c = src.drop (a + b) := List.take_of_length_le (by simp; omega)
  rw [readBytes_of_le (by omega), readBytes_of_le (by omega), readBytes_of_le (by omega),
    List.drop_zero, last, ← List.drop_drop, List.append_assoc, List.take_append_drop,
    List.take_append_drop]

/-- Reading a part of a concatenation at its offset gives the part back. -/
private theorem readBytes_middle (xs ys zs : List UInt8) :
    readBytes (xs ++ ys ++ zs) xs.length ys.length = ys := by
  rw [readBytes_of_le (by simp), List.append_assoc, List.drop_left, List.take_left]

/-- Copying an array's own bytes back into it changes nothing. -/
private theorem FixedBytes.copy_of_readBytes (dst : FixedBytes) (src : List UInt8) (off : Nat)
    (same : readBytes src off dst.size = dst.bytes) : dst.copy src off = dst := by
  cases dst
  simp_all [FixedBytes.copy]

/-- A set keeps the sizes of the three arrays, hence the blob length. -/
private theorem tickKeylen_set (ctx : SslCtx) (blob : List UInt8) :
    tickKeylen { ctx with
      tickKeyName := ctx.tickKeyName.copy blob 0
      tickHmacKey := ctx.tickHmacKey.copy blob ctx.tickKeyName.size
      tickAesKey := ctx.tickAesKey.copy blob (ctx.tickKeyName.size + ctx.tickHmacKey.size) } =
      tickKeylen ctx := rfl

/-- The blob that a get writes. -/
private theorem getTlsextTicketKeys_eq (k : Consts) (lib : CtxLib) (ctx : SslCtx) :
    ssl3CtxCtrl k lib ctx (.getTlsextTicketKeys (tickKeylen ctx) true) =
      (ctx, 1, .bytes (some (ctx.tickKeyName.bytes ++ ctx.tickHmacKey.bytes ++ ctx.tickAesKey.bytes))) := by
  simp [ssl3CtxCtrl, tlsextTicketKeys]

/-- Set then get gives the blob back; get then set of the blob leaves the context as it was; a
set of another length is refused with `0` and no change; a `NULL` buffer returns the blob
length for both commands and changes nothing. -/
theorem tlsextTicketKeys_round_trip (k : Consts) (lib : CtxLib) (ctx : SslCtx) :
    (∀ blob : List UInt8, blob.length = tickKeylen ctx →
      let set := ssl3CtxCtrl k lib ctx (.setTlsextTicketKeys (tickKeylen ctx) (some blob))
      set.2.1 = 1 ∧
        (ssl3CtxCtrl k lib set.1 (.getTlsextTicketKeys (tickKeylen ctx) true)).2 = (1, .bytes (some blob))) ∧
    (∃ blob, ssl3CtxCtrl k lib ctx (.getTlsextTicketKeys (tickKeylen ctx) true) =
        (ctx, 1, .bytes (some blob)) ∧
      ssl3CtxCtrl k lib ctx (.setTlsextTicketKeys (tickKeylen ctx) (some blob)) = (ctx, 1, .nothing)) ∧
    (∀ (larg : Int) blob, larg ≠ tickKeylen ctx →
      ssl3CtxCtrl k lib ctx (.setTlsextTicketKeys larg (some blob)) = (ctx, 0, .nothing)) ∧
    (∀ larg : Int,
      ssl3CtxCtrl k lib ctx (.setTlsextTicketKeys larg none) = (ctx, (tickKeylen ctx : Int), .nothing) ∧
      ssl3CtxCtrl k lib ctx (.getTlsextTicketKeys larg false) = (ctx, (tickKeylen ctx : Int), .nothing)) := by
  refine ⟨fun blob fits => ?_, ⟨_, getTlsextTicketKeys_eq k lib ctx, ?_⟩,
    fun larg blob wrong => by simp [ssl3CtxCtrl, tlsextTicketKeys, wrong],
    fun larg => ⟨rfl, rfl⟩⟩
  · have set : ssl3CtxCtrl k lib ctx (.setTlsextTicketKeys (tickKeylen ctx) (some blob)) =
        ({ ctx with
          tickKeyName := ctx.tickKeyName.copy blob 0
          tickHmacKey := ctx.tickHmacKey.copy blob ctx.tickKeyName.size
          tickAesKey := ctx.tickAesKey.copy blob (ctx.tickKeyName.size + ctx.tickHmacKey.size) },
          1, .nothing) := by
      simp [ssl3CtxCtrl, tlsextTicketKeys]
    dsimp only
    rw [set]
    refine ⟨rfl, ?_⟩
    rw [← tickKeylen_set ctx blob, getTlsextTicketKeys_eq]
    simp only [FixedBytes.bytes_copy]
    rw [readBytes_three blob _ _ _ fits]
  · have name := ctx.tickKeyName.length_bytes
    have hmac := ctx.tickHmacKey.length_bytes
    simp only [ssl3CtxCtrl, tlsextTicketKeys]
    rw [FixedBytes.copy_of_readBytes _ _ _ (by rw [List.append_assoc, ← name, readBytes_zero_append]),
      FixedBytes.copy_of_readBytes _ _ _ (by rw [← name, ← hmac, readBytes_middle]),
      FixedBytes.copy_of_readBytes _ _ _ (by rw [← name, ← hmac, ← List.length_append,
        ← ctx.tickAesKey.length_bytes, readBytes_append])]
    simp

theorem tlsextTicketKeys_round_trip_zero_keys :
    (List.replicate 80 (7 : UInt8)).length = tickKeylen SslCtx.zeroKeys ∧
      (ssl3CtxCtrl Consts.release ⟨true, true, true, fun _ c => (c, 0)⟩
        (ssl3CtxCtrl Consts.release ⟨true, true, true, fun _ c => (c, 0)⟩ SslCtx.zeroKeys
          (.setTlsextTicketKeys 80 (some (List.replicate 80 7)))).1
        (.getTlsextTicketKeys 80 true)).2 = (1, .bytes (some (List.replicate 80 7))) :=
  ⟨rfl, ((tlsextTicketKeys_round_trip Consts.release ⟨true, true, true, fun _ c => (c, 0)⟩ SslCtx.zeroKeys).1
    (List.replicate 80 7) rfl).2⟩

end S3Lib.TicketKeys
