import S3Lib.Model.State

/-! # Shutdown, application data and renegotiation requests

`ssl3_shutdown`, `ssl3_write`, `ssl3_read`/`ssl3_peek` and the renegotiation flag and counters.
The record layer and the handshake state machine are outside `s3_lib.c`: what they report to
one call is an argument (`RecordStatus`, `ReadOutcome`, `ShutdownEnv`), and each call into them
is an `Event`.
-/

namespace S3Lib

/-- What the record layer and the state machine report to `ssl3_renegotiate_check`:
`RECORD_LAYER_read_pending(&s->rlayer)`, `RECORD_LAYER_write_pending(&s->rlayer)` and
`SSL_in_init(s)`. -/
structure RecordStatus where
  readPending : Bool
  writePending : Bool
  inInit : Bool
deriving DecidableEq, Repr

/-- `ssl3_renegotiate(s)`. -/
def ssl3Renegotiate (s : Ssl) : Ssl × Int :=
  if !s.handshakeFunc then (s, 1)
  else ({ s with s3 := { s.s3 with renegotiate := true } }, 1)

/-- `ssl3_renegotiate_check(s, initok)`. -/
def ssl3RenegotiateCheck (rl : RecordStatus) (s : Ssl) (initok : Bool) : Ssl × Int × List Event :=
  if s.s3.renegotiate && !rl.readPending && !rl.writePending && (initok || !rl.inInit) then
    let s3 := { s.s3 with
      renegotiate := false
      numRenegotiations := s.s3.numRenegotiations + 1
      totalRenegotiations := s.s3.totalRenegotiations + 1 }
    ({ s with s3 := s3 }, 1, [.statemSetRenegotiate])
  else (s, 0, [])

/-- The opportunistic `if (s->s3.renegotiate) ssl3_renegotiate_check(s, 0)` of the I/O entry
points; its return value is dropped. -/
def checkPendingRenegotiation (rl : RecordStatus) (s : Ssl) : Ssl × List Event :=
  if s.s3.renegotiate then
    let r := ssl3RenegotiateCheck rl s false
    (r.1, r.2.2)
  else (s, [])

/-- `ssl3_write`, where the record layer's `ssl_write_bytes` returns `written`. -/
def ssl3Write (rl : RecordStatus) (written : Int) (s : Ssl) : Ssl × Int × List Event :=
  let r := checkPendingRenegotiation rl s
  (r.1, written, r.2 ++ [.writeBytes])

/-- What the record layer's `ssl_read_bytes` does in one `ssl3_read` or `ssl3_peek`: what the
first read returns; whether it ran the handshake, which found application data and set
`in_read_app_data` to `2` (`reentered`); whether it saw the peer's close-notify or a fatal alert
and set `SSL_RECEIVED_SHUTDOWN` (`closed`); and the same two for the second read (`retryRet`,
`retryClosed`). -/
structure ReadOutcome where
  ret : Int
  reentered : Bool
  closed : Bool
  retryRet : Int
  retryClosed : Bool
deriving DecidableEq, Repr

/-- `s->shutdown |= SSL_RECEIVED_SHUTDOWN` when `closed`. -/
def Shutdown.receive (sh : Shutdown) (closed : Bool) : Shutdown :=
  { sh with received := sh.received || closed }

/-- `ssl3_read_internal(s, buf, len, peek, readbytes)`. -/
def ssl3ReadInternal (rl : RecordStatus) (out : ReadOutcome) (s : Ssl) (peek : Bool) :
    Ssl × Int × List Event :=
  let r := checkPendingRenegotiation rl s
  let s := { r.1 with
    s3 := { r.1.s3 with inReadAppData := if out.reentered then 2 else 1 }
    shutdown := r.1.shutdown.receive out.closed }
  if out.ret == -1 && s.s3.inReadAppData == 2 then
    ({ s with shutdown := s.shutdown.receive out.retryClosed }, out.retryRet,
      r.2 ++ [.readBytes peek, .readBytes peek])
  else ({ s with s3 := { s.s3 with inReadAppData := 0 } }, out.ret, r.2 ++ [.readBytes peek])

/-- `ssl3_read`. -/
def ssl3Read (rl : RecordStatus) (out : ReadOutcome) (s : Ssl) : Ssl × Int × List Event :=
  ssl3ReadInternal rl out s false

/-- `ssl3_peek`. -/
def ssl3Peek (rl : RecordStatus) (out : ReadOutcome) (s : Ssl) : Ssl × Int × List Event :=
  ssl3ReadInternal rl out s true

/-- What `ssl3_send_alert`, `ssl_dispatch_alert` and the zero-length `ssl_read_bytes` do in one
`ssl3_shutdown` call: whether `ssl3_send_alert` leaves the close-notify queued (`s3.alert_dispatch`
set); what `ssl_dispatch_alert` returns (`ssl3_dispatch_alert` leaves the alert queued exactly when
its record write returns a value `≤ 0`); whether the read observes the peer's close-notify and
sets `SSL_RECEIVED_SHUTDOWN`; and whether the read queues an alert of its own. -/
structure ShutdownEnv where
  alertQueued : Bool
  dispatchRet : Int
  peerCloseNotify : Bool
  readQueuesAlert : Bool
deriving DecidableEq, Repr

/-- The branch of `ssl3_shutdown` taken before its final test: the state, the events, and the
value returned early, if any. -/
def shutdownBranch (env : ShutdownEnv) (s : Ssl) : Ssl × List Event × Option Int :=
  if !s.shutdown.sent then
    let s := { s with
      shutdown := { s.shutdown with sent := true }
      s3 := { s.s3 with alertDispatch := env.alertQueued } }
    (s, [.sendCloseNotify], if s.s3.alertDispatch then some (-1) else none)
  else if s.s3.alertDispatch then
    let s := { s with s3 := { s.s3 with alertDispatch := decide (env.dispatchRet ≤ 0) } }
    (s, [.dispatchAlert], if env.dispatchRet == -1 then some env.dispatchRet else none)
  else if !s.shutdown.received then
    let s := { s with
      shutdown := { s.shutdown with received := env.peerCloseNotify }
      s3 := { s.s3 with alertDispatch := env.readQueuesAlert } }
    (s, [.readBytes false], if !s.shutdown.received then some (-1) else none)
  else (s, [], none)

/-- `ssl3_shutdown(s)`. -/
def ssl3Shutdown (env : ShutdownEnv) (s : Ssl) : Ssl × Int × List Event :=
  if s.quietShutdown || s.inBefore then
    ({ s with shutdown := { sent := true, received := true } }, 1, [])
  else
    let r := shutdownBranch env s
    match r.2.2 with
    | some ret => (r.1, ret, r.2.1)
    | none =>
      (r.1, if r.1.shutdown.sent && r.1.shutdown.received && !r.1.s3.alertDispatch then 1 else 0,
        r.2.1)

end S3Lib
