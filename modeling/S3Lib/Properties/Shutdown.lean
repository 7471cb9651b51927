import S3Lib.Model.Io

/-! # Runs of `ssl3_shutdown`

A run is a sequence of `ssl3_shutdown` calls on one connection, each against its own behaviour
of the record layer. What the close-notify exchange promises of every call is `CallSound`; one
call keeps it (`ssl3Shutdown_sound`), and since the sent bit, once set, stays set, only the first
call of a run from a connection with no shutdown bits queues the close-notify.
-/

namespace S3Lib.ShutdownRun

open S3Lib

/-- One `ssl3_shutdown` call of a run: the state it starts from, what it returns, the state it
leaves and the calls it makes. -/
structure ShutdownCall where
  before : Ssl
  after : Ssl
  ret : Int
  events : List Event

/-- The calls of a run, one environment each. -/
def shutdownCalls : Ssl → List ShutdownEnv → List ShutdownCall
  | _, [] => []
  | s, env :: envs =>
    let r := ssl3Shutdown env s
    ⟨s, r.1, r.2.1, r.2.2⟩ :: shutdownCalls r.1 envs

/-- The shutdown bits of `b` include those of `a`. -/
def bitsLe (a b : Shutdown) : Prop := (a.sent = true → b.sent = true) ∧
  (a.received = true → b.received = true)

/-- What the close-notify exchange promises of one call: the close-notify is queued once when the
call starts without the sent bit and never otherwise; the peer is read only after the
close-notify went out and with no alert pending; no shutdown bit is cleared; afterwards the
close-notify counts as sent; `1` means both directions are closed and nothing is pending; `-1`
means an alert is still queued, or the read did not see the peer's close-notify. -/
structure CallSound (c : ShutdownCall) : Prop where
  send_count : c.events.count .sendCloseNotify = if c.before.shutdown.sent then 0 else 1
  read_guard : Event.readBytes false ∈ c.events →
    c.before.shutdown.sent = true ∧ c.before.s3.alertDispatch = false
  bits_mono : bitsLe c.before.shutdown c.after.shutdown
  sent_after : c.after.shutdown.sent = true
  ret_one : c.ret = 1 → c.after.shutdown.sent = true ∧ c.after.shutdown.received = true ∧
    c.after.s3.alertDispatch = false
  ret_neg : c.ret = -1 → c.after.s3.alertDispatch = true ∨
    (Event.readBytes false ∈ c.events ∧ c.after.shutdown.received = false)

/-- What one branch of `ssl3_shutdown` does: the four cases of the `if`/`else if` chain. -/
private theorem shutdownBranch_cases (env : ShutdownEnv) (s : Ssl) :
    let r := shutdownBranch env s
    (s.shutdown.sent = false ∧ r.1.shutdown = { s.shutdown with sent := true } ∧
      r.1.s3.alertDispatch = env.alertQueued ∧ r.2.1 = [.sendCloseNotify] ∧
      r.2.2 = if env.alertQueued then some (-1) else none) ∨
    (s.shutdown.sent = true ∧ s.s3.alertDispatch = true ∧ r.1.shutdown = s.shutdown ∧
      r.1.s3.alertDispatch = decide (env.dispatchRet ≤ 0) ∧ r.2.1 = [.dispatchAlert] ∧
      r.2.2 = if env.dispatchRet = -1 then some env.dispatchRet else none) ∨
    (s.shutdown.sent = true ∧ s.s3.alertDispatch = false ∧ s.shutdown.received = false ∧
      r.1.shutdown = { s.shutdown with received := env.peerCloseNotify } ∧
      r.1.s3.alertDispatch = env.readQueuesAlert ∧ r.2.1 = [.readBytes false] ∧
      r.2.2 = if env.peerCloseNotify then none else some (-1)) ∨
    (s.shutdown.sent = true ∧ s.s3.alertDispatch = false ∧ s.shutdown.received = true ∧
      r.1 = s ∧ r.2.1 = [] ∧ r.2.2 = none) := by
  unfold shutdownBranch
  cases hs : s.shutdown.sent
  · simp [hs]
  · cases ha : s.s3.alertDispatch
    · cases hr : s.shutdown.received
      · cases env.peerCloseNotify <;> simp [hs, ha, hr]
      · simp [hs, ha, hr]
    · simp [hs, ha]

/-- Away from the quiet path, `ssl3_shutdown` returns what its branch returns early, else the
result of its final test. -/
private theorem ssl3Shutdown_eq (env : ShutdownEnv) (s : Ssl) (loud : s.quietShutdown = false)
    (started : s.inBefore = false) :
    ssl3Shutdown env s = ((shutdownBranch env s).1,
      ((shutdownBranch env s).2.2.getD
        (if (shutdownBranch env s).1.shutdown.sent && (shutdownBranch env s).1.shutdown.received &&
          !(shutdownBranch env s).1.s3.alertDispatch then 1 else 0)),
      (shutdownBranch env s).2.1) := by
  simp only [ssl3Shutdown, loud, started, Bool.or_false, Bool.false_eq_true, if_false]
  cases (shutdownBranch env s).2.2 <;> rfl

/-- Every call on a connection that is neither quiet nor in its initial state keeps the
promises, whatever the record layer does. -/
theorem ssl3Shutdown_sound (env : ShutdownEnv) (s : Ssl) (loud : s.quietShutdown = false)
    (started : s.inBefore = false) :
    CallSound ⟨s, (ssl3Shutdown env s).1, (ssl3Shutdown env s).2.1, (ssl3Shutdown env s).2.2⟩ := by
  rw [ssl3Shutdown_eq env s loud started]
  have cases := shutdownBranch_cases env s
  generalize shutdownBranch env s = r at cases ⊢
  rcases cases with
    ⟨hs, hsh, ha, hev, hret⟩ | ⟨hs, hd, hsh, ha, hev, hret⟩ | ⟨hs, hd, hr, hsh, ha, hev, hret⟩ |
      ⟨hs, hd, hr, hsame, hev, hret⟩
  · constructor <;> simp [hs, hsh, ha, hev, hret, bitsLe] <;>
      cases env.alertQueued <;> simp [ite_eq_iff]
  · by_cases blocked : env.dispatchRet = -1
    · constructor <;> simp [hs, hd, hsh, ha, hev, hret, blocked, bitsLe]
    · constructor <;> simp [hs, hd, hsh, ha, hev, hret, blocked, bitsLe]
      split <;> omega
  · constructor <;> simp [hs, hd, hr, hsh, ha, hev, hret, bitsLe] <;>
      cases env.peerCloseNotify <;> simp [ite_eq_iff]
  · constructor <;> simp [hs, hd, hr, hsame, hev, hret, bitsLe]

/-- `ssl3_shutdown` leaves the quiet flag and the initial-state flag alone. -/
private theorem ssl3Shutdown_flags (env : ShutdownEnv) (s : Ssl) :
    (ssl3Shutdown env s).1.quietShutdown = s.quietShutdown ∧
      (ssl3Shutdown env s).1.inBefore = s.inBefore := by
  have branch : (shutdownBranch env s).1.quietShutdown = s.quietShutdown ∧
      (shutdownBranch env s).1.inBefore = s.inBefore := by
    unfold shutdownBranch
    cases s.shutdown.sent <;> cases s.s3.alertDispatch <;> cases s.shutdown.received <;>
      exact ⟨rfl, rfl⟩
  unfold ssl3Shutdown
  split_ifs
  · exact ⟨rfl, rfl⟩
  · dsimp only
    split <;> exact branch

/-- On a connection whose shutdown is complete, both bits set and no alert pending, a call returns
`1`, changes nothing and calls nothing. -/
private theorem ssl3Shutdown_complete (env : ShutdownEnv) (s : Ssl) (sent : s.shutdown.sent = true)
    (received : s.shutdown.received = true) (idle : s.s3.alertDispatch = false) :
    ssl3Shutdown env s = (s, 1, []) := by
  have bits : s.shutdown = { sent := true, received := true } := by
    cases h : s.shutdown
    simp_all
  cases path : s.quietShutdown || s.inBefore
  · simp only [ssl3Shutdown, path, shutdownBranch, sent, received, idle, Bool.not_true,
      Bool.false_eq_true, if_false, Bool.and_self, Bool.not_false, if_true]
  · simp only [ssl3Shutdown, path, if_true, ← bits]

/-- Once `ssl3_shutdown` has returned `1`, calling it again returns `1`, leaves the connection as it
is and calls nothing in the record layer, whatever the record layer would do this time. -/
theorem ssl3Shutdown_stable (env env' : ShutdownEnv) (s : Ssl)
    (done : (ssl3Shutdown env s).2.1 = 1) :
    ssl3Shutdown env' (ssl3Shutdown env s).1 = ((ssl3Shutdown env s).1, 1, []) := by
  cases path : s.quietShutdown || s.inBefore
  · obtain ⟨loud, started⟩ := Bool.or_eq_false_iff.mp path
    obtain ⟨sent, received, idle⟩ := (ssl3Shutdown_sound env s loud started).ret_one done
    exact ssl3Shutdown_complete env' _ sent received idle
  · simp only [ssl3Shutdown, path, if_true]

theorem ssl3Shutdown_stable_after_read :
    let s : Ssl := { ctx := SslCtx.zeroKeys, shutdown := { sent := true } }
    (ssl3Shutdown ⟨false, 1, true, false⟩ s).2.1 = 1 ∧
      ssl3Shutdown ⟨true, -1, false, true⟩ (ssl3Shutdown ⟨false, 1, true, false⟩ s).1 =
        ((ssl3Shutdown ⟨false, 1, true, false⟩ s).1, 1, []) :=
  ⟨rfl, ssl3Shutdown_stable _ _ _ rfl⟩

/-- Every call of a run from a connection that is neither quiet nor in its initial state keeps
the promises. -/
private theorem shutdownCalls_sound (envs : List ShutdownEnv) : ∀ (s : Ssl),
    s.quietShutdown = false → s.inBefore = false → ∀ c ∈ shutdownCalls s envs, CallSound c := by
  induction envs with
  | nil => simp [shutdownCalls]
  | cons env rest ih =>
    intro s loud started c mem
    obtain ⟨quiet', before'⟩ := ssl3Shutdown_flags env s
    simp only [shutdownCalls, List.mem_cons] at mem
    rcases mem with rfl | mem
    · exact ssl3Shutdown_sound env s loud started
    · exact ih _ (quiet'.trans loud) (before'.trans started) c mem

/-- Once the close-notify is marked sent, no call of the run queues it again. -/
private theorem shutdownCalls_no_send (envs : List ShutdownEnv) (s : Ssl) (loud : s.quietShutdown = false)
    (started : s.inBefore = false) (sent : s.shutdown.sent = true) :
    ∀ c ∈ shutdownCalls s envs, c.events.count .sendCloseNotify = 0 := by
  induction envs generalizing s with
  | nil => simp [shutdownCalls]
  | cons env rest ih =>
    intro c mem
    have sound := ssl3Shutdown_sound env s loud started
    obtain ⟨quiet', before'⟩ := ssl3Shutdown_flags env s
    simp only [shutdownCalls, List.mem_cons] at mem
    rcases mem with rfl | mem
    · simpa [sent] using sound.send_count
    · exact ih _ (quiet'.trans loud) (before'.trans started) sound.sent_after c mem

/-- What is promised of a whole run: the first call queues the close-notify exactly once and no
other call queues it, and every call keeps the promises of `CallSound`. -/
def RunSound (calls : List ShutdownCall) : Prop :=
  (∀ i (h : i < calls.length), calls[i].events.count .sendCloseNotify = if i = 0 then 1 else 0) ∧
    ∀ c ∈ calls, CallSound c

/-- A run of `ssl3_shutdown` calls from a connection with no shutdown bits, neither quiet nor in
its initial state, is sound whatever the record layer does. -/
theorem ssl3Shutdown_run (s : Ssl) (envs : List ShutdownEnv) (loud : s.quietShutdown = false)
    (started : s.inBefore = false) (fresh : s.shutdown = {}) :
    RunSound (shutdownCalls s envs) := by
  refine ⟨?_, shutdownCalls_sound envs s loud started⟩
  cases envs with
  | nil => simp [shutdownCalls]
  | cons env rest =>
    have sound := ssl3Shutdown_sound env s loud started
    obtain ⟨quiet', before'⟩ := ssl3Shutdown_flags env s
    intro i h
    cases i with
    | zero => simpa [shutdownCalls, fresh] using sound.send_count
    | succ j =>
      simp only [shutdownCalls, List.getElem_cons_succ, Nat.succ_ne_zero, if_false]
      exact shutdownCalls_no_send rest _ (quiet'.trans loud) (before'.trans started)
        sound.sent_after _ (List.getElem_mem _)

theorem ssl3Shutdown_run_blocked_write :
    let s : Ssl := { ctx := SslCtx.zeroKeys }
    (s.quietShutdown = false ∧ s.inBefore = false ∧ s.shutdown = {}) ∧
      RunSound (shutdownCalls s [⟨true, -1, false, false⟩, ⟨false, 1, false, false⟩,
        ⟨false, 1, true, false⟩]) :=
  ⟨⟨rfl, rfl, rfl⟩, ssl3Shutdown_run _ _ rfl rfl rfl⟩

end S3Lib.ShutdownRun
