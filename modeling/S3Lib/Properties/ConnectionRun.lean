import S3Lib.Properties.Configuration
import S3Lib.Properties.Shutdown

/-! # The shutdown flags over runs of a connection

`s->shutdown` records that the close-notify went out (`SSL_SENT_SHUTDOWN`) and that the peer's
came in (`SSL_RECEIVED_SHUTDOWN`). The entry points of `s3_lib.c` only ever set these bits:
`ssl3_shutdown` sets them, `ssl3_read` and `ssl3_peek` set the received bit when the record layer
sees the peer's close-notify or a fatal alert, `ssl3_clear` zeroes `s->s3` but not `s->shutdown`,
and no control command writes it. So over any run of a connection no shutdown bit is ever
cleared. The functions outside `s3_lib.c` that a control command calls are assumed to leave the
bits alone.
-/

namespace S3Lib.ConnectionRun

open S3Lib S3Lib.Configuration S3Lib.ShutdownRun

private theorem bitsLe_refl (a : Shutdown) : bitsLe a a := ⟨id, id⟩

private theorem bitsLe_trans {a b c : Shutdown} (ab : bitsLe a b) (bc : bitsLe b c) : bitsLe a c :=
  ⟨bc.1 ∘ ab.1, bc.2 ∘ ab.2⟩

private theorem bitsLe_receive (a : Shutdown) (closed : Bool) : bitsLe a (a.receive closed) :=
  ⟨id, fun received => by simp [Shutdown.receive, received]⟩

/-- The library functions leave the shutdown bits alone. -/
def LibKeepsShutdown (lib : SslLib) : Prop := ∀ call s, (lib.call call s).1.shutdown = s.shutdown

/-! ### One entry point -/

private theorem setTlsextHostname_shutdown (k : Consts) (allocOk : Bool) (s : Ssl) (larg : Int)
    (name : Option (List UInt8)) : (setTlsextHostname k allocOk s larg name).1.shutdown = s.shutdown := by
  unfold setTlsextHostname
  split
  · split
    · rfl
    · split_ifs <;> rfl
  · rfl

/-- No command of `ssl3_ctrl` writes the shutdown bits, given that its library functions do not. -/
private theorem ssl3Ctrl_shutdown {k : Consts} {lib : SslLib} {nids : NidMap} {s : Ssl}
    {cmd : SslCtrl} {r : Ssl × Int × Written} (keeps : LibKeepsShutdown lib)
    (ran : ssl3Ctrl k lib nids s cmd = some r) : r.1.shutdown = s.shutdown := by
  rcases ssl3Ctrl_cases k lib nids s cmd with ⟨-, -, -, faults⟩ | ⟨r', ran', effect⟩
  · cases ran.symm.trans faults
  obtain rfl : r' = r := Option.some.inj (ran'.symm.trans ran)
  rcases effect with ⟨call, called⟩ | ⟨larg, name, -, set⟩ | ⟨larg, types, -, set⟩ | framed
  · exact called ▸ keeps call s
  · exact set ▸ setTlsextHostname_shutdown k lib.allocOk s larg name
  · rw [set]
  · rw [framed]

private theorem checkPendingRenegotiation_shutdown (rl : RecordStatus) (s : Ssl) :
    (checkPendingRenegotiation rl s).1.shutdown = s.shutdown := by
  unfold checkPendingRenegotiation ssl3RenegotiateCheck
  split_ifs <;> rfl

/-- `ssl3_read` and `ssl3_peek` only set the received bit. -/
private theorem ssl3ReadInternal_bitsLe (rl : RecordStatus) (out : ReadOutcome) (s : Ssl)
    (peek : Bool) : bitsLe s.shutdown (ssl3ReadInternal rl out s peek).1.shutdown := by
  unfold ssl3ReadInternal
  dsimp only
  rw [← checkPendingRenegotiation_shutdown rl s]
  split_ifs <;> first
    | exact bitsLe_receive _ out.closed
    | exact bitsLe_trans (bitsLe_receive _ out.closed) (bitsLe_receive _ out.retryClosed)

/-- `ssl3_shutdown` only sets bits. -/
private theorem ssl3Shutdown_bitsLe (env : ShutdownEnv) (s : Ssl) :
    bitsLe s.shutdown (ssl3Shutdown env s).1.shutdown := by
  cases quiet : s.quietShutdown
  · cases started : s.inBefore
    · exact (ssl3Shutdown_sound env s quiet started).bits_mono
    · simp only [ssl3Shutdown, quiet, started, Bool.or_true, if_true]
      exact ⟨fun _ => rfl, fun _ => rfl⟩
  · simp only [ssl3Shutdown, quiet, Bool.true_or, if_true]
    exact ⟨fun _ => rfl, fun _ => rfl⟩

/-- Every entry point only sets shutdown bits. -/
private theorem connStep_bitsLe {k : Consts} {nids : NidMap} {s s' : Ssl} {op : ConnOp}
    (keeps : ∀ lib cmd, op = .ctrl lib cmd → LibKeepsShutdown lib)
    (step : connStep k nids s op = some s') : bitsLe s.shutdown s'.shutdown := by
  cases op with
  | ctrl lib cmd =>
    obtain ⟨r, ran, rfl⟩ := Option.map_eq_some'.mp step
    exact ssl3Ctrl_shutdown (keeps lib cmd rfl) ran ▸ bitsLe_refl _
  | renegotiate =>
    cases step
    unfold ssl3Renegotiate
    split <;> exact bitsLe_refl _
  | check rl initok =>
    cases step
    unfold ssl3RenegotiateCheck
    split <;> exact bitsLe_refl _
  | read rl out => cases step; exact ssl3ReadInternal_bitsLe rl out s false
  | peek rl out => cases step; exact ssl3ReadInternal_bitsLe rl out s true
  | write rl written => cases step; exact checkPendingRenegotiation_shutdown rl s ▸ bitsLe_refl _
  | shutdown env => cases step; exact ssl3Shutdown_bitsLe env s
  | clear wbioOk => cases step; cases wbioOk <;> exact bitsLe_refl _

/-! ### Runs -/

/-- Over any run of a connection whose control commands' library functions leave the shutdown
bits alone, no shutdown bit is ever cleared: every state the run reaches has every bit the first
one has. -/
theorem connRun_shutdown_monotone (k : Consts) (nids : NidMap) (s : Ssl) (ops : List ConnOp)
    (keeps : ∀ lib cmd, ConnOp.ctrl lib cmd ∈ ops → LibKeepsShutdown lib) :
    ∀ s' ∈ connRun k nids s ops, bitsLe s.shutdown s'.shutdown := by
  induction ops generalizing s with
  | nil =>
    rintro s' ⟨⟩
    exact bitsLe_refl _
  | cons op ops ih =>
    intro s' reached
    obtain ⟨next, step, rest⟩ := Option.bind_eq_some.mp reached
    have here := connStep_bitsLe (fun lib cmd same => keeps lib cmd (same ▸ List.mem_cons_self _ _)) step
    exact bitsLe_trans here (ih next (fun lib cmd mem => keeps lib cmd (List.mem_cons_of_mem _ mem)) s' rest)

theorem connRun_shutdown_monotone_fresh :
    let s : Ssl := { ctx := SslCtx.zeroKeys }
    let lib : SslLib := ⟨true, fun _ s => (s, 0), fun _ _ => 0⟩
    let ops := [ConnOp.shutdown ⟨false, 1, true, false⟩, .ctrl lib (.setTlsextHostname 0 (some [0x61])),
      .read ⟨false, false, false⟩ ⟨0, false, true, 0, false⟩, .clear true,
      .shutdown ⟨false, 1, false, false⟩]
    (∀ l cmd, ConnOp.ctrl l cmd ∈ ops → LibKeepsShutdown l) ∧
      ∀ s' ∈ connRun Consts.release ⟨fun _ => 0, fun _ => 0, 0x1000000, fun _ => false⟩ s ops,
        bitsLe s.shutdown s'.shutdown := by
  intro s lib ops
  have keeps : ∀ l cmd, ConnOp.ctrl l cmd ∈ ops → LibKeepsShutdown l := by
    intro l cmd mem
    simp only [ops, List.mem_cons, ConnOp.ctrl.injEq, reduceCtorEq, List.mem_nil_iff, or_false,
      false_or] at mem
    obtain ⟨rfl, -⟩ := mem
    exact fun _ _ => rfl
  exact ⟨keeps, connRun_shutdown_monotone _ _ _ ops keeps⟩

end S3Lib.ConnectionRun
