import NeoNode.Network.Discovery.Run

namespace neogo.network

namespace Discovery

variable {Capabilities : Type} {s s' : Discovery Capabilities}

/-- How `requestCh`, `isDead` and `run` stay in step: once `Close` has passed
    its lock no `RequestRemote` is sending, only `Close` closes the channel,
    and `ok` is false only before `run`'s first receive or once the channel is
    closed. -/
structure RequestChInv (s : Discovery Capabilities) : Prop where
  dead_sending : s.isDead = true → s.sending = []
  closePc_dead : s.closePc ≠ .idle → s.isDead = true
  closed_closePc : s.chanClosed = true → s.closePc = .closed
  not_ok : s.run.ok = false → s.chanClosed = true ∨ (s.run.pc = .outer ∧ s.run.requested = 0)
  exited_not_ok : s.run.pc = .exited → s.run.ok = false

theorem requestChInv_init (seeds : List String) :
    (init seeds : Discovery Capabilities).RequestChInv :=
  ⟨nofun, fun h => absurd rfl h, nofun, fun _ => .inr ⟨rfl, rfl⟩, nofun⟩

theorem RequestChInv.step (h : s.RequestChInv) (hstep : Step s s') : s'.RequestChInv := by
  obtain ⟨hdead, hpc, hclosed, hnok, hexit⟩ := h
  -- `run` leaving `pc` keeps `ok = false` only with the channel closed
  have hleave : ∀ {pc}, s.run.pc = pc → pc ≠ .outer → s.run.ok = false →
      s.chanClosed = true :=
    fun hpc' hne hf => (hnok hf).resolve_right fun h2 => hne (hpc'.symm.trans h2.1)
  cases hstep with
  | BackFill | RegisterBadAddr | RegisterGoodAddr | RegisterConnectedAddr
  | UnregisterConnectedAddr | RequestRemote | requestDead | requestUnlock | dialDone
  | dialFailed =>
    exact ⟨hdead, hpc, hclosed, hnok, hexit⟩
  | requestAlive n _ halive =>
    exact ⟨fun hd => Bool.noConfusion (halive.symm.trans hd), hpc, hclosed, hnok, hexit⟩
  | Close hidle hsend =>
    exact ⟨fun _ => hsend, fun _ => rfl, (fun hc => nomatch (hclosed hc).symm.trans hidle), hnok,
      hexit⟩
  | closeDrain n hdrain =>
    exact ⟨fun hd => by simp [hdead hd], fun _ => hpc (by simp [hdrain]),
      (fun hc => nomatch (hclosed hc).symm.trans hdrain), hnok, hexit⟩
  | closeDrainEmpty hdrain =>
    exact ⟨hdead, fun _ => hpc (by simp [hdrain]),
      (fun hc => nomatch (hclosed hc).symm.trans hdrain), hnok, hexit⟩
  | closeChan hclosing =>
    exact ⟨hdead, fun _ => hpc (by simp [hclosing]), fun _ => rfl, fun _ => .inl rfl, hexit⟩
  | runReceive n =>
    exact ⟨fun hd => by simp [hdead hd], hpc, hclosed, Bool.noConfusion, nofun⟩
  | runReceiveClosed _ _ hcl =>
    exact ⟨hdead, hpc, hclosed, fun _ => .inl hcl, nofun⟩
  | runOuter _ hreq =>
    exact ⟨hdead, hpc, hclosed, fun hf => .inl ((hnok hf).resolve_right fun h2 => hreq h2.2),
      nofun⟩
  | runSelectRequest r hinner hok =>
    exact ⟨fun hd => by simp [hdead hd], hpc, hclosed,
      fun hf => Bool.noConfusion (hok.symm.trans hf), (fun he => nomatch hinner.symm.trans he)⟩
  | runSelectClosed hinner _ _ hcl =>
    exact ⟨hdead, hpc, hclosed, fun _ => .inl hcl, (fun he => nomatch hinner.symm.trans he)⟩
  | runSelectPool addr rest _ hok =>
    exact ⟨hdead, hpc, hclosed, fun hf => Bool.noConfusion (hok.symm.trans hf), nofun⟩
  | runTake addr htake =>
    exact ⟨hdead, hpc, hclosed, fun hf => .inl (hleave htake nofun hf), nofun⟩
  | runSelectDefault hinner hok =>
    exact ⟨hdead, hpc, hclosed, fun hf => Bool.noConfusion (hok.symm.trans hf),
      (fun he => nomatch hinner.symm.trans he)⟩
  | runInnerExit hinner =>
    exact ⟨hdead, hpc, hclosed, fun hf => .inl (hleave hinner nofun hf), nofun⟩
  | runReturn hafter hok =>
    exact ⟨hdead, hpc, hclosed, fun hf => .inl (hleave hafter nofun hf), fun _ => hok⟩
  | runRetry _ hok | runConnected _ hok =>
    exact ⟨hdead, hpc, hclosed, fun hf => Bool.noConfusion (hok.symm.trans hf), nofun⟩

/-- Under every interleaving of `RequestRemote` calls (the server's and those
    of failed dials), one `Close` and `run`: once `Close` has marked the
    discoverer dead no `RequestRemote` is blocked sending, so none is when
    `requestCh` is closed (a send on a closed channel panics); the channel is
    closed only after `isDead` is set; and `run` returns only once the channel
    is closed, so a blocked `RequestRemote` always has `run` to receive it. -/
theorem Reachable.requestCh_safe (h : s.Reachable) :
    (s.isDead = true → s.sending = []) ∧ (s.chanClosed = true → s.isDead = true) ∧
      (s.run.pc = .exited → s.chanClosed = true) := by
  have hinv := h.of_step requestChInv_init fun _ _ hi hst => hi.step hst
  refine ⟨hinv.dead_sending, fun hc => hinv.closePc_dead ?_, fun he => ?_⟩
  · rw [hinv.closed_closePc hc]
    exact nofun
  · exact (hinv.not_ok (hinv.exited_not_ok he)).resolve_right
      fun h2 => nomatch he.symm.trans h2.1

/-- The discoverer of seed `"seed"` after `Close` ran to its end and `run`
    returned. -/
def closedRun : Discovery Unit :=
  ⟨NewDefaultDiscovery ["seed"], true, true, ⟨.exited, 0, 0, false⟩, .closed, [], [], [], [], 0, [], []⟩

theorem Reachable.requestCh_safe_closed :
    (closedRun.isDead = true → closedRun.sending = []) ∧
    (closedRun.chanClosed = true → closedRun.isDead = true) ∧
    (closedRun.run.pc = .exited → closedRun.chanClosed = true) :=
  Reachable.requestCh_safe ⟨["seed"], .tail (.tail (.tail (.tail (.tail (.single
    (.Close _ rfl rfl rfl)) (.closeDrainEmpty _ rfl rfl)) (.closeChan _ rfl))
    (.runReceiveClosed _ rfl rfl rfl)) (.runInnerExit _ rfl (by decide))) (.runReturn _ rfl rfl)⟩

/-- `run`'s request counters against the `RequestRemote` arguments: every
    value in flight is one of the arguments, the pool case holds a positive
    request, and with non-negative arguments both counters are non-negative. -/
structure RequestedInv (s : Discovery Capabilities) : Prop where
  pending : ∀ n, n ∈ s.waiting ∨ n ∈ s.sending → n ∈ s.calls
  take_pos : ∀ addr, s.run.pc = .take addr → 0 < s.run.requested
  nonneg : (∀ n ∈ s.calls, 0 ≤ n) → 0 ≤ s.run.requested ∧ 0 ≤ s.run.oldRequest
  outer_ok : s.run.pc = .outer → s.run.ok = true ∨ s.run.requested = 0

theorem requestedInv_init (seeds : List String) :
    (init seeds : Discovery Capabilities).RequestedInv :=
  ⟨fun _ h => by simp [init] at h, nofun, fun _ => ⟨le_rfl, le_rfl⟩, fun _ => .inr rfl⟩

/-- A call's argument joins the calls and the waiting callers. -/
theorem RequestedInv.call (h : s.RequestedInv) (n : Int) :
    ({ s with waiting := s.waiting ++ [n], calls := s.calls ++ [n] } :
      Discovery Capabilities).RequestedInv := by
  refine ⟨fun m hm => ?_, h.take_pos, fun hall => h.nonneg fun m hm => hall m (by simp [hm]),
    h.outer_ok⟩
  simp only [List.mem_append, List.mem_singleton] at hm ⊢
  rcases hm with (hm | rfl) | hm
  exacts [.inl (h.pending m (.inl hm)), .inr rfl, .inl (h.pending m (.inr hm))]

theorem RequestedInv.step (h : s.RequestedInv) (hstep : Step s s') : s'.RequestedInv := by
  obtain ⟨hpend, htake, hnn, hout⟩ := h
  -- a value received from a sender is one of the arguments
  have hsent : ∀ {n}, n ∈ s.sending →
      ∀ m, m ∈ s.waiting ∨ m ∈ s.sending.erase n → m ∈ s.calls :=
    fun _ m hm => hpend m (hm.imp_right List.mem_of_mem_erase)
  cases hstep with
  | BackFill | RegisterBadAddr | RegisterGoodAddr | RegisterConnectedAddr
  | UnregisterConnectedAddr | requestUnlock | dialDone =>
    exact ⟨hpend, htake, hnn, hout⟩
  | RequestRemote n => exact RequestedInv.call ⟨hpend, htake, hnn, hout⟩ n
  | dialFailed addr =>
    have hcall := RequestedInv.call ⟨hpend, htake, hnn, hout⟩ 1
    exact ⟨hcall.1, hcall.2, hcall.3, hcall.4⟩
  | requestAlive n hn =>
    refine ⟨fun m hm => ?_, htake, hnn, hout⟩
    rcases hm with hm | hm
    · exact hpend m (.inl (List.mem_of_mem_erase hm))
    · rcases List.mem_append.1 hm with hm | hm
      · exact hpend m (.inr hm)
      · exact List.mem_singleton.1 hm ▸ hpend n (.inl hn)
  | requestDead n =>
    exact ⟨fun m hm => hpend m (hm.imp_left List.mem_of_mem_erase), htake, hnn, hout⟩
  | closeDrain n _ hn => exact ⟨hsent hn, htake, hnn, hout⟩
  | closeDrainEmpty | Close | closeChan => exact ⟨hpend, htake, hnn, hout⟩
  | runReceive n _ _ hn =>
    exact ⟨hsent hn, nofun, fun hall => ⟨hall n (hpend n (.inr hn)), hall n (hpend n (.inr hn))⟩,
      nofun⟩
  | runReceiveClosed => exact ⟨hpend, nofun, fun _ => ⟨le_rfl, le_rfl⟩, nofun⟩
  | runOuter => exact ⟨hpend, nofun, fun hall => ⟨(hnn hall).1, (hnn hall).1⟩, nofun⟩
  | runSelectRequest r hinner _ _ hr =>
    refine ⟨hsent hr, (fun _ he => nomatch hinner.symm.trans he), fun hall => ⟨?_, (hnn hall).2⟩,
      (fun he => nomatch hinner.symm.trans he)⟩
    split_ifs
    exacts [hall r (hpend r (.inr hr)), (hnn hall).1]
  | runSelectClosed hinner =>
    exact ⟨hpend, (fun _ he => nomatch hinner.symm.trans he), hnn,
      (fun he => nomatch hinner.symm.trans he)⟩
  | runSelectPool _ _ _ _ hreq => exact ⟨hpend, fun _ _ => hreq, hnn, nofun⟩
  | runTake addr hpc =>
    refine ⟨hpend, nofun, fun hall => ⟨?_, (hnn hall).2⟩, nofun⟩
    have hpos := htake addr hpc
    dsimp only
    split_ifs <;> omega
  | runSelectDefault hinner =>
    refine ⟨hpend, (fun _ he => nomatch hinner.symm.trans he), fun hall => ⟨?_, (hnn hall).2⟩,
      (fun he => nomatch hinner.symm.trans he)⟩
    split_ifs
    exacts [le_rfl, (hnn hall).1]
  | runInnerExit | runReturn => exact ⟨hpend, nofun, hnn, nofun⟩
  -- `run` comes back to the head of its loop only past `if !ok { return }`
  | runConnected _ hok => exact ⟨hpend, nofun, hnn, fun _ => .inl hok⟩
  | runRetry _ hok =>
    exact ⟨hpend, nofun, fun hall => ⟨(hnn hall).2, (hnn hall).2⟩, fun _ => .inl hok⟩

/-- As long as every `RequestRemote` argument has been non-negative, `run`'s
    `requested` and `oldRequest` are non-negative in every reachable state,
    and at the head of its loop `requested` is zero, or positive with `ok`:
    there `run` either waits on `requestCh` or serves a positive request in a
    select that also receives from it. -/
theorem Reachable.requested_nonneg (h : s.Reachable) (hcalls : ∀ n ∈ s.calls, 0 ≤ n) :
    0 ≤ s.run.requested ∧ 0 ≤ s.run.oldRequest ∧
      (s.run.pc = .outer → s.run.requested = 0 ∨ 0 < s.run.requested ∧ s.run.ok = true) := by
  have hinv := h.of_step requestedInv_init fun _ _ hi hst => hi.step hst
  obtain ⟨hreq, hold⟩ := hinv.nonneg hcalls
  refine ⟨hreq, hold, fun hpc => ?_⟩
  rcases hinv.outer_ok hpc with hok | hzero
  · rcases hreq.eq_or_lt with hzero | hpos
    exacts [.inl hzero.symm, .inr ⟨hpos, hok⟩]
  · exact .inl hzero

/-- The discoverer of seed `"seed"` after `run` received `RequestRemote(3)`. -/
def receivedThree : Discovery Unit :=
  ⟨NewDefaultDiscovery ["seed"], false, false, ⟨.inner, 3, 3, true⟩, .idle, [], [], [], [], 1, [], [3]⟩

theorem Reachable.requested_nonneg_received :
    (∀ n ∈ receivedThree.calls, 0 ≤ n) ∧ 0 ≤ receivedThree.run.requested ∧
      0 ≤ receivedThree.run.oldRequest ∧
      (receivedThree.run.pc = .outer →
        receivedThree.run.requested = 0 ∨ 0 < receivedThree.run.requested ∧ receivedThree.run.ok = true) :=
  ⟨by decide, Reachable.requested_nonneg ⟨["seed"], .tail (.tail (.single (.RequestRemote _ 3))
    (.requestAlive _ 3 (List.mem_singleton_self _) rfl))
    (.runReceive _ 3 rfl rfl (List.mem_singleton_self _))⟩ (by decide)⟩

/-- `run` holds a negative request: `requested == 0` fails at the head of its
    loop and `requested > 0` fails at the inner loop, so it goes round its
    outer loop without receiving. -/
def Wedged (s : Discovery Capabilities) : Prop :=
  s.run.ok = true ∧ s.run.requested < 0 ∧ s.run.oldRequest = s.run.requested ∧
    (s.run.pc = .outer ∨ s.run.pc = .inner ∨ s.run.pc = .after)

theorem Wedged.step (hw : s.Wedged) (hidle : s.closePc = .idle) (hsend : s.sending ≠ [])
    (hstep : Step s s') : s'.Wedged ∧ s'.closePc = .idle ∧ s.sending <+: s'.sending := by
  obtain ⟨hok, hneg, hold, hpc⟩ := hw
  cases hstep with
  | BackFill | RegisterBadAddr | RegisterGoodAddr | RegisterConnectedAddr
  | UnregisterConnectedAddr | RequestRemote | requestDead | requestUnlock | dialDone
  | dialFailed =>
    exact ⟨⟨hok, hneg, hold, hpc⟩, hidle, List.prefix_refl _⟩
  | requestAlive => exact ⟨⟨hok, hneg, hold, hpc⟩, hidle, List.prefix_append _ _⟩
  | Close _ hempty => exact absurd hempty hsend
  | closeDrain _ h | closeDrainEmpty h | closeChan h => exact nomatch hidle.symm.trans h
  | runReceive _ _ hreq | runReceiveClosed _ hreq => omega
  | runSelectRequest _ _ _ hreq | runSelectClosed _ _ hreq | runSelectPool _ _ _ _ hreq
  | runSelectDefault _ _ hreq => omega
  | runTake addr htake => rcases hpc with h | h | h <;> exact nomatch h.symm.trans htake
  | runReturn _ hf => exact Bool.noConfusion (hok.symm.trans hf)
  | runOuter | runInnerExit | runConnected =>
    exact ⟨⟨hok, hneg, by simp [hold], by simp⟩, hidle, List.prefix_refl _⟩
  | runRetry => exact ⟨⟨hok, by simpa [hold] using hneg, by simp [hold], by simp⟩, hidle,
      List.prefix_refl _⟩

/-- A negative request wedges `run`: from a state where `run` holds one while
    a `RequestRemote` is blocked sending and `Close` has not taken its lock,
    every run keeps `run` going round its loop without receiving, keeps every
    blocked `RequestRemote` blocked (each holds `d.closeMtx` for reading), and
    keeps `Close` waiting for its lock. -/
theorem wedged_run (hw : s.Wedged) (hidle : s.closePc = .idle) (hsend : s.sending ≠ [])
    (hrun : Relation.ReflTransGen Step s s') :
    s'.Wedged ∧ s'.closePc = .idle ∧ s.sending <+: s'.sending := by
  induction hrun with
  | refl => exact ⟨hw, hidle, List.prefix_refl _⟩
  | tail _ hst ih =>
    obtain ⟨hw', hidle', hpre⟩ := ih
    obtain ⟨hw'', hidle'', hpre'⟩ :=
      hw'.step hidle' (fun he => hsend (List.eq_nil_of_prefix_nil (he ▸ hpre))) hst
    exact ⟨hw'', hidle'', hpre.trans hpre'⟩

/-- The discoverer of seed `"seed"` after `run` received `RequestRemote(-1)`,
    with `RequestRemote(5)` blocked sending. -/
def wedgedInner : Discovery Unit :=
  ⟨NewDefaultDiscovery ["seed"], false, false, ⟨.inner, -1, -1, true⟩, .idle, [], [], [], [5], 1, [],
    [-1, 5]⟩

/-- `wedgedInner` after `run` left its inner loop. -/
def wedgedAfter : Discovery Unit := { wedgedInner with run := ⟨.after, -1, -1, true⟩ }

/-- `wedgedInner` is reached from `NewDefaultDiscovery`, and `run` then leaves
    its inner loop still wedged. -/
theorem wedged_run_negative_request :
    wedgedInner.Reachable ∧ wedgedInner.Wedged ∧ wedgedInner.closePc = .idle ∧
    wedgedInner.sending ≠ [] ∧
    wedgedAfter.Wedged ∧ wedgedAfter.closePc = .idle ∧ wedgedInner.sending <+: wedgedAfter.sending :=
  have hw : wedgedInner.Wedged := ⟨rfl, by decide, rfl, .inr (.inl rfl)⟩
  ⟨⟨["seed"], .tail (.tail (.tail (.tail (.single (.RequestRemote _ (-1)))
      (.requestAlive _ (-1) (List.mem_singleton_self _) rfl))
      (.runReceive _ (-1) rfl rfl (List.mem_singleton_self _))) (.RequestRemote _ 5))
      (.requestAlive _ 5 (List.mem_singleton_self _) rfl)⟩,
    hw, rfl, List.cons_ne_nil _ _,
    wedged_run hw rfl (List.cons_ne_nil _ _) (.single (.runInnerExit _ rfl (by decide)))⟩

end Discovery

end neogo.network
