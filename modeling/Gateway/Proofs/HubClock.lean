import Mathlib
import Gateway.Proofs.Polling
import Gateway.Scenario.Hub
/-!
The Unix time the hub reports. A synchronization to `u` at clock `t₀` stores the Unix time of
boot as `u` less the whole seconds of `t₀`, floored at zero, and the hub then reports that offset
plus the whole seconds of the clock. Only a synchronization and an initialization touch the
offset: every other call of the hub, the timed ones included, keeps it whatever it waits for,
and no call moves the clock back.

So after a synchronization the reported time counts the seconds since then, starting from `u`,
or from the seconds of `t₀` when `u` is smaller; before any synchronization, and after an
initialization until the next one, there is none.

Main statement (`unix_time_counts_from_last_sync`), for every run of hub calls.
-/
namespace Gateway.Sched

variable {σ α γ β : Type} {g : σ → β}

namespace Job

/-- No step job `j` may take changes the view `g` of the state. -/
inductive Keeps (g : σ → β) : Job σ α → Prop
  | done (a : α) : Keeps g (.done a)
  | step {f : Nat → σ → σ × Job σ α} : (∀ t s, g (f t s).1 = g s) → (∀ t s, Keeps g (f t s).2) →
      Keeps g (.step f)
  | sleep {d : Nat} {armed : Bool} {next : Job σ α} : Keeps g next → Keeps g (.sleep d armed next)
  | await {ready : σ → Option (σ × Job σ α)} {d : Nat} {armed : Bool} {expired : Job σ α} :
      (∀ s s' k, ready s = some (s', k) → g s' = g s) → (∀ s s' k, ready s = some (s', k) → Keeps g k) →
      Keeps g expired → Keeps g (.await ready d armed expired)

theorem Keeps.poll {j : Job σ α} (keeps : j.Keeps g) (fuel t : Nat) (s : σ) :
    g (j.poll fuel t s).1 = g s ∧ (j.poll fuel t s).2.1.Keeps g := by
  induction fuel generalizing j s with
  | zero => exact ⟨rfl, keeps⟩
  | succ fuel ih =>
    cases keeps with
    | done a => exact ⟨rfl, .done a⟩
    | @step f kept next =>
      obtain ⟨same, rest⟩ := ih (next t s) (f t s).1
      rw [poll_step]
      exact ⟨same.trans (kept t s), rest⟩
    | @sleep d armed next kept =>
      by_cases late : armed = true ∧ d ≤ t
      · rw [poll_sleep_wakes late]
        exact ih kept s
      · rw [poll_sleep_waits late]
        exact ⟨rfl, .sleep kept⟩
    | @await ready d armed expired kept next keepsExpired =>
      cases found : ready s with
      | some got =>
        obtain ⟨s', k⟩ := got
        rw [poll_await_ready found]
        obtain ⟨same, rest⟩ := ih (next s s' k found) s'
        exact ⟨same.trans (kept s s' k found), rest⟩
      | none =>
        by_cases late : armed = true ∧ d ≤ t
        · rw [poll_await_expired found late]
          exact ih keepsExpired s
        · rw [poll_await_waits found late]
          exact ⟨rfl, .await kept next keepsExpired⟩

theorem Keeps.polled {n : Nat} {j j' : Job σ α} {ps : List (Poll σ)} (ran : Polled n j ps j') (keeps : j.Keeps g) :
    ∀ p ∈ ps, g p.after = g p.before := by
  induction ran with
  | nil => simp
  | poll fuel t s _ _ ih =>
    intro p mem
    rcases List.mem_cons.mp mem with rfl | later
    · exact (keeps.poll fuel t s).1
    · exact ih (keeps.poll fuel t s).2 p later

theorem Keeps.now {f : σ → σ × γ} {k : γ → Job σ α} (kept : ∀ s, g (f s).1 = g s) (next : ∀ a, (k a).Keeps g) :
    (Job.now f k).Keeps g :=
  .step (fun _ s => kept s) (fun _ s => next (f s).2)

theorem Keeps.within {timeout : Nat} {ready : σ → Option (σ × Job σ α)} {expired : Job σ α}
    (kept : ∀ s s' k, ready s = some (s', k) → g s' = g s) (next : ∀ s s' k, ready s = some (s', k) → k.Keeps g)
    (keepsExpired : expired.Keeps g) : (Job.within timeout ready expired).Keeps g :=
  .step (fun _ _ => rfl) (fun _ _ => .await kept next keepsExpired)

theorem joinFor_keeps {k t : Nat} {s : σ} {a : Job σ α} {b : Job σ γ} {e : Joint σ α γ}
    (joined : joinFor k t s a b = some e) (keepsA : a.Keeps g) (keepsB : b.Keeps g) : g e.state = g s := by
  obtain ⟨pa, pb, -, ranA, ranB, chain⟩ := joinFor_polled joined
  refine chain.keeps fun p mem => ?_
  rcases mem_rounds mem with inA | inB
  · exact keepsA.polled ranA p inA
  · exact keepsB.polled ranB p inB

theorem joinFor_now_ge {k t : Nat} {s : σ} {a : Job σ α} {b : Job σ γ} {e : Joint σ α γ}
    (joined : joinFor k t s a b = some e) : t ≤ e.now := by
  induction k generalizing t s a b with
  | zero => cases joined
  | succ k ih =>
    rcases polledA : a.poll pollFuel t s with ⟨s₁, a₁, movedA⟩
    rcases polledB : b.poll pollFuel t s₁ with ⟨s₂, b₁, movedB⟩
    rcases joinFor_succ polledA polledB joined with ⟨x, y, -, -, rfl⟩ | ⟨t', later, -, again⟩
    · exact le_rfl
    · exact later.trans (ih again)

end Job

end Gateway.Sched

namespace Gateway.Hub
open Gateway.Sched Gateway.Network

theorem submitJob_keeps {β : Type} (c : Credentials) (timeout : Nat) {k : Except HubError Unit → Job Hub β}
    (next : ∀ r, (k r).Keeps Hub.epochOffset) : (Hub.submitJob c timeout k).Keeps Hub.epochOffset := by
  refine .step (fun _ h => ?_) (fun _ h => ?_)
  · split <;> rfl
  · split
    · exact next _
    · refine .within (fun h h' k' found => ?_) (fun h h' k' found => ?_) (next _)
      · -- A send that finds room changes the credentials queue only.
        split at found
        · cases found
          rfl
        · cases found
      · split at found
        · cases found
          exact next _
        · cases found

theorem waitJob_keeps {β : Type} (mask : EventBits) (clearOnExit requireAll : Bool) (timeout : Nat)
    {k : EventBits → Job Hub β} (next : ∀ b, (k b).Keeps Hub.epochOffset) :
    (waitJob Hub.bitsLens mask clearOnExit requireAll timeout k).Keeps Hub.epochOffset := by
  refine .within (fun h h' k' found => ?_) (fun h h' k' found => ?_) (.now (fun _ => rfl) next)
  · -- A wait that is satisfied changes the bits only.
    by_cases ok : (Hub.bitsLens.get h).satisfies mask requireAll = true
    · simp only [ok, if_true, Option.some.injEq, Prod.mk.injEq] at found
      rw [← found.1]
      rfl
    · simp [ok] at found
  · by_cases ok : (Hub.bitsLens.get h).satisfies mask requireAll = true
    · simp only [ok, if_true, Option.some.injEq, Prod.mk.injEq] at found
      rw [← found.2]
      exact next _
    · simp [ok] at found

end Gateway.Hub

namespace Gateway.Scenario
open Gateway.Hub Gateway.Sched Gateway.Network

/-- The Unix time of boot a call leaves, from the one it found and the clock: initialization
forgets it, a synchronization to `u` sets it, and every other call keeps it. -/
def HubCall.epochAfter : HubCall → Nat → Option Nat → Option Nat
  | .ready, _, _ => none
  | .synchronizeTime u, now, _ => some (u - seconds now)
  | _, _, e => e

theorem HubCall.epochAfter_of_quiet {c : HubCall} (quiet : c ≠ .ready ∧ ∀ u, c ≠ .synchronizeTime u)
    (now : Nat) (e : Option Nat) : c.epochAfter now e = e := by
  cases c with
  | ready => exact absurd rfl quiet.1
  | synchronizeTime u => exact absurd rfl (quiet.2 u)
  | _ => rfl

theorem HubCall.epochAfter_none {c : HubCall} (unsynced : ∀ u, c ≠ .synchronizeTime u) (now : Nat) :
    c.epochAfter now none = none := by
  cases c with
  | synchronizeTime u => exact absurd rfl (unsynced u)
  | _ => rfl

def HubRun.after (r : HubRun) (calls : List HubCall) : HubRun := calls.foldl (fun r c => (r.step c).2) r

@[simp] theorem HubRun.after_nil (r : HubRun) : r.after [] = r := rfl

@[simp] theorem HubRun.after_cons (r : HubRun) (c : HubCall) (calls : List HubCall) :
    r.after (c :: calls) = (r.step c).2.after calls := rfl

theorem HubRun.solo_keeps {r : HubRun} {j : Job Hub HubReply} (keeps : j.Keeps Hub.epochOffset) :
    (r.solo j).2.hub.epochOffset = r.hub.epochOffset ∧ r.now ≤ (r.solo j).2.now := by
  unfold HubRun.solo
  cases solo : Job.solo r.now r.hub j with
  | none => exact ⟨rfl, le_rfl⟩
  | some e => exact ⟨Job.joinFor_keeps solo keeps (.done ()), Job.joinFor_now_ge solo⟩

theorem HubRun.step_epochOffset (r : HubRun) (c : HubCall) :
    (r.step c).2.hub.epochOffset = c.epochAfter r.now r.hub.epochOffset ∧ r.now ≤ (r.step c).2.now := by
  cases c with
  | submit ssid password timeout =>
    simp only [HubRun.step, HubCall.epochAfter]
    cases Credentials.new ssid password with
    | error e => exact ⟨rfl, le_rfl⟩
    | ok cr => exact HubRun.solo_keeps (submitJob_keeps cr timeout fun _ => .done _)
  | post e =>
    simp only [HubRun.step, HubCall.epochAfter]
    cases posted : r.hub.postLinkEvent e with
    | error e' => exact ⟨rfl, le_rfl⟩
    | ok h =>
      -- Posting changes the link-event queue only.
      unfold Hub.postLinkEvent at posted
      split at posted <;> cases posted
      exact ⟨rfl, le_rfl⟩
  | takeCredentials =>
    simp only [HubRun.step, HubCall.epochAfter]
    cases r.hub.credentials.tryReceive with
    | none => exact ⟨rfl, le_rfl⟩
    | some got => exact ⟨rfl, le_rfl⟩
  | takeLinkEvent =>
    simp only [HubRun.step, HubCall.epochAfter, Hub.takeLinkEvent]
    cases r.hub.linkEvents.tryReceive with
    | none => exact ⟨rfl, le_rfl⟩
    | some got => exact ⟨rfl, le_rfl⟩
  | wait mask clearOnExit requireAll timeout =>
    exact HubRun.solo_keeps (waitJob_keeps mask clearOnExit requireAll timeout fun _ => .done _)
  | sleep d => exact ⟨rfl, Nat.le_add_right _ _⟩
  | _ => exact ⟨rfl, le_rfl⟩

theorem HubRun.after_quiet {r : HubRun} {calls : List HubCall}
    (quiet : ∀ c ∈ calls, c ≠ .ready ∧ ∀ u, c ≠ .synchronizeTime u) :
    (r.after calls).hub.epochOffset = r.hub.epochOffset ∧ r.now ≤ (r.after calls).now := by
  induction calls generalizing r with
  | nil => exact ⟨rfl, le_rfl⟩
  | cons c calls ih =>
    obtain ⟨kept, forward⟩ := HubRun.step_epochOffset r c
    obtain ⟨kept', forward'⟩ := ih (r := (r.step c).2) fun c' mem => quiet c' (List.mem_cons_of_mem _ mem)
    rw [HubCall.epochAfter_of_quiet (quiet c List.mem_cons_self)] at kept
    exact ⟨kept'.trans kept, forward.trans forward'⟩

theorem HubRun.after_unsynced {r : HubRun} {calls : List HubCall} (unknown : r.hub.epochOffset = none)
    (unsynced : ∀ c ∈ calls, ∀ u, c ≠ .synchronizeTime u) : (r.after calls).hub.epochOffset = none := by
  induction calls generalizing r with
  | nil => exact unknown
  | cons c calls ih =>
    refine ih ?_ fun c' mem => unsynced c' (List.mem_cons_of_mem _ mem)
    rw [(HubRun.step_epochOffset r c).1, unknown]
    exact HubCall.epochAfter_none (unsynced c List.mem_cons_self) r.now

theorem HubRun.unixTime_reply (r : HubRun) : (r.step .unixTime).1 = .ofUnixTime (r.hub.unixTime r.now) := rfl

theorem Hub.unixTime_of_synced {h : Hub} {offset : Nat} (synced : h.epochOffset = some offset) (now : Nat) :
    HubReply.ofUnixTime (h.unixTime now) =
      if offset + seconds now < 2 ^ 64 then .unixTime (some (offset + seconds now)) else .panicked .addOverflow := by
  have top : (2 : Nat) ^ 64 = wordMax + 1 := by norm_num [wordMax]
  rw [top]
  simp only [Hub.unixTime, synced]
  by_cases fits : offset + seconds now < wordMax + 1
  · rw [if_neg (by omega), if_pos fits]
    rfl
  · rw [if_pos (by omega), if_neg fits]
    rfl

/-- After a synchronization to `u` at clock `t₀`, and any calls that neither synchronize nor
initialize, the hub at clock `t₁ ≥ t₀` reports `u` less the whole seconds of `t₀`, floored at zero,
plus the whole seconds of `t₁`, while that sum stays below `2 ^ 64`; past it the 64-bit sum
overflows and stops the program. Right after the synchronization the time is the larger of `u` and
the seconds of `t₀`, and from then on it grows with the clock. Before any synchronization, and after
an initialization with no synchronization since, the hub reports no time. -/
theorem unix_time_counts_from_last_sync :
    (∀ (r : HubRun) (u : Nat) (calls : List HubCall), (∀ c ∈ calls, c ≠ .ready ∧ ∀ v, c ≠ .synchronizeTime v) →
      r.now ≤ ((r.step (.synchronizeTime u)).2.after calls).now ∧
      (((r.step (.synchronizeTime u)).2.after calls).step .unixTime).1 =
        if u - seconds r.now + seconds ((r.step (.synchronizeTime u)).2.after calls).now < 2 ^ 64 then
          .unixTime (some (u - seconds r.now + seconds ((r.step (.synchronizeTime u)).2.after calls).now))
        else .panicked .addOverflow) ∧
    (∀ (r : HubRun) (u : Nat), ((r.step (.synchronizeTime u)).2.step .unixTime).1 =
      if max u (seconds r.now) < 2 ^ 64 then .unixTime (some (max u (seconds r.now)))
      else .panicked .addOverflow) ∧
    (∀ calls : List HubCall, (∀ c ∈ calls, ∀ v, c ≠ .synchronizeTime v) →
      ((({} : HubRun).after calls).step .unixTime).1 = .unixTime none) ∧
    (∀ (r : HubRun) (calls : List HubCall), (∀ c ∈ calls, ∀ v, c ≠ .synchronizeTime v) →
      (((r.step .ready).2.after calls).step .unixTime).1 = .unixTime none) := by
  refine ⟨fun r u calls quiet => ?_, fun r u => ?_, fun calls unsynced => ?_, fun r calls unsynced => ?_⟩
  · obtain ⟨kept, forward⟩ := HubRun.after_quiet (r := (r.step (.synchronizeTime u)).2) quiet
    exact ⟨forward, by rw [HubRun.unixTime_reply, Hub.unixTime_of_synced kept]⟩
  · -- the offset floored at zero and the seconds it was taken at add up to the larger of the two
    have larger : u - seconds r.now + seconds r.now = max u (seconds r.now) := by omega
    rw [HubRun.unixTime_reply, Hub.unixTime_of_synced rfl]
    exact larger ▸ rfl
  · rw [HubRun.unixTime_reply, Hub.unixTime, HubRun.after_unsynced rfl unsynced]
    rfl
  · rw [HubRun.unixTime_reply, Hub.unixTime, HubRun.after_unsynced rfl unsynced]
    rfl

/-- A hub two and a half seconds after boot, synchronized to 1 700 000 000 and then asked for the
time a second later, after a wait for the uplink that timed out. -/
theorem unix_time_counts_from_last_sync_a_second_later :
    (∀ c ∈ [HubCall.sleep 1000000, .wait .uplink false false 1000], c ≠ .ready ∧ ∀ v, c ≠ .synchronizeTime v) ∧
      (2500000 ≤ (((⟨{}, 2500000⟩ : HubRun).step (.synchronizeTime 1700000000)).2.after
          [.sleep 1000000, .wait .uplink false false 1000]).now ∧
        ((((⟨{}, 2500000⟩ : HubRun).step (.synchronizeTime 1700000000)).2.after
          [.sleep 1000000, .wait .uplink false false 1000]).step .unixTime).1 =
          if 1700000000 - seconds 2500000 +
              seconds (((⟨{}, 2500000⟩ : HubRun).step (.synchronizeTime 1700000000)).2.after
                [.sleep 1000000, .wait .uplink false false 1000]).now < 2 ^ 64 then
            .unixTime (some (1700000000 - seconds 2500000 +
              seconds (((⟨{}, 2500000⟩ : HubRun).step (.synchronizeTime 1700000000)).2.after
                [.sleep 1000000, .wait .uplink false false 1000]).now))
          else .panicked .addOverflow) := by
  have quiet : ∀ c ∈ [HubCall.sleep 1000000, .wait .uplink false false 1000],
      c ≠ .ready ∧ ∀ v, c ≠ .synchronizeTime v := by
    simp
  exact ⟨quiet, unix_time_counts_from_last_sync.1 ⟨{}, 2500000⟩ 1700000000 _ quiet⟩

-- The wait runs to its deadline: the reported time is 1 700 000 001.
example : ((((⟨{}, 2500000⟩ : HubRun).step (.synchronizeTime 1700000000)).2.after
    [.sleep 1000000, .wait .uplink false false 1000]).step .unixTime).1 = .unixTime (some 1700000001) := by
  rfl

-- Synchronized to the largest word, the hub overflows a second later.
example : ((({} : HubRun).after [.synchronizeTime 18446744073709551615, .sleep 1000000]).step .unixTime).1 =
    .panicked .addOverflow := by
  rfl

/-- Synchronized to second 1 two and a half seconds after boot, the hub reports second 2, not 1:
the time of boot is floored at zero. -/
theorem unix_time_after_sync_behind_boot :
    ((({} : HubRun).after [.sleep 2500000, .synchronizeTime 1]).step .unixTime).1 = .unixTime (some 2) ∧
      ((({} : HubRun).after [.sleep 2500000, .synchronizeTime 1]).step .unixTime).1 ≠
        .unixTime (some (1 + (seconds 2500000 - seconds 2500000))) := by
  have reported : ((({} : HubRun).after [.sleep 2500000, .synchronizeTime 1]).step .unixTime).1 =
      .unixTime (some 2) := rfl
  refine ⟨reported, ?_⟩
  rw [reported]
  simp [seconds]

end Gateway.Scenario
