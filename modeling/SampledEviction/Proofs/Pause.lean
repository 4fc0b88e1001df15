import SampledEviction.Proofs.Chronicle
import SampledEviction.Proofs.Coherence

/-!
# Paused clients

While clients are paused no key may be deleted. A check asks for that before it starts and after
every deletion, but not in between; so it keeps the rule as long as neither a search nor a look at
usage pauses clients.

* `Unpausing.findVictim` — a search leaves clients as they are
* `Unpaused.step` — a step deletes nothing while they are paused
* `ensureWithin_meets` — nor does a check
-/

namespace SampledEviction.Evictor

variable {σ : Type} {rounds fuel : Nat} {d : Dataset σ} {server : Server σ} {clock : Clock σ}
  {o : Overage} {c : Cycle (Recorded σ)} {deeds more : List (Deed σ)} {P : σ → Prop}

open Deed

/-! ## A search -/

/-- Neither a search nor a look at usage pauses clients. If they are paused in the course of a
check, it is by the server, when it is told of a key or flushes replica output, or by a deletion. -/
structure Unpausing (d : Dataset σ) (server : Server σ) : Prop where
  sample {site : σ} (h : server.clientsPaused site = false) (shard : Nat) (scope : Scope)
    (n : Nat) : server.clientsPaused (d.sample shard scope n site).2 = false
  randomKey {site : σ} (h : server.clientsPaused site = false) (shard : Nat) (scope : Scope) :
    server.clientsPaused (d.randomKey shard scope site).2 = false
  usedBytes {site : σ} (h : server.clientsPaused site = false) :
    server.clientsPaused (server.usedBytes site).2 = false
  exemptBytes {site : σ} (h : server.clientsPaused site = false) :
    server.clientsPaused (server.exemptBytes site).2 = false

namespace Unpausing

theorem harvestShard (hp : Unpausing d server) (e : Evictor) (now : Moment) {h : Harvest σ}
    (hsite : server.clientsPaused h.site = false) (shard : Nat) :
    server.clientsPaused (e.harvestShard d now h shard).site = false := by
  unfold Evictor.harvestShard
  dsimp only
  split
  · exact hsite
  · exact hp.sample hsite _ _ _

theorem harvest (hp : Unpausing d server) (e : Evictor) (now : Moment) {site : σ}
    (hsite : server.clientsPaused site = false) :
    server.clientsPaused (e.harvest d now site).site = false := by
  refine List.foldlRecOn (motive := fun h : Harvest σ => server.clientsPaused h.site = false) _ _
    hsite ?_
  intro harvest hsite shard _
  exact hp.harvestShard e now hsite shard

theorem pickFrom (hp : Unpausing d server) (shards tries : Nat) {s : Scene σ}
    (hsite : server.clientsPaused s.site = false) :
    server.clientsPaused (pickFrom d shards tries s).2.site = false := by
  induction tries generalizing s with
  | zero => exact hsite
  | succ tries ih =>
    simp only [Evictor.pickFrom]
    have hdrawn := hp.randomKey hsite (Word.add s.evictor.cursor 1 % shards)
      s.evictor.settings.policy.scope
    split
    · exact ih hsite
    · split
      · rename_i hkey
        rwa [hkey] at hdrawn
      · rename_i hkey
        rw [hkey] at hdrawn
        exact ih hdrawn

theorem findVictim (hp : Unpausing d server) {s s' : Scene σ} {v : Option Victim}
    (hsite : server.clientsPaused s.site = false)
    (hfind : findVictim rounds d clock s = some (v, s')) :
    server.clientsPaused s'.site = false := by
  unfold Evictor.findVictim at hfind
  split at hfind
  · refine Loop.run_induct (I := fun t => server.clientsPaused t.site = false)
      (P := fun r => server.clientsPaused r.2.site = false) ?_ ?_ hsite hfind
    · intro t t' ht hstep
      rw [searchRound_site.1 t' (Option.some.inj hstep)]
      exact hp.harvest _ _ ht
    · intro t r ht hstep
      rw [searchRound_site.2 r.1 r.2 (Option.some.inj hstep)]
      exact hp.harvest _ _ ht
  · have hpick : pickRandom d s = (v, s') := Option.some.inj hfind
    have hpicked := hp.pickFrom (d.shards s.site) (d.shards s.site) hsite
    unfold pickRandom at hpick
    rwa [hpick] at hpicked

theorem overage? (hp : Unpausing d server) (b : Budget) {site : σ}
    (hsite : server.clientsPaused site = false) :
    server.clientsPaused (b.overage? server site).2 = false := by
  have hread := hp.usedBytes hsite
  unfold Budget.overage?
  split
  · exact hsite
  rcases hused : server.usedBytes site with ⟨e | total, site₁⟩
  all_goals rw [hused] at hread
  · exact hread
  · have hexempt := hp.exemptBytes hread
    dsimp only
    split
    · exact hread
    · split
      · exact hexempt
      · exact hexempt

end Unpausing

/-! ## A deletion -/

theorem Idle.meets {deed : Deed σ} (h : deed.Idle) : deed.Meets P := by
  cases deed with
  | deleted before v removed => exact h.elim
  | _ => trivial

/-- A deletion is made at the site that the reading before it leaves. -/
theorem deleteVictim_meets (hread : ∀ {site}, P site → P (server.usedBytes site).2)
    (lazy : Bool) (v : Victim) {r : Recorded σ} (hsite : P r.site)
    (hdeeds : ∀ deed ∈ r.deeds, deed.Meets P) :
    ∀ deed ∈ (deleteVictim (Recorded.dataset d) (Recorded.server server) lazy v r).2.deeds,
      deed.Meets P := by
  have hbefore := hread hsite
  unfold deleteVictim
  rcases hused : server.usedBytes r.site with ⟨e | before, site₁⟩
  all_goals
    rw [hused] at hbefore
    rw [Recorded.usedBytes_eq hused]
  · exact List.forall_mem_cons.mpr ⟨trivial, hdeeds⟩
  · rcases hdelete : (if lazy then d.deleteDeferred v.shard v.key site₁
      else d.delete v.shard v.key site₁) with ⟨removed, site₂⟩
    simp only [Recorded.deletion_eq (r := ⟨site₁, _⟩) hdelete]
    have hdeleted : ∀ deed ∈ .deleted site₁ v removed :: .read (.ok before) site₁ :: r.deeds,
        deed.Meets P :=
      List.forall_mem_cons.mpr ⟨hbefore, List.forall_mem_cons.mpr ⟨trivial, hdeeds⟩⟩
    rcases hafter : server.usedBytes site₂ with ⟨e | after, site₃⟩
    all_goals
      rw [Recorded.usedBytes_eq (r := ⟨site₂, _⟩) hafter]
      exact List.forall_mem_cons.mpr ⟨trivial, hdeleted⟩

theorem settleDeletion_meets (server : Server σ) (c : Cycle (Recorded σ)) (v : Victim) (freed : Nat)
    {r : Recorded σ} (hdeeds : ∀ deed ∈ r.deeds, deed.Meets P) :
    ∀ deed ∈ (settleDeletion (Recorded.server server) c v freed r).scene.site.deeds,
      deed.Meets P := by
  obtain ⟨site, hsettled⟩ := settleDeletion_flushes server c v freed r
  have htold : ∀ deed ∈ .told v site :: r.deeds, deed.Meets P :=
    List.forall_mem_cons.mpr ⟨trivial, hdeeds⟩
  rw [hsettled]
  unfold flushes
  split
  · exact List.forall_mem_cons.mpr ⟨trivial, htold⟩
  · exact htold

theorem giveUp_meets (c : Cycle (Recorded σ)) (hdeeds : ∀ deed ∈ c.scene.site.deeds, deed.Meets P) :
    ∀ deed ∈ (Evictor.giveUp (Recorded.dataset d) (Recorded.server server) (Recorded.clock clock) o
      c).2.scene.site.deeds, deed.Meets P := by
  obtain ⟨more, hmore, hidle⟩ := exists_giveUp_idle d server clock o c
  rw [hmore]
  intro deed hdeed
  rcases List.mem_append.mp hdeed with hdeed | hdeed
  · exact Idle.meets (hidle deed hdeed)
  · exact hdeeds deed hdeed

/-! ## A cycle -/

/-- No deletion so far was made while clients were paused; and if there was none, they are not
paused now. -/
structure Unpaused (server : Server σ) (c : Cycle (Recorded σ)) : Prop where
  meets : ∀ deed ∈ c.scene.site.deeds, deed.Meets (server.clientsPaused · = false)
  fresh : c.keys = 0 → server.clientsPaused c.scene.site.site = false

/-- A cycle that goes on finds clients not paused: after the first deletion it asks, and before that
nothing has paused them. -/
theorem Unpaused.clientsPaused_eq_false (h : Unpaused server c)
    (hgo : c.GoesOn (Recorded.server server) o) :
    server.clientsPaused c.scene.site.site = false := by
  by_cases hkeys : c.keys = 0
  · exact h.fresh hkeys
  · exact hgo.2 (Nat.pos_of_ne_zero hkeys)

/-- A scene at which nothing was deleted while clients were paused, and they are not paused now. -/
structure Open (server : Server σ) (s : Scene (Recorded σ)) : Prop where
  meets : ∀ deed ∈ s.site.deeds, deed.Meets (server.clientsPaused · = false)
  site : server.clientsPaused s.site.site = false

theorem Unpaused.search (h : Unpaused server c) (hp : Unpausing d server)
    (hgo : c.GoesOn (Recorded.server server) o) {v : Option Victim} {scene : Scene (Recorded σ)}
    (hfind : Evictor.findVictim rounds (Recorded.dataset d) (Recorded.clock clock) c.scene
      = some (v, scene)) : Open server scene := by
  obtain ⟨hdeeds, hfind⟩ := findVictim_of_recorded hfind
  have hsite := h.clientsPaused_eq_false hgo
  refine ⟨?_, hp.findVictim (s := ⟨c.scene.evictor, c.scene.site.site⟩) hsite hfind⟩
  rw [hdeeds]
  exact h.meets

theorem Open.delete {s : Scene (Recorded σ)} (h : Open server s) (hp : Unpausing d server)
    {lazy : Bool} {v : Victim} {answer : Except EvictionError (Bool × Nat)} {r : Recorded σ}
    (hdel : deleteVictim (Recorded.dataset d) (Recorded.server server) lazy v s.site
      = (answer, r)) : ∀ deed ∈ r.deeds, deed.Meets (server.clientsPaused · = false) := by
  have hdeleted := deleteVictim_meets (d := d) hp.usedBytes lazy v h.site h.meets
  rwa [hdel] at hdeleted

/-- A step that goes on has deleted a key. -/
theorem keys_ne_zero_of_step {c c' : Cycle σ}
    (hstep : cycleStep rounds d server clock o c = some (.inl c')) : c'.keys ≠ 0 := by
  cases cycleStep_cases hstep with
  | deleted _ _ _ hlook =>
    cases hlook with
    | skipped _ => exact Nat.succ_ne_zero c.keys
    | above _ _ => exact Nat.succ_ne_zero c.keys

/-- A step deletes nothing while clients are paused. -/
theorem Unpaused.step (h : Unpaused server c) (hp : Unpausing d server)
    {x : StepResult (Recorded σ)}
    (hstep : cycleStep rounds (Recorded.dataset d) (Recorded.server server) (Recorded.clock clock)
      o c = some x) :
    ∀ deed ∈ x.cycle.scene.site.deeds, deed.Meets (server.clientsPaused · = false) := by
  cases cycleStep_cases hstep with
  | enough _ => exact h.meets
  | paused _ => exact h.meets
  | @noVictim scene hgo hfind =>
    rw [StepResult.cycle_inr]
    exact giveUp_meets { c with scene } (h.search hp hgo hfind).meets
  | unread hgo hfind hdel => exact (h.search hp hgo hfind).delete hp hdel
  | @gone v scene freed site hgo hfind hdel =>
    rw [StepResult.cycle_inr]
    exact giveUp_meets { c with scene := { scene with site } }
      ((h.search hp hgo hfind).delete hp hdel)
  | @deleted v scene freed r x hgo hfind hdel hlook =>
    have hsettled := settleDeletion_meets server { c with scene } v freed
      ((h.search hp hgo hfind).delete hp hdel)
    generalize settleDeletion (Recorded.server server) { c with scene } v freed r = c₁
      at hlook hsettled
    cases hlook with
    | skipped _ => exact hsettled
    | above _ hlook => exact (look_of_recorded hlook).1.meets hsettled
    | failed _ hlook => exact (look_of_recorded hlook).1.meets hsettled
    | within _ hlook => exact (look_of_recorded hlook).1.meets hsettled

theorem runCycle_meets (hp : Unpausing d server) {s : Scene (Recorded σ)} (h : Open server s)
    {x : Except EvictionError Outcome × Cycle (Recorded σ)}
    (hrun : runCycle fuel rounds (Recorded.dataset d) (Recorded.server server)
      (Recorded.clock clock) o s = some x) :
    ∀ deed ∈ x.2.scene.site.deeds, deed.Meets (server.clientsPaused · = false) := by
  -- before the first deletion clients are not paused, since the check was let in
  refine Loop.run_induct (I := Unpaused server)
    (P := fun x => ∀ deed ∈ x.2.scene.site.deeds, deed.Meets (server.clientsPaused · = false))
    ?_ ?_ ⟨h.meets, fun _ => h.site⟩ hrun
  · intro c c' hc hstep
    exact ⟨hc.step hp hstep, fun hkeys => absurd hkeys (keys_ne_zero_of_step hstep)⟩
  · intro c x hc hstep
    exact hc.step hp hstep

theorem clientsPaused_of_mayEvict {e : Evictor} {site : σ} (h : e.mayEvict server site = true) :
    server.clientsPaused site = false := by
  unfold mayEvict at h
  simp only [Bool.and_eq_true, Bool.not_eq_true'] at h
  exact h.2

/-- A check deletes nothing while clients are paused. -/
theorem ensureWithin_meets (hp : Unpausing d server) {s : Scene σ} {r : CheckResult (Recorded σ)}
    (h : ensureWithin fuel rounds (Recorded.dataset d) (Recorded.server server)
      (Recorded.clock clock) (s.recorded []) = some r) :
    ∀ deed ∈ r.scene.site.deeds, deed.Meets (server.clientsPaused · = false) := by
  have hnothing : ∀ deed ∈ ([] : List (Deed σ)),
      deed.Meets (server.clientsPaused · = false) := by simp
  cases ensureWithin_cases h with
  | guarded _ => exact hnothing
  | unread hlook => exact (look_of_recorded hlook).1.meets hnothing
  | within hlook => exact (look_of_recorded hlook).1.meets hnothing
  | forbidden hlook _ => exact (look_of_recorded hlook).1.meets hnothing
  | @ran o r₀ x hguard hlook _ hrun =>
    obtain ⟨hdeeds, hfound⟩ := look_of_recorded hlook
    have hopen : server.clientsPaused s.site = false := clientsPaused_of_mayEvict hguard
    have hsite : server.clientsPaused r₀.site = false := by
      have hlooked := hp.overage? s.evictor.budget hopen
      rwa [show s.evictor.budget.overage? server s.site = _ from hfound] at hlooked
    have hran := runCycle_meets hp (s := opened (s.recorded []) r₀)
      ⟨hdeeds.meets hnothing, hsite⟩ hrun
    rw [conclude_site]
    exact hran

end SampledEviction.Evictor
