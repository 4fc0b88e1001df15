import SampledEviction.Proofs.Step

/-!
# Readings that succeed

Nothing that a check of the budget asks for may fail but a reading of usage. If usage can always
be read, a check that ends has an answer.

* `Server.Readable` — usage can always be read
* `awaitReleases_answer`, `cycleStep_answer` — the parts of a check
* `ensureWithin_answer` — a check
-/

namespace SampledEviction

variable {σ : Type} {d : Dataset σ} {server : Server σ} {clock : Clock σ}

/-- Usage can always be read. -/
def Server.Readable (server : Server σ) : Prop :=
  ∀ site, ∃ bytes site', server.usedBytes site = (.ok bytes, site')

theorem Budget.overage?_answer (h : server.Readable) (b : Budget) (site : σ) :
    ∃ answer site', b.overage? server site = (.ok answer, site') := by
  obtain ⟨bytes, site', hread⟩ := h site
  unfold Budget.overage?
  rw [hread]
  dsimp only
  repeat' split
  all_goals exact ⟨_, _, rfl⟩

theorem Overage.reclaimed_answer (h : server.Readable) (o : Overage) (freed : Nat) (site : σ) :
    ∃ answer site', o.reclaimed server freed site = (.ok answer, site') := by
  obtain ⟨bytes, site', hread⟩ := h site
  unfold Overage.reclaimed
  rw [hread]
  exact ⟨_, _, rfl⟩

namespace Evictor

theorem awaitReleases_answer (h : server.Readable) (o : Overage) (freed remaining : Nat)
    (slept : Bool) (site : σ) : ∃ answer site',
      awaitReleases d server clock o freed remaining slept site = (.ok answer, site') := by
  induction remaining generalizing slept site with
  | zero =>
    obtain ⟨enough, site', hlook⟩ := o.reclaimed_answer h freed (d.pendingReleases site).2
    unfold awaitReleases
    dsimp only
    rw [hlook]
    split
    · cases enough
      all_goals
        split
        all_goals exact ⟨_, _, rfl⟩
    · cases enough
      all_goals exact ⟨_, _, rfl⟩
  | succ remaining ih =>
    obtain ⟨enough, site', hlook⟩ := o.reclaimed_answer h freed (d.pendingReleases site).2
    unfold awaitReleases
    dsimp only
    rw [hlook]
    split
    · cases enough
      all_goals
        split
        all_goals exact ⟨_, _, rfl⟩
    · cases enough with
      | true => exact ⟨_, _, rfl⟩
      | false => exact ih true _

theorem deleteVictim_answer (h : server.Readable) (lazy : Bool) (v : Victim) (site : σ) :
    ∃ answer site', deleteVictim d server lazy v site = (.ok answer, site') := by
  obtain ⟨before, site₁, hbefore⟩ := h site
  unfold deleteVictim
  rw [hbefore]
  dsimp only
  obtain ⟨after, site₂, hafter⟩ := h
    (if lazy then d.deleteDeferred v.shard v.key site₁ else d.delete v.shard v.key site₁).2
  rw [hafter]
  exact ⟨_, _, rfl⟩

variable {fuel rounds : Nat} {o : Overage}

theorem giveUp_answer (h : server.Readable) (o : Overage) (c : Cycle σ) :
    ∃ outcome, (giveUp d server clock o c).1 = .ok outcome := by
  obtain ⟨outcome, site, hwait⟩ : ∃ outcome site, awaitReleases d server clock o c.freed
      c.scene.evictor.settings.waitLimit false c.scene.site = (.ok outcome, site) :=
    awaitReleases_answer h o _ _ _ _
  unfold giveUp
  rw [hwait]
  exact ⟨outcome, rfl⟩

/-- A step that ends a cycle has an answer. -/
theorem cycleStep_answer (h : server.Readable) {c : Cycle σ}
    {x : Except EvictionError Outcome × Cycle σ}
    (hstep : cycleStep rounds d server clock o c = some (.inr x)) :
    ∃ outcome, x.1 = .ok outcome := by
  cases cycleStep_cases hstep with
  | enough _ => exact ⟨_, rfl⟩
  | paused _ => exact ⟨_, rfl⟩
  | noVictim _ _ => exact giveUp_answer h o _
  | gone _ _ _ => exact giveUp_answer h o _
  | @unread v scene _ _ _ _ hdel =>
    obtain ⟨_, _, hread⟩ :=
      deleteVictim_answer (d := d) h scene.evictor.settings.lazy v scene.site
    rw [hread] at hdel
    cases hdel
  | deleted _ _ _ hlook =>
    cases hlook with
    | within _ _ => exact ⟨_, rfl⟩
    | failed _ hlook =>
      obtain ⟨_, _, hread⟩ := Budget.overage?_answer h _ _
      rw [hread] at hlook
      cases hlook

/-- A check that ends has an answer. -/
theorem ensureWithin_answer (h : server.Readable) {s : Scene σ} {r : CheckResult σ}
    (hr : ensureWithin fuel rounds d server clock s = some r) :
    ∃ outcome, r.answer = .ok outcome := by
  cases ensureWithin_cases hr with
  | guarded _ => exact ⟨_, rfl⟩
  | within _ => exact ⟨_, rfl⟩
  | forbidden _ _ => exact ⟨_, rfl⟩
  | unread hlook =>
    obtain ⟨_, _, hread⟩ := s.evictor.budget.overage?_answer h s.site
    rw [hread] at hlook
    cases hlook
  | @ran _ _ x _ _ _ hrun =>
    obtain ⟨outcome, houtcome⟩ : ∃ outcome, x.1 = .ok outcome :=
      Loop.run_induct (I := fun _ => True) (fun _ _ _ _ => trivial)
        (fun _ _ _ hstep => cycleStep_answer h hstep) trivial hrun
    rcases x with ⟨_ | _ | _, c⟩
    · cases houtcome
    · exact ⟨_, rfl⟩
    · exact ⟨_, rfl⟩

end Evictor

end SampledEviction
