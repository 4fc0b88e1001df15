import SampledEviction.Proofs.Coherence
import SampledEviction.Proofs.Pool
import SampledEviction.Proofs.Rack

/-!
# The life of an evictor

An evictor is made from settings, and from then on it is given other settings and checks budgets, in
any order, of any datasets and servers. Its pool outlives all of that but a change of policy, as
ranks of different policies are not comparable.

* `RankedBy.of_lru`, `RankedBy.of_lfu`, `RankedBy.usesPool` — what ranks a policy gives
* `ensureWithin_pure` — a check puts nothing into the pool but what its policy ranks
* `Pure.move`, `Reachable.pure` — so a pool holds candidates of one policy only
* `Reachable.exists_under` — which all came in since the policy was taken up
-/

namespace SampledEviction

/-! ## Ranks of a policy -/

/-- A candidate has a rank that a policy gives to some sample, at some pace of decay. -/
def RankedBy (p : Policy) (c : Candidate) : Prop :=
  ∃ decayMinutes sampled now, (⟨p, decayMinutes⟩ : Ranking).rank? sampled now = some c.rank

theorem Rank.dvd_idle (last now : Nat) : 1000 ∣ Rank.idle last now := Nat.dvd_mul_left _ _

theorem Rank.idle_le {last now : Nat} (hnow : now < Moment.tickCount) :
    Rank.idle last now ≤ (Moment.tickCount - 1) * 1000 := by
  unfold Rank.idle
  refine Nat.mul_le_mul_right 1000 ?_
  split
  · omega
  · omega

variable {p : Policy} {c : Candidate}

theorem RankedBy.of_lru (h : RankedBy p c) (hp : p.isLru = true) :
    1000 ∣ c.rank ∧ c.rank ≤ 0xFF_FFFF * 1000 := by
  obtain ⟨decayMinutes, sampled, now, hrank⟩ := h
  cases sampled with
  | stamp s =>
    simp only [Ranking.rank?, if_pos hp, Option.some.injEq] at hrank
    rw [← hrank]
    exact ⟨Rank.dvd_idle _ _, Rank.idle_le now.tick_lt⟩
  | deadline t => cases p <;> simp_all [Ranking.rank?, Policy.isLru, Policy.isTtl]

theorem RankedBy.of_lfu (h : RankedBy p c) (hp : p.isLfu = true) : c.rank ≤ 255 := by
  obtain ⟨decayMinutes, sampled, now, hrank⟩ := h
  have hlru : p.isLru = false := by
    cases p <;> simp_all [Policy.isLfu, Policy.isLru]
  have httl : p.isTtl = false := by
    cases p <;> simp_all [Policy.isLfu, Policy.isTtl]
  cases sampled with
  | stamp s =>
    simp only [Ranking.rank?, hlru, hp, Bool.false_eq_true, if_false, if_true,
      Option.some.injEq] at hrank
    rw [← hrank]
    exact Nat.sub_le _ _
  | deadline t => simp [Ranking.rank?, httl] at hrank

/-- A policy that keeps no pool ranks nothing. -/
theorem RankedBy.usesPool (h : RankedBy p c) : p.usesPool = true := by
  obtain ⟨decayMinutes, sampled, now, hrank⟩ := h
  cases sampled with
  | stamp s => cases p <;> simp_all [Ranking.rank?, Policy.usesPool, Policy.isLru, Policy.isLfu]
  | deadline t => cases p <;> simp_all [Ranking.rank?, Policy.usesPool, Policy.isTtl]

namespace Evictor

variable {σ : Type} {e e' : Evictor} {d : Dataset σ} {server : Server σ} {clock : Clock σ}
  {fuel rounds : Nat}

/-! ## What a check puts into the pool -/

/-- The pool of an evictor holds candidates of its policy only. -/
def Pure (e : Evictor) : Prop := e.pool.Holds (RankedBy e.ranking.policy)

/-- What becomes of a sample is ranked by the policy. -/
theorem rankedBy_of_candidate? {site : σ} {ranking : Ranking} {shard : Nat} {scope : Scope}
    {now : Moment} {visit : Bytes × Sampled}
    (h : Sampler.candidate? d site ranking shard scope now visit = some c) :
    RankedBy ranking.policy c := by
  unfold Sampler.candidate? at h
  obtain ⟨sampled, -, h⟩ := Option.bind_eq_some_iff.mp h
  obtain ⟨rank, hrank, h⟩ := Option.bind_eq_some_iff.mp h
  cases h
  exact ⟨ranking.decayMinutes, sampled, now, hrank⟩

theorem harvestShard_holds {now : Moment} {h : Harvest σ}
    (hpool : h.pool.Holds (RankedBy e.ranking.policy)) (shard : Nat) :
    (e.harvestShard d now h shard).pool.Holds (RankedBy e.ranking.policy) := by
  unfold harvestShard
  dsimp only
  split
  · exact hpool
  · refine (Pool.offered_offerAll _ _).holds hpool ?_
    intro c hc
    obtain ⟨visit, -, hcandidate⟩ := List.mem_filterMap.mp hc
    exact rankedBy_of_candidate? hcandidate

theorem Pure.harvest (h : e.Pure) (now : Moment) (site : σ) :
    (e.harvest d now site).pool.Holds (RankedBy e.ranking.policy) := by
  refine List.foldlRecOn
    (motive := fun h : Harvest σ => h.pool.Holds (RankedBy e.ranking.policy)) _ _ h ?_
  intro harvest hpool shard _
  exact harvestShard_holds hpool shard

theorem searchRound_pure {s : Scene σ} (h : s.evictor.Pure) :
    (∀ s', searchRound d clock s = .inl s' → s'.evictor.Pure) ∧
      ∀ v s', searchRound d clock s = .inr (v, s') → s'.evictor.Pure := by
  have hharvest := h.harvest (d := d) (clock.now s.site) s.site
  constructor
  · intro s' hround
    simp only [searchRound] at hround
    split at hround
    · cases hround
    · split at hround
      · cases hround
      · split at hround
        · cases hround
        · cases hround
          exact hharvest.select _ _
  · intro v s' hround
    simp only [searchRound] at hround
    split at hround
    · cases hround
      exact Pool.holds_of_size_eq_zero rfl
    · split at hround
      · cases hround
        exact hharvest.select _ _
      · split at hround
        · cases hround
          exact hharvest.select _ _
        · cases hround

theorem pickFrom_pure (shards tries : Nat) {s : Scene σ} (h : s.evictor.Pure) :
    (pickFrom d shards tries s).2.evictor.Pure := by
  induction tries generalizing s with
  | zero => exact h
  | succ tries ih =>
    simp only [pickFrom]
    have hturn : ({ s.evictor with cursor := Word.add s.evictor.cursor 1 } : Evictor).Pure := h
    split
    · exact ih hturn
    · split
      · exact hturn
      · exact ih hturn

theorem findVictim_pure {s s' : Scene σ} {v : Option Victim} (h : s.evictor.Pure)
    (hfind : findVictim rounds d clock s = some (v, s')) : s'.evictor.Pure := by
  unfold findVictim at hfind
  split at hfind
  · refine Loop.run_induct (I := fun t => t.evictor.Pure) (P := fun r => r.2.evictor.Pure)
      ?_ ?_ h hfind
    · intro t t' ht hstep
      exact (searchRound_pure ht).1 t' (Option.some.inj hstep)
    · intro t r ht hstep
      exact (searchRound_pure ht).2 r.1 r.2 (Option.some.inj hstep)
  · have hpick : pickRandom d s = (v, s') := Option.some.inj hfind
    have hpure := pickFrom_pure (d := d) (d.shards s.site) (d.shards s.site) h
    unfold pickRandom at hpick
    rwa [hpick] at hpure

theorem lasting_pure : Lasting rounds d clock Pure where
  stats h _ := h
  search := findVictim_pure

/-- A check puts nothing into the pool but what its policy ranks. -/
theorem ensureWithin_pure {s : Scene σ} {r : CheckResult σ} (h : s.evictor.Pure)
    (hcheck : ensureWithin fuel rounds d server clock s = some r) : r.scene.evictor.Pure :=
  lasting_pure.ensureWithin h hcheck

/-! ## Moves -/

/-- What happens to an evictor: it is given settings, which it may refuse, or it makes a check, of
any dataset and server and with any answer. -/
inductive Move (e : Evictor) : Evictor → Prop where
  | configured (s : Settings) : Move e (e.setSettings s).2
  | checked {σ : Type} (d : Dataset σ) (server : Server σ) (clock : Clock σ) (fuel rounds : Nat)
    (site : σ) {r : CheckResult σ}
    (h : ensureWithin fuel rounds d server clock ⟨e, site⟩ = some r) : Move e r.scene.evictor

/-- The evictors that there can be. -/
inductive Reachable : Evictor → Prop where
  | made {e : Evictor} (s : Settings) (h : ofSettings s = .ok e) : Reachable e
  | moved {e e' : Evictor} (h : Reachable e) (hmove : e.Move e') : Reachable e'

/-- Moves lead from one evictor to another, under one policy all along. -/
inductive Under (p : Policy) : Evictor → Evictor → Prop where
  | refl {e : Evictor} (hp : e.settings.policy = p) : Under p e e
  | tail {e₀ e e' : Evictor} (h : Under p e₀ e) (hmove : e.Move e') (hp : e'.settings.policy = p) :
    Under p e₀ e'

theorem Coherent.move (h : e.Coherent) (hmove : e.Move e') : e'.Coherent := by
  cases hmove with
  | configured s => exact h.setSettings s
  | checked d server clock fuel rounds site hcheck => exact h.ensureWithin hcheck

/-- A move keeps the policy, or it empties the pool. -/
theorem Move.policy_or (h : e.Move e') :
    e'.settings.policy = e.settings.policy ∨ e'.pool.size = 0 := by
  cases h with
  | configured s =>
    rcases setSettings_cases e s with ⟨err, heq⟩ | ⟨-, hpolicy, heq⟩ | ⟨-, -, heq⟩
    · rw [heq]
      exact Or.inl rfl
    · rw [heq]
      exact Or.inl hpolicy
    · rw [heq]
      exact Or.inr rfl
  | checked d server clock fuel rounds site hcheck =>
    exact Or.inl (congrArg Settings.policy (ensureWithin_kept hcheck).settings)

/-- A move of an evictor whose pool is pure leaves one such. -/
theorem Pure.move (h : e.Pure) (hcoherent : e.Coherent) (hmove : e.Move e') : e'.Pure := by
  cases hmove with
  | configured s =>
    rcases setSettings_cases e s with ⟨err, heq⟩ | ⟨-, hpolicy, heq⟩ | ⟨-, -, heq⟩
    · rwa [heq]
    · -- the pool stays, and so does the policy that ranked what it holds
      have hranking : (e.adopt s).ranking.policy = e.ranking.policy := by
        rw [hcoherent.ranking]
        exact hpolicy
      rw [heq]
      show Pool.Holds (RankedBy (e.adopt s).ranking.policy) e.pool
      rwa [hranking]
    · rw [heq]
      exact Pool.holds_of_size_eq_zero rfl
  | checked d server clock fuel rounds site hcheck => exact ensureWithin_pure h hcheck

/-! ## Evictors that there can be -/

theorem Reachable.coherent (h : e.Reachable) : e.Coherent := by
  induction h with
  | made s hmade => exact Coherent.ofSettings hmade
  | moved _ hmove ih => exact ih.move hmove

theorem size_pool_of_ofSettings {s : Settings} (h : ofSettings s = .ok e) : e.pool.size = 0 := by
  obtain ⟨-, rfl⟩ := ofSettings_cases h
  rfl

theorem Reachable.pure (h : e.Reachable) : e.Pure := by
  induction h with
  | made s hmade => exact Pool.holds_of_size_eq_zero (size_pool_of_ofSettings hmade)
  | moved hreach hmove ih => exact ih.move hreach.coherent hmove

/-- Since its pool was last empty, an evictor has been under one policy. -/
theorem Reachable.exists_under (h : e.Reachable) :
    ∃ e₀, e₀.Reachable ∧ e₀.pool.size = 0 ∧ Under e.settings.policy e₀ e := by
  induction h with
  | @made e s hmade =>
    exact ⟨e, .made s hmade, size_pool_of_ofSettings hmade, .refl rfl⟩
  | @moved e e' hreach hmove ih =>
    obtain ⟨e₀, hreach₀, hempty, hunder⟩ := ih
    rcases hmove.policy_or with hpolicy | hempty'
    · refine ⟨e₀, hreach₀, hempty, ?_⟩
      rw [hpolicy]
      exact hunder.tail hmove hpolicy
    · exact ⟨e', hreach.moved hmove, hempty', .refl rfl⟩

/-- Without candidates of a kind, a pool that holds nothing else is empty. -/
theorem Pure.size_eq_zero (h : e.Pure) (hpool : e.ranking.policy.usesPool = false) :
    e.pool.size = 0 := by
  refine Nat.eq_zero_of_not_pos fun hsize => ?_
  obtain ⟨c, -, hc⟩ := h.2 0 (by decide) hsize
  rw [hc.usesPool] at hpool
  cases hpool

/-- Whatever an evictor has gone through, its parts agree with its settings, and its pool holds
nothing but what came in under its policy: since the pool was last empty the policy has been the
same. So all ranks in the pool are on the scale of the policy, and a policy that does not rank has
an empty pool. Settings that are refused change nothing. -/
theorem never_mixed (h : e.Reachable) :
    e.Coherent ∧
    (∃ e₀, e₀.Reachable ∧ e₀.pool.size = 0 ∧ Under e.settings.policy e₀ e) ∧
    (e.settings.policy.isLru = true →
      ∀ c ∈ e.pool.toList, 1000 ∣ c.rank ∧ c.rank ≤ 0xFF_FFFF * 1000) ∧
    (e.settings.policy.isLfu = true → ∀ c ∈ e.pool.toList, c.rank ≤ 255) ∧
    (e.settings.policy.usesPool = false → e.pool.size = 0) ∧
    ∀ s err, (e.setSettings s).1 = .error err → (e.setSettings s).2 = e := by
  have hpolicy : e.ranking.policy = e.settings.policy := congrArg Ranking.policy h.coherent.ranking
  have hpure := h.pure
  refine ⟨h.coherent, h.exists_under, ?_, ?_, ?_, ?_⟩
  · intro hlru c hc
    exact (hpure.of_mem hc).of_lru (hpolicy ▸ hlru)
  · intro hlfu c hc
    exact (hpure.of_mem hc).of_lfu (hpolicy ▸ hlfu)
  · intro hpool
    exact hpure.size_eq_zero (hpolicy ▸ hpool)
  · intro s err herror
    rcases setSettings_cases e s with ⟨_, heq⟩ | ⟨-, -, heq⟩ | ⟨-, -, heq⟩
    · rw [heq]
    · rw [heq] at herror
      cases herror
    · rw [heq] at herror
      cases herror

/-- An evictor that was given other settings, has made a check, which left two keys in its pool, and
has then refused settings that ask for no samples. -/
theorem never_mixed_uneven :
    ∃ e : Evictor, e.Reachable ∧ e.settings.policy = .allKeysLru ∧ e.pool.size = 2 ∧
      e.Coherent ∧
      (∃ e₀, e₀.Reachable ∧ e₀.pool.size = 0 ∧ Under .allKeysLru e₀ e) ∧
      (∀ c ∈ e.pool.toList, 1000 ∣ c.rank ∧ c.rank ≤ 0xFF_FFFF * 1000) ∧
      ∀ s err, (e.setSettings s).1 = .error err → (e.setSettings s).2 = e := by
  have hmade : Reachable Rack.uneven.evictor := .made Rack.uneven.evictor.settings rfl
  have hgiven := hmade.moved (.configured { policy := .allKeysLru, maxMemory := 250 })
  have hended : (ensureWithin 5 2 Rack.dataset Rack.server Rack.clock
      ⟨(Rack.uneven.evictor.setSettings { policy := .allKeysLru, maxMemory := 250 }).2,
        Rack.uneven.site⟩).map (·.scene.evictor.pool.size) = some 2 := by decide +kernel
  obtain ⟨r, hr, hsize⟩ := Option.map_eq_some_iff.mp hended
  have hpolicy : r.scene.evictor.settings.policy = .allKeysLru :=
    congrArg Settings.policy (ensureWithin_kept hr).settings
  have hreach : (r.scene.evictor.setSettings { samples := 0 }).2.Reachable :=
    (hgiven.moved (.checked _ _ _ _ _ _ hr)).moved (.configured _)
  obtain ⟨hcoherent, hunder, hlru, -, -, hrefused⟩ := never_mixed hreach
  have hlast : (r.scene.evictor.setSettings { samples := 0 }).2.settings.policy = .allKeysLru :=
    hpolicy
  rw [hlast] at hunder hlru
  exact ⟨_, hreach, hpolicy, hsize, hcoherent, hunder, hlru rfl, hrefused⟩

end Evictor

end SampledEviction
