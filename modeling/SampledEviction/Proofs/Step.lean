import SampledEviction.Evictor.Cycle

/-!
# What a step of a cycle can do

A cycle step is taken apart once, into one case for each of its ends; whatever is kept by a
step is proved from these cases.

* `cycleStep_cases` — the ends of a step, and what led to them
* `exists_cycleStep` — a step fails to end only where the search does
* `ensureWithin_cases` — the ends of a check, and what led to them
* `findVictim_searched` — what a search may change of an evictor
-/

namespace SampledEviction

variable {σ : Type}

/-- A cycle that neither freed enough nor was paused in its course. -/
def Cycle.GoesOn (server : Server σ) (o : Overage) (c : Cycle σ) : Prop :=
  c.freed < o.excess ∧ (0 < c.keys → server.clientsPaused c.scene.site = false)

/-- A cycle at another site. -/
def Cycle.at (c : Cycle σ) (site : σ) : Cycle σ := { c with scene := { c.scene with site } }

namespace Evictor

/-- What a step comes to: a cycle to go on from, or an answer. -/
abbrev StepResult (σ : Type) := Cycle σ ⊕ (Except EvictionError Outcome × Cycle σ)

/-- What follows a deletion: with background releases, now and then a look at real usage. -/
inductive Recheck (server : Server σ) (lazy : Bool) (c : Cycle σ) : StepResult σ → Prop where
  | skipped (hdue : (lazy && c.keys % recheckInterval == 0) = false) :
    Recheck server lazy c (.inl c)
  | failed {e : EvictionError} {site : σ} (hdue : (lazy && c.keys % recheckInterval == 0) = true)
    (hlook : c.scene.evictor.budget.overage? server c.scene.site = (.error e, site)) :
    Recheck server lazy c (.inr (.error e, c.at site))
  | within {site : σ} (hdue : (lazy && c.keys % recheckInterval == 0) = true)
    (hlook : c.scene.evictor.budget.overage? server c.scene.site = (.ok none, site)) :
    Recheck server lazy c (.inr (.ok .ok, c.at site))
  | above {o : Overage} {site : σ} (hdue : (lazy && c.keys % recheckInterval == 0) = true)
    (hlook : c.scene.evictor.budget.overage? server c.scene.site = (.ok (some o), site)) :
    Recheck server lazy c (.inl (c.at site))

/-- The ends of a step. -/
inductive CycleStep (rounds : Nat) (d : Dataset σ) (server : Server σ) (clock : Clock σ)
    (o : Overage) (c : Cycle σ) : StepResult σ → Prop where
  | enough (h : o.excess ≤ c.freed) : CycleStep rounds d server clock o c (.inr (.ok .ok, c))
  | paused (h : server.clientsPaused c.scene.site = true) :
    CycleStep rounds d server clock o c (.inr (.ok .ok, c))
  | noVictim {scene : Scene σ} (hgo : c.GoesOn server o)
    (hfind : findVictim rounds d clock c.scene = some (none, scene)) :
    CycleStep rounds d server clock o c (.inr (giveUp d server clock o { c with scene }))
  | unread {v : Victim} {scene : Scene σ} {e : EvictionError} {site : σ}
    (hgo : c.GoesOn server o) (hfind : findVictim rounds d clock c.scene = some (some v, scene))
    (hdel : deleteVictim d server scene.evictor.settings.lazy v scene.site = (.error e, site)) :
    CycleStep rounds d server clock o c
      (.inr (.error e, { c with scene := { scene with site } }))
  | gone {v : Victim} {scene : Scene σ} {freed : Nat} {site : σ}
    (hgo : c.GoesOn server o) (hfind : findVictim rounds d clock c.scene = some (some v, scene))
    (hdel : deleteVictim d server scene.evictor.settings.lazy v scene.site
      = (.ok (false, freed), site)) :
    CycleStep rounds d server clock o c
      (.inr (giveUp d server clock o { c with scene := { scene with site } }))
  | deleted {v : Victim} {scene : Scene σ} {freed : Nat} {site : σ} {x : StepResult σ}
    (hgo : c.GoesOn server o) (hfind : findVictim rounds d clock c.scene = some (some v, scene))
    (hdel : deleteVictim d server scene.evictor.settings.lazy v scene.site
      = (.ok (true, freed), site))
    (hlook : Recheck server scene.evictor.settings.lazy
      (settleDeletion server { c with scene } v freed site) x) :
    CycleStep rounds d server clock o c x

variable {rounds : Nat} {d : Dataset σ} {server : Server σ} {clock : Clock σ} {o : Overage}
  {c : Cycle σ}

/-- The ends of a step, and what led to them. -/
theorem cycleStep_cases {x : StepResult σ} (h : cycleStep rounds d server clock o c = some x) :
    CycleStep rounds d server clock o c x := by
  unfold cycleStep at h
  by_cases henough : o.excess ≤ c.freed
  · rw [if_pos henough] at h
    cases h
    exact .enough henough
  rw [if_neg henough] at h
  by_cases hpaused : (0 < c.keys && server.clientsPaused c.scene.site) = true
  · rw [if_pos hpaused] at h
    cases h
    exact .paused (Bool.and_eq_true_iff.mp hpaused).2
  rw [if_neg hpaused] at h
  have hgo : c.GoesOn server o := by
    refine ⟨by omega, fun hkeys => ?_⟩
    simpa [hkeys] using hpaused
  cases hfind : findVictim rounds d clock c.scene with
  | none => simp [hfind] at h
  | some found =>
    obtain ⟨_ | v, scene⟩ := found
    · simp only [hfind, Option.some.injEq] at h
      subst h
      exact .noVictim hgo hfind
    · simp only [hfind] at h
      rcases hdel : deleteVictim d server scene.evictor.settings.lazy v scene.site
        with ⟨e | ⟨_ | _, freed⟩, site⟩
      · simp only [hdel, Option.some.injEq] at h
        subst h
        exact .unread hgo hfind hdel
      · simp only [hdel, Option.some.injEq] at h
        subst h
        exact .gone hgo hfind hdel
      · simp only [hdel] at h
        refine .deleted hgo hfind hdel ?_
        split at h
        · rename_i hdue
          split at h
          all_goals
            rename_i hlook
            cases h
          · exact .failed hdue hlook
          · exact .within hdue hlook
          · exact .above hdue hlook
        · rename_i hdue
          cases h
          exact .skipped (Bool.eq_false_iff.mpr hdue)

/-- A step fails to end only where the search does. -/
theorem exists_cycleStep {found : Option Victim × Scene σ}
    (h : findVictim rounds d clock c.scene = some found) :
    ∃ x, cycleStep rounds d server clock o c = some x := by
  obtain ⟨_ | v, scene⟩ := found
  all_goals
    simp only [cycleStep, h]
    repeat' split
    all_goals exact ⟨_, rfl⟩

/-! ## Checks -/

/-- The scene in which a cycle starts. -/
def opened (s : Scene σ) (site : σ) : Scene σ :=
  ⟨{ s.evictor with stats := { s.evictor.stats with cycles := s.evictor.stats.cycles + 1 } }, site⟩

/-- The ends of a check. -/
inductive Check (fuel rounds : Nat) (d : Dataset σ) (server : Server σ) (clock : Clock σ)
    (s : Scene σ) : CheckResult σ → Prop where
  | guarded (hguard : s.evictor.mayEvict server s.site = false) :
    Check fuel rounds d server clock s ⟨.ok .ok, s, []⟩
  | unread {e : EvictionError} {site : σ}
    (hlook : s.evictor.budget.overage? server s.site = (.error e, site)) :
    Check fuel rounds d server clock s ⟨.error e, { s with site }, []⟩
  | within {site : σ} (hlook : s.evictor.budget.overage? server s.site = (.ok none, site)) :
    Check fuel rounds d server clock s ⟨.ok .ok, { s with site }, []⟩
  | forbidden {o : Overage} {site : σ}
    (hlook : s.evictor.budget.overage? server s.site = (.ok (some o), site))
    (hpolicy : s.evictor.settings.policy.evicts = false) :
    Check fuel rounds d server clock s (block .noEviction o 0 [] { s with site })
  | ran {o : Overage} {site : σ} {x : Except EvictionError Outcome × Cycle σ}
    (hguard : s.evictor.mayEvict server s.site = true)
    (hlook : s.evictor.budget.overage? server s.site = (.ok (some o), site))
    (hpolicy : s.evictor.settings.policy.evicts = true)
    (hrun : runCycle fuel rounds d server clock o (opened s site) = some x) :
    Check fuel rounds d server clock s (conclude o x)

/-- The ends of a check, and what led to them. -/
theorem ensureWithin_cases {fuel : Nat} {s : Scene σ} {r : CheckResult σ}
    (h : ensureWithin fuel rounds d server clock s = some r) :
    Check fuel rounds d server clock s r := by
  unfold ensureWithin at h
  by_cases hguard : s.evictor.mayEvict server s.site = false
  · rw [if_pos hguard] at h
    cases h
    exact .guarded hguard
  rw [if_neg hguard] at h
  rcases hlook : s.evictor.budget.overage? server s.site with ⟨e | _ | o, site⟩
  all_goals simp only [hlook] at h
  · cases h
    exact .unread hlook
  · cases h
    exact .within hlook
  · split at h
    · rename_i hpolicy
      obtain ⟨x, hrun, rfl⟩ := Option.map_eq_some_iff.mp h
      exact .ran (Bool.not_eq_false _ ▸ hguard) hlook hpolicy hrun
    · rename_i hpolicy
      cases h
      exact .forbidden hlook (Bool.eq_false_iff.mpr hpolicy)

/-- The end of a check leaves the site, the pool and the cursor as the cycle left them. -/
@[simp] theorem conclude_site (o : Overage) (x : Except EvictionError Outcome × Cycle σ) :
    (conclude o x).scene.site = x.2.scene.site := by
  rcases x with ⟨_ | _ | _, _⟩ <;> rfl

@[simp] theorem conclude_pool (o : Overage) (x : Except EvictionError Outcome × Cycle σ) :
    (conclude o x).scene.evictor.pool = x.2.scene.evictor.pool := by
  rcases x with ⟨_ | _ | _, _⟩ <;> rfl

@[simp] theorem conclude_cursor (o : Overage) (x : Except EvictionError Outcome × Cycle σ) :
    (conclude o x).scene.evictor.cursor = x.2.scene.evictor.cursor := by
  rcases x with ⟨_ | _ | _, _⟩ <;> rfl

/-- A check that may not evict does no more than look at usage. -/
theorem site_of_idle {fuel : Nat} {s : Scene σ} {r : CheckResult σ}
    (hidle : s.evictor.settings.policy.evicts = false ∨ s.evictor.mayEvict server s.site = false)
    (h : ensureWithin fuel rounds d server clock s = some r) :
    r.scene.site = s.site ∨ r.scene.site = (s.evictor.budget.overage? server s.site).2 := by
  unfold ensureWithin at h
  by_cases hguard : s.evictor.mayEvict server s.site = false
  · rw [if_pos hguard] at h
    cases h
    exact Or.inl rfl
  · rw [if_neg hguard, hidle.resolve_right hguard] at h
    rcases hlook : s.evictor.budget.overage? server s.site with ⟨e | _ | o, site⟩
    all_goals
      rw [hlook] at h
      cases h
      exact Or.inr rfl

/-! ## What a search may change -/

/-- `e'` is `e` after a search: the pool, the cursor and the count of ghosts may differ. -/
def Searched (e e' : Evictor) : Prop :=
  ∃ pool cursor ghosts, e' = { e with pool, cursor, stats := { e.stats with ghosts } }

theorem Searched.refl (e : Evictor) : Searched e e := ⟨_, _, _, rfl⟩

theorem Searched.trans {e₁ e₂ e₃ : Evictor} (h : Searched e₁ e₂) (h' : Searched e₂ e₃) :
    Searched e₁ e₃ := by
  obtain ⟨_, _, _, rfl⟩ := h
  obtain ⟨_, _, _, rfl⟩ := h'
  exact ⟨_, _, _, rfl⟩

theorem Searched.settings {e e' : Evictor} (h : Searched e e') : e'.settings = e.settings := by
  obtain ⟨_, _, _, rfl⟩ := h
  rfl

theorem Searched.budget {e e' : Evictor} (h : Searched e e') : e'.budget = e.budget := by
  obtain ⟨_, _, _, rfl⟩ := h
  rfl

theorem Searched.evictedKeys {e e' : Evictor} (h : Searched e e') :
    e'.stats.evictedKeys = e.stats.evictedKeys := by
  obtain ⟨_, _, _, rfl⟩ := h
  rfl

theorem searchRound_searched {s : Scene σ} :
    (∀ s', searchRound d clock s = .inl s' → Searched s.evictor s'.evictor) ∧
      ∀ v s', searchRound d clock s = .inr (v, s') → Searched s.evictor s'.evictor := by
  constructor
  all_goals
    intros
    rename_i h
    simp only [searchRound] at h
    repeat' split at h
    all_goals
      cases h
      try exact ⟨_, _, _, rfl⟩

/-- A round leaves the site as its harvest does. -/
theorem searchRound_site {s : Scene σ} :
    (∀ s', searchRound d clock s = .inl s' →
        s'.site = (s.evictor.harvest d (clock.now s.site) s.site).site) ∧
      ∀ v s', searchRound d clock s = .inr (v, s') →
        s'.site = (s.evictor.harvest d (clock.now s.site) s.site).site := by
  constructor
  all_goals
    intros
    rename_i h
    simp only [searchRound] at h
    repeat' split at h
    all_goals
      cases h
      try rfl

theorem pickFrom_searched (shards tries : Nat) (s : Scene σ) :
    Searched s.evictor (pickFrom d shards tries s).2.evictor := by
  induction tries generalizing s with
  | zero => exact .refl _
  | succ tries ih =>
    simp only [pickFrom]
    have hturn : Searched s.evictor { s.evictor with cursor := Word.add s.evictor.cursor 1 } :=
      ⟨_, _, _, rfl⟩
    split
    · exact hturn.trans (ih ⟨_, s.site⟩)
    · split
      · exact hturn
      · exact hturn.trans (ih ⟨_, _⟩)

/-- A search changes the pool, the cursor and the count of ghosts at most. -/
theorem findVictim_searched {s s' : Scene σ} {v : Option Victim}
    (h : findVictim rounds d clock s = some (v, s')) : Searched s.evictor s'.evictor := by
  unfold findVictim at h
  split at h
  · refine Loop.run_induct (I := fun t => Searched s.evictor t.evictor)
      (P := fun r => Searched s.evictor r.2.evictor) ?_ ?_ (.refl _) h
    · intro a a' ha hstep
      exact ha.trans (searchRound_searched.1 a' (Option.some.inj hstep))
    · intro a b ha hstep
      exact ha.trans (searchRound_searched.2 b.1 b.2 (Option.some.inj hstep))
  · have hpick : pickRandom d s = (v, s') := Option.some.inj h
    have := pickFrom_searched (d := d) (d.shards s.site) (d.shards s.site) s
    unfold pickRandom at hpick
    rwa [hpick] at this

end Evictor

end SampledEviction
