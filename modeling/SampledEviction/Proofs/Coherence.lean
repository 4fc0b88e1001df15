import SampledEviction.Proofs.Step

/-!
# Coherent evictors

An evictor prepares its parts from its settings. They agree with the settings in every evictor
that was made from accepted ones, whatever checks and changes of settings came after.

* `Lasting.ensureWithin` — what every search keeps of an evictor is kept by a check
* `ensureWithin_kept` — so are the settings and what is prepared from them
* `Coherent.ofSettings`, `Coherent.setSettings`, `Coherent.ensureWithin` — where evictors come
  from
-/

namespace SampledEviction.Evictor

variable {σ : Type} {e e' : Evictor}

/-! ## What a check leaves -/

/-- The settings of an evictor, and what is prepared from them, are those of another. -/
structure Kept (e e' : Evictor) : Prop where
  settings : e'.settings = e.settings
  budget : e'.budget = e.budget
  sampler : e'.sampler = e.sampler
  ranking : e'.ranking = e.ranking

theorem Kept.refl (e : Evictor) : Kept e e := ⟨rfl, rfl, rfl, rfl⟩

theorem Kept.trans {e₁ e₂ e₃ : Evictor} (h : Kept e₁ e₂) (h' : Kept e₂ e₃) : Kept e₁ e₃ where
  settings := h'.settings.trans h.settings
  budget := h'.budget.trans h.budget
  sampler := h'.sampler.trans h.sampler
  ranking := h'.ranking.trans h.ranking

theorem Searched.kept (h : Searched e e') : Kept e e' := by
  obtain ⟨_, _, _, rfl⟩ := h
  exact ⟨rfl, rfl, rfl, rfl⟩

variable {rounds fuel : Nat} {d : Dataset σ} {server : Server σ} {clock : Clock σ} {o : Overage}
  {c : Cycle σ}

/-- The cycle that a step leaves. -/
def StepResult.cycle : StepResult σ → Cycle σ
  | .inl c => c
  | .inr (_, c) => c

@[simp] theorem StepResult.cycle_inr (x : Except EvictionError Outcome × Cycle σ) :
    StepResult.cycle (.inr x) = x.2 := rfl

/-- A property of evictors that a search keeps, and that does not depend on what was counted. -/
structure Lasting (rounds : Nat) (d : Dataset σ) (clock : Clock σ) (P : Evictor → Prop) : Prop where
  stats {e : Evictor} (h : P e) (stats : EvictionStats) : P { e with stats }
  search {s s' : Scene σ} {v : Option Victim} (h : P s.evictor)
    (hfind : findVictim rounds d clock s = some (v, s')) : P s'.evictor

variable {P : Evictor → Prop}

theorem Lasting.cycleStep (hP : Lasting rounds d clock P) (h : P c.scene.evictor)
    {x : StepResult σ} (hstep : cycleStep rounds d server clock o c = some x) :
    P x.cycle.scene.evictor := by
  cases cycleStep_cases hstep with
  | enough _ => exact h
  | paused _ => exact h
  | noVictim _ hfind =>
    have hfound := hP.search h hfind
    exact hfound
  | unread _ hfind _ =>
    have hfound := hP.search h hfind
    exact hfound
  | gone _ hfind _ =>
    have hfound := hP.search h hfind
    exact hfound
  | deleted _ hfind _ hlook =>
    have hcounted := hP.stats (hP.search h hfind)
    cases hlook with
    | skipped _ => exact hcounted _
    | failed _ _ => exact hcounted _
    | within _ _ => exact hcounted _
    | above _ _ => exact hcounted _

theorem Lasting.runCycle (hP : Lasting rounds d clock P) {s : Scene σ} (h : P s.evictor)
    {r : Except EvictionError Outcome × Cycle σ}
    (hrun : runCycle fuel rounds d server clock o s = some r) : P r.2.scene.evictor := by
  refine Loop.run_induct (I := fun c => P c.scene.evictor) (P := fun r => P r.2.scene.evictor)
    ?_ ?_ h hrun
  · intro c c' hc hstep
    exact hP.cycleStep hc hstep
  · intro c r hc hstep
    exact hP.cycleStep hc hstep

theorem Lasting.conclude (hP : Lasting rounds d clock P) (o : Overage)
    {r : Except EvictionError Outcome × Cycle σ} (h : P r.2.scene.evictor) :
    P (conclude o r).scene.evictor := by
  rcases r with ⟨_ | _ | reason, c⟩
  · exact h
  · exact h
  · exact hP.stats h _

/-- What every search keeps is kept by a check. -/
theorem Lasting.ensureWithin (hP : Lasting rounds d clock P) {s : Scene σ} (h : P s.evictor)
    {r : CheckResult σ} (hcheck : ensureWithin fuel rounds d server clock s = some r) :
    P r.scene.evictor := by
  cases ensureWithin_cases hcheck with
  | guarded _ => exact h
  | unread _ => exact h
  | within _ => exact h
  | forbidden _ _ => exact hP.stats h _
  | @ran o site _ _ _ _ hrun =>
    have hopened : P (opened s site).evictor := hP.stats h _
    exact hP.conclude o (hP.runCycle hopened hrun)

theorem lasting_kept (e : Evictor) : Lasting rounds d clock (Kept e) where
  stats h _ := ⟨h.settings, h.budget, h.sampler, h.ranking⟩
  search h hfind := h.trans (findVictim_searched hfind).kept

/-- A check leaves the settings and what is prepared from them. -/
theorem ensureWithin_kept {s : Scene σ} {r : CheckResult σ}
    (h : ensureWithin fuel rounds d server clock s = some r) :
    Kept s.evictor r.scene.evictor :=
  (lasting_kept s.evictor).ensureWithin (.refl _) h

/-! ## Where evictors come from -/

/-- The parts of an evictor agree with its settings, which ask for a sensible number of
samples. -/
structure Coherent (e : Evictor) : Prop where
  budget : e.budget = ⟨e.settings.maxMemory⟩
  sampler : e.sampler = ⟨e.settings.samples⟩
  ranking : e.ranking = ⟨e.settings.policy, e.settings.pace.decayMinutes⟩
  one_le : 1 ≤ e.settings.samples
  le_max : e.settings.samples ≤ Settings.maxSamples

theorem Coherent.kept (h : e.Coherent) (hkept : Kept e e') : e'.Coherent where
  budget := by rw [hkept.budget, hkept.settings, h.budget]
  sampler := by rw [hkept.sampler, hkept.settings, h.sampler]
  ranking := by rw [hkept.ranking, hkept.settings, h.ranking]
  one_le := hkept.settings ▸ h.one_le
  le_max := hkept.settings ▸ h.le_max

theorem validate_cases {s : Settings} (h : s.validate = .ok ()) :
    1 ≤ s.samples ∧ s.samples ≤ Settings.maxSamples := by
  unfold Settings.validate at h
  split at h
  · assumption
  · cases h

/-- A new evictor is prepared from its settings, and has done nothing so far. -/
theorem ofSettings_cases {s : Settings} (h : ofSettings s = .ok e) :
    s.validate = .ok () ∧
      e = { settings := s, budget := ⟨s.maxMemory⟩, sampler := ⟨s.samples⟩
            ranking := ⟨s.policy, s.pace.decayMinutes⟩, pool := .empty, cursor := 0
            stats := {} } := by
  unfold Evictor.ofSettings at h
  cases hvalid : s.validate with
  | error err => rw [hvalid] at h; cases h
  | ok =>
    rw [hvalid] at h
    cases h
    exact ⟨rfl, rfl⟩

theorem Coherent.ofSettings {s : Settings} (h : ofSettings s = .ok e) : e.Coherent := by
  obtain ⟨hvalid, rfl⟩ := ofSettings_cases h
  exact ⟨rfl, rfl, rfl, (validate_cases hvalid).1, (validate_cases hvalid).2⟩

/-- Settings are refused, which changes nothing, or taken over, with the pool emptied if the policy
changes. -/
theorem setSettings_cases (e : Evictor) (s : Settings) :
    (∃ err, e.setSettings s = (.error err, e)) ∨
      s.validate = .ok () ∧ s.policy = e.settings.policy ∧ e.setSettings s = (.ok [], e.adopt s) ∨
      s.validate = .ok () ∧ s.policy ≠ e.settings.policy ∧
        e.setSettings s = (.ok [.policyChanged e.settings.policy s.policy],
          { e with pool := e.pool.clear }.adopt s) := by
  unfold Evictor.setSettings
  cases hvalid : s.validate with
  | error err => exact Or.inl ⟨err, rfl⟩
  | ok =>
    by_cases hpolicy : s.policy = e.settings.policy
    · simp [hpolicy]
    · simp [hpolicy]

theorem Coherent.adopt {s : Settings} (h : s.validate = .ok ()) : (e.adopt s).Coherent :=
  ⟨rfl, rfl, rfl, (validate_cases h).1, (validate_cases h).2⟩

theorem Coherent.setSettings (h : e.Coherent) (s : Settings) : (e.setSettings s).2.Coherent := by
  rcases setSettings_cases e s with ⟨err, heq⟩ | ⟨hvalid, -, heq⟩ | ⟨hvalid, -, heq⟩
  · rwa [heq]
  · rw [heq]
    exact adopt hvalid
  · rw [heq]
    exact adopt hvalid

theorem Coherent.ensureWithin {s : Scene σ} {r : CheckResult σ} (hs : s.evictor.Coherent)
    (h : ensureWithin fuel rounds d server clock s = some r) : r.scene.evictor.Coherent :=
  hs.kept (ensureWithin_kept h)

end SampledEviction.Evictor
