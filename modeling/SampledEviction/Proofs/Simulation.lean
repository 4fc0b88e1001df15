import SampledEviction.Evictor.Cycle

/-!
# Sites that answer alike

An evictor sees a site only through its interfaces. So a map of sites that commutes with every
operation of the interfaces commutes with a whole check of the budget.

* `findVictim_map` — it commutes with a search for a victim
* `ensureWithin_map` — it commutes with a check

A search asks less of a dataset than a check does, so the two have interfaces of their own:
a map may commute with a search and not with what follows it.
-/

namespace SampledEviction

variable {τ σ : Type}

/-! ## Maps of sites -/

/-- `f` commutes with what a search asks of a dataset. -/
structure Dataset.SearchAlike (f : τ → σ) (d' : Dataset τ) (d : Dataset σ) : Prop where
  shards : ∀ t, d.shards (f t) = d'.shards t
  count : ∀ t, d.count (f t) = d'.count t
  stamp? : ∀ t, d.stamp? (f t) = d'.stamp? t
  contains : ∀ t, d.contains (f t) = d'.contains t
  sample : ∀ shard scope n t,
    d.sample shard scope n (f t) = (d'.sample shard scope n t).map id f
  randomKey : ∀ shard scope t,
    d.randomKey shard scope (f t) = (d'.randomKey shard scope t).map id f

/-- `f` commutes with all operations of a dataset. -/
structure Dataset.Alike (f : τ → σ) (d' : Dataset τ) (d : Dataset σ) : Prop
    extends Dataset.SearchAlike f d' d where
  delete : ∀ shard key t, d.delete shard key (f t) = (d'.delete shard key t).map id f
  deleteDeferred : ∀ shard key t,
    d.deleteDeferred shard key (f t) = (d'.deleteDeferred shard key t).map id f
  pendingReleases : ∀ t, d.pendingReleases (f t) = (d'.pendingReleases t).map id f

/-- `f` commutes with all operations of a server. -/
structure Server.Alike (f : τ → σ) (server' : Server τ) (server : Server σ) : Prop where
  usedBytes : ∀ t, server.usedBytes (f t) = (server'.usedBytes t).map id f
  exemptBytes : ∀ t, server.exemptBytes (f t) = (server'.exemptBytes t).map id f
  hasReplicas : ∀ t, server.hasReplicas (f t) = server'.hasReplicas t
  flushReplicas : ∀ t, server.flushReplicas (f t) = f (server'.flushReplicas t)
  clientsPaused : ∀ t, server.clientsPaused (f t) = server'.clientsPaused t
  isReplica : ∀ t, server.isReplica (f t) = server'.isReplica t
  suspended : ∀ t, server.suspended (f t) = server'.suspended t
  evicted : ∀ shard key t, server.evicted shard key (f t) = f (server'.evicted shard key t)

/-- `f` commutes with reading a clock and with waiting. -/
structure Clock.Alike (f : τ → σ) (clock' : Clock τ) (clock : Clock σ) : Prop where
  seconds : ∀ t, clock.seconds (f t) = clock'.seconds t
  sleep : ∀ ms t, clock.sleep ms (f t) = f (clock'.sleep ms t)

/-- The same evictor at another site. -/
def Scene.map (f : τ → σ) (s : Scene τ) : Scene σ := ⟨s.evictor, f s.site⟩

/-- The same cycle at another site. -/
def Cycle.map (f : τ → σ) (c : Cycle τ) : Cycle σ := ⟨c.scene.map f, c.freed, c.keys, c.notices⟩

/-- The same result at another site. -/
def CheckResult.map (f : τ → σ) (r : CheckResult τ) : CheckResult σ :=
  ⟨r.answer, r.scene.map f, r.notices⟩

@[simp] theorem Scene.map_evictor (f : τ → σ) (s : Scene τ) : (s.map f).evictor = s.evictor := rfl

@[simp] theorem Scene.map_site (f : τ → σ) (s : Scene τ) : (s.map f).site = f s.site := rfl

/-- A loop commutes with a map that its step commutes with. -/
theorem Loop.run_map {α α' β β' : Type} {step' : α' → Option (α' ⊕ β')}
    {step : α → Option (α ⊕ β)} {f : α' → α} {g : β' → β}
    (h : ∀ a, step (f a) = (step' a).map (Sum.map f g)) (fuel : Nat) (a : α') :
    Loop.run step fuel (f a) = (Loop.run step' fuel a).map g := by
  induction fuel generalizing a with
  | zero => rfl
  | succ fuel ih =>
    rw [Loop.run, Loop.run, h a]
    cases step' a with
    | none => rfl
    | some r =>
      cases r with
      | inl a' => exact ih a'
      | inr b => rfl

namespace Evictor

variable {f : τ → σ} {d' : Dataset τ} {d : Dataset σ} {server' : Server τ} {server : Server σ}
  {clock' : Clock τ} {clock : Clock σ}

/-! ## The search -/

theorem candidate?_map (h : d'.SearchAlike f d) (t : τ) :
    Sampler.candidate? d (f t) = Sampler.candidate? d' t := by
  funext ranking shard scope now visit
  simp only [Sampler.candidate?, Sampler.resolve?, h.stamp?]

theorem populate_map (h : d'.SearchAlike f d) (s : Sampler) (shard : Nat) (scope : Scope)
    (ranking : Ranking) (now : Moment) (pool : Pool) (t : τ) :
    s.populate d shard scope ranking now pool (f t)
      = (s.populate d' shard scope ranking now pool t).map id (Prod.map id f) := by
  simp only [Sampler.populate, h.sample, Prod.map, candidate?_map h, id_eq]

/-- The same harvest at another site. -/
def Harvest.map (f : τ → σ) (h : Harvest τ) : Harvest σ := ⟨h.keys, h.taken, h.pool, f h.site⟩

theorem harvestShard_map (h : d'.SearchAlike f d) (e : Evictor) (now : Moment) (v : Harvest τ)
    (shard : Nat) :
    e.harvestShard d now (v.map f) shard = (e.harvestShard d' now v shard).map f := by
  simp only [harvestShard, Harvest.map, h.count, populate_map h, Prod.map, id_eq]
  split <;> rfl

theorem harvest_map (h : d'.SearchAlike f d) (e : Evictor) (now : Moment) (t : τ) :
    e.harvest d now (f t) = (e.harvest d' now t).map f := by
  have hfold := @List.foldl_hom _ _ _ (Harvest.map f) _ _ (List.range (d'.shards t))
    ⟨0, 0, e.pool, t⟩ (harvestShard_map h e now)
  simp only [harvest, h.shards]
  exact hfold

theorem searchRound_map (h : d'.SearchAlike f d) (hc : ∀ t, clock.seconds (f t) = clock'.seconds t)
    (s : Scene τ) :
    searchRound d clock (s.map f)
      = (searchRound d' clock' s).map (Scene.map f) (Prod.map id (Scene.map f)) := by
  have hnow : clock.now (f s.site) = clock'.now s.site := by simp only [Clock.now, hc]
  simp only [searchRound, Scene.map_evictor, Scene.map_site, hnow, harvest_map h]
  simp only [Harvest.map, h.contains]
  split
  · rfl
  · split
    · rfl
    · split <;> rfl

theorem pickFrom_map (h : d'.SearchAlike f d) (shards tries : Nat) (s : Scene τ) :
    pickFrom d shards tries (s.map f) = (pickFrom d' shards tries s).map id (Scene.map f) := by
  induction tries generalizing s with
  | zero => rfl
  | succ tries ih =>
    simp only [pickFrom, Scene.map_evictor, Scene.map_site, h.count, h.randomKey]
    split
    · exact ih ⟨_, s.site⟩
    · rcases d'.randomKey _ _ s.site with ⟨_ | key, t⟩
      · exact ih ⟨_, t⟩
      · rfl

/-- A search commutes with a map that its questions commute with. -/
theorem findVictim_map (h : d'.SearchAlike f d) (hc : ∀ t, clock.seconds (f t) = clock'.seconds t)
    (rounds : Nat) (s : Scene τ) :
    findVictim rounds d clock (s.map f)
      = (findVictim rounds d' clock' s).map (Prod.map id (Scene.map f)) := by
  have hstep (s : Scene τ) : some (searchRound d clock (s.map f))
      = (some (searchRound d' clock' s)).map (Sum.map (Scene.map f) (Prod.map id (Scene.map f))) :=
    congrArg some (searchRound_map h hc s)
  unfold findVictim
  rw [Scene.map_evictor]
  split
  · exact Loop.run_map hstep rounds s
  · simp only [pickRandom, Scene.map_site, h.shards, pickFrom_map h]
    rfl

/-! ## Readings -/

theorem reclaimed_map (hs : server'.Alike f server) (o : Overage) (freed : Nat) (t : τ) :
    o.reclaimed server freed (f t) = (o.reclaimed server' freed t).map id f := by
  simp only [Overage.reclaimed, hs.usedBytes]
  rcases server'.usedBytes t with ⟨_ | used, t⟩ <;> rfl

theorem overage?_map (hs : server'.Alike f server) (b : Budget) (t : τ) :
    b.overage? server (f t) = (b.overage? server' t).map id f := by
  simp only [Budget.overage?, hs.usedBytes]
  split
  · rfl
  · rcases server'.usedBytes t with ⟨_ | total, t⟩
    · rfl
    · simp only [Prod.map, id_eq, hs.exemptBytes]
      split
      · rfl
      · split <;> rfl

theorem awaitReleases_map (h : d'.Alike f d) (hs : server'.Alike f server)
    (hc : clock'.Alike f clock) (o : Overage) (freed remaining : Nat) (slept : Bool) (t : τ) :
    awaitReleases d server clock o freed remaining slept (f t)
      = (awaitReleases d' server' clock' o freed remaining slept t).map id f := by
  induction remaining generalizing slept t with
  | zero =>
    unfold awaitReleases
    simp only [h.pendingReleases, Prod.map, id_eq, reclaimed_map hs]
    split
    · split
      · rcases o.reclaimed server' freed _ with ⟨_ | _ | _, t⟩ <;> rfl
      · rfl
    · rcases o.reclaimed server' freed _ with ⟨_ | _ | _, t⟩ <;> rfl
  | succ remaining ih =>
    unfold awaitReleases
    simp only [h.pendingReleases, Prod.map, id_eq, reclaimed_map hs]
    split
    · split
      · rcases o.reclaimed server' freed _ with ⟨_ | _ | _, t⟩ <;> rfl
      · rfl
    · rcases o.reclaimed server' freed _ with ⟨_ | _ | _, t⟩
      · rfl
      · simp only [hc.sleep]
        exact ih true _
      · rfl

/-! ## The cycle -/

theorem mayEvict_map (hs : server'.Alike f server) (e : Evictor) (t : τ) :
    e.mayEvict server (f t) = e.mayEvict server' t := by
  simp only [mayEvict, hs.suspended, hs.isReplica, hs.clientsPaused]

theorem settleDeletion_map (hs : server'.Alike f server) (c : Cycle τ) (v : Victim) (freed : Nat)
    (t : τ) :
    settleDeletion server (c.map f) v freed (f t) = (settleDeletion server' c v freed t).map f := by
  simp only [settleDeletion, Cycle.map, hs.evicted, hs.hasReplicas, hs.flushReplicas, Scene.map]
  split <;> rfl

theorem deleteVictim_map (h : d'.Alike f d) (hs : server'.Alike f server) (lazy : Bool)
    (v : Victim) (t : τ) :
    deleteVictim d server lazy v (f t) = (deleteVictim d' server' lazy v t).map id f := by
  have hdelete (t : τ) :
      (if lazy then d.deleteDeferred v.shard v.key (f t) else d.delete v.shard v.key (f t))
        = (if lazy then d'.deleteDeferred v.shard v.key t else d'.delete v.shard v.key t).map id f
      := by
    split
    · exact h.deleteDeferred _ _ t
    · exact h.delete _ _ t
  simp only [deleteVictim, hs.usedBytes]
  rcases server'.usedBytes t with ⟨_ | before, t⟩
  · rfl
  · simp only [Prod.map, id_eq, hdelete]
    rcases if lazy then d'.deleteDeferred v.shard v.key t else d'.delete v.shard v.key t
      with ⟨removed, t⟩
    simp only [hs.usedBytes]
    rcases server'.usedBytes t with ⟨_ | after, t⟩ <;> rfl

theorem giveUp_map (h : d'.Alike f d) (hs : server'.Alike f server) (hc : clock'.Alike f clock)
    (o : Overage) (c : Cycle τ) :
    giveUp d server clock o (c.map f) = (giveUp d' server' clock' o c).map id (Cycle.map f) := by
  simp only [giveUp, Cycle.map, Scene.map, awaitReleases_map h hs hc]
  rfl

theorem cycleStep_map (h : d'.Alike f d) (hs : server'.Alike f server) (hc : clock'.Alike f clock)
    (rounds : Nat) (o : Overage) (c : Cycle τ) :
    cycleStep rounds d server clock o (c.map f)
      = (cycleStep rounds d' server' clock' o c).map
          (Sum.map (Cycle.map f) (Prod.map id (Cycle.map f))) := by
  have hpaused : server.clientsPaused (c.map f).scene.site
      = server'.clientsPaused c.scene.site := hs.clientsPaused _
  have hfind : findVictim rounds d clock (c.map f).scene
      = (findVictim rounds d' clock' c.scene).map (Prod.map id (Scene.map f)) :=
    findVictim_map h.toSearchAlike hc.seconds rounds c.scene
  simp only [cycleStep, hpaused, hfind]
  show (if o.excess ≤ c.freed then _ else if (0 < c.keys && _) = true then _ else _) = _
  split
  · rfl
  split
  · rfl
  rcases findVictim rounds d' clock' c.scene with _ | ⟨_ | v, s⟩
  · rfl
  · exact congrArg (fun r => some (Sum.inr r)) (giveUp_map h hs hc o { c with scene := s })
  · simp only [Option.map_some, Prod.map, id_eq, Scene.map, deleteVictim_map h hs]
    rcases deleteVictim d' server' s.evictor.settings.lazy v s.site with ⟨_ | ⟨_ | _, freed⟩, t⟩
    · rfl
    · exact congrArg (fun r => some (Sum.inr r))
        (giveUp_map h hs hc o { c with scene := ⟨s.evictor, t⟩ })
    · have hsettle := settleDeletion_map hs { c with scene := s } v freed t
      simp only [Cycle.map, Scene.map] at hsettle
      simp only [Cycle.map, Scene.map, hsettle, overage?_map hs]
      split
      · rcases Budget.overage? _ server' _ with ⟨_ | _ | _, t⟩ <;> rfl
      · rfl

theorem runCycle_map (h : d'.Alike f d) (hs : server'.Alike f server) (hc : clock'.Alike f clock)
    (fuel rounds : Nat) (o : Overage) (s : Scene τ) :
    runCycle fuel rounds d server clock o (s.map f)
      = (runCycle fuel rounds d' server' clock' o s).map (Prod.map id (Cycle.map f)) :=
  Loop.run_map (cycleStep_map h hs hc rounds o) fuel ⟨s, 0, 0, []⟩

/-! ## The check -/

theorem conclude_map (o : Overage) (r : Except EvictionError Outcome × Cycle τ) :
    conclude o (r.map id (Cycle.map f)) = (conclude o r).map f := by
  rcases r with ⟨_ | _ | _, c⟩ <;> rfl

/-- A check commutes with a map that the interfaces commute with. -/
theorem ensureWithin_map (h : d'.Alike f d) (hs : server'.Alike f server)
    (hc : clock'.Alike f clock) (fuel rounds : Nat) (s : Scene τ) :
    ensureWithin fuel rounds d server clock (s.map f)
      = (ensureWithin fuel rounds d' server' clock' s).map (CheckResult.map f) := by
  simp only [ensureWithin, Scene.map_evictor, Scene.map_site, mayEvict_map hs, overage?_map hs]
  split
  · rfl
  rcases s.evictor.budget.overage? server' s.site with ⟨_ | _ | o, t⟩
  · rfl
  · rfl
  · simp only [Prod.map, id_eq]
    by_cases hev : s.evictor.settings.policy.evicts
    · let evictor := { s.evictor with
        stats := { s.evictor.stats with cycles := s.evictor.stats.cycles + 1 } }
      have hrun : runCycle fuel rounds d server clock o ⟨evictor, f t⟩
          = (runCycle fuel rounds d' server' clock' o ⟨evictor, t⟩).map
              (Prod.map id (Cycle.map f)) :=
        runCycle_map h hs hc fuel rounds o ⟨evictor, t⟩
      simp only [hev, if_true]
      refine (congrArg (Option.map (conclude o)) hrun).trans ?_
      rw [Option.map_map, Option.map_map]
      exact congrArg (fun g => Option.map g _) (funext (conclude_map o))
    · simp only [hev, Bool.false_eq_true, if_false]
      rfl

end Evictor

end SampledEviction
