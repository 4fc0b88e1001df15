import SampledEviction.Proofs.Pool
import SampledEviction.Proofs.Step
import SampledEviction.Proofs.Tally

/-!
# The search ends

What a search draws from a dataset does not change which keys are there. Over a dataset whose
samples are there the search ends after two rounds, and what it finds is there; it finds
nothing only if there is nothing within the scope.

* `searchPool_spec` — from the pool
* `pickRandom_exhausted` — round the shards
* `findVictim_spec` — either
-/

namespace SampledEviction

variable {σ : Type}

/-! ## Ranking what was sampled -/

theorem Policy.lru_or_lfu_of_all {p : Policy} (hscope : p.scope = .all)
    (hpool : p.usesPool = true) : p.isLru = true ∨ p.isLfu = true := by
  cases p <;> simp_all [Policy.scope, Policy.isVolatile, Policy.usesPool, isLru, isLfu, isTtl]

theorem Policy.lru_or_lfu_of_not_ttl {p : Policy} (httl : p.isTtl = false)
    (hpool : p.usesPool = true) : p.isLru = true ∨ p.isLfu = true := by
  unfold usesPool at hpool
  rwa [httl, Bool.or_false, Bool.or_eq_true] at hpool

theorem Ranking.isSome_rank?_stamp {r : Ranking}
    (h : r.policy.isLru = true ∨ r.policy.isLfu = true) (stamp : AccessStamp) (now : Moment) :
    (r.rank? (.stamp stamp) now).isSome = true := by
  unfold rank?
  dsimp only
  split
  · rfl
  · rename_i hlru
    rw [if_pos (h.resolve_left hlru)]
    rfl

theorem Sampler.isSome_candidate? {σ : Type} {d : Dataset σ} {site : σ} {ranking : Ranking}
    {shard : Nat} {scope : Scope} {now : Moment} {key : Bytes} {sampled x : Sampled}
    (hresolve : resolve? d site ranking shard scope key sampled = some x)
    (hrank : (ranking.rank? x now).isSome = true) :
    (candidate? d site ranking shard scope now (key, sampled)).isSome = true := by
  obtain ⟨rank, hrank⟩ := Option.isSome_iff_exists.mp hrank
  unfold candidate?
  rw [hresolve, Option.bind_eq_bind, Option.bind_some, hrank]
  rfl

/-! ## Datasets to search -/

/-- Two sites show the same keys. -/
structure Dataset.Agree (d : Dataset σ) (site site' : σ) : Prop where
  shards : d.shards site' = d.shards site
  count : d.count site' = d.count site
  contains : d.contains site' = d.contains site

/-- Within a class of sites, draws lead from one to another that shows the same keys, and yield
keys that are there. -/
structure Dataset.Draws (d : Dataset σ) (I : σ → Prop) : Prop where
  agree {site site' : σ} (h : I site) (h' : I site') : d.Agree site site'
  sample {site : σ} (h : I site) (shard : Nat) (scope : Scope) (n : Nat) :
    I (d.sample shard scope n site).2 ∧
      ∀ visit ∈ (d.sample shard scope n site).1, d.contains site shard scope visit.1 = true
  randomKey {site : σ} (h : I site) (shard : Nat) (scope : Scope) :
    I (d.randomKey shard scope site).2 ∧
      ∀ key, (d.randomKey shard scope site).1 = some key →
        d.contains site shard scope key = true

/-- The candidates that a sample of a shard makes. -/
def Evictor.candidates (e : Evictor) (d : Dataset σ) (now : Moment) (shard : Nat) (site : σ) :
    List Candidate :=
  let scope := e.settings.policy.scope
  let (visits, site) := d.sample shard scope e.sampler.samples site
  visits.filterMap (Sampler.candidate? d site e.ranking shard scope now)

/-- A shard with keys always yields a candidate to a policy that ranks, and a key to a random
one. -/
structure Evictor.Served (e : Evictor) (d : Dataset σ) (I : σ → Prop) : Prop where
  candidates {site : σ} (h : I site) {shard : Nat}
    (hcount : d.count site shard e.settings.policy.scope ≠ 0)
    (hpool : e.settings.policy.usesPool = true) (now : Moment) :
    e.candidates d now shard site ≠ []
  randomKey {site : σ} (h : I site) {shard : Nat}
    (hcount : d.count site shard e.settings.policy.scope ≠ 0) :
    (d.randomKey shard e.settings.policy.scope site).1 ≠ none

namespace Evictor

variable {d : Dataset σ} {I : σ → Prop} {e : Evictor} {now : Moment}

/-! ## Sampling all shards -/

/-- A candidate whose key is there. -/
def Live (d : Dataset σ) (site : σ) (scope : Scope) (c : Candidate) : Prop :=
  d.contains site c.shard scope c.key = true

/-- Candidates are keys that were sampled. -/
theorem exists_visit_of_mem_candidates {site : σ} {shard : Nat} {c : Candidate}
    (hc : c ∈ e.candidates d now shard site) :
    ∃ visit ∈ (d.sample shard e.settings.policy.scope e.sampler.samples site).1,
      c.shard = shard ∧ c.key = visit.1 := by
  unfold candidates at hc
  obtain ⟨visit, hvisit, hcandidate⟩ := List.mem_filterMap.mp hc
  unfold Sampler.candidate? at hcandidate
  obtain ⟨sampled, -, hcandidate⟩ := Option.bind_eq_some_iff.mp hcandidate
  obtain ⟨rank, -, hcandidate⟩ := Option.bind_eq_some_iff.mp hcandidate
  cases hcandidate
  exact ⟨visit, hvisit, rfl, rfl⟩

theorem candidates_live (hd : d.Draws I) {site : σ} (hsite : I site) (shard : Nat) :
    ∀ c ∈ e.candidates d now shard site, Live d site e.settings.policy.scope c := by
  intro c hc
  obtain ⟨visit, hvisit, hshard, hkey⟩ := exists_visit_of_mem_candidates hc
  unfold Live
  rw [hshard, hkey]
  exact (hd.sample hsite shard _ _).2 visit hvisit

/-- What sampling some shards comes to. -/
structure Harvested (e : Evictor) (d : Dataset σ) (I : σ → Prop) (now : Moment) (site : σ)
    (shards : List Nat) (h h' : Harvest σ) : Prop where
  inside : I h'.site
  keys : h'.keys = h.keys + tally (d.count site · e.settings.policy.scope) shards
  holds : h.pool.Holds (Live d site e.settings.policy.scope) →
    h'.pool.Holds (Live d site e.settings.policy.scope)
  taken_le : h.taken ≤ h'.taken
  size_le : h.pool.size ≤ h'.pool.size
  size_ne : h'.taken ≠ h.taken → h'.pool.size ≠ 0
  nothing : e.Served d I → e.settings.policy.usesPool = true → h.pool.size = 0 →
    h'.taken = h.taken →
    h'.pool.size = 0 ∧ tally (d.count site · e.settings.policy.scope) shards = 0

theorem harvested_shard (e : Evictor) (now : Moment) (hd : d.Draws I) {site : σ}
    (hsite : I site) {h : Harvest σ} (hh : I h.site) (shard : Nat) :
    Harvested e d I now site [shard] h (e.harvestShard d now h shard) := by
  have hcount : d.count h.site = d.count site := (hd.agree hsite hh).count
  have hcontains : d.contains h.site = d.contains site := (hd.agree hsite hh).contains
  unfold harvestShard
  dsimp only
  split
  · rename_i hzero
    rw [hcount] at hzero
    have hnone : tally (d.count site · e.settings.policy.scope) [shard] = 0 := by
      rw [tally_cons, hzero, tally_nil]
    exact
      { inside := hh
        keys := by rw [hnone, Nat.add_zero]
        holds := id
        taken_le := Nat.le_refl _
        size_le := Nat.le_refl _
        size_ne := absurd rfl
        nothing := fun _ _ hsize _ => ⟨hsize, hnone⟩ }
  · rename_i hsome
    have hoffered := Pool.offered_offerAll h.pool (e.candidates d now shard h.site)
    have hlive : ∀ c ∈ e.candidates d now shard h.site,
        Live d site e.settings.policy.scope c := by
      intro c hc
      have hthere := candidates_live hd hh shard c hc
      unfold Live at hthere ⊢
      rwa [hcontains] at hthere
    exact
      { inside := (hd.sample hh shard _ _).1
        keys := by rw [tally_cons, tally_nil, Nat.add_zero, hcount]
        holds := fun hp => hoffered.holds hp hlive
        taken_le := Nat.le_add_right _ _
        size_le := hoffered.size_le
        size_ne := fun htaken => hoffered.size_ne fun hzero =>
          htaken ((congrArg (h.taken + ·) hzero).trans (Nat.add_zero _))
        nothing := fun hserved hpool hsize htaken => by
          -- an empty pool has room, so it took a candidate if there was one
          have hroom : h.pool.size < Pool.capacity := by
            rw [hsize]
            decide
          have hnone := hoffered.nothing hroom (Nat.add_left_cancel (k := 0) htaken)
          exact absurd hnone.1 (hserved.candidates hh hsome hpool now) }

theorem Harvested.trans {site : σ} {shards shards' : List Nat} {h₁ h₂ h₃ : Harvest σ}
    (h : Harvested e d I now site shards h₁ h₂) (h' : Harvested e d I now site shards' h₂ h₃) :
    Harvested e d I now site (shards ++ shards') h₁ h₃ where
  inside := h'.inside
  keys := by rw [h'.keys, h.keys, tally_append, Nat.add_assoc]
  holds hp := h'.holds (h.holds hp)
  taken_le := Nat.le_trans h.taken_le h'.taken_le
  size_le := Nat.le_trans h.size_le h'.size_le
  size_ne htaken := by
    -- if the later shards offered nothing, the pool is no smaller than before them
    by_cases hlast : h₃.taken = h₂.taken
    · have hfirst := h.size_ne (hlast ▸ htaken)
      have hle := h'.size_le
      omega
    · exact h'.size_ne hlast
  nothing hserved hpool hsize htaken := by
    have hle := h.taken_le
    have hle' := h'.taken_le
    obtain ⟨hsize₂, hnone⟩ := h.nothing hserved hpool hsize (by omega)
    obtain ⟨hsize₃, hnone'⟩ := h'.nothing hserved hpool hsize₂ (by omega)
    exact ⟨hsize₃, by rw [tally_append, hnone, hnone']⟩

theorem harvested_foldl (e : Evictor) (now : Moment) (hd : d.Draws I) {site : σ}
    (hsite : I site) (shards : List Nat)
    {h : Harvest σ} (hh : I h.site) :
    Harvested e d I now site shards h (shards.foldl (e.harvestShard d now) h) := by
  induction shards generalizing h with
  | nil =>
    exact
      { inside := hh
        keys := rfl
        holds := id
        taken_le := Nat.le_refl _
        size_le := Nat.le_refl _
        size_ne := absurd rfl
        nothing := fun _ _ hsize _ => ⟨hsize, rfl⟩ }
  | cons shard shards ih =>
    have hfirst := harvested_shard e now hd hsite hh shard
    exact hfirst.trans (ih hfirst.inside)

/-- What sampling all shards comes to. -/
theorem harvested (e : Evictor) (now : Moment) (hd : d.Draws I) {site : σ} (hsite : I site) :
    Harvested e d I now site (List.range (d.shards site)) ⟨0, 0, e.pool, site⟩
      (e.harvest d now site) :=
  harvested_foldl e now hd hsite _ hsite

/-! ## From the pool -/

/-- What a search ends with: a victim that is there, or none. -/
structure Found (d : Dataset σ) (I : σ → Prop) (s : Scene σ) (v : Option Victim) (s' : Scene σ) :
    Prop where
  inside : I s'.site
  live : ∀ w, v = some w →
    d.contains s.site w.shard s.evictor.settings.policy.scope w.key = true

/-- No shard has a key within the scope. -/
def Exhausted (d : Dataset σ) (s : Scene σ) : Prop :=
  ∀ shard < d.shards s.site, d.count s.site shard s.evictor.settings.policy.scope = 0

theorem exhausted_of_tally {s : Scene σ}
    (h : tally (d.count s.site · s.evictor.settings.policy.scope)
      (List.range (d.shards s.site)) = 0) : Exhausted d s := fun shard hshard =>
  tally_eq_zero_iff.mp h shard (List.mem_range.mpr hshard)

/-- What a round comes to. A round that goes on has emptied a pool that was not empty. -/
inductive Round (d : Dataset σ) (I : σ → Prop) (s : Scene σ) :
    Scene σ ⊕ (Option Victim × Scene σ) → Prop where
  | again {s' : Scene σ} (hinside : I s'.site) (hbefore : s.evictor.pool.size ≠ 0)
    (hafter : s'.evictor.pool.size = 0) : Round d I s (.inl s')
  | found {v : Option Victim} {s' : Scene σ} (hfound : Found d I s v s')
    (hnone : v = none → s.evictor.Served d I → s.evictor.settings.policy.usesPool = true →
      Exhausted d s) : Round d I s (.inr (v, s'))

theorem round_of_searchRound (clock : Clock σ) (hd : d.Draws I) {s : Scene σ} (hs : I s.site) :
    Round d I s (searchRound d clock s) := by
  have hh := harvested s.evictor (clock.now s.site) hd hs
  have hcontains := (hd.agree hs hh.inside).contains
  unfold searchRound
  dsimp only
  generalize s.evictor.harvest d (clock.now s.site) s.site = h at hh hcontains ⊢
  have hkeys : h.keys
      = tally (d.count s.site · s.evictor.settings.policy.scope)
        (List.range (d.shards s.site)) := hh.keys.trans (Nat.zero_add _)
  split
  · rename_i hzero
    refine .found ⟨hh.inside, fun w hw => by cases hw⟩ fun _ _ _ => ?_
    exact exhausted_of_tally (hkeys.symm.trans hzero)
  · rw [hcontains]
    obtain ⟨hvictim, hempty⟩ := h.pool.select_cases
      (fun shard key => d.contains s.site shard s.evictor.settings.policy.scope key) .empty
    split
    · rename_i c hc
      refine .found ⟨hh.inside, fun w hw => ?_⟩ fun hnone => by cases hnone
      cases hw
      exact hvictim c hc
    · rename_i hc
      split
      · rename_i hnothing
        rw [Bool.and_eq_true, beq_iff_eq] at hnothing
        refine .found ⟨hh.inside, fun w hw => by cases hw⟩ fun _ hserved hpool => ?_
        exact exhausted_of_tally
          (hh.nothing hserved hpool (beq_iff_eq.mp hnothing.1) hnothing.2).2
      · rename_i hsomething
        refine .again hh.inside (fun hbefore => hsomething ?_) (hempty hc)
        rw [Bool.and_eq_true]
        refine ⟨beq_iff_eq.mpr hbefore, beq_iff_eq.mpr ?_⟩
        -- an empty pool that took a candidate holds live ones only, and yields one
        by_cases htaken : h.taken = 0
        · exact htaken
        · have hlive := Pool.Holds.select_isSome
            (fun shard key => d.contains s.site shard s.evictor.settings.policy.scope key) .empty
            (hh.holds (Pool.holds_of_size_eq_zero hbefore)) (hh.size_ne htaken)
          rw [hc] at hlive
          cases hlive

theorem Served.congr {e e' : Evictor} (h : e.Served d I) (hsearched : Searched e e') :
    e'.Served d I := by
  obtain ⟨_, _, _, rfl⟩ := hsearched
  exact ⟨h.candidates, h.randomKey⟩

/-- A search ends in its second round, if a round that goes on empties a pool that was not empty. -/
theorem exists_searchPool {P : Scene σ → Prop} {Q : Option Victim × Scene σ → Prop}
    {clock : Clock σ}
    (hround : ∀ s, P s → (∃ s', searchRound d clock s = .inl s' ∧ P s' ∧
        s.evictor.pool.size ≠ 0 ∧ s'.evictor.pool.size = 0) ∨
      ∃ r, searchRound d clock s = .inr r ∧ Q r)
    {s : Scene σ} (hs : P s) : ∃ r, searchPool 2 d clock s = some r ∧ Q r := by
  unfold searchPool Loop.run
  rcases hround s hs with ⟨s₁, hfirst, hs₁, -, hempty⟩ | ⟨r, hfirst, hr⟩
  · rw [hfirst]
    unfold Loop.run
    dsimp only
    rcases hround s₁ hs₁ with ⟨_, -, -, hsize, -⟩ | ⟨r, hsecond, hr⟩
    · exact absurd hempty hsize
    · rw [hsecond]
      exact ⟨r, rfl, hr⟩
  · rw [hfirst]
    exact ⟨r, rfl, hr⟩

/-- What is found at a site that shows the same keys. -/
theorem Found.congr {s s₁ s' : Scene σ} {v : Option Victim} (h : Found d I s₁ v s')
    (hcontains : d.contains s₁.site = d.contains s.site)
    (hsettings : s₁.evictor.settings = s.evictor.settings) : Found d I s v s' where
  inside := h.inside
  live w hw := by rw [← hcontains, ← hsettings]; exact h.live w hw

/-- A search ends in its second round, if not in its first. -/
theorem searchPool_spec (clock : Clock σ) (hd : d.Draws I) {s : Scene σ} (hs : I s.site) :
    ∃ v s', searchPool 2 d clock s = some (v, s') ∧ Found d I s v s' ∧
      (v = none → s.evictor.Served d I → s.evictor.settings.policy.usesPool = true →
        Exhausted d s) := by
  obtain ⟨⟨v, s'⟩, hsearch, hfound, hnone⟩ := exists_searchPool
    (P := fun t => I t.site ∧ Searched s.evictor t.evictor)
    (Q := fun r => Found d I s r.1 r.2 ∧ (r.1 = none → s.evictor.Served d I →
      s.evictor.settings.policy.usesPool = true → Exhausted d s))
    (fun t ht => by
      have hagree := hd.agree hs ht.1
      have hsearched := @searchRound_searched _ d clock t
      have hround := round_of_searchRound clock hd ht.1
      generalize searchRound d clock t = x at hround hsearched ⊢
      cases hround with
      | again hinside hbefore hafter =>
        exact Or.inl ⟨_, rfl, ⟨hinside, ht.2.trans (hsearched.1 _ rfl)⟩, hbefore, hafter⟩
      | found hfound hnone =>
        refine Or.inr ⟨_, rfl, hfound.congr hagree.contains ht.2.settings,
          fun hv hserved hpool => ?_⟩
        have hexhausted := hnone hv (hserved.congr ht.2) (ht.2.settings ▸ hpool)
        unfold Exhausted at hexhausted ⊢
        rwa [hagree.shards, hagree.count, ht.2.settings] at hexhausted) ⟨hs, .refl _⟩
  exact ⟨v, s', hsearch, hfound, hnone⟩

/-! ## Round the shards -/

/-- The evictor whose cursor has moved on by one shard. -/
def turned (e : Evictor) : Evictor := { e with cursor := Word.add e.cursor 1 }

theorem pickFrom_succ (d : Dataset σ) (shards tries : Nat) (s : Scene σ) :
    pickFrom d shards (tries + 1) s =
      if d.count s.site (s.evictor.turned.cursor % shards) s.evictor.settings.policy.scope = 0 then
        pickFrom d shards tries ⟨s.evictor.turned, s.site⟩
      else
        match d.randomKey (s.evictor.turned.cursor % shards) s.evictor.settings.policy.scope
          s.site with
        | (some key, site) =>
          (some ⟨s.evictor.turned.cursor % shards, key⟩, ⟨s.evictor.turned, site⟩)
        | (none, site) => pickFrom d shards tries ⟨s.evictor.turned, site⟩ := rfl

theorem pickFrom_found (hd : d.Draws I) (shards tries : Nat) {s : Scene σ} (hs : I s.site) :
    Found d I s (pickFrom d shards tries s).1 (pickFrom d shards tries s).2 := by
  induction tries generalizing s with
  | zero => exact ⟨hs, fun w hw => by cases hw⟩
  | succ tries ih =>
    rw [pickFrom_succ]
    split
    · exact (ih (s := ⟨s.evictor.turned, s.site⟩) hs).congr rfl rfl
    · have hdraw := hd.randomKey hs (s.evictor.turned.cursor % shards)
        s.evictor.settings.policy.scope
      split
      · rename_i key site hpick
        rw [hpick] at hdraw
        refine ⟨hdraw.1, fun w hw => ?_⟩
        cases hw
        exact hdraw.2 key rfl
      · rename_i site hpick
        rw [hpick] at hdraw
        exact (ih (s := ⟨s.evictor.turned, site⟩) hdraw.1).congr
          (hd.agree hs hdraw.1).contains rfl

/-- A pick moves the cursor on by one shard for every one that it tries, if it does not wrap. -/
theorem cursor_pickFrom_le (shards tries : Nat) {s : Scene σ}
    (hfits : s.evictor.cursor + tries < Word.modulus) :
    s.evictor.cursor ≤ (pickFrom d shards tries s).2.evictor.cursor ∧
      (pickFrom d shards tries s).2.evictor.cursor ≤ s.evictor.cursor + tries := by
  induction tries generalizing s with
  | zero => exact ⟨Nat.le_refl _, Nat.le_refl _⟩
  | succ tries ih =>
    have hcursor : s.evictor.turned.cursor = s.evictor.cursor + 1 := Word.add_of_lt (by omega)
    have hturn (site : σ) := ih (s := ⟨s.evictor.turned, site⟩) (by rw [hcursor]; omega)
    simp only [hcursor] at hturn
    rw [pickFrom_succ]
    split
    · have hrest := hturn s.site
      omega
    · split
      · dsimp only
        omega
      · rename_i site _
        have hrest := hturn site
        omega

/-- A pick that finds nothing moves the cursor on by as many shards as it tried. -/
theorem cursor_pickFrom_of_none (shards tries : Nat) {s : Scene σ}
    (h : (pickFrom d shards tries s).1 = none) (htries : tries ≠ 0) :
    (pickFrom d shards tries s).2.evictor.cursor = Word.wrap (s.evictor.cursor + tries) := by
  induction tries generalizing s with
  | zero => exact absurd rfl htries
  | succ tries ih =>
    have hturn (site : σ)
        (hrest : (pickFrom d shards tries ⟨s.evictor.turned, site⟩).1 = none) :
        (pickFrom d shards tries ⟨s.evictor.turned, site⟩).2.evictor.cursor
          = Word.wrap (s.evictor.cursor + (tries + 1)) := by
      by_cases hzero : tries = 0
      · subst hzero
        rfl
      · rw [ih hrest hzero]
        simp only [turned, Word.wrap, Word.add, Word.modulus]
        omega
    rw [pickFrom_succ] at h ⊢
    split at h
    · rename_i hzero
      rw [if_pos hzero]
      exact hturn s.site h
    · rename_i hsome
      rw [if_neg hsome]
      split at h
      · cases h
      · rename_i site hpick
        exact hturn site h

/-- A pick that finds nothing, and whose cursor does not wrap, tried one shard after another. -/
theorem pickFrom_none (shards tries : Nat) {s : Scene σ} (hs : I s.site)
    (hserved : s.evictor.Served d I) (h : (pickFrom d shards tries s).1 = none)
    (hfits : s.evictor.cursor + tries < Word.modulus) {i : Nat} (hi : i < tries) :
    d.count s.site ((s.evictor.cursor + 1 + i) % shards) s.evictor.settings.policy.scope
      = 0 := by
  induction tries generalizing s i with
  | zero => omega
  | succ tries ih =>
    have hcursor : s.evictor.turned.cursor = s.evictor.cursor + 1 := Word.add_of_lt (by omega)
    rw [pickFrom_succ, hcursor] at h
    split at h
    · rename_i hzero
      cases i with
      | zero => exact hzero
      | succ i =>
        have hrest := ih (s := ⟨s.evictor.turned, s.site⟩) hs (hserved.congr ⟨_, _, _, rfl⟩) h
          (by rw [hcursor]; omega) (Nat.lt_of_succ_lt_succ hi)
        rw [hcursor, Nat.add_assoc _ 1 i, Nat.add_comm 1 i] at hrest
        exact hrest
    · rename_i hsome
      split at h
      · cases h
      · -- a shard with keys yields one
        rename_i site hpick
        exact absurd (congrArg Prod.fst hpick) (hserved.randomKey hs hsome)

/-- Some turn from the cursor on comes to a shard. -/
theorem exists_turn {n shard : Nat} (cursor : Nat) (hshard : shard < n) :
    ∃ i < n, (cursor + 1 + i) % n = shard := by
  have hlt : (cursor + 1) % n < n := Nat.mod_lt _ (by omega)
  -- the turns come to the shards from the cursor up, then to those from the first one up
  by_cases hle : (cursor + 1) % n ≤ shard
  · refine ⟨shard - (cursor + 1) % n, by omega, ?_⟩
    rw [Nat.add_mod, Nat.mod_eq_of_lt (a := shard - (cursor + 1) % n) (by omega),
      Nat.add_sub_cancel' hle, Nat.mod_eq_of_lt hshard]
  · refine ⟨n - (cursor + 1) % n + shard, by omega, ?_⟩
    rw [Nat.add_mod, Nat.mod_eq_of_lt (a := n - (cursor + 1) % n + shard) (by omega),
      ← Nat.add_assoc, Nat.add_sub_cancel' (Nat.le_of_lt hlt), Nat.add_mod_left,
      Nat.mod_eq_of_lt hshard]

/-- A pick whose cursor does not wrap finds nothing only if there is nothing. -/
theorem pickRandom_exhausted {s : Scene σ} (hs : I s.site)
    (hserved : s.evictor.Served d I) (hshards : d.shards s.site < Word.modulus)
    (hcursor : s.evictor.cursor ≤ (pickRandom d s).2.evictor.cursor)
    (h : (pickRandom d s).1 = none) : Exhausted d s := by
  intro shard hshard
  have hmoved := cursor_pickFrom_of_none (d.shards s.site) (d.shards s.site) h (by omega)
  unfold pickRandom at hcursor
  have hfits : s.evictor.cursor + d.shards s.site < Word.modulus := by
    rw [hmoved] at hcursor
    unfold Word.wrap at hcursor
    unfold Word.modulus at hcursor hshards ⊢
    omega
  obtain ⟨i, hi, rfl⟩ := exists_turn s.evictor.cursor hshard
  exact pickFrom_none _ _ hs hserved h hfits hi

/-! ## Either -/

/-- A search ends, and what it finds is there. -/
theorem findVictim_spec (clock : Clock σ) (hd : d.Draws I) {s : Scene σ} (hs : I s.site) :
    ∃ v s', findVictim 2 d clock s = some (v, s') ∧ Found d I s v s' ∧
      (v = none → s.evictor.Served d I →
        (s.evictor.settings.policy.usesPool = false →
          d.shards s.site < Word.modulus ∧ s.evictor.cursor ≤ s'.evictor.cursor) →
        Exhausted d s) := by
  unfold findVictim
  cases hpool : s.evictor.settings.policy.usesPool with
  | true =>
    obtain ⟨v, s', hfind, hfound, hnone⟩ := searchPool_spec clock hd hs
    exact ⟨v, s', hfind, hfound, fun hv hserved _ => hnone hv hserved hpool⟩
  | false =>
    refine ⟨_, _, rfl, pickFrom_found hd _ _ hs, fun hv hserved hcursor => ?_⟩
    obtain ⟨hshards, hle⟩ := hcursor rfl
    exact pickRandom_exhausted hs hserved hshards hle hv

end Evictor

end SampledEviction
