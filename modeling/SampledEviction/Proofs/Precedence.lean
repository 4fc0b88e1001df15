import SampledEviction.Proofs.Lifetime
import SampledEviction.Proofs.Rounds

/-!
# Precedence among candidates

The victim that a search takes from the pool comes before everything that the search has seen: keys
that the pool took, keys that it refused, and keys that it took and gave up again for better ones.
It may itself be left over from an earlier search, with a rank of that time. Candidates that rank
above it are gone.

* `mem_offers_iff` — the pool is offered every sampled key that can be ranked
* `foremost_of_round` — the victim of one round
* `foremost_of_searchPool` — the victim of a search, whatever its pool was left with
* `Reachable.ordered` — what a pool is left with is always in order
-/

namespace SampledEviction

variable {σ : Type}

/-! ## Datasets that show keys which are there -/

/-- Within a class of sites, samples lead from one to another that has the same keys, and show keys
that are there. They may show a key more than once, and not all keys. -/
structure Dataset.Truthful (d : Dataset σ) (I : σ → Prop) : Prop where
  contains {site site' : σ} (h : I site) (h' : I site') : d.contains site' = d.contains site
  sample {site : σ} (h : I site) (shard : Nat) (scope : Scope) (n : Nat) :
    I (d.sample shard scope n site).2 ∧
      ∀ visit ∈ (d.sample shard scope n site).1, d.contains site shard scope visit.1 = true

theorem Dataset.Candid.truthful {d : Dataset σ} {I : σ → Prop} (h : d.Candid I) :
    d.Truthful I where
  contains hsite hsite' := (h.agree hsite hsite').contains
  sample := h.sample

namespace Evictor

variable {d : Dataset σ} {I : σ → Prop} {clock : Clock σ} {e : Evictor} {now : Moment}
  {site : σ}

/-! ## What a round sees -/

/-- The samplings of shards in turn, each with the site at which it is made. Empty shards are passed
over. -/
def samplings (e : Evictor) (d : Dataset σ) : List Nat → σ → List (Nat × σ)
  | [], _ => []
  | shard :: shards, site =>
    let scope := e.settings.policy.scope
    if d.count site shard scope = 0 then samplings e d shards site
    else (shard, site) :: samplings e d shards (d.sample shard scope e.sampler.samples site).2

/-- A round sees a key at a rank: one of its samples shows the key, and what it shows can be ranked.
What the pool does with it is left open. -/
def Seen (d : Dataset σ) (clock : Clock σ) (t : Scene σ) (c : Candidate) : Prop :=
  ∃ site sampled resolved,
    (c.shard, site) ∈ t.evictor.samplings d (List.range (d.shards t.site)) t.site ∧
    (c.key, sampled)
      ∈ (d.sample c.shard t.evictor.settings.policy.scope t.evictor.sampler.samples site).1 ∧
    Sampler.resolve? d
        (d.sample c.shard t.evictor.settings.policy.scope t.evictor.sampler.samples site).2
        t.evictor.ranking c.shard t.evictor.settings.policy.scope c.key sampled = some resolved ∧
    t.evictor.ranking.rank? resolved (clock.now t.site) = some c.rank

/-- A sample makes a candidate of every key that it shows and that can be ranked. -/
theorem mem_candidates_iff {shard : Nat} {c : Candidate} :
    c ∈ e.candidates d now shard site ↔ c.shard = shard ∧ ∃ sampled resolved,
      (c.key, sampled) ∈ (d.sample shard e.settings.policy.scope e.sampler.samples site).1 ∧
      Sampler.resolve? d (d.sample shard e.settings.policy.scope e.sampler.samples site).2 e.ranking
        shard e.settings.policy.scope c.key sampled = some resolved ∧
      e.ranking.rank? resolved now = some c.rank := by
  unfold candidates
  rw [List.mem_filterMap]
  constructor
  · rintro ⟨⟨key, sampled⟩, hvisit, hmade⟩
    unfold Sampler.candidate? at hmade
    obtain ⟨resolved, hresolved, hmade⟩ := Option.bind_eq_some_iff.mp hmade
    obtain ⟨rank, hrank, hmade⟩ := Option.bind_eq_some_iff.mp hmade
    cases hmade
    exact ⟨rfl, sampled, resolved, hvisit, hresolved, hrank⟩
  · rintro ⟨rfl, sampled, resolved, hvisit, hresolved, hrank⟩
    refine ⟨(c.key, sampled), hvisit, ?_⟩
    unfold Sampler.candidate?
    simp only [hresolved, hrank, Option.bind_eq_bind, Option.bind_some]
    rfl

/-- Offers are made sampling by sampling. -/
theorem harvestOffers_eq (shards : List Nat) (site : σ) : e.harvestOffers d now shards site
    = (e.samplings d shards site).flatMap fun p => e.candidates d now p.1 p.2 := by
  induction shards generalizing site with
  | nil => rfl
  | cons shard shards ih =>
    unfold harvestOffers samplings
    dsimp only
    split
    · exact ih site
    · rw [List.flatMap_cons, ih]

/-- The pool is offered every key that a round sees, at the rank at which it sees it. -/
theorem mem_offers_iff {t : Scene σ} {c : Candidate} :
    c ∈ offers d clock t ↔ Seen d clock t c := by
  unfold offers Seen
  rw [harvestOffers_eq, List.mem_flatMap]
  simp only [mem_candidates_iff]
  constructor
  · rintro ⟨⟨shard, site⟩, hsampled, rfl, sampled, resolved, hseen⟩
    exact ⟨site, sampled, resolved, hsampled, hseen⟩
  · rintro ⟨site, sampled, resolved, hsampled, hseen⟩
    exact ⟨(c.shard, site), hsampled, rfl, sampled, resolved, hseen⟩

/-! ## Sampling all shards -/

/-- Sampling shards offers their candidates to the pool, one after another. -/
theorem pool_foldl_harvestShard (shards : List Nat) (h : Harvest σ) :
    (shards.foldl (e.harvestShard d now) h).pool
      = (Sampler.offerAll h.pool (e.harvestOffers d now shards h.site)).2 := by
  induction shards generalizing h with
  | nil => rfl
  | cons shard shards ih =>
    rw [List.foldl_cons]
    unfold harvestOffers
    dsimp only
    by_cases hzero : d.count h.site shard e.settings.policy.scope = 0
    · rw [harvestShard_of_vacant hzero, if_pos hzero, ih]
    · rw [harvestShard_of_count_ne hzero, if_neg hzero, ih, Pool.offerAll_append]

/-- The pool of a round shows what its offers make of the list that it starts with. -/
theorem shows_harvest (d : Dataset σ) (clock : Clock σ) {t : Scene σ} {l : List Candidate}
    (hl : t.evictor.pool.Shows l) :
    (t.evictor.harvest d (clock.now t.site) t.site).pool.Shows
      ((offers d clock t).foldl Pool.offer l) := by
  unfold harvest
  rw [pool_foldl_harvestShard]
  exact hl.offerAll _

/-- Samplings that start within the class of sites stay there. -/
theorem inside_foldl_harvestShard (hd : d.Truthful I) (shards : List Nat) {h : Harvest σ}
    (hh : I h.site) : I (shards.foldl (e.harvestShard d now) h).site := by
  refine List.foldlRecOn (motive := fun h : Harvest σ => I h.site) _ _ hh ?_
  intro h hh shard _
  by_cases hzero : d.count h.site shard e.settings.policy.scope = 0
  · rwa [harvestShard_of_vacant hzero]
  · rw [harvestShard_of_count_ne hzero]
    exact (hd.sample hh _ _ _).1

theorem inside_of_mem_samplings (hd : d.Truthful I) {shards : List Nat} (hsite : I site)
    {p : Nat × σ} (hp : p ∈ e.samplings d shards site) : I p.2 := by
  induction shards generalizing site with
  | nil => cases hp
  | cons shard shards ih =>
    unfold samplings at hp
    dsimp only at hp
    split at hp
    · exact ih hsite hp
    · rcases List.mem_cons.mp hp with rfl | hp
      · exact hsite
      · exact ih (hd.sample hsite _ _ _).1 hp

/-- What a round sees is there. -/
theorem Seen.live (hd : d.Truthful I) {t : Scene σ} (ht : I t.site) {c : Candidate}
    (h : Seen d clock t c) : Live d t.site t.evictor.settings.policy.scope c := by
  obtain ⟨site, sampled, _, hsampled, hvisit, -⟩ := h
  have hsite : I site := inside_of_mem_samplings hd ht hsampled
  unfold Live
  rw [hd.contains hsite ht]
  exact (hd.sample hsite _ _ _).2 _ hvisit

/-! ## The victim of a round -/

/-- What is known of the candidate that is taken as the victim of a round. -/
structure Foremost (d : Dataset σ) (clock : Clock σ) (t : Scene σ) (c : Candidate)
    (s' : Scene σ) : Prop where
  /-- It is one of those in the pool when all shards are sampled. What is behind it is gone, and
  what is before it is left. -/
  split : ∃ above, stock d clock t = s'.evictor.pool.toList ++ c :: above ∧
    ∀ x ∈ above, isGhost d t x = true
  there : isGhost d t c = false
  /-- Its rank is at least that of every key that the round has seen. -/
  seen : ∀ x, Seen d clock t x → x.rank ≤ c.rank
  /-- Its rank is at least that of every candidate that is left. -/
  left : ∀ x ∈ s'.evictor.pool.toList, x.rank ≤ c.rank
  /-- Candidates of a higher rank were gone. -/
  above : ∀ x ∈ stock d clock t, c.rank < x.rank → isGhost d t x = true

/-- The victim of a round comes before all that the round has seen. -/
theorem foremost_of_round (hd : d.Truthful I) {t s' : Scene σ} (ht : I t.site)
    (hpool : t.evictor.pool.Ordered) {v : Victim}
    (h : searchRound d clock t = .inr (some v, s')) :
    ∃ c, v = ⟨c.shard, c.key⟩ ∧ Foremost d clock t c s' := by
  obtain ⟨l, hl, hascending⟩ := hpool
  have hgathered := Pool.gathered hascending (offers d clock t)
  have hshows := shows_harvest d clock hl
  have hstock : stock d clock t = (offers d clock t).foldl Pool.offer l := hshows.toList
  have hinside : I (t.evictor.harvest d (clock.now t.site) t.site).site :=
    inside_foldl_harvestShard hd _ (h := ⟨0, 0, t.evictor.pool, t.site⟩) ht
  have hselected := hshows.select
    (fun shard key => d.contains t.site shard t.evictor.settings.policy.scope key) .empty
  unfold searchRound at h
  dsimp only at h
  rw [hd.contains ht hinside] at h
  generalize t.evictor.harvest d (clock.now t.site) t.site = harvest at h hselected
  rw [← hstock] at hgathered hselected
  split at h
  · cases h
  · split at h
    · rename_i c hc
      cases h
      refine ⟨c, rfl, ?_⟩
      have hbest {x : Candidate} := hselected.rank_le_of_covers hgathered.ascending hc (x := x)
      cases hselected with
      | nothing hvictim =>
        rw [hvictim] at hc
        cases hc
      | found below above c' hsplit hvictim hthere habove hleft =>
        rw [hvictim] at hc
        cases hc
        have hlower := hgathered.ascending
        rw [hsplit] at hlower
        have hbelow : ∀ x ∈ below, x.rank ≤ c.rank := fun x hx =>
          (List.pairwise_append.mp hlower).2.2 x hx c List.mem_cons_self
        have hgone : ∀ x ∈ above, isGhost d t x = true := fun x hx => by
          simp [isGhost, habove x hx]
        rw [← hleft.toList] at hsplit hbelow
        exact
          { split := ⟨above, hsplit, hgone⟩
            there := by simpa [isGhost] using hthere
            seen := fun x hx =>
              hbest (hgathered.covers x (Or.inr (mem_offers_iff.mpr hx))) (hx.live hd ht)
            left := hbelow
            above := by
              intro x hx hlt
              by_contra hghost
              have hle := hbest (Or.inl hx) (by simpa [isGhost] using hghost)
              omega }
    · split at h <;> cases h

/-- A round finds the last candidate in stock that is there, if there is one and a shard has
keys. -/
theorem exists_searchRound (clock : Clock σ) (hd : d.Truthful I) {t : Scene σ} (ht : I t.site)
    {l : List Candidate} (hl : t.evictor.pool.Shows l)
    (hkeys : (t.evictor.harvest d (clock.now t.site) t.site).keys ≠ 0) {c : Candidate}
    (hc : (((offers d clock t).foldl Pool.offer l).filter fun x =>
      d.contains t.site x.shard t.evictor.settings.policy.scope x.key).getLast? = some c) :
    ∃ s', searchRound d clock t = .inr (some ⟨c.shard, c.key⟩, s') := by
  have hinside : I (t.evictor.harvest d (clock.now t.site) t.site).site :=
    inside_foldl_harvestShard hd _ (h := ⟨0, 0, t.evictor.pool, t.site⟩) ht
  have hvictim := ((shows_harvest d clock hl).select (fun shard key => d.contains t.site shard
    t.evictor.settings.policy.scope key) .empty).victim_eq.trans hc
  unfold searchRound
  simp only [if_neg hkeys, hd.contains ht hinside, hvictim]
  exact ⟨_, rfl⟩

/-- A round leaves a pool in order. -/
theorem searchRound_ordered {t : Scene σ} (h : t.evictor.pool.Ordered) :
    (∀ t', searchRound d clock t = .inl t' → t'.evictor.pool.Ordered) ∧
      ∀ v t', searchRound d clock t = .inr (v, t') → t'.evictor.pool.Ordered := by
  obtain ⟨l, hl, hascending⟩ := h
  have hgathered := Pool.gathered hascending (offers d clock t)
  have hleft := ((shows_harvest d clock hl).select (fun shard key => d.contains
    (t.evictor.harvest d (clock.now t.site) t.site).site shard t.evictor.settings.policy.scope key)
    .empty).ordered hgathered.ascending
  constructor
  · intro t' hround
    unfold searchRound at hround
    dsimp only at hround
    split at hround
    · cases hround
    · split at hround
      · cases hround
      · split at hround
        · cases hround
        · cases hround
          exact hleft
  · intro v t' hround
    unfold searchRound at hround
    dsimp only at hround
    split at hround
    · cases hround
      exact Pool.ordered_of_size_eq_zero rfl
    · split at hround
      · cases hround
        exact hleft
      · split at hround
        · cases hround
          exact hleft
        · cases hround

/-! ## The victim of a search -/

theorem searchPool_of_inl {s t : Scene σ} (h : searchRound d clock s = .inl t) (fuel : Nat) :
    searchPool (fuel + 1) d clock s = searchPool fuel d clock t := by
  simp only [searchPool, Loop.run, h]

theorem searchPool_of_inr {s : Scene σ} {r : Option Victim × Scene σ}
    (h : searchRound d clock s = .inr r) (fuel : Nat) :
    searchPool (fuel + 1) d clock s = some r := by
  simp only [searchPool, Loop.run, h]

/-- The victim of a search, if it finds one, comes before all that was seen in the round that chose
it, which is the last one. The pool may be left over from earlier searches, and full of candidates
that are gone. -/
theorem foremost_of_searchPool (clock : Clock σ) (hd : d.Truthful I) {s s' : Scene σ}
    (hs : I s.site) (hpool : s.evictor.pool.Ordered) {fuel : Nat} {v : Victim}
    (h : searchPool fuel d clock s = some (some v, s')) :
    ∃ t c, (rounds d clock fuel s).getLast? = some t ∧
      searchRound d clock t = .inr (some v, s') ∧ v = ⟨c.shard, c.key⟩ ∧
      Foremost d clock t c s' := by
  induction fuel generalizing s with
  | zero => cases h
  | succ fuel ih =>
    cases hround : searchRound d clock s with
    | inr r =>
      rw [searchPool_of_inr hround] at h
      cases h
      obtain ⟨c, hv, hforemost⟩ := foremost_of_round hd hs hpool hround
      refine ⟨s, c, ?_, hround, hv, hforemost⟩
      rw [rounds_of_inr hround]
      rfl
    | inl t =>
      rw [searchPool_of_inl hround] at h
      have hsite : I t.site := by
        rw [searchRound_site.1 t hround]
        exact inside_foldl_harvestShard hd _ (h := ⟨0, 0, s.evictor.pool, s.site⟩) hs
      obtain ⟨t', c, hlast, hfound⟩ := ih hsite ((searchRound_ordered hpool).1 t hround) h
      refine ⟨t', c, ?_, hfound⟩
      rw [rounds_of_inl hround, List.getLast?_cons, hlast]
      rfl

/-! ## Pools that are left over -/

theorem pickFrom_pool (d : Dataset σ) (shards tries : Nat) (s : Scene σ) :
    (pickFrom d shards tries s).2.evictor.pool = s.evictor.pool := by
  induction tries generalizing s with
  | zero => rfl
  | succ tries ih =>
    rw [pickFrom_succ]
    split
    · exact ih _
    · split
      · rfl
      · exact ih _

theorem findVictim_ordered {fuel : Nat} {s s' : Scene σ} {v : Option Victim}
    (h : s.evictor.pool.Ordered) (hfind : findVictim fuel d clock s = some (v, s')) :
    s'.evictor.pool.Ordered := by
  unfold findVictim at hfind
  split at hfind
  · refine Loop.run_induct (I := fun t => t.evictor.pool.Ordered)
      (P := fun r => r.2.evictor.pool.Ordered) ?_ ?_ h hfind
    · intro t t' ht hstep
      exact (searchRound_ordered ht).1 t' (Option.some.inj hstep)
    · intro t r ht hstep
      exact (searchRound_ordered ht).2 r.1 r.2 (Option.some.inj hstep)
  · have hpick : pickRandom d s = (v, s') := Option.some.inj hfind
    have hpool := pickFrom_pool d (d.shards s.site) (d.shards s.site) s
    unfold pickRandom at hpick
    rw [hpick] at hpool
    rwa [hpool]

theorem lasting_ordered (fuel : Nat) (d : Dataset σ) (clock : Clock σ) :
    Lasting fuel d clock fun e => e.pool.Ordered where
  stats h _ := h
  search := findVictim_ordered

/-- Whatever an evictor has gone through, its pool is in order. -/
theorem Reachable.ordered {e : Evictor} (h : e.Reachable) : e.pool.Ordered := by
  induction h with
  | made s hmade => exact Pool.ordered_of_size_eq_zero (size_pool_of_ofSettings hmade)
  | @moved e e' hreach hmove ih =>
    cases hmove with
    | configured s =>
      rcases setSettings_cases e s with ⟨err, heq⟩ | ⟨-, -, heq⟩ | ⟨-, -, heq⟩
      · rwa [heq]
      · rw [heq]
        exact ih
      · rw [heq]
        exact Pool.ordered_of_size_eq_zero rfl
    | checked d server clock fuel rounds site hcheck =>
      exact (lasting_ordered rounds d clock).ensureWithin ih hcheck

end Evictor

/-! ## A pool under siege -/

namespace Rack

/-- A key that is there, with the rank that it had before it was used again. -/
def stale : Candidate := ⟨700_000, 0, ⟨#[1]⟩⟩

/-- A scene whose pool is full: of one key, again and again, whose rank is out of date, and of two
ghosts that beat all keys. -/
def besieged : Scene Rack :=
  { uneven with
    evictor := { uneven.evictor with
      pool := ⟨Vector.ofFn fun i => Slot.unused.fill (if i.val < 14 then stale else ghost), 16⟩ } }

/-- The candidates in that pool. -/
def besiegers : List Candidate := List.replicate 14 stale ++ List.replicate 2 ghost

theorem shows_besieged : besieged.evictor.pool.Shows besiegers where
  size := rfl
  fits := Nat.le_refl _
  slots i h hi := by
    unfold besiegers at hi ⊢
    simp only [besieged, Vector.getElem_ofFn, Slot.candidate?_fill, List.getElem_append,
      List.getElem_replicate, List.length_replicate]
    split <;> rfl

theorem ascending_besiegers : Pool.Ascending besiegers := by
  unfold Pool.Ascending
  decide

end Rack

namespace Evictor

/-- The first key is refused, the second one takes the place of the first candidate, the third one
is refused again; and the second one is the victim, once the ghosts are gone. -/
theorem foremost_of_searchPool_besieged :
    (Rack.besieged.site.Sound ∧ Rack.besieged.evictor.pool.Ordered) ∧
    ∃ s', searchPool 2 Rack.dataset Rack.clock Rack.besieged = some (some ⟨0, ⟨#[2]⟩⟩, s') ∧
      ∃ t c, (rounds Rack.dataset Rack.clock 2 Rack.besieged).getLast? = some t ∧
        searchRound Rack.dataset Rack.clock t = .inr (some ⟨0, ⟨#[2]⟩⟩, s') ∧
        (⟨0, ⟨#[2]⟩⟩ : Victim) = ⟨c.shard, c.key⟩ ∧
        Foremost Rack.dataset Rack.clock t c s' := by
  have hsound : Rack.besieged.site.Sound := ⟨by decide, by decide⟩
  have hordered : Rack.besieged.evictor.pool.Ordered :=
    ⟨_, Rack.shows_besieged, Rack.ascending_besiegers⟩
  have hhere : (· = Rack.besieged.site) Rack.besieged.site := rfl
  have htruthful := (Rack.candid hsound).truthful
  obtain ⟨s', hround⟩ := exists_searchRound Rack.clock htruthful hhere
    Rack.shows_besieged (by decide +kernel) (c := ⟨900_000, 0, ⟨#[2]⟩⟩) (by decide +kernel)
  have hsearch : searchPool 2 Rack.dataset Rack.clock Rack.besieged
      = some (some ⟨0, ⟨#[2]⟩⟩, s') := searchPool_of_inr hround 1
  exact ⟨⟨hsound, hordered⟩, s', hsearch,
    foremost_of_searchPool Rack.clock htruthful hhere hordered hsearch⟩

end Evictor

end SampledEviction
