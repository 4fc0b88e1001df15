import SampledEviction.Proofs.Catalogue
import SampledEviction.Proofs.PoolOrder
import SampledEviction.Proofs.Rack

/-!
# Eviction in order

If every shard is so small that a sample shows all of it, a search finds a key that no other beats,
although the pool may be full of candidates that are gone, or that it holds more than once. So a
cycle that starts with an empty pool, while time stands still, evicts keys in the order of their
ranks.

* `exists_swept` — all keys are offered in every round
* `Laid.best` — the victim taken from a pool that covers all keys is the best of them
* `exists_findVictim_best` — a search finds the best key
* `ensure_in_order` — a cycle evicts keys in order
-/

namespace SampledEviction

variable {σ ν : Type}

/-! ## Ranks of records -/

/-- What a policy ranks a record by. -/
def Record.sampled? (x : Record ν) (p : Policy) : Option Sampled :=
  if p.isTtl then x.deadline.map .deadline else some (.stamp x.stamp)

/-- The rank of a record. -/
def Record.rank? (x : Record ν) (ranking : Ranking) (now : Moment) : Option Nat :=
  (x.sampled? ranking.policy).bind (ranking.rank? · now)

/-- The rank of a key at a site. -/
def rankAt? (record : Records σ ν) (ranking : Ranking) (now : Moment) (site : σ) (v : Victim) :
    Option Nat :=
  (record site v.shard v.key).bind (·.rank? ranking now)

/-- Both have a rank, and that of the first is no higher. -/
def RankLe (a b : Option Nat) : Prop := ∃ m n, a = some m ∧ b = some n ∧ m ≤ n

theorem Policy.isTtl_of_all {p : Policy} (hscope : p.scope = .all) : p.isTtl = false := by
  cases p <;> first | rfl | cases hscope

theorem Policy.scope_of_isTtl {p : Policy} (h : p.isTtl = true) : p.scope = .volatile := by
  cases p <;> first | rfl | cases h

/-- A record within the scope of a policy has a rank, if the policy ranks at all. -/
theorem Record.exists_rank {x : Record ν} {ranking : Ranking}
    (hpool : ranking.policy.usesPool = true) (hwithin : x.within ranking.policy.scope = true)
    (now : Moment) : ∃ n, x.rank? ranking now = some n := by
  unfold Record.rank? Record.sampled?
  cases httl : ranking.policy.isTtl with
  | true =>
    rw [Policy.scope_of_isTtl httl] at hwithin
    obtain ⟨t, ht⟩ := Option.isSome_iff_exists.mp hwithin
    refine ⟨Rank.urgent t now.seconds, ?_⟩
    rw [if_pos rfl, ht, Option.map_some, Option.bind_some]
    exact if_pos httl
  | false =>
    rw [if_neg Bool.false_ne_true, Option.bind_some]
    exact Option.isSome_iff_exists.mp
      (Ranking.isSome_rank?_stamp (Policy.lru_or_lfu_of_not_ttl httl hpool) x.stamp now)

/-- What is ranked of a sample is what its record is ranked by. -/
theorem resolve?_eq {d : Dataset σ} {site : σ} {ranking : Ranking} {shard : Nat} {key : Bytes}
    {x : Record ν} {sampled : Sampled} (hstamp : d.stamp? site shard key = some x.stamp)
    (hshown : x.shown ranking.policy.scope = some sampled) :
    Sampler.resolve? d site ranking shard ranking.policy.scope key sampled
      = x.sampled? ranking.policy := by
  unfold Record.sampled?
  cases hscope : ranking.policy.scope with
  | all =>
    rw [hscope] at hshown
    cases hshown
    rw [Policy.isTtl_of_all hscope, if_neg Bool.false_ne_true]
    rfl
  | volatile =>
    rw [hscope] at hshown
    obtain ⟨t, ht, rfl⟩ := Option.map_eq_some_iff.mp hshown
    unfold Sampler.resolve?
    cases httl : ranking.policy.isTtl with
    | true =>
      rw [if_pos rfl, ht, if_neg (by simp)]
      rfl
    | false =>
      rw [if_neg Bool.false_ne_true, hstamp, if_pos ⟨rfl, rfl⟩]
      rfl

theorem candidate?_eq {d : Dataset σ} {site : σ} {ranking : Ranking} {shard : Nat} {key : Bytes}
    {x : Record ν} {sampled : Sampled} (hstamp : d.stamp? site shard key = some x.stamp)
    (hshown : x.shown ranking.policy.scope = some sampled) (now : Moment) :
    Sampler.candidate? d site ranking shard ranking.policy.scope now (key, sampled)
      = (x.rank? ranking now).map (⟨·, shard, key⟩) := by
  unfold Sampler.candidate? Record.rank?
  rw [resolve?_eq hstamp hshown]
  cases x.sampled? ranking.policy with
  | none => rfl
  | some y =>
    rw [Option.bind_some, Option.map_eq_bind]
    rfl

/-! ## Sites of small shards -/

/-- An evictor that ranks, at a site whose shards are so small that a sample shows all of them. The
keys within the scope have the ranks of a table. -/
structure Surveyed (d : Dataset σ) (I : σ → Prop) (record : Records σ ν) (now : Moment)
    (rank : Victim → Option Nat) (e : Evictor) (site : σ) : Prop where
  inside : I site
  coherent : e.Coherent
  pool : e.settings.policy.usesPool = true
  few {shard : Nat} (h : shard < d.shards site) :
    d.count site shard e.settings.policy.scope ≤ e.settings.samples
  rank (v : Victim) (hv : d.contains site v.shard e.settings.policy.scope v.key = true) :
    rankAt? record e.ranking now site v = rank v

/-- A pool in order, whose candidates have the ranks of a table. -/
def Filed (rank : Victim → Option Nat) (pool : Pool) : Prop :=
  ∃ l, pool.Shows l ∧ Pool.Ascending l ∧ ∀ c ∈ l, rank ⟨c.shard, c.key⟩ = some c.rank

theorem filed_of_size_eq_zero {rank : Victim → Option Nat} {pool : Pool} (h : pool.size = 0) :
    Filed rank pool := ⟨[], Pool.shows_of_size_eq_zero h, List.Pairwise.nil, by simp⟩

namespace Evictor

variable {d : Dataset σ} {server : Server σ} {clock : Clock σ} {I : σ → Prop}
  {record : Records σ ν} {now : Moment} {rank : Victim → Option Nat} {e e' : Evictor}
  {site site' : σ}

/-! ## Sampling all shards -/

/-- What sampling some shards comes to: every key within the scope is offered at its rank, and
nothing else is. -/
structure Swept (e : Evictor) (d : Dataset σ) (I : σ → Prop) (record : Records σ ν)
    (rank : Victim → Option Nat) (site : σ) (shards : List Nat) (h h' : Harvest σ)
    (cs : List Candidate) : Prop where
  steady : Steady d I record site h'.site
  shows {l : List Candidate} (hl : h.pool.Shows l) : h'.pool.Shows (cs.foldl Pool.offer l)
  taken : cs = [] → h'.taken = h.taken
  live : ∀ c ∈ cs, Live d site e.settings.policy.scope c
  rank : ∀ c ∈ cs, rank ⟨c.shard, c.key⟩ = some c.rank
  all : ∀ shard ∈ shards, ∀ key, d.contains site shard e.settings.policy.scope key = true →
    ∃ c ∈ cs, c.shard = shard ∧ c.key = key

variable {h h₁ h₂ h₃ : Harvest σ} {shards shards' : List Nat} {cs cs' : List Candidate}

theorem Swept.nil (hsteady : Steady d I record site h.site)
    (hnone : ∀ shard ∈ shards, ∀ key, d.contains site shard e.settings.policy.scope key = false) :
    Swept e d I record rank site shards h h [] where
  steady := hsteady
  shows := id
  taken _ := rfl
  live := by simp
  rank := by simp
  all shard hshard key hkey := by
    rw [hnone shard hshard key] at hkey
    cases hkey

theorem Swept.trans (h : Swept e d I record rank site shards h₁ h₂ cs)
    (h' : Swept e d I record rank site shards' h₂ h₃ cs') :
    Swept e d I record rank site (shards ++ shards') h₁ h₃ (cs ++ cs') where
  steady := h'.steady
  shows hl := by
    rw [List.foldl_append]
    exact h'.shows (h.shows hl)
  taken hnone := by
    obtain ⟨rfl, rfl⟩ := List.append_eq_nil_iff.mp hnone
    rw [h'.taken rfl, h.taken rfl]
  live c hc := (List.mem_append.mp hc).elim (h.live c) (h'.live c)
  rank c hc := (List.mem_append.mp hc).elim (h.rank c) (h'.rank c)
  all shard hshard key hkey := by
    rcases List.mem_append.mp hshard with hshard | hshard
    · obtain ⟨c, hc, hsame⟩ := h.all shard hshard key hkey
      exact ⟨c, List.mem_append_left _ hc, hsame⟩
    · obtain ⟨c, hc, hsame⟩ := h'.all shard hshard key hkey
      exact ⟨c, List.mem_append_right _ hc, hsame⟩

/-- A sampled key is there, and makes a candidate of its rank. -/
theorem candidate_of_visit (hd : Catalogued d server clock I record)
    (hs : Surveyed d I record now rank e site) (hsteady : Steady d I record site site')
    {shard n : Nat} {visit : Bytes × Sampled}
    (hvisit : visit ∈ (d.sample shard e.settings.policy.scope n site').1) :
    ∃ m, rank ⟨shard, visit.1⟩ = some m ∧
      d.contains site shard e.settings.policy.scope visit.1 = true ∧
      Sampler.candidate? d (d.sample shard e.settings.policy.scope n site').2 e.ranking shard
        e.settings.policy.scope now visit = some ⟨m, shard, visit.1⟩ := by
  obtain ⟨hdrawn, hvisits⟩ := hd.sample hsteady.inside shard e.settings.policy.scope n
  obtain ⟨x, hx, hshown⟩ := hvisits visit hvisit
  rw [hsteady.records] at hx
  have hpolicy : e.ranking.policy = e.settings.policy := by rw [hs.coherent.ranking]
  have hwithin := Record.within_of_shown hshown
  have hthere : d.contains site shard e.settings.policy.scope visit.1 = true := by
    rw [hd.contains hs.inside, hx]
    exact hwithin
  have hstamp : d.stamp? (d.sample shard e.settings.policy.scope n site').2 shard visit.1
      = some x.stamp := by
    rw [hd.stamp hdrawn.inside, hdrawn.records, hsteady.records, hx]
    rfl
  rw [← hpolicy] at hwithin hshown
  obtain ⟨m, hm⟩ := Record.exists_rank (hpolicy ▸ hs.pool) hwithin now
  have hrank := hs.rank ⟨shard, visit.1⟩ hthere
  rw [rankAt?, hx, Option.bind_some, hm] at hrank
  refine ⟨m, hrank.symm, hthere, ?_⟩
  have hcandidate := candidate?_eq hstamp hshown now
  rw [hm, hpolicy] at hcandidate
  exact hcandidate

/-- A sample of a small shard makes a candidate of every key. -/
theorem exists_candidate (hd : Catalogued d server clock I record) (hx : d.Exhaustive I)
    (hs : Surveyed d I record now rank e site) (hsteady : Steady d I record site site')
    {shard : Nat} (hshard : shard < d.shards site) {key : Bytes}
    (hkey : d.contains site shard e.settings.policy.scope key = true) :
    ∃ c ∈ e.candidates d now shard site', c.shard = shard ∧ c.key = key := by
  have hfew : d.count site' shard e.settings.policy.scope ≤ e.sampler.samples := by
    rw [hd.count_eq hs.inside hsteady, hs.coherent.sampler]
    exact hs.few hshard
  rw [← hd.contains_eq hs.inside hsteady] at hkey
  obtain ⟨visit, hvisit, rfl⟩ := hx hsteady.inside hfew hkey
  obtain ⟨m, -, -, hcandidate⟩ := candidate_of_visit hd hs hsteady hvisit
  exact ⟨_, List.mem_filterMap.mpr ⟨visit, hvisit, hcandidate⟩, rfl, rfl⟩

/-- A candidate is a key that is there, at its rank. -/
theorem candidates_ranked (hd : Catalogued d server clock I record)
    (hs : Surveyed d I record now rank e site) (hsteady : Steady d I record site site')
    (shard : Nat) : ∀ c ∈ e.candidates d now shard site',
      Live d site e.settings.policy.scope c ∧ rank ⟨c.shard, c.key⟩ = some c.rank := by
  intro c hc
  obtain ⟨visit, hvisit, hmade⟩ := List.mem_filterMap.mp hc
  obtain ⟨m, hm, hthere, hcandidate⟩ := candidate_of_visit hd hs hsteady hvisit
  rw [hcandidate] at hmade
  cases hmade
  exact ⟨hthere, hm⟩

theorem exists_swept_shard (hd : Catalogued d server clock I record) (hx : d.Exhaustive I)
    (hs : Surveyed d I record now rank e site) (hsteady : Steady d I record site h.site)
    {shard : Nat} (hshard : shard < d.shards site) :
    ∃ cs, Swept e d I record rank site [shard] h (e.harvestShard d now h shard) cs := by
  unfold harvestShard
  dsimp only
  split
  · rename_i hzero
    rw [hd.count_eq hs.inside hsteady] at hzero
    refine ⟨[], .nil hsteady fun i hi key => ?_⟩
    rw [List.mem_singleton.mp hi]
    exact hd.contains_of_count hs.inside hzero key
  · have hranked := candidates_ranked hd hs hsteady shard
    exact ⟨e.candidates d now shard h.site,
      { steady := hsteady.trans (hd.sample hsteady.inside shard _ _).1
        shows := fun hl => hl.offerAll _
        taken := fun hnone => by
          show h.taken + (Sampler.offerAll h.pool (e.candidates d now shard h.site)).1 = h.taken
          rw [hnone]
          rfl
        live := fun c hc => (hranked c hc).1
        rank := fun c hc => (hranked c hc).2
        all := fun i hi key hkey => by
          rw [List.mem_singleton] at hi
          subst hi
          exact exists_candidate hd hx hs hsteady hshard hkey }⟩

theorem exists_swept_foldl (hd : Catalogued d server clock I record) (hx : d.Exhaustive I)
    (hs : Surveyed d I record now rank e site) (shards : List Nat)
    (hshards : ∀ shard ∈ shards, shard < d.shards site) (hsteady : Steady d I record site h.site) :
    ∃ cs, Swept e d I record rank site shards h (shards.foldl (e.harvestShard d now) h) cs := by
  induction shards generalizing h with
  | nil => exact ⟨[], .nil hsteady (by simp)⟩
  | cons shard shards ih =>
    obtain ⟨hshard, hrest⟩ := List.forall_mem_cons.mp hshards
    obtain ⟨cs, hfirst⟩ := exists_swept_shard hd hx hs hsteady hshard
    obtain ⟨cs', hlater⟩ := ih hrest hfirst.steady
    exact ⟨cs ++ cs', hfirst.trans hlater⟩

/-- What sampling all shards comes to. -/
theorem exists_swept (hd : Catalogued d server clock I record) (hx : d.Exhaustive I)
    (hs : Surveyed d I record now rank e site) :
    ∃ cs, Swept e d I record rank site (List.range (d.shards site)) ⟨0, 0, e.pool, site⟩
      (e.harvest d now site) cs :=
  exists_swept_foldl hd hx hs _ (fun _ => List.mem_range.mp) (.refl hs.inside)

/-! ## The best key -/

/-- A key within the scope that no other beats. -/
structure Best (d : Dataset σ) (scope : Scope) (rank : Victim → Option Nat) (site : σ)
    (w : Victim) : Prop where
  there : d.contains site w.shard scope w.key = true
  best (v : Victim) (hv : d.contains site v.shard scope v.key = true) : RankLe (rank v) (rank w)

/-- A pool with these candidates covers all keys within a scope. -/
structure Laid (d : Dataset σ) (scope : Scope) (rank : Victim → Option Nat) (site : σ)
    (l : List Candidate) : Prop where
  ascending : Pool.Ascending l
  ranked (c : Candidate) (hc : c ∈ l) : rank ⟨c.shard, c.key⟩ = some c.rank
  covers (v : Victim) (hv : d.contains site v.shard scope v.key = true) :
    ∃ x, Pool.Covers l x ∧ x.shard = v.shard ∧ x.key = v.key ∧ rank v = some x.rank

/-- A pool into which all shards are sampled covers all keys. -/
theorem Swept.laid (hd : Catalogued d server clock I record)
    (hs : Surveyed d I record now rank e site) {l l' : List Candidate}
    (hswept : Swept e d I record rank site (List.range (d.shards site)) h h' cs)
    (hranks : ∀ c ∈ l, rank ⟨c.shard, c.key⟩ = some c.rank) (hgathered : Pool.Gathered l cs l') :
    Laid d e.settings.policy.scope rank site l' where
  ascending := hgathered.ascending
  ranked c hc := (hgathered.mem c hc).elim (hranks c) (hswept.rank c)
  covers v hv := by
    obtain ⟨r, hr, -⟩ := hd.exists_record hs.inside hv
    have hshard := List.mem_range.mpr (hd.bounded hs.inside hr)
    obtain ⟨x, hxmem, hxshard, hxkey⟩ := hswept.all v.shard hshard v.key hv
    refine ⟨x, hgathered.covers x (Or.inr hxmem), hxshard, hxkey, ?_⟩
    rw [← hswept.rank x hxmem, hxshard, hxkey]

namespace Laid

variable {scope : Scope} {l : List Candidate} {selection : Selection}

/-- The victim that is taken from a pool that covers all keys is the best key. -/
theorem best (h : Laid d scope rank site l)
    {buffer : Bytes}
    (hselected : Pool.Selected (d.contains site · scope ·) buffer l selection) {c : Candidate}
    (hc : selection.victim = some c) : Best d scope rank site ⟨c.shard, c.key⟩ := by
  have hbest {x : Candidate} := hselected.rank_le_of_covers h.ascending hc (x := x)
  cases hselected with
  | nothing hvictim _ _ =>
    rw [hvictim] at hc
    cases hc
  | found below above c' hl hvictim hthere =>
    rw [hvictim] at hc
    cases hc
    refine ⟨hthere, fun v hv => ?_⟩
    obtain ⟨x, hcovered, hshard, hkey, hx⟩ := h.covers v hv
    refine ⟨x.rank, c.rank, hx, h.ranked c (by simp [hl]), ?_⟩
    exact hbest hcovered (by rw [hshard, hkey]; exact hv)

/-- What is left of the pool is in order. -/
theorem filed (h : Laid d scope rank site l) {present : Nat → Bytes → Bool} {buffer : Bytes}
    (hselected : Pool.Selected present buffer l selection) : Filed rank selection.pool := by
  cases hselected with
  | found below above c hl _ _ _ hleft =>
    have hascending := h.ascending
    rw [hl] at hascending
    refine ⟨below, hleft, (List.pairwise_append.mp hascending).1, fun c' hc' => h.ranked c' ?_⟩
    rw [hl]
    exact List.mem_append_left _ hc'
  | nothing _ _ hleft => exact ⟨[], hleft, List.Pairwise.nil, by simp⟩

end Laid

/-- A look for a victim in a pool that started empty, and covers what was offered to it, comes to
nothing only if nothing was offered. -/
theorem eq_nil_of_nothing {l : List Candidate} (hgathered : Pool.Gathered [] cs l)
    (present : Nat → Bytes → Bool) (hlive : ∀ c ∈ cs, present c.shard c.key = true)
    (hnone : ∀ c ∈ l, present c.shard c.key = false) : cs = [] := by
  have hnil : l = [] := by
    refine List.eq_nil_iff_forall_not_mem.mpr fun c hc => ?_
    have hthere := hlive c ((hgathered.mem c hc).resolve_left List.not_mem_nil)
    rw [hnone c hc] at hthere
    cases hthere
  refine List.eq_nil_iff_forall_not_mem.mpr fun c hc => ?_
  rcases hgathered.covers c (Or.inr hc) with hin | ⟨hfull, -⟩
  · rw [hnil] at hin
    cases hin
  · rw [hnil] at hfull
    exact absurd hfull (by decide)

/-- A scene after some rounds of a search. -/
structure Searching (d : Dataset σ) (I : σ → Prop) (record : Records σ ν)
    (rank : Victim → Option Nat) (s s' : Scene σ) : Prop where
  steady : Steady d I record s.site s'.site
  searched : Searched s.evictor s'.evictor
  filed : Filed rank s'.evictor.pool

theorem Searching.trans {s t t' : Scene σ} (h : Searching d I record rank s t)
    (h' : Searching d I record rank t t') : Searching d I record rank s t' :=
  ⟨h.steady.trans h'.steady, h.searched.trans h'.searched, h'.filed⟩

/-- A round of a search finds the best key, or empties a pool that was not empty. -/
theorem round_best (hd : Catalogued d server clock I record) (hx : d.Exhaustive I) {s : Scene σ}
    (hnow : clock.now s.site = now) (hs : Surveyed d I record now rank s.evictor s.site)
    (hfiled : Filed rank s.evictor.pool) :
    (∃ s', searchRound d clock s = .inl s' ∧ Searching d I record rank s s' ∧
      s.evictor.pool.size ≠ 0 ∧ s'.evictor.pool.size = 0) ∨
    ∃ v s', searchRound d clock s = .inr (v, s') ∧ Searching d I record rank s s' ∧
      ∀ w, v = some w → Best d s.evictor.settings.policy.scope rank s.site w := by
  obtain ⟨l, hl, hascending, hranks⟩ := hfiled
  obtain ⟨cs, hswept⟩ := exists_swept hd hx hs
  have hgathered := Pool.gathered hascending cs
  have hshows := hswept.shows hl
  have hcontains := hd.contains_eq hs.inside hswept.steady
  generalize cs.foldl Pool.offer l = l' at hgathered hshows
  have hlaid := hswept.laid hd hs hranks hgathered
  unfold searchRound
  dsimp only
  rw [hnow]
  generalize s.evictor.harvest d now s.site = h at hswept hshows hcontains ⊢
  rw [hcontains]
  have hselected := hshows.select (d.contains s.site · s.evictor.settings.policy.scope ·) .empty
  have hleft := hlaid.filed hselected
  split
  · refine Or.inr ⟨_, _, rfl, ⟨hswept.steady, ⟨_, _, _, rfl⟩, filed_of_size_eq_zero rfl⟩, ?_⟩
    intro w hw
    cases hw
  · split
    · rename_i c hc
      refine Or.inr ⟨_, _, rfl, ⟨hswept.steady, ⟨_, _, _, rfl⟩, hleft⟩, fun w hw => ?_⟩
      cases hw
      exact hlaid.best hselected hc
    · rename_i hc
      cases hselected with
      | found _ _ _ _ hvictim _ _ _ =>
        rw [hc] at hvictim
        cases hvictim
      | nothing _ hnone hempty =>
        split
        · refine Or.inr ⟨_, _, rfl, ⟨hswept.steady, ⟨_, _, _, rfl⟩, hleft⟩, ?_⟩
          intro w hw
          cases hw
        · rename_i hsomething
          refine Or.inl ⟨_, rfl, ⟨hswept.steady, ⟨_, _, _, rfl⟩, hleft⟩, fun hzero => ?_,
            hempty.size⟩
          -- a pool that was empty, and from which nothing was taken, was offered nothing
          have hnil : l = [] := List.length_eq_zero_iff.mp (hl.size.symm.trans hzero)
          subst hnil
          have hnone := eq_nil_of_nothing hgathered
            (d.contains s.site · s.evictor.settings.policy.scope ·) hswept.live hnone
          have htaken := hswept.taken hnone
          refine hsomething (Bool.and_eq_true_iff.mpr ⟨beq_iff_eq.mpr hzero, beq_iff_eq.mpr htaken⟩)

theorem Searching.surveyed (hd : Catalogued d server clock I record) {s t : Scene σ}
    (h : Searching d I record rank s t) (hs : Surveyed d I record now rank s.evictor s.site) :
    Surveyed d I record now rank t.evictor t.site := by
  obtain ⟨hsteady, hsearched, -⟩ := h
  have hkept := hsearched.kept
  have hcontains := hd.contains_eq hs.inside hsteady
  refine ⟨hsteady.inside, hs.coherent.kept hkept, ?_, fun hshard => ?_, fun v hv => ?_⟩
  · rw [hkept.settings]
    exact hs.pool
  · rw [hsteady.shards] at hshard
    rw [hd.count_eq hs.inside hsteady, hkept.settings]
    exact hs.few hshard
  · rw [hcontains, hkept.settings] at hv
    rw [← hs.rank v hv, rankAt?, rankAt?, hsteady.records, hkept.ranking]

/-- A search finds the best key. -/
theorem exists_findVictim_best (hd : Catalogued d server clock I record) (hx : d.Exhaustive I)
    (hnow : ∀ site, I site → clock.now site = now) {s : Scene σ}
    (hs : Surveyed d I record now rank s.evictor s.site) (hfiled : Filed rank s.evictor.pool) :
    ∃ v s', findVictim 2 d clock s = some (v, s') ∧ Searching d I record rank s s' ∧
      ∀ w, v = some w → Best d s.evictor.settings.policy.scope rank s.site w := by
  have hround (t : Scene σ) (ht : Searching d I record rank s t) :
      (∃ t', searchRound d clock t = .inl t' ∧ Searching d I record rank s t' ∧
        t.evictor.pool.size ≠ 0 ∧ t'.evictor.pool.size = 0) ∨
      ∃ r, searchRound d clock t = .inr r ∧ Searching d I record rank s r.2 ∧
        ∀ w, r.1 = some w → Best d s.evictor.settings.policy.scope rank s.site w := by
    have hsurveyed := ht.surveyed hd hs
    have hcontains := hd.contains_eq hs.inside ht.steady
    rcases round_best hd hx (hnow _ ht.steady.inside) hsurveyed ht.filed with
      ⟨t', hround, hlater, hsizes⟩ | ⟨v, t', hround, hlater, hbest⟩
    · exact Or.inl ⟨t', hround, ht.trans hlater, hsizes⟩
    · refine Or.inr ⟨_, hround, ht.trans hlater, fun w hw => ?_⟩
      obtain ⟨hthere, hbest⟩ := hbest w hw
      rw [hcontains, ht.searched.settings] at hthere hbest
      exact ⟨hthere, hbest⟩
  obtain ⟨⟨v, s'⟩, hsearch, hsearching, hbest⟩ :=
    exists_searchPool hround ⟨.refl hs.inside, .refl _, hfiled⟩
  refine ⟨v, s', ?_, hsearching, hbest⟩
  unfold findVictim
  rwa [if_pos hs.pool]

/-! ## A cycle -/

/-- A check that has evicted keys in order so far. None of those that are left beats any of those
that are gone. -/
structure InOrder (d : Dataset σ) (I : σ → Prop) (record : Records σ ν) (e₀ : Evictor)
    (now : Moment) (start : σ) (pool : Pool) (r : Recorded σ) : Prop where
  traced : Traced d I record e₀.settings.policy.scope start r
  few {shard : Nat} (h : shard < d.shards r.site) :
    d.count r.site shard e₀.settings.policy.scope ≤ e₀.settings.samples
  filed : Filed (rankAt? record e₀.ranking now start) pool
  sorted : (Deed.removals r.deeds).Pairwise fun later earlier =>
    RankLe (rankAt? record e₀.ranking now start later) (rankAt? record e₀.ranking now start earlier)
  least (v : Victim) (hv : d.contains r.site v.shard e₀.settings.policy.scope v.key = true)
    (w : Victim) (hw : w ∈ Deed.removals r.deeds) :
    RankLe (rankAt? record e₀.ranking now start v) (rankAt? record e₀.ranking now start w)

namespace InOrder

variable {e₀ : Evictor} {start : σ} {pool pool' : Pool} {r r' : Recorded σ}

theorem refl (h : I site) (hempty : pool.size = 0)
    (hfew : ∀ shard < d.shards site,
      d.count site shard e₀.settings.policy.scope ≤ e₀.settings.samples) :
    InOrder d I record e₀ now site pool ⟨site, []⟩ where
  traced := .refl h
  few hshard := hfew _ hshard
  filed := filed_of_size_eq_zero hempty
  sorted := List.Pairwise.nil
  least _ _ w hw := by cases hw

theorem steady (h : InOrder d I record e₀ now start pool r)
    (hd : Catalogued d server clock I record) (hsteady : Steady d I record r.site r'.site)
    (htraced : Traced d I record e₀.settings.policy.scope start r')
    (hremovals : Deed.removals r'.deeds = Deed.removals r.deeds)
    (hfiled : Filed (rankAt? record e₀.ranking now start) pool') :
    InOrder d I record e₀ now start pool' r' where
  traced := htraced
  few hshard := by
    rw [hsteady.shards] at hshard
    rw [hd.count_eq h.traced.inside hsteady]
    exact h.few hshard
  filed := hfiled
  sorted := by rw [hremovals]; exact h.sorted
  least := by
    rw [hremovals, hd.contains_eq h.traced.inside hsteady]
    exact h.least

theorem surveyed (h : InOrder d I record e₀ now start pool r)
    (hd : Catalogued d server clock I record) (hcoherent : e₀.Coherent)
    (hpool : e₀.settings.policy.usesPool = true) (hkept : Kept e₀ e) :
    Surveyed d I record now (rankAt? record e₀.ranking now start) e r.site where
  inside := h.traced.inside
  coherent := hcoherent.kept hkept
  pool := by rw [hkept.settings]; exact hpool
  few hshard := by rw [hkept.settings]; exact h.few hshard
  rank v hv := by
    rw [hkept.settings] at hv
    obtain ⟨-, x, hstart, hx, -⟩ := h.traced.exists_of_contains hd hv
    rw [rankAt?, rankAt?, hstart, hx, hkept.ranking]

/-- A deletion of the best key keeps the order. -/
theorem delete (h : InOrder d I record e₀ now start pool r)
    (hd : Catalogued d server clock I record) {w : Victim}
    (hw : Best d e₀.settings.policy.scope (rankAt? record e₀.ranking now start) r.site w)
    {lazy removed : Bool}
    (hdelete : (if lazy then (Recorded.dataset d).deleteDeferred w.shard w.key r
      else (Recorded.dataset d).delete w.shard w.key r) = (removed, r')) :
    InOrder d I record e₀ now start pool r' ∧
      d.total r'.site e₀.settings.policy.scope < d.total r.site e₀.settings.policy.scope := by
  obtain ⟨htraced, hremovals, hlt⟩ := h.traced.delete hd hw.there hdelete
  obtain ⟨site', hsite, rfl⟩ := Recorded.exists_delete hdelete
  obtain ⟨-, -, hshards, -⟩ := hd.delete h.traced.inside hsite
  have hthere (v : Victim)
      (hv : d.contains site' v.shard e₀.settings.policy.scope v.key = true) :
      d.contains r.site v.shard e₀.settings.policy.scope v.key = true := by
    rw [hd.contains_delete h.traced.inside hsite] at hv
    exact (Bool.and_eq_true_iff.mp hv).2
  refine ⟨⟨htraced, fun {shard} hshard => ?_, h.filed, ?_, fun v hv w' hw' => ?_⟩, hlt⟩
  · have hcount := hd.count_delete h.traced.inside hsite hw.there shard
    have hfew := h.few (hshards ▸ hshard)
    show d.count site' shard _ ≤ _
    omega
  · rw [hremovals]
    exact List.pairwise_cons.mpr ⟨h.least w hw.there, h.sorted⟩
  · rw [hremovals] at hw'
    rcases List.mem_cons.mp hw' with rfl | hw'
    · exact hw.best v (hthere v hv)
    · exact h.least v (hthere v hv) w' hw'

end InOrder

/-- A check keeps the order. -/
theorem keeps_inOrder (hd : Catalogued d server clock I record) (hx : d.Exhaustive I)
    (hnow : ∀ site, I site → clock.now site = now) (start : σ) {e₀ : Evictor}
    (hcoherent : e₀.Coherent) (hpool : e₀.settings.policy.usesPool = true) :
    Keeps e₀ (Recorded.dataset d) (Recorded.server server) (Recorded.clock clock)
      (InOrder d I record e₀ now start)
      (fun w r => Best d e₀.settings.policy.scope (rankAt? record e₀.ranking now start) r.site w)
      (fun r => d.total r.site e₀.settings.policy.scope) where
  search {e r} he h := by
    obtain ⟨v, s', hfind, hsearching, hbest⟩ := exists_findVictim_best (s := ⟨e, r.site⟩) hd hx hnow
      (h.surveyed hd hcoherent hpool he) h.filed
    have hrecorded := findVictim_recorded 2 d clock ⟨e, r.site⟩ r.deeds
    have hsteady := hsearching.steady
    rw [hfind] at hrecorded
    have htraced : Traced d I record e₀.settings.policy.scope start ⟨s'.site, r.deeds⟩ :=
      h.traced.steady hsteady rfl
    refine ⟨v, s'.recorded r.deeds, hrecorded, ?_, ?_, fun w hw => ?_⟩
    · exact h.steady hd hsteady htraced rfl hsearching.filed
    · exact Nat.le_of_eq (hd.total_eq h.traced.inside hsteady _)
    · obtain ⟨hthere, hbest⟩ := hbest w hw
      rw [he.settings] at hthere hbest
      rw [← hd.contains_eq h.traced.inside hsteady] at hthere hbest
      exact ⟨hthere, hbest⟩
  aside {pool r r'} h haside := by
    obtain ⟨htraced, hsteady⟩ := h.traced.aside hd haside
    obtain ⟨-, deed, hdeeds, hnone⟩ := Recorded.exists_aside haside
    have hremovals : Deed.removals r'.deeds = Deed.removals r.deeds := by
      rw [hdeeds, Deed.removals_cons hnone]
    refine ⟨h.steady hd hsteady htraced hremovals h.filed,
      Nat.le_of_eq (hd.total_eq h.traced.inside hsteady _), fun w hw => ?_⟩
    have hcontains := hd.contains_eq h.traced.inside hsteady
    exact ⟨by rw [hcontains]; exact hw.there, by rw [hcontains]; exact hw.best⟩
  delete h hw hdelete := h.delete hd hw hdelete

/-- If every sample shows all of its shard, a cycle that starts with an empty pool while time stands
still evicts keys in the order of their ranks, and when it ends, none of those that are left beats
any of those that are gone. -/
theorem ensure_in_order (hd : Catalogued d server clock I record) (hx : d.Exhaustive I)
    (hnow : ∀ site, I site → clock.now site = now) {s : Scene σ} (hs : I s.site)
    (hcoherent : s.evictor.Coherent) (hpool : s.evictor.settings.policy.usesPool = true)
    (hempty : s.evictor.pool.size = 0)
    (hfew : ∀ shard < d.shards s.site, d.count s.site shard s.evictor.settings.policy.scope
      ≤ s.evictor.settings.samples) :
    ∃ r, ensure d server clock s = some r ∧
      ((Deed.removals (ensureLedger d server clock s)).Pairwise fun later earlier =>
        RankLe (rankAt? record s.evictor.ranking now s.site later)
          (rankAt? record s.evictor.ranking now s.site earlier)) ∧
      ∀ v : Victim, d.contains r.scene.site v.shard s.evictor.settings.policy.scope v.key = true →
        ∀ w ∈ Deed.removals (ensureLedger d server clock s),
          RankLe (rankAt? record s.evictor.ranking now r.scene.site v)
            (rankAt? record s.evictor.ranking now s.site w) := by
  obtain ⟨r, hr, hordered⟩ := (keeps_inOrder hd hx hnow s.site hcoherent hpool).exists_ensure
    (.refl hs hempty hfew) (Nat.le_refl _)
  refine ⟨_, hr.ensure, ?_, fun v hv w hw => ?_⟩
  · rw [hr.ledger]
    exact hordered.sorted
  · rw [hr.ledger] at hw
    have hsurveyed := hordered.surveyed hd hcoherent hpool (.refl _)
    have hrank : rankAt? record s.evictor.ranking now r.scene.site.site v
        = rankAt? record s.evictor.ranking now s.site v := hsurveyed.rank v hv
    show RankLe (rankAt? record s.evictor.ranking now r.scene.site.site v) _
    rw [hrank]
    exact hordered.least v hv w hw

/-- The check of three keys in two shards, the least recently used of which go first. -/
theorem ensure_in_order_uneven :
    (Rack.uneven.site.Sound ∧ Rack.uneven.evictor.Coherent ∧
      Rack.uneven.evictor.settings.policy.usesPool = true ∧
      Rack.uneven.evictor.pool.size = 0 ∧
      ∀ shard < 2, Rack.dataset.count Rack.uneven.site shard .all ≤ 5) ∧
    Deed.removals (ensureLedger Rack.dataset Rack.server Rack.clock Rack.uneven)
      = [⟨1, ⟨#[3]⟩⟩, ⟨0, ⟨#[2]⟩⟩] ∧
    ∃ r, ensure Rack.dataset Rack.server Rack.clock Rack.uneven = some r ∧
      ((Deed.removals (ensureLedger Rack.dataset Rack.server Rack.clock Rack.uneven)).Pairwise
        fun later earlier => RankLe
          (rankAt? Rack.record ⟨.allKeysLru, 1⟩ ⟨1000⟩ Rack.uneven.site later)
          (rankAt? Rack.record ⟨.allKeysLru, 1⟩ ⟨1000⟩ Rack.uneven.site earlier)) ∧
      ∀ v : Victim, Rack.dataset.contains r.scene.site v.shard .all v.key = true →
        ∀ w ∈ Deed.removals (ensureLedger Rack.dataset Rack.server Rack.clock Rack.uneven),
          RankLe (rankAt? Rack.record ⟨.allKeysLru, 1⟩ ⟨1000⟩ r.scene.site v)
            (rankAt? Rack.record ⟨.allKeysLru, 1⟩ ⟨1000⟩ Rack.uneven.site w) := by
  have hsound : Rack.uneven.site.Sound := ⟨by decide, by decide⟩
  have hcoherent : Rack.uneven.evictor.Coherent := ⟨rfl, rfl, rfl, by decide, by decide⟩
  have hfew : ∀ shard < 2, Rack.dataset.count Rack.uneven.site shard .all ≤ 5 := by decide
  exact ⟨⟨hsound, hcoherent, rfl, rfl, hfew⟩, by decide +kernel,
    ensure_in_order Rack.catalogued Rack.exhaustive (fun _ _ => rfl) hsound hcoherent rfl rfl hfew⟩

end Evictor

end SampledEviction
