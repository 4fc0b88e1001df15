import Mathlib.Data.List.Basic
import SampledEviction.Proofs.PoolOrder
import SampledEviction.Proofs.Rack
import SampledEviction.Proofs.Search

/-!
# The rounds of a search

A search goes on to another round only after one that has emptied the pool, and a round that
starts with an empty pool either is offered nothing or finds what it was offered. So there are no
more than two, whatever an earlier cycle has left in the pool. Nothing is assumed of the policy
nor of how many keys a sample shows: it may show none of a full shard.

* `round_of_shows` — what one round comes to, said of the list of the pool
* `conclusive_searchPool` — the answer of a search, why it is none, and what is counted as gone
-/

namespace SampledEviction

variable {σ : Type}

/-! ## Datasets whose samples can be trusted -/

/-- Within a class of sites, samples lead from one to another that shows the same keys, and show
keys that are there. No key is in a shard out of range, nor in one that says it is empty. -/
structure Dataset.Candid (d : Dataset σ) (I : σ → Prop) : Prop where
  agree {site site' : σ} (h : I site) (h' : I site') : d.Agree site site'
  sample {site : σ} (h : I site) (shard : Nat) (scope : Scope) (n : Nat) :
    I (d.sample shard scope n site).2 ∧
      ∀ visit ∈ (d.sample shard scope n site).1, d.contains site shard scope visit.1 = true
  outside {site : σ} (h : I site) {shard : Nat} (hshard : d.shards site ≤ shard) (scope : Scope)
    (key : Bytes) : d.contains site shard scope key = false
  vacant {site : σ} (h : I site) {shard : Nat} {scope : Scope}
    (hcount : d.count site shard scope = 0) (key : Bytes) :
    d.contains site shard scope key = false

namespace Evictor

/-! ## What a round is offered, and what it takes out -/

/-- The candidates that shards make when they are sampled in turn. Empty shards are passed over. -/
def harvestOffers (e : Evictor) (d : Dataset σ) (now : Moment) : List Nat → σ → List Candidate
  | [], _ => []
  | shard :: shards, site =>
    let scope := e.settings.policy.scope
    if d.count site shard scope = 0 then harvestOffers e d now shards site
    else
      e.candidates d now shard site ++
        harvestOffers e d now shards (d.sample shard scope e.sampler.samples site).2

/-- The candidates that the pool is offered in a round. -/
def offers (d : Dataset σ) (clock : Clock σ) (s : Scene σ) : List Candidate :=
  s.evictor.harvestOffers d (clock.now s.site) (List.range (d.shards s.site)) s.site

/-- The candidates in the pool when a round has sampled all shards. -/
def stock (d : Dataset σ) (clock : Clock σ) (s : Scene σ) : List Candidate :=
  (s.evictor.harvest d (clock.now s.site) s.site).pool.toList

/-- The scene that a round leaves, be it the last or not. -/
def afterRound (d : Dataset σ) (clock : Clock σ) (s : Scene σ) : Scene σ :=
  (searchRound d clock s).elim id Prod.snd

/-- The candidates that a round removes from the pool, when it selects from it or empties it: those
in stock that are not left. One that was dropped to make room for a better offer is not in stock. -/
def removed (d : Dataset σ) (clock : Clock σ) (s : Scene σ) : List Candidate :=
  (stock d clock s).diff (afterRound d clock s).evictor.pool.toList

/-- The scenes in which the rounds of a search start. -/
def rounds (d : Dataset σ) (clock : Clock σ) : Nat → Scene σ → List (Scene σ)
  | 0, _ => []
  | fuel + 1, s =>
    s :: match searchRound d clock s with
      | .inl s' => rounds d clock fuel s'
      | .inr _ => []

/-- Whether the key of a candidate is missing within the scope of a policy. -/
def isGhost (d : Dataset σ) (s : Scene σ) (c : Candidate) : Bool :=
  !d.contains s.site c.shard s.evictor.settings.policy.scope c.key

/-- What is known of a search by its answer. -/
structure Conclusive (d : Dataset σ) (clock : Clock σ) (s : Scene σ) (v : Option Victim)
    (s' : Scene σ) : Prop where
  /-- However many rounds are allowed, no more than two are run. -/
  rounds_le : ∀ fuel, (rounds d clock fuel s).length ≤ 2
  /-- It gives up if there is no key, or if a round that started with an empty pool was offered
  nothing; and only then. -/
  none_iff : v = none ↔ Exhausted d s ∨
    ∃ t ∈ rounds d clock 2 s, t.evictor.pool.isEmpty = true ∧ offers d clock t = []
  emptied : v = none → s'.evictor.pool.isEmpty = true
  live : ∀ w, v = some w →
    d.contains s'.site w.shard s.evictor.settings.policy.scope w.key = true
  /-- The ghosts that are counted are those among the candidates that were removed. -/
  ghosts : s'.evictor.stats.ghosts = s.evictor.stats.ghosts
    + tally (fun t => (removed d clock t).countP (isGhost d s)) (rounds d clock 2 s)

variable {d : Dataset σ} {I : σ → Prop} {clock : Clock σ} {e : Evictor} {now : Moment}

/-! ## Sampling all shards -/

theorem harvestShard_of_vacant {h : Harvest σ} {shard : Nat}
    (hzero : d.count h.site shard e.settings.policy.scope = 0) :
    e.harvestShard d now h shard = h := if_pos hzero

theorem harvestShard_of_count_ne {h : Harvest σ} {shard : Nat}
    (hsome : d.count h.site shard e.settings.policy.scope ≠ 0) :
    e.harvestShard d now h shard =
      { keys := h.keys + d.count h.site shard e.settings.policy.scope
        taken := h.taken + (Sampler.offerAll h.pool (e.candidates d now shard h.site)).1
        pool := (Sampler.offerAll h.pool (e.candidates d now shard h.site)).2
        site := (d.sample shard e.settings.policy.scope e.sampler.samples h.site).2 } :=
  if_neg hsome

/-- What sampling some shards comes to, said of the candidates that they make. -/
structure Gleaned (e : Evictor) (d : Dataset σ) (I : σ → Prop) (site : σ) (shards : List Nat)
    (cs : List Candidate) (h h' : Harvest σ) : Prop where
  inside : I h'.site
  keys : h'.keys = h.keys + tally (d.count site · e.settings.policy.scope) shards
  taken : h'.taken = h.taken + (Sampler.offerAll h.pool cs).1
  pool : h'.pool = (Sampler.offerAll h.pool cs).2
  live : ∀ c ∈ cs, Live d site e.settings.policy.scope c

theorem gleaned_foldl (e : Evictor) (now : Moment) (hd : d.Candid I) {site : σ} (hsite : I site)
    (shards : List Nat) {h : Harvest σ} (hh : I h.site) :
    Gleaned e d I site shards (e.harvestOffers d now shards h.site) h
      (shards.foldl (e.harvestShard d now) h) := by
  induction shards generalizing h with
  | nil =>
    exact
      { inside := hh
        keys := rfl
        taken := rfl
        pool := rfl
        live := by
          intro c hc
          cases hc }
  | cons shard shards ih =>
    have hagree := hd.agree hsite hh
    rw [List.foldl_cons]
    unfold harvestOffers
    dsimp only
    by_cases hzero : d.count h.site shard e.settings.policy.scope = 0
    · rw [if_pos hzero, harvestShard_of_vacant hzero]
      have hrest := ih hh
      refine { hrest with keys := ?_ }
      rw [hrest.keys, tally_cons, ← hagree.count, hzero, Nat.zero_add]
    · obtain ⟨hinside, hthere⟩ := hd.sample hh shard e.settings.policy.scope e.sampler.samples
      have hrest := @ih (e.harvestShard d now h shard)
        (by rw [harvestShard_of_count_ne hzero]; exact hinside)
      rw [harvestShard_of_count_ne hzero] at hrest
      rw [if_neg hzero, harvestShard_of_count_ne hzero]
      exact
        { inside := hrest.inside
          keys := by rw [hrest.keys, tally_cons, hagree.count, Nat.add_assoc]
          taken := by rw [hrest.taken, Pool.offerAll_append, Nat.add_assoc]
          pool := by rw [hrest.pool, Pool.offerAll_append]
          live := by
            intro c hc
            rcases List.mem_append.mp hc with hc | hc
            · obtain ⟨visit, hvisit, rfl, hkey⟩ := exists_visit_of_mem_candidates hc
              unfold Live
              rw [hkey, ← hagree.contains]
              exact hthere visit hvisit
            · exact hrest.live c hc }

/-- What sampling all shards comes to. -/
theorem gleaned (clock : Clock σ) (hd : d.Candid I) {s : Scene σ} (hs : I s.site) :
    Gleaned s.evictor d I s.site (List.range (d.shards s.site)) (offers d clock s)
      ⟨0, 0, s.evictor.pool, s.site⟩ (s.evictor.harvest d (clock.now s.site) s.site) :=
  gleaned_foldl s.evictor (clock.now s.site) hd hs _ (h := ⟨0, 0, s.evictor.pool, s.site⟩) hs

theorem Gleaned.keys_eq_zero_iff {s : Scene σ} {pool : Pool} {cs : List Candidate} {h' : Harvest σ}
    (h : Gleaned s.evictor d I s.site (List.range (d.shards s.site)) cs ⟨0, 0, pool, s.site⟩ h') :
    h'.keys = 0 ↔ Exhausted d s := by
  rw [h.keys, Nat.zero_add, tally_eq_zero_iff]
  simp only [List.mem_range]
  exact Iff.rfl

/-! ## One round -/

/-- Why a round ends as it does, by the list that the pool starts with. -/
inductive Turn (d : Dataset σ) (clock : Clock σ) (s : Scene σ) (l : List Candidate) :
    Scene σ ⊕ (Option Victim × Scene σ) → Prop where
  | gaveUp {s' : Scene σ} (why : Exhausted d s ∨ l = [] ∧ offers d clock s = [])
    (hleft : s'.evictor.pool.size = 0) : Turn d clock s l (.inr (none, s'))
  | found {c : Candidate} {s' : Scene σ} (hsome : ¬ Exhausted d s)
    (hoffered : ¬ (l = [] ∧ offers d clock s = [])) (hlive : isGhost d s c = false) :
    Turn d clock s l (.inr (some ⟨c.shard, c.key⟩, s'))
  | again {s' : Scene σ} (hsome : ¬ Exhausted d s) (hl : l ≠ [])
    (hleft : s'.evictor.pool.size = 0) : Turn d clock s l (.inl s')

/-- What a round leaves of the stock, and what it counts. -/
structure Taken (d : Dataset σ) (I : σ → Prop) (s : Scene σ) (stock : List Candidate)
    (s' : Scene σ) : Prop where
  inside : I s'.site
  searched : Searched s.evictor s'.evictor
  split : ∃ left gone, stock = left ++ gone ∧ s'.evictor.pool.Shows left ∧
    s'.evictor.stats.ghosts = s.evictor.stats.ghosts + gone.countP (isGhost d s)

/-- A round that leaves nothing counts the whole stock, if none of it is there. -/
theorem taken_of_all {s s' : Scene σ} {stock : List Candidate} (hinside : I s'.site)
    (hsearched : Searched s.evictor s'.evictor) (hleft : s'.evictor.pool.Shows [])
    (hall : ∀ c ∈ stock, isGhost d s c = true)
    (hcount : s'.evictor.stats.ghosts = s.evictor.stats.ghosts + stock.length) :
    Taken d I s stock s' := by
  have hgone : stock.countP (isGhost d s) = stock.length := List.countP_eq_length.mpr hall
  exact ⟨hinside, hsearched, [], stock, rfl, hleft, by rw [hcount, hgone]⟩

/-- Without a key in any shard no candidate is there. -/
theorem isGhost_of_exhausted (hd : d.Candid I) {s : Scene σ} (hs : I s.site)
    (h : Exhausted d s) (c : Candidate) : isGhost d s c = true := by
  have hgone : d.contains s.site c.shard s.evictor.settings.policy.scope c.key = false := by
    by_cases hshard : c.shard < d.shards s.site
    · exact hd.vacant hs (h c.shard hshard) c.key
    · exact hd.outside hs (Nat.not_lt.mp hshard) _ c.key
  unfold isGhost
  rw [hgone]
  rfl

/-- A round that starts with an empty pool finds a victim, if it is offered one. -/
theorem select_of_offers (clock : Clock σ) (hd : d.Candid I) {s : Scene σ} (hs : I s.site)
    (hempty : s.evictor.pool.size = 0) (hoffers : offers d clock s ≠ []) (buffer : Bytes) :
    ((s.evictor.harvest d (clock.now s.site) s.site).pool.select
      (fun shard key => d.contains s.site shard s.evictor.settings.policy.scope key)
      buffer).victim ≠ none := by
  have hh := gleaned clock hd hs
  have hoffered := Pool.offered_offerAll s.evictor.pool (offers d clock s)
  have hroom : s.evictor.pool.size < Pool.capacity := by
    rw [hempty]
    decide
  have hsize : (s.evictor.harvest d (clock.now s.site) s.site).pool.size ≠ 0 := by
    rw [hh.pool]
    exact hoffered.size_ne fun hnone => hoffers (hoffered.nothing hroom hnone).1
  have hholds : (s.evictor.harvest d (clock.now s.site) s.site).pool.Holds
      (Live d s.site s.evictor.settings.policy.scope) := by
    rw [hh.pool]
    exact hoffered.holds (Pool.holds_of_size_eq_zero hempty) hh.live
  have hfound := Pool.Holds.select_isSome
    (fun shard key => d.contains s.site shard s.evictor.settings.policy.scope key) buffer hholds
    hsize
  intro hnone
  rw [hnone] at hfound
  cases hfound

/-- What one round comes to, said of the list of the pool. -/
theorem round_of_shows (clock : Clock σ) (hd : d.Candid I) {s : Scene σ} (hs : I s.site)
    {l : List Candidate} (hl : s.evictor.pool.Shows l) :
    Turn d clock s l (searchRound d clock s) ∧
      Taken d I s (stock d clock s) (afterRound d clock s) := by
  have hh := gleaned clock hd hs
  have hcontains := (hd.agree hs hh.inside).contains
  have hkeys := hh.keys_eq_zero_iff
  have hshows : (s.evictor.harvest d (clock.now s.site) s.site).pool.Shows
      ((offers d clock s).foldl Pool.offer l) := by
    rw [hh.pool]
    exact hl.offerAll _
  have hselected := hshows.select
    (fun shard key => d.contains s.site shard s.evictor.settings.policy.scope key) .empty
  have hstock : stock d clock s = (offers d clock s).foldl Pool.offer l := hshows.toList
  have hfresh : l = [] → offers d clock s ≠ [] → _ := fun hempty hoffers =>
    select_of_offers clock hd hs (hl.size.trans (by rw [hempty]; rfl)) hoffers .empty
  unfold afterRound searchRound
  rw [hstock]
  dsimp only
  rw [hcontains]
  generalize hfold : (offers d clock s).foldl Pool.offer l = stock at hshows hselected ⊢
  by_cases hnone : (s.evictor.harvest d (clock.now s.site) s.site).keys = 0
  · have hexhausted := hkeys.mp hnone
    rw [if_pos hnone]
    refine ⟨.gaveUp (Or.inl hexhausted) rfl, ?_⟩
    exact taken_of_all hh.inside ⟨_, _, _, rfl⟩ (Pool.shows_of_size_eq_zero rfl)
      (fun c _ => isGhost_of_exhausted hd hs hexhausted c) (by rw [← hshows.size]; rfl)
  · have hsome : ¬ Exhausted d s := fun hexhausted => hnone (hkeys.mpr hexhausted)
    rw [if_neg hnone]
    cases hselected with
    | found below above c hsplit hvictim hc habove hleft hghosts =>
      simp only [hvictim]
      have hlive : isGhost d s c = false := by simpa [isGhost] using hc
      have hgone : (c :: above).countP (isGhost d s) = above.length := by
        rw [List.countP_cons_of_neg (by simp [hlive])]
        exact List.countP_eq_length.mpr fun x hx => by simp [isGhost, habove x hx]
      refine ⟨.found hsome ?_ hlive, hh.inside, ⟨_, _, _, rfl⟩, below, c :: above, hsplit, hleft,
        by rw [hgone, ← hghosts]; rfl⟩
      -- the victim was in stock, so something was
      rintro ⟨rfl, hoffers⟩
      rw [hoffers, List.foldl_nil, hsplit] at hfold
      simp at hfold
    | nothing hvictim hall hleft hghosts =>
      have hghost : ∀ x ∈ stock, isGhost d s x = true := by
        intro x hx
        unfold isGhost
        rw [hall x hx]
        rfl
      have hoffers : l = [] → offers d clock s = [] := by
        intro hempty
        by_contra hoffers
        exact hfresh hempty hoffers hvictim
      simp only [hvictim]
      split
      · rename_i hempty
        rw [Bool.and_eq_true] at hempty
        have hl : l = [] := List.length_eq_zero_iff.mp (hl.size ▸ beq_iff_eq.mp hempty.1)
        refine ⟨.gaveUp (Or.inr ⟨hl, hoffers hl⟩) hleft.size, ?_⟩
        exact taken_of_all hh.inside ⟨_, _, _, rfl⟩ hleft hghost (by rw [← hghosts]; rfl)
      · rename_i hmore
        refine ⟨.again hsome ?_ hleft.size, ?_⟩
        · intro hempty
          refine hmore ?_
          rw [Bool.and_eq_true, beq_iff_eq, hh.taken, hoffers hempty]
          exact ⟨beq_iff_eq.mpr (hl.size.trans (by rw [hempty]; rfl)), rfl⟩
        · exact taken_of_all hh.inside ⟨_, _, _, rfl⟩ hleft hghost (by rw [← hghosts]; rfl)

/-! ## All rounds -/

theorem rounds_of_inl {s s' : Scene σ} (h : searchRound d clock s = .inl s') (fuel : Nat) :
    rounds d clock (fuel + 1) s = s :: rounds d clock fuel s' := by
  rw [rounds, h]

theorem rounds_of_inr {s : Scene σ} {r : Option Victim × Scene σ}
    (h : searchRound d clock s = .inr r) (fuel : Nat) : rounds d clock (fuel + 1) s = [s] := by
  rw [rounds, h]

theorem length_rounds_one (s : Scene σ) : (rounds d clock 1 s).length = 1 := by
  cases h : searchRound d clock s with
  | inl s' =>
    rw [rounds_of_inl h]
    rfl
  | inr r =>
    rw [rounds_of_inr h]
    rfl

theorem afterRound_of_inl {s s' : Scene σ} (h : searchRound d clock s = .inl s') :
    afterRound d clock s = s' := by
  unfold afterRound
  rw [h]
  rfl

theorem afterRound_of_inr {s s' : Scene σ} {v : Option Victim}
    (h : searchRound d clock s = .inr (v, s')) : afterRound d clock s = s' := by
  unfold afterRound
  rw [h]
  rfl

theorem diff_append_left (left gone : List Candidate) : (left ++ gone).diff left = gone := by
  induction left with
  | nil => exact List.diff_nil _
  | cons c left ih => rw [List.cons_append, List.diff_cons, List.erase_cons_head, ih]

/-- The ghosts that a round counts are those that it removes. -/
theorem Taken.ghosts_eq {s : Scene σ}
    (h : Taken d I s (stock d clock s) (afterRound d clock s)) :
    (afterRound d clock s).evictor.stats.ghosts
      = s.evictor.stats.ghosts + (removed d clock s).countP (isGhost d s) := by
  obtain ⟨left, gone, hsplit, hleft, hcount⟩ := h.split
  unfold removed
  rw [hcount, hsplit, hleft.toList, diff_append_left]

/-- Two scenes show the same keys to a search. -/
structure Alike (d : Dataset σ) (s t : Scene σ) : Prop where
  agree : d.Agree s.site t.site
  settings : t.evictor.settings = s.evictor.settings

theorem Taken.alike (hd : d.Candid I) {s s' : Scene σ} (hs : I s.site) {stock : List Candidate}
    (h : Taken d I s stock s') : Alike d s s' :=
  ⟨hd.agree hs h.inside, h.searched.settings⟩

theorem Alike.isGhost_eq {s t : Scene σ} (h : Alike d s t) : isGhost d t = isGhost d s := by
  funext c
  unfold isGhost
  rw [h.agree.contains, h.settings]

theorem Alike.exhausted_iff {s t : Scene σ} (h : Alike d s t) : Exhausted d t ↔ Exhausted d s := by
  unfold Exhausted
  rw [h.agree.shards, h.agree.count, h.settings]

/-- A round that answers is the only one. -/
theorem conclusive_of_inr (hd : d.Candid I) {s s' : Scene σ} (hs : I s.site)
    {l : List Candidate} (hl : s.evictor.pool.Shows l) {v : Option Victim}
    (h : searchRound d clock s = .inr (v, s')) : Conclusive d clock s v s' := by
  obtain ⟨hturn, htaken⟩ := round_of_shows clock hd hs hl
  have hghosts := htaken.ghosts_eq
  have halike := htaken.alike hd hs
  rw [afterRound_of_inr h] at hghosts halike
  have hcount : s'.evictor.stats.ghosts = s.evictor.stats.ghosts
      + tally (fun t => (removed d clock t).countP (isGhost d s)) (rounds d clock 2 s) := by
    rw [rounds_of_inr h, tally_cons, tally_nil, Nat.add_zero]
    exact hghosts
  have hle : ∀ fuel, (rounds d clock fuel s).length ≤ 2 := by
    intro fuel
    cases fuel with
    | zero => exact Nat.zero_le _
    | succ fuel =>
      rw [rounds_of_inr h]
      exact Nat.le_succ 1
  have hmem : (∃ t ∈ rounds d clock 2 s, t.evictor.pool.isEmpty = true ∧ offers d clock t = []) ↔
      l = [] ∧ offers d clock s = [] := by
    rw [rounds_of_inr h, ← hl.isEmpty_iff]
    simp
  rw [h] at hturn
  cases hturn with
  | gaveUp why hleft =>
    exact
      { rounds_le := hle
        none_iff := by
          rw [hmem]
          exact iff_of_true rfl why
        emptied := fun _ => beq_iff_eq.mpr hleft
        live := nofun
        ghosts := hcount }
  | found hsome hoffered hlive =>
    exact
      { rounds_le := hle
        none_iff := by
          rw [hmem]
          exact iff_of_false nofun (not_or.mpr ⟨hsome, hoffered⟩)
        emptied := nofun
        live := by
          rintro w ⟨⟩
          rw [halike.agree.contains]
          simpa [isGhost] using hlive
        ghosts := hcount }

/-- A round that goes on is followed by one that starts with an empty pool, and that one answers. -/
theorem Conclusive.cons (hd : d.Candid I) {s t s' : Scene σ} (hs : I s.site)
    {l : List Candidate} (hl : s.evictor.pool.Shows l) (h : searchRound d clock s = .inl t)
    {v : Option Victim} (hsecond : searchRound d clock t = .inr (v, s'))
    (hrest : Conclusive d clock t v s') : Conclusive d clock s v s' := by
  obtain ⟨hturn, htaken⟩ := round_of_shows clock hd hs hl
  have hghosts := htaken.ghosts_eq
  have halike := htaken.alike hd hs
  rw [afterRound_of_inl h] at hghosts halike
  have htrail : rounds d clock 2 s = [s, t] := by
    rw [rounds_of_inl h, rounds_of_inr hsecond]
  have hstart : ¬ s.evictor.pool.isEmpty = true := by
    rw [hl.isEmpty_iff]
    rw [h] at hturn
    cases hturn with
    | again hsome hne hleft => exact hne
  exact
    { rounds_le := by
        intro fuel
        cases fuel with
        | zero => exact Nat.zero_le _
        | succ fuel =>
          cases fuel with
          | zero =>
            rw [rounds_of_inl h]
            exact Nat.le_succ 1
          | succ fuel =>
            rw [rounds_of_inl h, rounds_of_inr hsecond]
            exact Nat.le_refl _
      none_iff := by
        rw [hrest.none_iff, halike.exhausted_iff, rounds_of_inr hsecond, htrail]
        simp [hstart]
      emptied := hrest.emptied
      live := by
        intro w hw
        rw [← halike.settings]
        exact hrest.live w hw
      ghosts := by
        rw [hrest.ghosts, hghosts, htrail, rounds_of_inr hsecond, halike.isGhost_eq, Nat.add_assoc]
        rfl }

/-- A search of the pool ends, and its answer is conclusive. -/
theorem conclusive_searchPool (clock : Clock σ) (hd : d.Candid I) {s : Scene σ} (hs : I s.site)
    {l : List Candidate} (hl : s.evictor.pool.Shows l) :
    ∃ v s', (∀ more, searchPool (2 + more) d clock s = some (v, s')) ∧
      Conclusive d clock s v s' := by
  obtain ⟨hturn, htaken⟩ := round_of_shows clock hd hs hl
  cases hfirst : searchRound d clock s with
  | inr r =>
    have hrun : searchPool 2 d clock s = some (r.1, r.2) := by
      simp only [searchPool, Loop.run, hfirst]
    exact ⟨r.1, r.2, Loop.run_add hrun, conclusive_of_inr hd hs hl hfirst⟩
  | inl t =>
    rw [afterRound_of_inl hfirst] at htaken
    have hempty : t.evictor.pool.Shows [] := by
      rw [hfirst] at hturn
      cases hturn with
      | again hsome hne hleft => exact Pool.shows_of_size_eq_zero hleft
    have hnext := (round_of_shows clock hd htaken.inside hempty).1
    cases hsecond : searchRound d clock t with
    | inl t' =>
      rw [hsecond] at hnext
      cases hnext with
      | again hsome hne hleft => exact absurd rfl hne
    | inr r =>
      have hrest := conclusive_of_inr hd htaken.inside hempty hsecond
      have hrun : searchPool 2 d clock s = some (r.1, r.2) := by
        simp only [searchPool, Loop.run, hfirst, hsecond]
      exact ⟨r.1, r.2, Loop.run_add hrun, Conclusive.cons hd hs hl hfirst hsecond hrest⟩

end Evictor

/-! ## A haunted pool -/

namespace Rack

/-- What is asked of a rack is answered by its entries. -/
theorem candid {rack : Rack} (h : rack.Sound) : dataset.Candid (· = rack) where
  agree := by
    rintro site site' rfl rfl
    exact ⟨rfl, rfl, rfl⟩
  sample := by
    rintro site rfl shard scope n
    refine ⟨rfl, ?_⟩
    intro visit hvisit
    obtain ⟨e, he, hshown⟩ := List.mem_filterMap.mp hvisit
    obtain ⟨sampled, -, rfl⟩ := Option.map_eq_some_iff.mp hshown
    exact h.mem_row_keys.mp (List.mem_map.mpr ⟨e, List.mem_of_mem_take he, rfl⟩)
  outside := by
    rintro site rfl shard hshard scope key
    refine Bool.eq_false_iff.mpr ?_
    intro hthere
    obtain ⟨r, hr, -⟩ := h.contains_iff.mp hthere
    exact absurd (h.bounded _ hr) (Nat.not_lt.mpr hshard)
  vacant := by
    rintro site rfl shard scope hcount key
    refine Bool.eq_false_iff.mpr ?_
    intro hthere
    have hrow := h.mem_row_keys.mpr hthere
    rw [List.length_eq_zero_iff.mp hcount] at hrow
    cases hrow

/-- A candidate that is gone, and a better victim than any key there is. -/
def ghost : Candidate := ⟨0x100_0000_0000, 0, ⟨#[9]⟩⟩

/-- A scene in which an earlier cycle has left a pool that is full of ghosts. -/
def haunted : Scene Rack :=
  { uneven with
    evictor := { uneven.evictor with pool := ⟨.replicate 16 (Slot.unused.fill ghost), 16⟩ } }

theorem shows_haunted : haunted.evictor.pool.Shows (List.replicate 16 ghost) where
  size := rfl
  fits := Nat.le_refl _
  slots i h hi := by
    rw [List.getElem_replicate]
    show (Vector.replicate 16 (Slot.unused.fill ghost))[i].candidate? = some ghost
    rw [Vector.getElem_replicate, Slot.candidate?_fill]

end Rack

namespace Evictor

/-- The pool of ghosts refuses all keys in the first round. The second one finds the key that is
idle for the longest time. -/
theorem conclusive_searchPool_haunted :
    (Rack.haunted.site.Sound ∧
      Rack.haunted.evictor.pool.Shows (List.replicate 16 Rack.ghost)) ∧
    (rounds Rack.dataset Rack.clock 2 Rack.haunted).length = 2 ∧
    ∃ v s', (∀ more, searchPool (2 + more) Rack.dataset Rack.clock Rack.haunted = some (v, s')) ∧
      Conclusive Rack.dataset Rack.clock Rack.haunted v s' := by
  have hsound : Rack.haunted.site.Sound := ⟨by decide, by decide⟩
  have hmore : (searchRound Rack.dataset Rack.clock Rack.haunted).isLeft = true := by
    decide +kernel
  obtain ⟨t, hfirst⟩ := Sum.isLeft_iff.mp hmore
  have htwo : (rounds Rack.dataset Rack.clock 2 Rack.haunted).length = 2 := by
    rw [rounds_of_inl hfirst, List.length_cons, length_rounds_one]
  have hhere : (· = Rack.haunted.site) Rack.haunted.site := rfl
  exact ⟨⟨hsound, Rack.shows_haunted⟩, htwo,
    conclusive_searchPool Rack.clock (Rack.candid hsound) hhere Rack.shows_haunted⟩

end Evictor

end SampledEviction
