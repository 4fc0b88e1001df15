import Mathlib.Data.List.Perm.Subperm
import SampledEviction.Proofs.Coherence
import SampledEviction.Proofs.Rack
import SampledEviction.Proofs.Search

/-!
# Rotation among shards

A random policy goes round the shards: every pick takes a key of the next shard that has any. The
cursor is kept between the picks of a cycle, between cycles, and when settings change, so all picks
of an evictor together make one walk round the shards, whatever becomes of the keys in between.

* `inTurn_of_ready` — one pick
* `relayed_pickings`, `Life.relayed` — each pick of an evictor goes on where the last one ended
* `Relayed.lt_of_not_picked` — a walk does not pass a shard with keys without a pick there
* `pickRandom_fair` — every shard has its turn
-/

namespace SampledEviction

/-- A counter that shows no less than before has not wrapped, if it has not gone all the way. -/
theorem Word.add_lt_of_le_wrap {a b : Nat} (hb : b < modulus) (h : a ≤ wrap (a + b)) :
    a + b < modulus := by
  unfold wrap modulus at *
  omega

namespace Evictor

variable {σ : Type} {d : Dataset σ} {s : Scene σ} {n : Nat}

/-! ## One pick -/

/-- A shard has keys within the scope in force. -/
def Stocked (d : Dataset σ) (s : Scene σ) (shard : Nat) : Prop :=
  d.count s.site shard s.evictor.settings.policy.scope ≠ 0

/-- A pick among `n` shards can be made: a shard that has keys yields one, and the cursor does not
wrap in its course. -/
structure Ready (d : Dataset σ) (n : Nat) (s : Scene σ) : Prop where
  shards : d.shards s.site = n
  yields : ∀ shard < n, Stocked d s shard →
    (d.randomKey shard s.evictor.settings.policy.scope s.site).1 ≠ none
  cursor : s.evictor.cursor ≤ (pickRandom d s).2.evictor.cursor

/-- A pick finds nothing only if there is nothing. Otherwise it takes a key of the first shard
behind the cursor that has any, and leaves the cursor there. -/
structure InTurn (d : Dataset σ) (s : Scene σ) : Prop where
  none_iff : (pickRandom d s).1 = none ↔ Exhausted d s
  first : ∀ v, (pickRandom d s).1 = some v → ∃ i < d.shards s.site,
    (pickRandom d s).2.evictor.cursor = s.evictor.cursor + 1 + i ∧
    v.shard = (s.evictor.cursor + 1 + i) % d.shards s.site ∧
    Stocked d s v.shard ∧
    (∀ j < i, ¬ Stocked d s ((s.evictor.cursor + 1 + j) % d.shards s.site)) ∧
    (d.randomKey v.shard s.evictor.settings.policy.scope s.site).1 = some v.key

/-- The cursor after `i` shards were passed over. -/
def turn (s : Scene σ) (i : Nat) : Nat := Word.wrap (s.evictor.cursor + 1 + i)

theorem turn_zero (s : Scene σ) : turn s 0 = s.evictor.turned.cursor := rfl

theorem turn_turned (s : Scene σ) (i : Nat) :
    turn ⟨s.evictor.turned, s.site⟩ i = turn s (i + 1) := by
  unfold turn turned
  simp only [Word.add, Word.wrap, Word.modulus]
  omega

/-- What a number of tries come to. -/
inductive Sweep (d : Dataset σ) (n : Nat) (s : Scene σ) (tries : Nat) :
    Option Victim × Scene σ → Prop where
  | nothing {s' : Scene σ} (hskipped : ∀ i < tries, ¬ Stocked d s (turn s i % n)) :
    Sweep d n s tries (none, s')
  | found {key : Bytes} {s' : Scene σ} (i : Nat) (hi : i < tries)
    (hcursor : s'.evictor.cursor = turn s i) (hstocked : Stocked d s (turn s i % n))
    (hskipped : ∀ j < i, ¬ Stocked d s (turn s j % n))
    (hkey : (d.randomKey (turn s i % n) s.evictor.settings.policy.scope s.site).1 = some key) :
    Sweep d n s tries (some ⟨turn s i % n, key⟩, s')

/-- A shard that was passed over comes before those of the tries that are left. -/
theorem Sweep.cons {tries : Nat} {x : Option Victim × Scene σ}
    (hzero : ¬ Stocked d s (turn s 0 % n))
    (h : Sweep d n ⟨s.evictor.turned, s.site⟩ tries x) : Sweep d n s (tries + 1) x := by
  have hearlier {k : Nat} (hk : ∀ j < k,
        ¬ Stocked d ⟨s.evictor.turned, s.site⟩ (turn ⟨s.evictor.turned, s.site⟩ j % n)) :
      ∀ j < k + 1, ¬ Stocked d s (turn s j % n) := by
    intro j hj
    cases j with
    | zero => exact hzero
    | succ j =>
      have hskipped := hk j (Nat.lt_of_succ_lt_succ hj)
      rwa [turn_turned] at hskipped
  cases h with
  | nothing hskipped => exact .nothing (hearlier hskipped)
  | found i hi hcursor hstocked hskipped hkey =>
    rw [turn_turned] at hcursor hstocked hkey ⊢
    exact .found (i + 1) (Nat.succ_lt_succ hi) hcursor hstocked (hearlier hskipped) hkey

theorem sweep_pickFrom (hn : 0 < n) (hyields : ∀ shard < n, Stocked d s shard →
    (d.randomKey shard s.evictor.settings.policy.scope s.site).1 ≠ none) (tries : Nat) :
    Sweep d n s tries (pickFrom d n tries s) := by
  induction tries generalizing s with
  | zero => exact .nothing fun i hi => absurd hi (Nat.not_lt_zero i)
  | succ tries ih =>
    rw [pickFrom_succ]
    split
    · rename_i hzero
      refine Sweep.cons ?_ (ih (s := ⟨s.evictor.turned, s.site⟩) hyields)
      rw [turn_zero]
      exact not_not.mpr hzero
    · rename_i hstocked
      have hkey := hyields _ (Nat.mod_lt _ hn) hstocked
      split
      · rename_i key site hpick
        exact .found 0 (Nat.succ_pos tries) rfl hstocked
          (fun j hj => absurd hj (Nat.not_lt_zero j)) (congrArg Prod.fst hpick)
      · rename_i site hpick
        exact absurd (congrArg Prod.fst hpick) hkey

theorem pickRandom_eq (h : Ready d n s) : pickRandom d s = pickFrom d n n s := by
  unfold pickRandom
  rw [h.shards]

/-- A cursor that does not wrap shows how many shards were passed over. -/
theorem turn_eq (hn : n < Word.modulus) {i : Nat} (hi : i < n)
    (h : s.evictor.cursor ≤ turn s i) {j : Nat} (hj : j ≤ i) :
    turn s j = s.evictor.cursor + 1 + j := by
  have hlt : s.evictor.cursor + (1 + i) < Word.modulus :=
    Word.add_lt_of_le_wrap (by omega) (by rwa [← Nat.add_assoc])
  exact Word.wrap_of_lt (by omega)

/-- A pick that can be made is made in turn. -/
theorem inTurn_of_ready (hn : n < Word.modulus) (h : Ready d n s) : InTurn d s := by
  have hcursor := h.cursor
  rcases Nat.eq_zero_or_pos n with rfl | hpos
  · have hnone : ∀ shard < d.shards s.site, d.count s.site shard s.evictor.settings.policy.scope
        = 0 := by
      rw [h.shards]
      exact fun shard hshard => absurd hshard (Nat.not_lt_zero shard)
    constructor
    · rw [pickRandom_eq h]
      exact iff_of_true rfl hnone
    · intro v hv
      rw [pickRandom_eq h] at hv
      cases hv
  have hwrapped := cursor_pickFrom_of_none (d := d) n n (s := s)
  have hsweep := sweep_pickFrom hpos h.yields n
  rw [pickRandom_eq h] at hcursor
  constructor
  · rw [pickRandom_eq h]
    generalize pickFrom d n n s = x at hcursor hwrapped hsweep ⊢
    cases hsweep with
    | nothing hskipped =>
      refine iff_of_true rfl ?_
      intro shard hshard
      rw [h.shards] at hshard
      obtain ⟨i, hi, hturn⟩ := exists_turn s.evictor.cursor hshard
      -- the cursor has gone all the way round, and so has come to this shard
      rw [hwrapped rfl (Nat.ne_of_gt hpos)] at hcursor
      have hlt := Word.add_lt_of_le_wrap hn hcursor
      have hempty := hskipped i hi
      rw [turn, Word.wrap_of_lt (by omega), hturn] at hempty
      exact not_not.mp hempty
    | found i hi hmoved hstocked =>
      refine iff_of_false nofun ?_
      intro hexhausted
      refine hstocked (hexhausted _ ?_)
      rw [h.shards]
      exact Nat.mod_lt _ hpos
  · intro v hv
    rw [pickRandom_eq h] at hv ⊢
    rw [h.shards]
    generalize pickFrom d n n s = x at hcursor hsweep hv ⊢
    cases hsweep with
    | nothing _ => cases hv
    | found i hi hmoved hstocked hskipped hkey =>
      cases hv
      rw [hmoved] at hcursor
      have hturn {j : Nat} (hj : j ≤ i) := turn_eq hn hi hcursor hj
      rw [hturn (Nat.le_refl i)] at hmoved hstocked hkey ⊢
      refine ⟨i, hi, hmoved, rfl, hstocked, ?_, hkey⟩
      intro j hj
      rw [← hturn (Nat.le_of_lt hj)]
      exact hskipped j hj

/-! ## Picks one after another -/

/-- The victims of some picks. -/
def picked (d : Dataset σ) (scenes : List (Scene σ)) : List Victim :=
  scenes.filterMap fun s => (pickRandom d s).1

theorem picked_cons_of_none {scenes : List (Scene σ)} (h : (pickRandom d s).1 = none) :
    picked d (s :: scenes) = picked d scenes := by
  simp [picked, h]

theorem picked_cons_of_some {scenes : List (Scene σ)} {v : Victim}
    (h : (pickRandom d s).1 = some v) : picked d (s :: scenes) = v :: picked d scenes := by
  simp [picked, h]

/-- Picks in these scenes lead the cursor from one place to another: each goes on where the one
before it ended. -/
inductive Relayed (d : Dataset σ) : Nat → List (Scene σ) → Nat → Prop where
  | rest (k : Nat) : Relayed d k [] k
  | pick {s : Scene σ} {scenes : List (Scene σ)} {k : Nat}
    (h : Relayed d (pickRandom d s).2.evictor.cursor scenes k) :
    Relayed d s.evictor.cursor (s :: scenes) k

variable {scenes scenes' : List (Scene σ)} {k k' : Nat}

theorem Relayed.append {m : Nat} (h : Relayed d k scenes m) (h' : Relayed d m scenes' k') :
    Relayed d k (scenes ++ scenes') k' := by
  induction h with
  | rest k => exact h'
  | pick _ ih => exact .pick (ih h')

theorem Relayed.exists_of_append (h : Relayed d k (scenes ++ scenes') k') :
    ∃ m, Relayed d k scenes m ∧ Relayed d m scenes' k' := by
  induction scenes generalizing k with
  | nil => exact ⟨k, .rest k, h⟩
  | cons s scenes ih =>
    cases h with
    | pick hrest =>
      obtain ⟨m, hfirst, hlast⟩ := ih hrest
      exact ⟨m, .pick hfirst, hlast⟩

/-- Some of these picks in a row lead the cursor on in the same way. -/
theorem Relayed.exists_of_window {window : List (Scene σ)} (h : Relayed d k scenes k')
    (hwindow : window <:+: scenes) : ∃ m m', Relayed d m window m' := by
  obtain ⟨before, after, rfl⟩ := hwindow
  obtain ⟨m', hfirst, -⟩ := h.exists_of_append
  obtain ⟨m, -, hmiddle⟩ := hfirst.exists_of_append
  exact ⟨m, m', hmiddle⟩

/-- Every pick that finds a key moves the cursor on. -/
theorem Relayed.add_length_le (h : Relayed d k scenes k') (hready : ∀ s ∈ scenes, Ready d n s)
    (hturns : ∀ s ∈ scenes, InTurn d s) : k + (picked d scenes).length ≤ k' := by
  induction h with
  | rest k => exact Nat.le_refl k
  | @pick s scenes k _ ih =>
    obtain ⟨hfirst, hready⟩ := List.forall_mem_cons.mp hready
    obtain ⟨hturn, hturns⟩ := List.forall_mem_cons.mp hturns
    have hrest := ih hready hturns
    have hcursor := hfirst.cursor
    cases hpick : (pickRandom d s).1 with
    | none =>
      rw [picked_cons_of_none hpick]
      omega
    | some v =>
      obtain ⟨i, -, hmoved, -⟩ := hturn.first v hpick
      rw [picked_cons_of_some hpick, List.length_cons]
      omega

/-- Picks do not pass a shard that has keys all along: if none of them takes a key there, they do
not come to it. -/
theorem Relayed.lt_of_not_picked (h : Relayed d k scenes k') (hready : ∀ s ∈ scenes, Ready d n s)
    (hturns : ∀ s ∈ scenes, InTurn d s) {shard : Nat} (hshard : shard < n)
    (hstocked : ∀ s ∈ scenes, Stocked d s shard) (hnot : ∀ v ∈ picked d scenes, v.shard ≠ shard)
    {q : Nat} (hq : k < q) (hplace : q % n = shard) : k' < q := by
  induction h with
  | rest k => exact hq
  | @pick s scenes k _ ih =>
    obtain ⟨hfirst, hready⟩ := List.forall_mem_cons.mp hready
    obtain ⟨hturn, hturns⟩ := List.forall_mem_cons.mp hturns
    obtain ⟨hkeys, hstocked⟩ := List.forall_mem_cons.mp hstocked
    have hshards := hfirst.shards
    cases hpick : (pickRandom d s).1 with
    | none => exact absurd (hturn.none_iff.mp hpick shard (hshards ▸ hshard)) hkeys
    | some v =>
      rw [picked_cons_of_some hpick] at hnot
      obtain ⟨hother, hrest⟩ := List.forall_mem_cons.mp hnot
      obtain ⟨i, -, hmoved, hv, -, hskipped, -⟩ := hturn.first v hpick
      refine ih hready hturns hstocked hrest ?_
      rw [hshards] at hv hskipped
      rw [hmoved]
      by_contra hle
      -- the place is passed over or taken, and the shard there has keys
      obtain ⟨j, rfl⟩ := Nat.exists_eq_add_of_lt hq
      rw [Nat.add_right_comm] at hplace hle
      rcases Nat.lt_or_eq_of_le (show j ≤ i by omega) with hj | rfl
      · exact hskipped j hj (hplace ▸ hkeys)
      · exact hother (hv.trans hplace)

/-- Among as many picks as there are shards, every shard that has keys all along has its turn; if
all of them have, each has one turn. -/
structure Fair (d : Dataset σ) (n : Nat) (window : List (Scene σ)) : Prop where
  turn : ∀ shard < n, (∀ s ∈ window, Stocked d s shard) → ∃ v ∈ picked d window, v.shard = shard
  once : (∀ s ∈ window, ∀ shard < n, Stocked d s shard) →
    ∀ shard < n, ((picked d window).map (·.shard)).count shard = 1

theorem Relayed.fair (hn : n < Word.modulus) (h : Relayed d k scenes k')
    (hready : ∀ s ∈ scenes, Ready d n s) (hlength : (picked d scenes).length = n) :
    Fair d n scenes := by
  have hturns : ∀ s ∈ scenes, InTurn d s := fun s hs => inTurn_of_ready hn (hready s hs)
  have hturn : ∀ shard < n, (∀ s ∈ scenes, Stocked d s shard) →
      ∃ v ∈ picked d scenes, v.shard = shard := by
    intro shard hshard hstocked
    by_contra hnone
    push Not at hnone
    obtain ⟨i, hi, hplace⟩ := exists_turn k hshard
    have hpassed := h.add_length_le hready hturns
    have hshort := h.lt_of_not_picked hready hturns hshard hstocked hnone (by omega) hplace
    omega
  refine ⟨hturn, ?_⟩
  intro hall shard hshard
  -- the shards are as many as the picks, and each is among them
  have hsubset : List.range n ⊆ (picked d scenes).map (·.shard) := by
    intro shard hshard
    obtain ⟨v, hv, rfl⟩ := hturn shard (List.mem_range.mp hshard)
      (fun s hs => hall s hs shard (List.mem_range.mp hshard))
    exact List.mem_map_of_mem hv
  have hperm : (List.range n).Perm ((picked d scenes).map (·.shard)) :=
    (List.subperm_of_subset List.nodup_range hsubset).perm_of_length_le (by simp [hlength])
  rw [← hperm.count_eq]
  exact List.count_eq_one_of_mem List.nodup_range (List.mem_range.mpr hshard)

/-! ## The picks of a check -/

instance (server : Server σ) (o : Overage) (c : Cycle σ) : Decidable (c.GoesOn server o) :=
  inferInstanceAs (Decidable (_ ∧ _))

/-- The scenes in which the steps of a cycle search for victims. -/
def searches (rounds : Nat) (d : Dataset σ) (server : Server σ) (clock : Clock σ) (o : Overage) :
    Nat → Cycle σ → List (Scene σ)
  | 0, _ => []
  | fuel + 1, c =>
    if c.GoesOn server o then
      c.scene :: match cycleStep rounds d server clock o c with
        | some (.inl c') => searches rounds d server clock o fuel c'
        | _ => []
    else []

/-- The scenes in which a check picks keys at random. -/
def pickings (fuel rounds : Nat) (d : Dataset σ) (server : Server σ) (clock : Clock σ)
    (s : Scene σ) : List (Scene σ) :=
  if s.evictor.settings.policy.isRandom && s.evictor.mayEvict server s.site then
    match s.evictor.budget.overage? server s.site with
    | (.ok (some o), site) => searches rounds d server clock o fuel ⟨opened s site, 0, 0, []⟩
    | _ => []
  else []

variable {rounds fuel : Nat} {server : Server σ} {clock : Clock σ} {o : Overage} {c : Cycle σ}

theorem usesPool_of_isRandom {p : Policy} (h : p.isRandom = true) : p.usesPool = false := by
  cases p <;> simp_all [Policy.isRandom, Policy.usesPool, Policy.isLru, Policy.isLfu, Policy.isTtl]

theorem isRandom_of_evicts {p : Policy} (hevicts : p.evicts = true) (hpool : p.usesPool = false) :
    p.isRandom = true := by
  cases p <;> simp_all [Policy.isRandom, Policy.evicts, Policy.usesPool, Policy.isLru,
    Policy.isLfu, Policy.isTtl]

theorem cycleStep_of_not_goesOn (h : ¬ c.GoesOn server o) :
    cycleStep rounds d server clock o c = some (.inr (.ok .ok, c)) := by
  unfold cycleStep
  by_cases henough : o.excess ≤ c.freed
  · rw [if_pos henough]
  · have hpaused : (0 < c.keys && server.clientsPaused c.scene.site) = true := by
      by_contra hrunning
      refine h ⟨Nat.lt_of_not_le henough, ?_⟩
      intro hkeys
      simpa [hkeys] using hrunning
    rw [if_neg henough, if_pos hpaused]

/-- A step of a cycle leaves the cursor where its pick does. -/
theorem cursor_cycleStep (hgo : c.GoesOn server o)
    (hpolicy : c.scene.evictor.settings.policy.usesPool = false) {x : StepResult σ}
    (hstep : cycleStep rounds d server clock o c = some x) :
    x.cycle.scene.evictor.cursor = (pickRandom d c.scene).2.evictor.cursor := by
  have hfind : findVictim rounds d clock c.scene = some (pickRandom d c.scene) :=
    if_neg (by simp [hpolicy])
  have hrunning : ¬ (0 < c.keys && server.clientsPaused c.scene.site) = true := by
    simpa using hgo.2
  unfold cycleStep at hstep
  rw [if_neg (Nat.not_le_of_lt hgo.1), if_neg hrunning, hfind] at hstep
  generalize pickRandom d c.scene = found at hstep ⊢
  obtain ⟨_ | v, scene⟩ := found
  · cases hstep
    rfl
  · dsimp only at hstep
    repeat' split at hstep
    all_goals
      cases hstep
      rfl

/-- The picks of a cycle go on from the cursor that it starts with, and leave the one that it ends
with. -/
theorem relayed_searches (fuel rounds : Nat) (d : Dataset σ) (server : Server σ) (clock : Clock σ)
    (o : Overage) {c : Cycle σ} (hpolicy : c.scene.evictor.settings.policy.usesPool = false) :
    ∃ k, Relayed d c.scene.evictor.cursor (searches rounds d server clock o fuel c) k ∧
      ∀ x, Loop.run (cycleStep rounds d server clock o) fuel c = some x →
        x.2.scene.evictor.cursor = k := by
  induction fuel generalizing c with
  | zero =>
    refine ⟨_, .rest _, ?_⟩
    intro x hx
    cases hx
  | succ fuel ih =>
    rw [searches, Loop.run]
    by_cases hgo : c.GoesOn server o
    · rw [if_pos hgo]
      cases hstep : cycleStep rounds d server clock o c with
      | none =>
        refine ⟨_, .pick (.rest _), ?_⟩
        intro x hx
        cases hx
      | some x =>
        have hcursor := cursor_cycleStep hgo hpolicy hstep
        cases x with
        | inl c' =>
          have hkept : Kept c.scene.evictor c'.scene.evictor :=
            (lasting_kept c.scene.evictor).cycleStep (.refl _) hstep
          obtain ⟨k, hrelayed, hend⟩ := ih (c := c') (by rw [hkept.settings, hpolicy])
          refine ⟨k, .pick ?_, hend⟩
          rwa [← hcursor]
        | inr x =>
          refine ⟨_, .pick (.rest _), ?_⟩
          rintro _ ⟨⟩
          exact hcursor
    · rw [if_neg hgo, cycleStep_of_not_goesOn hgo]
      refine ⟨_, .rest _, ?_⟩
      rintro _ ⟨⟩
      rfl

/-- A search in the pool leaves the cursor alone. -/
theorem searchRound_cursor :
    (∀ s', searchRound d clock s = .inl s' → s'.evictor.cursor = s.evictor.cursor) ∧
      ∀ v s', searchRound d clock s = .inr (v, s') →
        s'.evictor.cursor = s.evictor.cursor := by
  constructor
  all_goals
    intros
    rename_i h
    simp only [searchRound, recordGhosts] at h
    repeat' split at h
    all_goals
      cases h
      try dsimp only

theorem lasting_cursor (rounds : Nat) (d : Dataset σ) (clock : Clock σ) (k : Nat) :
    Lasting rounds d clock fun e => e.cursor = k ∧ e.settings.policy.usesPool = true where
  stats h _ := h
  search {s s' v} h hfind := by
    obtain ⟨hcursor, hpool⟩ := h
    refine ⟨?_, (findVictim_searched hfind).settings ▸ hpool⟩
    unfold findVictim at hfind
    rw [if_pos hpool] at hfind
    refine Loop.run_induct (I := fun t => t.evictor.cursor = k)
      (P := fun r => r.2.evictor.cursor = k) ?_ ?_ hcursor hfind
    · intro t t' ht hstep
      rw [searchRound_cursor.1 t' (Option.some.inj hstep), ht]
    · intro t r ht hstep
      rw [searchRound_cursor.2 r.1 r.2 (Option.some.inj hstep), ht]

/-- The picks of a check go on from the cursor that it starts with, and leave the one that it ends
with. -/
theorem relayed_pickings (fuel rounds : Nat) (d : Dataset σ) (server : Server σ) (clock : Clock σ)
    (s : Scene σ) :
    ∃ k, Relayed d s.evictor.cursor (pickings fuel rounds d server clock s) k ∧
      ∀ r, ensureWithin fuel rounds d server clock s = some r → r.scene.evictor.cursor = k := by
  by_cases hcycle : ∃ o site, s.evictor.settings.policy.isRandom = true ∧
      s.evictor.mayEvict server s.site = true ∧
      s.evictor.budget.overage? server s.site = (.ok (some o), site)
  · obtain ⟨o, site, hrandom, hguard, hlook⟩ := hcycle
    obtain ⟨k, hrelayed, hend⟩ := relayed_searches fuel rounds d server clock o
      (c := ⟨opened s site, 0, 0, []⟩) (usesPool_of_isRandom hrandom)
    have hpickings : pickings fuel rounds d server clock s
        = searches rounds d server clock o fuel ⟨opened s site, 0, 0, []⟩ := by
      simp [pickings, hrandom, hguard, hlook]
    rw [hpickings]
    refine ⟨k, hrelayed, ?_⟩
    intro r hcheck
    cases ensureWithin_cases hcheck with
    | guarded hno => exact absurd (hguard.symm.trans hno) (by decide)
    | unread hother => cases hlook.symm.trans hother
    | within hother => cases hlook.symm.trans hother
    | forbidden _ hno =>
      cases hpolicy : s.evictor.settings.policy with
      | _ => simp_all [Policy.isRandom, Policy.evicts]
    | ran _ hsame _ hrun =>
      cases hlook.symm.trans hsame
      rw [conclude_cursor]
      exact hend _ hrun
  · have hnone : pickings fuel rounds d server clock s = [] := by
      unfold pickings
      split
      · rename_i hopen
        rw [Bool.and_eq_true] at hopen
        split
        · rename_i o site hlook
          exact absurd ⟨o, site, hopen.1, hopen.2, hlook⟩ hcycle
        · rfl
      · rfl
    rw [hnone]
    refine ⟨_, .rest _, ?_⟩
    intro r hcheck
    cases hpool : s.evictor.settings.policy.usesPool with
    | true => exact ((lasting_cursor rounds d clock _).ensureWithin ⟨rfl, hpool⟩ hcheck).1
    | false =>
      cases ensureWithin_cases hcheck with
      | guarded _ => rfl
      | unread _ => rfl
      | within _ => rfl
      | forbidden _ _ => rfl
      | ran hguard hlook hevicts _ =>
        exact absurd ⟨_, _, isRandom_of_evicts hevicts hpool, hguard, hlook⟩ hcycle

/-! ## The picks of an evictor -/

/-- What an evictor goes through, with the scenes in which it picks keys at random, in order. The
site may be any other each time. -/
inductive Life (d : Dataset σ) (e : Evictor) : List (Scene σ) → Evictor → Prop where
  | started : Life d e [] e
  | configured {scenes : List (Scene σ)} {e' : Evictor} (h : Life d e scenes e') (s : Settings) :
    Life d e scenes (e'.setSettings s).2
  | checked {scenes : List (Scene σ)} {e' : Evictor} (h : Life d e scenes e') (server : Server σ)
    (clock : Clock σ) (fuel rounds : Nat) (site : σ) {r : CheckResult σ}
    (hcheck : ensureWithin fuel rounds d server clock ⟨e', site⟩ = some r) :
    Life d e (scenes ++ pickings fuel rounds d server clock ⟨e', site⟩) r.scene.evictor
  | picked {scenes : List (Scene σ)} {e' : Evictor} (h : Life d e scenes e') (site : σ) :
    Life d e (scenes ++ [⟨e', site⟩]) (pickRandom d ⟨e', site⟩).2.evictor

theorem setSettings_cursor (e : Evictor) (s : Settings) :
    (e.setSettings s).2.cursor = e.cursor := by
  rcases setSettings_cases e s with ⟨err, heq⟩ | ⟨-, -, heq⟩ | ⟨-, -, heq⟩
  · rw [heq]
  · simp only [heq, adopt]
  · simp only [heq, adopt]

/-- All picks of an evictor make one walk. -/
theorem Life.relayed {e e' : Evictor} (h : Life d e scenes e') :
    Relayed d e.cursor scenes e'.cursor := by
  induction h with
  | started => exact .rest _
  | configured _ s ih =>
    rw [setSettings_cursor]
    exact ih
  | checked _ server clock fuel rounds site hcheck ih =>
    obtain ⟨k, hrelayed, hend⟩ := relayed_pickings fuel rounds d server clock ⟨_, site⟩
    rw [hend _ hcheck]
    exact ih.append hrelayed
  | picked _ site ih => exact ih.append (.pick (s := ⟨_, site⟩) (.rest _))

/-- A pick finds nothing only if there is nothing; otherwise it takes a key of the next shard that
has any, and leaves the cursor there. So whatever an evictor goes through, be it that the last check
does not end: among as many picks in a row that find a key as there are shards, every shard that has
keys all along has its turn, and exactly one if all of them have. -/
theorem pickRandom_fair (d : Dataset σ) {n : Nat} (hn : n < Word.modulus) :
    (∀ s, Ready d n s → InTurn d s) ∧
    ∀ e e' before, Life d e before e' → ∀ server clock fuel rounds site window,
      window <:+: before ++ pickings fuel rounds d server clock ⟨e', site⟩ →
      (∀ s ∈ window, Ready d n s) → (picked d window).length = n → Fair d n window := by
  constructor
  · intro s hready
    exact inTurn_of_ready hn hready
  · intro e e' before hlife server clock fuel rounds site window hwindow hready hlength
    obtain ⟨k, hlast, -⟩ := relayed_pickings fuel rounds d server clock ⟨e', site⟩
    obtain ⟨m, m', hrelayed⟩ := (hlife.relayed.append hlast).exists_of_window hwindow
    exact hrelayed.fair hn hready hlength

end Evictor

/-! ## A ring of three shards -/

namespace Rack

/-- Keys of three shards, none of them in the middle one, that cost 400 bytes; an evictor of random
keys under a limit of 250 bytes. -/
def ring : Scene Rack where
  evictor := { uneven.evictor with
    settings := { policy := .allKeysRandom, maxMemory := 250 }
    budget := ⟨250⟩
    ranking := ⟨.allKeysRandom, 1⟩ }
  site :=
    { shards := 3
      entries :=
        [(⟨0, ⟨#[1]⟩⟩, ⟨(), default, none⟩), (⟨0, ⟨#[2]⟩⟩, ⟨(), default, none⟩),
          (⟨2, ⟨#[3]⟩⟩, ⟨(), default, none⟩), (⟨2, ⟨#[4]⟩⟩, ⟨(), default, none⟩)] }

/-- A rack with one more key. -/
def including (rack : Rack) (v : Victim) : Rack :=
  { rack with entries := (v, ⟨(), default, none⟩) :: rack.entries }

/-- A shard of a rack that has keys yields one. -/
theorem ready {s : Scene Rack} {n : Nat} (hshards : s.site.shards = n)
    (hcursor : s.evictor.cursor ≤ (Evictor.pickRandom dataset s).2.evictor.cursor) :
    Evictor.Ready dataset n s where
  shards := hshards
  yields shard _ hstocked := by
    have hrow : s.site.row shard s.evictor.settings.policy.scope ≠ [] :=
      List.ne_nil_of_length_pos (Nat.pos_of_ne_zero hstocked)
    simp [dataset, hrow]
  cursor := hcursor

/-- The result of a check at a rack, which five deletions are enough for. -/
def check (s : Scene Rack) : CheckResult Rack :=
  (Evictor.ensureWithin 5 2 dataset server clock s).getD ⟨.ok .ok, s, []⟩

theorem ensureWithin_eq {s : Scene Rack}
    (h : (Evictor.ensureWithin 5 2 dataset server clock s).isSome) :
    Evictor.ensureWithin 5 2 dataset server clock s = some (check s) := by
  obtain ⟨r, hr⟩ := Option.isSome_iff_exists.mp h
  rw [check, hr, Option.getD_some]

/-- The ring after a check, with a new key in the middle shard. -/
def ringLater : Scene Rack :=
  ⟨(check ring).scene.evictor, (check ring).scene.site.including ⟨1, ⟨#[5]⟩⟩⟩

end Rack

namespace Evictor

/-- Two picks of one check and the one of the next come to the last shard, the first one, and the
one that has keys by then. -/
theorem pickRandom_fair_ring :
    InTurn Rack.dataset Rack.ring ∧
    Life Rack.dataset Rack.ring.evictor (pickings 5 2 Rack.dataset Rack.server Rack.clock Rack.ring)
      Rack.ringLater.evictor ∧
    (pickings 5 2 Rack.dataset Rack.server Rack.clock Rack.ring).length = 2 ∧
    (picked Rack.dataset (pickings 5 2 Rack.dataset Rack.server Rack.clock Rack.ring ++
      pickings 5 2 Rack.dataset Rack.server Rack.clock Rack.ringLater)).map (·.shard) = [2, 0, 1] ∧
    Fair Rack.dataset 3 (pickings 5 2 Rack.dataset Rack.server Rack.clock Rack.ring ++
      pickings 5 2 Rack.dataset Rack.server Rack.clock Rack.ringLater) := by
  have hlife : Life Rack.dataset Rack.ring.evictor
      ([] ++ pickings 5 2 Rack.dataset Rack.server Rack.clock Rack.ring) Rack.ringLater.evictor :=
    .checked .started Rack.server Rack.clock 5 2 Rack.ring.site
      (Rack.ensureWithin_eq (s := Rack.ring) (by decide +kernel))
  rw [List.nil_append] at hlife
  have hfair := pickRandom_fair Rack.dataset (n := 3) (by decide)
  refine ⟨hfair.1 Rack.ring (Rack.ready rfl (by decide +kernel)), hlife, by decide +kernel,
    by decide +kernel, ?_⟩
  refine hfair.2 _ _ _ hlife Rack.server Rack.clock 5 2 Rack.ringLater.site _ List.infix_rfl ?_
    (by decide +kernel)
  have hplain : ∀ s ∈ pickings 5 2 Rack.dataset Rack.server Rack.clock Rack.ring ++
      pickings 5 2 Rack.dataset Rack.server Rack.clock Rack.ringLater,
      s.site.shards = 3 ∧
        s.evictor.cursor ≤ (pickRandom Rack.dataset s).2.evictor.cursor := by
    decide +kernel
  intro s hs
  exact Rack.ready (hplain s hs).1 (hplain s hs).2

end Evictor

end SampledEviction
