import SampledEviction.Proofs.Keyspace.Cycle

/-!
# The budget is kept

Without a reclaimer, a check of a keyspace above its budget deletes keys until usage is within
it, or until no key is left within the scope of the policy, and deletes none at any other time.

* `Ready.exists_ensureWithin` — how a check ends
* `Ready.ascends` — a cursor that has room does not wrap
* `ensure_contract` — the budget is kept, and no key is deleted in vain
-/

namespace SampledEviction.Keyspace.Site

open Evictor

variable {s : Scene Site} {c : Cycle (Recorded Site)}

/-! ## The check -/

/-- How a check ends: within budget, or above it with no key to delete, unless the cursor has
wrapped. -/
structure Ended (clock : Clock Site) (s : Scene Site) (r : CheckResult (Recorded Site)) :
    Prop where
  kept : Kept s.evictor r.scene.evictor
  synced : s.site.Synced r.scene.site.site
  due : ∀ deed ∈ r.scene.site.deeds, deed.Meets (Due s)
  answer : r.answer = .ok .ok ∧
      r.scene.site.site.keyspace.memory.bytes ≤ s.evictor.settings.maxMemory ∨
    r.answer = .ok (.blocked .noCandidates) ∧
      s.evictor.settings.maxMemory < r.scene.site.site.keyspace.memory.bytes ∧
      (Ascends 2 dataset tracked clock s →
        ∀ shard, r.scene.site.site.keyspace.count shard s.evictor.settings.policy.scope = 0)

theorem Underway.exists_run (hs : Ready s) (hc : Underway s c) (clock : Clock Site) {fuel : Nat}
    (hfuel : remaining s c < fuel) :
    ∃ answer c₁ c₂, Loop.run (cycleStep 2 (Recorded.dataset dataset) (Recorded.server tracked)
        (Recorded.clock clock) (overage s)) fuel c = some (answer, c₂) ∧
      Loop.Reaches (cycleStep 2 (Recorded.dataset dataset) (Recorded.server tracked)
        (Recorded.clock clock) (overage s)) c c₁ ∧
      Stepped s c₁ (.inr (answer, c₂)) := by
  obtain ⟨⟨answer, c₂⟩, c₁, hrun, hreach, hc₁, hstep⟩ :=
    Loop.exists_run (I := Underway s) (remaining s) (fun c hc => by
      obtain ⟨x, hx, hstepped⟩ := hc.step hs clock
      cases hstepped with
      | on h hfew _ => exact Or.inr ⟨_, hx, h, hfew⟩
      | enough h hwithin => exact Or.inl ⟨_, hx⟩
      | nothing h habove hnone => exact Or.inl ⟨_, hx⟩) hc hfuel
  obtain ⟨x, hx, hstepped⟩ := hc₁.step hs clock
  rw [hstep] at hx
  cases hx
  exact ⟨answer, c₁, c₂, hrun, hreach, hstepped⟩

theorem Ready.overage?_eq (hs : Ready s) :
    s.evictor.budget.overage? tracked s.site
      = (.ok (if s.site.keyspace.memory.bytes ≤ s.evictor.settings.maxMemory then none
          else some (overage s)), s.site) := by
  rw [hs.coherent.budget]
  exact overage?_of_sync hs.sync hs.fits hs.bounded

/-- The cycle that a check starts. -/
def started (s : Scene Site) (site : Recorded Site) : Cycle (Recorded Site) :=
  ⟨opened (s.recorded []) site, 0, 0, []⟩

/-- How a check ends that finds an overage. -/
theorem Ended.ofStepped {clock : Clock Site} (hs : Ready s)
    (habove : s.evictor.settings.maxMemory < s.site.keyspace.memory.bytes)
    {site : Recorded Site} (hsite : site.site = s.site) {answer : Except EvictionError Outcome}
    {c₁ c₂ : Cycle (Recorded Site)}
    (hreach : Loop.Reaches (cycleStep 2 (Recorded.dataset dataset) (Recorded.server tracked)
      (Recorded.clock clock) (overage s)) (started s site) c₁)
    (h : Stepped s c₁ (.inr (answer, c₂))) : Ended clock s (conclude (overage s) (answer, c₂)) := by
  cases h with
  | enough h hwithin => exact ⟨h.kept, h.synced, h.due, Or.inl ⟨rfl, hwithin⟩⟩
  | nothing h habove' hnone =>
    refine ⟨⟨h.kept.settings, h.kept.budget, h.kept.sampler, h.kept.ranking⟩, h.synced, h.due,
      Or.inr ⟨rfl, habove', fun hascends => hnone (Cycle.ascends_map.mp ?_)⟩⟩
    have hlook := hs.overage?_eq
    rw [if_neg (by omega)] at hlook
    -- the cursor of a recorded cycle is that of the cycle it records
    have hmapped := hreach.map (cycleStep_map (Recorded.dataset_alike dataset)
      (Recorded.server_alike tracked) (Recorded.clock_alike clock) 2 (overage s))
    have hstart : (started s site).map Recorded.site = ⟨opened s s.site, 0, 0, []⟩ := by
      rw [← hsite]
      rfl
    rw [hstart] at hmapped
    exact hascends _ _ _ hlook hmapped

theorem Ready.underway_started (hs : Ready s) (site : Recorded Site) (hsite : site.site = s.site)
    (hdeeds : ∀ deed ∈ site.deeds, deed.Meets (Due s)) : Underway s (started s site) := by
  obtain ⟨_, deeds⟩ := site
  cases hsite
  exact ⟨⟨rfl, rfl, rfl, rfl⟩, .refl hs.sound hs.sync, Nat.zero_add _, hdeeds⟩

theorem Ready.exists_ensureWithin (hs : Ready s) (clock : Clock Site) (fuel : Nat)
    (hfuel : s.site.keyspace.total s.evictor.settings.policy.scope < fuel) :
    ∃ r, ensureWithin fuel 2 (Recorded.dataset dataset) (Recorded.server tracked)
        (Recorded.clock clock) (s.recorded []) = some r ∧ Ended clock s r := by
  have hmay : (s.recorded []).evictor.mayEvict (Recorded.server tracked) (s.recorded []).site
      = true := (mayEvict_map (Recorded.server_alike tracked) s.evictor _).symm.trans hs.allowed
  obtain ⟨answer, site, hlook, hanswer, hsite, hlooked⟩ :=
    (hs.underway_started ⟨s.site, []⟩ rfl (by simp)).look hs
  have hlook : (s.recorded []).evictor.budget.overage? (Recorded.server tracked)
      (s.recorded []).site = (.ok answer, site) := hlook
  unfold ensureWithin
  rw [if_neg (by rw [hmay]; exact Bool.noConfusion), hlook]
  rcases hanswer with ⟨rfl, hwithin⟩ | ⟨rfl, habove⟩
  · exact ⟨_, rfl, .refl _, hlooked.synced, hlooked.due, Or.inl ⟨rfl, hwithin⟩⟩
  · have hevicts : (s.recorded []).evictor.settings.policy.evicts = true := hs.evicts
    rw [hsite] at habove
    have hstart := hs.underway_started site hsite hlooked.due
    have hremaining : remaining s (started s site) < fuel := by
      show site.site.keyspace.total _ < _
      rw [hsite]
      exact hfuel
    obtain ⟨answer, c₁, c₂, hrun, hreach, hstepped⟩ := hstart.exists_run hs clock hremaining
    refine ⟨_, ?_, Ended.ofStepped hs habove hsite hreach hstepped⟩
    rw [hsite]
    simp only [hevicts, if_true]
    exact congrArg (Option.map (conclude (overage s))) hrun

/-! ## A cursor with room -/

/-- The cursor after a pick, if there is room for it. -/
theorem Underway.cursor_pick_le (hc : Underway s c)
    (hroom : c.scene.evictor.cursor + s.site.keyspace.shards.size < Word.modulus) :
    c.scene.evictor.cursor ≤ (pickRandom (Recorded.dataset dataset) c.scene).2.evictor.cursor ∧
      (pickRandom (Recorded.dataset dataset) c.scene).2.evictor.cursor
        ≤ c.scene.evictor.cursor + s.site.keyspace.shards.size := by
  have hshards : (Recorded.dataset dataset).shards c.scene.site = s.site.keyspace.shards.size :=
    hc.synced.shards
  unfold pickRandom
  rw [hshards]
  exact cursor_pickFrom_le _ _ hroom

/-- A cycle under way. Under a random policy its cursor leaves room to go round the shards for
every key that may still be deleted, and once more. -/
structure Roomy (s : Scene Site) (c : Cycle (Recorded Site)) : Prop where
  underway : Underway s c
  room : s.evictor.settings.policy.usesPool = false →
    c.scene.evictor.cursor + (remaining s c + 1) * s.site.keyspace.shards.size < Word.modulus

theorem Roomy.cursor (h : Roomy s c) (hpool : s.evictor.settings.policy.usesPool = false) :
    c.scene.evictor.cursor ≤ (pickRandom (Recorded.dataset dataset) c.scene).2.evictor.cursor ∧
      (pickRandom (Recorded.dataset dataset) c.scene).2.evictor.cursor
        ≤ c.scene.evictor.cursor + s.site.keyspace.shards.size := by
  refine h.underway.cursor_pick_le (Nat.lt_of_le_of_lt ?_ (h.room hpool))
  rw [Nat.add_one_mul]
  omega

theorem Roomy.step (hs : Ready s) {clock : Clock Site} {c' : Cycle (Recorded Site)}
    (h : Roomy s c) (hstep : cycleStep 2 (Recorded.dataset dataset) (Recorded.server tracked)
      (Recorded.clock clock) (overage s) c = some (.inl c')) : Roomy s c' := by
  obtain ⟨x, hx, hstepped⟩ := h.underway.step hs clock
  rw [hstep] at hx
  cases hx
  cases hstepped with
  | on hunderway hfew hcursor =>
    refine ⟨hunderway, fun hpool => Nat.lt_of_le_of_lt ?_ (h.room hpool)⟩
    have hmoved := (h.cursor hpool).2
    have hrounds : (remaining s c' + 1) * s.site.keyspace.shards.size
        ≤ remaining s c * s.site.keyspace.shards.size := Nat.mul_le_mul_right _ hfew
    rw [hcursor hpool, Nat.add_one_mul (remaining s c)]
    omega

/-- A cursor that leaves room to go round the shards for every key within the scope of the policy,
and once more, does not wrap. -/
theorem Ready.ascends (hs : Ready s) (clock : Clock Site)
    (hroom : s.evictor.cursor + (s.site.keyspace.total s.evictor.settings.policy.scope + 1)
      * s.site.keyspace.shards.size < Word.modulus) : Ascends 2 dataset tracked clock s := by
  intro o site c hlook hreach
  rw [hs.overage?_eq] at hlook
  split at hlook
  · cases hlook
  cases hlook
  obtain ⟨c', hreach', rfl⟩ := Loop.Reaches.exists_of_map (a := started s ⟨s.site, []⟩)
    (cycleStep_map (Recorded.dataset_alike dataset) (Recorded.server_alike tracked)
      (Recorded.clock_alike clock) 2 (overage s)) hreach
  have hstart : Roomy s (started s ⟨s.site, []⟩) :=
    ⟨hs.underway_started _ rfl (by simp), fun _ => hroom⟩
  have hroomy : Roomy s c' := hreach'.keeps (fun _ _ h hstep => h.step hs hstep) hstart
  refine Cycle.ascends_map.mpr fun hpool _ => (hroomy.cursor ?_).1
  rwa [hroomy.underway.kept.settings] at hpool

/-! ## What follows a check -/

theorem total_eq (site : Site) (scope : Scope) :
    dataset.total site scope = site.keyspace.total scope := tally_range site.keyspace.shards

theorem total_eq_zero (site : Site) {scope : Scope}
    (h : ∀ shard, site.keyspace.count shard scope = 0) : site.keyspace.total scope = 0 :=
  (total_eq site scope).symm.trans (tally_eq_zero_iff.mpr fun shard _ => h shard)

/-- A check of a scene that is ready ends, and leaves its ledger. -/
theorem Ready.exists_ensure (hs : Ready s) (clock : Clock Site) :
    ∃ r, ensure dataset tracked clock s = some (r.map Recorded.site) ∧
      ensureLedger dataset tracked clock s = r.scene.site.deeds ∧ Ended clock s r := by
  obtain ⟨r, hr, hended⟩ := hs.exists_ensureWithin clock
    (dataset.total s.site s.evictor.settings.policy.scope + 2) (by rw [total_eq]; omega)
  have hmap := ensureWithin_map (Recorded.dataset_alike dataset) (Recorded.server_alike tracked)
    (Recorded.clock_alike clock) (dataset.total s.site s.evictor.settings.policy.scope + 2) 2
    (s.recorded [])
  rw [hr] at hmap
  refine ⟨r, hmap, ?_, hended⟩
  unfold ensureLedger ledger
  rw [hr]

/-- A check leaves a scene that is ready for another. -/
theorem Ended.ready {clock : Clock Site} {r : CheckResult (Recorded Site)} (hs : Ready s)
    (h : Ended clock s r) : Ready (r.scene.map Recorded.site) where
  sound := h.synced.sound
  shards := by
    show r.scene.site.site.keyspace.shards.size < Word.modulus
    rw [h.synced.shards]
    exact hs.shards
  sync := h.synced.sync
  fits := by
    have hle := h.synced.bytes_le
    have hfits := hs.fits
    show r.scene.site.site.keyspace.memory.bytes + r.scene.site.site.server.overhead < _
    rw [h.synced.overhead]
    omega
  coherent := hs.coherent.kept h.kept
  evicts := by
    show r.scene.evictor.settings.policy.evicts = true
    rw [h.kept.settings, hs.evicts]
  bounded := by
    show r.scene.evictor.settings.maxMemory ≠ 0
    rw [h.kept.settings]
    exact hs.bounded
  allowed := by
    obtain ⟨_, _, hserver⟩ := h.synced.server
    have hallowed := hs.allowed
    unfold mayEvict at hallowed ⊢
    show (!r.scene.site.site.server.suspended
      && !(r.scene.site.site.server.isReplica && r.scene.evictor.settings.replicaIgnores)
      && !r.scene.site.site.server.paused) = true
    rw [hserver, h.kept.settings]
    exact hallowed

/-- A check that has ended leaves nothing due. -/
theorem Ended.not_due {clock : Clock Site} {r : CheckResult (Recorded Site)}
    (h : Ended clock s r) (hascends : Ascends 2 dataset tracked clock s) (site : Site) :
    ¬ Due (r.scene.map Recorded.site) site := by
  intro hdue
  have habove : r.scene.evictor.settings.maxMemory < site.keyspace.memory.bytes := hdue.above
  have hsome : site.keyspace.total r.scene.evictor.settings.policy.scope ≠ 0 := hdue.some
  rw [h.kept.settings] at habove hsome
  -- a later deletion would need usage above the budget and a key within the scope
  rcases h.answer with ⟨-, hwithin⟩ | ⟨-, -, hnone⟩
  · exact absurd (Nat.le_trans hdue.synced.bytes_le hwithin) (Nat.not_le_of_lt habove)
  · have hle := hdue.synced.total_le s.evictor.settings.policy.scope
    have hzero := total_eq_zero r.scene.site.site (hnone hascends)
    exact hsome (Nat.le_zero.mp (hzero ▸ hle))

/-! ## A keyspace with one key -/

/-- An empty keyspace of one shard. -/
def blank : Keyspace where
  shards := Array.replicate 1 {}
  memory := {}
  tracker := .ofSettings {} 0
  random := .ofSeed 1
  reclaimer := none
  threshold := 0
  stats := {}

theorem create_blank : create { background := some false, threshold := 0 } = .ok blank := rfl

/-- The keyspace with one key of one byte, and a value of one byte. -/
def lone : Keyspace := (blank.set 0 ⟨#[97]⟩ ⟨#[98]⟩ none ⟨0⟩).toOption.getD blank

theorem set_lone : blank.set 0 ⟨#[97]⟩ ⟨#[98]⟩ none ⟨0⟩ = .ok lone := rfl

theorem held_lone : lone.held = 50 := by
  have hblank := sound_of_create create_blank
  have hset := hblank.accounted (.set 0 ⟨#[97]⟩ ⟨#[98]⟩ none ⟨0⟩)
  have hentry : blank.entry? 0 ⟨#[97]⟩ = none := DenseMap.get?_empty _
  have hmoves : blank.moves (.set 0 ⟨#[97]⟩ ⟨#[98]⟩ none ⟨0⟩) = [.add 50] := by
    simp only [moves, hentry]
    rfl
  rw [hmoves] at hset
  have hbytes : 0 = blank.held := hblank.bytes
  have hcharged : lone.charged + 0 = blank.charged + 50 := hset.charged
  unfold held at hbytes
  show lone.charged + 0 = 50
  omega

theorem reachable_lone : lone.Reachable :=
  .change (.create create_blank (by decide)) (.set set_lone) (by rw [held_lone]; decide)

/-- An evictor of random keys under a limit of 40 bytes, at the keyspace with one key. -/
def crowded : Scene Site where
  evictor :=
    { settings := { policy := .allKeysRandom, maxMemory := 40 }
      budget := ⟨40⟩
      sampler := ⟨5⟩
      ranking := ⟨.allKeysRandom, 1⟩
      pool := .empty
      cursor := 0
      stats := {} }
  site := ⟨lone, { overhead := 8 }, {}⟩

theorem coherent_crowded : crowded.evictor.Coherent :=
  .ofSettings (s := { policy := .allKeysRandom, maxMemory := 40 }) rfl

theorem bytes_lone : lone.memory.bytes = 50 := reachable_lone.sound.bytes.trans held_lone

theorem ready_crowded : Ready crowded where
  sound := reachable_lone.sound
  shards := reachable_lone.size_shards_lt
  sync := rfl
  fits := by
    show lone.memory.bytes + 8 < Word.modulus
    rw [bytes_lone]
    decide
  coherent := coherent_crowded
  evicts := rfl
  bounded := by decide
  allowed := rfl

theorem ascends_crowded : Ascends 2 dataset tracked manual crowded := by
  refine ready_crowded.ascends manual ?_
  have hfew := reachable_lone.sound.total_le_held .all
  rw [held_lone] at hfew
  show 0 + (lone.total .all + 1) * 1 < Word.modulus
  unfold Word.modulus
  omega

/-! ## The contract -/

/-- Without a reclaimer, a check answers that all is well exactly if usage is within budget
afterwards, and otherwise that it is blocked, with no key left within the scope of the policy. It
deletes keys only while usage is above the budget, and a check right after it deletes none. -/
theorem ensure_contract (clock : Clock Site) (hreachable : s.site.keyspace.Reachable)
    (hsync : s.site.keyspace.reclaimer = none)
    (hfits : s.site.keyspace.memory.bytes + s.site.server.overhead < Word.modulus)
    (hcoherent : s.evictor.Coherent) (hevicts : s.evictor.settings.policy.evicts = true)
    (hbounded : 0 < s.evictor.settings.maxMemory)
    (hallowed : s.evictor.mayEvict tracked s.site = true)
    (hascends : Ascends 2 dataset tracked clock s) :
    ∃ r, ensure dataset tracked clock s = some r ∧
      (r.answer = .ok .ok ↔
        r.scene.site.keyspace.memory.bytes ≤ s.evictor.settings.maxMemory) ∧
      (r.answer ≠ .ok .ok → r.answer = .ok (.blocked .noCandidates) ∧
        s.evictor.settings.maxMemory < r.scene.site.keyspace.memory.bytes ∧
        ∀ shard, r.scene.site.keyspace.count shard s.evictor.settings.policy.scope = 0) ∧
      (∀ before v removed, .deleted before v removed ∈ ensureLedger dataset tracked clock s →
        s.evictor.settings.maxMemory < before.keyspace.memory.bytes) ∧
      ∀ clock', ∃ r', ensure dataset tracked clock' r.scene = some r' ∧
        Deed.removals (ensureLedger dataset tracked clock' r.scene) = [] := by
  have hs : Ready s :=
    { sound := hreachable.sound
      shards := hreachable.size_shards_lt
      sync := hsync
      fits := hfits
      coherent := hcoherent
      evicts := hevicts
      bounded := Nat.ne_of_gt hbounded
      allowed := hallowed }
  obtain ⟨r, hr, hledger, hended⟩ := hs.exists_ensure clock
  refine ⟨_, hr, ?_, ?_, ?_, fun clock' => ?_⟩
  · show r.answer = _ ↔ r.scene.site.site.keyspace.memory.bytes ≤ _
    rcases hended.answer with ⟨hanswer, hwithin⟩ | ⟨hanswer, habove, -⟩
    · rw [hanswer]
      exact ⟨fun _ => hwithin, fun _ => rfl⟩
    · rw [hanswer]
      constructor
      · intro hok
        cases hok
      · intro hwithin
        exact absurd habove (Nat.not_lt_of_le hwithin)
  · intro hblocked
    rcases hended.answer with ⟨hanswer, -⟩ | ⟨hanswer, habove, hnone⟩
    · exact absurd hanswer hblocked
    · exact ⟨hanswer, habove, hnone hascends⟩
  · intro before v removed hdeed
    rw [hledger] at hdeed
    exact (hended.due _ hdeed).above
  · obtain ⟨r', hr', hledger', hended'⟩ := (hended.ready hs).exists_ensure clock'
    refine ⟨_, hr', ?_⟩
    rw [show (r.map Recorded.site).scene = r.scene.map Recorded.site from rfl, hledger']
    exact Deed.removals_eq_nil hended'.due (hended.not_due hascends)

/-- The check of a keyspace above its budget. -/
theorem ensure_contract_crowded :
    (crowded.site.keyspace.Reachable ∧ crowded.site.keyspace.reclaimer = none ∧
      crowded.site.keyspace.memory.bytes + crowded.site.server.overhead < Word.modulus ∧
      crowded.evictor.Coherent ∧ crowded.evictor.settings.policy.evicts = true ∧
      0 < crowded.evictor.settings.maxMemory ∧
      crowded.evictor.mayEvict tracked crowded.site = true ∧
      Ascends 2 dataset tracked manual crowded) ∧
    crowded.evictor.settings.maxMemory < crowded.site.keyspace.memory.bytes ∧
    ∃ r, ensure dataset tracked manual crowded = some r ∧
      (r.answer = .ok .ok ↔ r.scene.site.keyspace.memory.bytes ≤ 40) ∧
      (r.answer ≠ .ok .ok → r.answer = .ok (.blocked .noCandidates) ∧
        40 < r.scene.site.keyspace.memory.bytes ∧
        ∀ shard, r.scene.site.keyspace.count shard .all = 0) ∧
      (∀ before v removed, .deleted before v removed ∈ ensureLedger dataset tracked manual crowded →
        40 < before.keyspace.memory.bytes) ∧
      ∀ clock', ∃ r', ensure dataset tracked clock' r.scene = some r' ∧
        Deed.removals (ensureLedger dataset tracked clock' r.scene) = [] := by
  have hready := ready_crowded
  have habove : crowded.evictor.settings.maxMemory < crowded.site.keyspace.memory.bytes := by
    show 40 < lone.memory.bytes
    rw [bytes_lone]
    decide
  exact ⟨⟨reachable_lone, rfl, hready.fits, hready.coherent, rfl, by decide, rfl, ascends_crowded⟩,
    habove, ensure_contract manual reachable_lone rfl hready.fits hready.coherent rfl (by decide)
      rfl ascends_crowded⟩

end SampledEviction.Keyspace.Site
