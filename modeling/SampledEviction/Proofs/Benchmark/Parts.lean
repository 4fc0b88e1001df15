import SampledEviction.Benchmark.Run
import SampledEviction.Proofs.Keyspace.Accounting

/-!
# The parts of a run

Every operation of a run is made of the same parts: a key is drawn and read, and, if it is missed,
the budget is checked and the key is written. What the parts keep is kept by a run of any length.

* `validate_iff` — the settings that a run accepts
* `hotKeys_of_fits`, `hotKeys_of_not_fits` — the number of hot keys, if there is one
* `drawId_lt` — the numbers that are drawn
* `exists_start` — a run starts
* `Keeps.exists_loop` — what the parts keep, a run keeps
-/

namespace SampledEviction.Benchmark

open Keyspace (Site)

/-! ## Settings -/

namespace Workload

/-- A workload that a run accepts. -/
structure Accepted (w : Workload) : Prop where
  keys : 0 < w.keys
  keyLength : 0 < w.keyLength
  distinct : w.keyLength < 16 → w.keys ≤ keyCount w.keyLength
  hotPercent : w.hotPercent ≤ 100
  hotWeight : w.hotWeight ≤ 100
  volatilePercent : w.volatilePercent ≤ 100
  ttl : 0 < w.volatilePercent → 0 < w.ttl

variable {w : Workload}

theorem excessiveShare?_eq_none_iff : w.excessiveShare? = none ↔
    w.hotPercent ≤ 100 ∧ w.hotWeight ≤ 100 ∧ w.volatilePercent ≤ 100 := by
  simp [excessiveShare?, List.find?_eq_none]

theorem fault?_eq_none_iff : w.fault? = none ↔ w.Accepted := by
  unfold fault?
  constructor
  · intro h
    split at h
    · cases h
    split at h
    · cases h
    split at h
    · cases h
    split at h
    · cases h
    rename_i hkeys hlength hshort _ hshares
    split at h
    · cases h
    rename_i httl
    obtain ⟨hhot, hweight, hvolatile⟩ := excessiveShare?_eq_none_iff.mp hshares
    exact ⟨by omega, by omega, by omega, hhot, hweight, hvolatile, by omega⟩
  · intro h
    have hshares := excessiveShare?_eq_none_iff.mpr ⟨h.hotPercent, h.hotWeight, h.volatilePercent⟩
    have hkeys := h.keys
    have hlength := h.keyLength
    have hdistinct := h.distinct
    have httl := h.ttl
    rw [if_neg (by omega), if_neg (by omega), if_neg (by omega), hshares]
    exact if_neg (by omega)

end Workload

/-- The settings that a run accepts. -/
theorem Settings.validate_iff {s : Settings} : s.validate = .ok () ↔
    s.eviction.validate = .ok () ∧ 0 < s.general.shards ∧ s.workload.Accepted := by
  rw [← Workload.fault?_eq_none_iff]
  unfold Settings.validate
  rcases s.eviction.validate with e | ⟨⟩
  · simp
  by_cases hshards : s.general.shards = 0
  · simp [hshards]
  · cases s.workload.fault? with
    | some f => simp [hshards]
    | none => simp [hshards, Nat.pos_of_ne_zero hshards]

/-- Settings may ask for the counter of the keyspace. -/
theorem Environment.ofSettings_of_keyspace {s : Settings} (hmemory : s.general.memory = .keyspace)
    (bytes : Nat) (clock : Clock Site) : ofSettings s bytes clock = tracked clock := by
  unfold ofSettings
  rw [hmemory]

/-! ## Hot keys -/

namespace Workload

/-- So many percent of the keys, rounded down, but one at least. -/
def hotShare (w : Workload) : Nat := max 1 (w.keys * w.hotPercent / 100)

/-- The product of the keys and their percentage fits into a word. -/
def Fits (w : Workload) : Prop := w.keys * w.hotPercent < Word.modulus

instance (w : Workload) : Decidable w.Fits := inferInstanceAs (Decidable (_ < _))

variable {w : Workload}

theorem hotKeys_of_fits (h : w.Fits) : w.hotKeys = some w.hotShare := by
  unfold hotKeys hotShare
  rw [Word.mul?_of_lt h, Option.map_some, Nat.max_comm]

theorem hotKeys_of_not_fits (h : ¬ w.Fits) : w.hotKeys = none := by
  unfold hotKeys
  rw [Word.mul?_of_not_lt h, Option.map_none]

theorem hotShare_pos (w : Workload) : 0 < w.hotShare :=
  Nat.lt_of_lt_of_le Nat.one_pos (Nat.le_max_left _ _)

/-- There are no more hot keys than keys. -/
theorem hotShare_le (hkeys : 0 < w.keys) (hpercent : w.hotPercent ≤ 100) :
    w.hotShare ≤ w.keys := by
  have hproduct : w.keys * w.hotPercent ≤ w.keys * 100 := Nat.mul_le_mul_left _ hpercent
  unfold hotShare
  omega

end Workload

namespace Run

theorem countHot_of_fits {s : Settings} (h : s.workload.Fits) :
    countHot s = .ok s.workload.hotShare := by
  unfold countHot
  rw [Workload.hotKeys_of_fits h]

theorem countHot_of_not_fits {s : Settings} (h : ¬ s.workload.Fits) :
    countHot s = .error .overflow := by
  unfold countHot
  rw [Workload.hotKeys_of_not_fits h]

/-! ## Draws -/

/-- A number that is drawn is that of a key. -/
theorem drawId_lt {w : Workload} (hw : w.Accepted) (g : Xoshiro) : (drawId w g).1 < w.keys := by
  unfold drawId
  dsimp only
  split
  · by_cases hfits : w.Fits
    · rw [Workload.hotKeys_of_fits hfits]
      exact Nat.lt_of_lt_of_le (Xoshiro.below_lt w.hotShare_pos _)
        (Workload.hotShare_le hw.keys hw.hotPercent)
    · rw [Workload.hotKeys_of_not_fits hfits]
      exact Xoshiro.below_lt hw.keys _
  · exact Xoshiro.below_lt hw.keys _

variable {s : Settings} {env : Environment} {value : Bytes} {r : Run}

theorem draw_shard_lt (hshards : 0 < r.scene.site.keyspace.shards.size) :
    (draw s r).1.shard < r.scene.site.keyspace.shards.size :=
  Nat.mod_lt _ hshards

/-! ## Start -/

/-- The run that starts on a keyspace with an evictor. -/
def opening (s : Settings) (wall : ManualClock) (keyspace : Keyspace) (evictor : Evictor) :
    Run where
  scene := ⟨evictor, { keyspace, server := {}, clock := wall }⟩
  random := ((Xoshiro.ofSeed s.general.seed).bytes s.workload.valueLength).2
  tally := {}

/-- The value that a run writes. -/
def payload (s : Settings) : Bytes :=
  ((Xoshiro.ofSeed s.general.seed).bytes s.workload.valueLength).1

/-- A run on accepted settings starts, with a new keyspace and a new evictor. -/
theorem exists_start (hvalid : s.validate = .ok ()) (wall : ManualClock) (entropy : Nat) :
    ∃ keyspace evictor, Keyspace.Created
        { shards := s.general.shards, settings := s.eviction, entropy } keyspace ∧
      Evictor.ofSettings s.eviction = .ok evictor ∧
      start s wall entropy = .ok (opening s wall keyspace evictor, payload s) := by
  obtain ⟨heviction, hshards, -⟩ := Settings.validate_iff.mp hvalid
  have hevictor : ∃ evictor, Evictor.ofSettings s.eviction = .ok evictor := by
    unfold Evictor.ofSettings
    rw [heviction]
    exact ⟨_, rfl⟩
  obtain ⟨keyspace, hcreate⟩ := Keyspace.exists_create
    (o := { shards := s.general.shards, settings := s.eviction, entropy }) hshards
  obtain ⟨evictor, hevictor⟩ := hevictor
  refine ⟨keyspace, evictor, Keyspace.created_of_create hcreate, hevictor, ?_⟩
  unfold start
  rw [hcreate, hevictor]
  rfl

/-! ## The parts -/

/-- A run whose keyspace and tally have gone on. -/
def goOn (r : Run) (keyspace : Keyspace) (tally : Tally) : Run :=
  { r with scene := { r.scene with site := { r.scene.site with keyspace } }, tally }

/-- A run after a check, which counts a refusal. -/
def goOnFrom (r : Run) (scene : Scene Site) : Outcome → Run
  | .ok => { r with scene }
  | .blocked _ => { r with scene, tally := { r.tally with blocked := r.tally.blocked + 1 } }

variable {clock : Clock Site} {t : Target} {now : Moment} {ks : Keyspace}

/-- A read goes on with the keyspace as the read left it, and counts a hit or a miss. -/
theorem read_of_get {found : Option Bytes}
    (hget : r.scene.site.keyspace.get t.shard t.key now = (found, ks)) :
    Run.read t now r = (found.isSome, r.goOn ks
      (if found.isSome then { r.tally with hits := r.tally.hits + 1 }
        else { r.tally with misses := r.tally.misses + 1 })) := by
  unfold Run.read Site.onKeyspace
  dsimp only
  rw [hget]
  rfl

/-- A check goes on with the scene as the evictor left it. -/
theorem exists_check_of_ensure {c : CheckResult Site} {outcome : Outcome}
    (hensure : Evictor.ensure Site.dataset Site.tracked clock r.scene = some c)
    (hanswer : c.answer = .ok outcome) : ∃ notices,
      check (.tracked clock) r
        = .ok (decide (outcome = .ok), r.goOnFrom c.scene outcome, notices) := by
  have hensure : Evictor.ensure Site.dataset (Environment.tracked clock).server
      (Environment.tracked clock).clock r.scene = some c := hensure
  unfold check
  rw [hensure]
  dsimp only
  rw [hanswer]
  cases outcome with
  | ok => exact ⟨_, rfl⟩
  | blocked reason => exact ⟨_, rfl⟩

/-- A write draws whether the key is to expire, and goes on if the keyspace takes the key. -/
theorem exists_write_of_set (s : Settings) (value : Bytes) (t : Target) (now : Moment) (r : Run) :
    ∃ ttl random, ∀ ks, r.scene.site.keyspace.set t.shard t.key value ttl now = .ok ks →
      write s value t now r
        = .ok { r.goOn ks { r.tally with sets := r.tally.sets + 1 } with random } := by
  refine ⟨if (drawPercent s.workload.volatilePercent r.random).1 then some ⟨s.workload.ttl, 0⟩
    else none, (drawPercent s.workload.volatilePercent r.random).2, ?_⟩
  intro ks hset
  unfold write
  dsimp only
  rw [hset]
  rfl

/-- Usage can be reported, and the keyspace is drained before it is. -/
theorem exists_usage (b : Budget) (site : Site) : ∃ usage,
    b.report Site.tracked site = (.ok usage, { site with keyspace := site.keyspace.drain }) := by
  unfold Budget.report
  dsimp only [Site.tracked]
  split
  all_goals exact ⟨_, rfl⟩

theorem exists_report (clock : Clock Site) (done : Nat) (r : Run) : ∃ notice,
    report (.tracked clock) done r
      = .ok (r.goOn r.scene.site.keyspace.drain r.tally, notice) := by
  obtain ⟨usage, husage⟩ := exists_usage r.scene.evictor.budget r.scene.site
  have husage : r.scene.evictor.budget.report (Environment.tracked clock).server r.scene.site
      = _ := husage
  unfold report
  rw [husage]
  exact ⟨_, rfl⟩

/-! ## What the parts keep -/

/-- What the parts of an operation keep. `J` holds between operations, by their number. After a read
that finds nothing `M` holds, and `W` once the budget lets the key be written. -/
structure Keeps (s : Settings) (env : Environment) (value : Bytes) (J : Nat → Run → Prop)
    (M W : Target → Nat → Run → Prop) : Prop where
  hit {done : Nat} {r r' : Run} (h : J done r)
    (hread : Run.read (draw s r).1 (env.clock.now r.scene.site) (draw s r).2 = (true, r')) :
    J (done + 1) r'
  miss {done : Nat} {r r' : Run} (h : J done r)
    (hread : Run.read (draw s r).1 (env.clock.now r.scene.site) (draw s r).2 = (false, r')) :
    M (draw s r).1 (done + 1) r'
  check {t : Target} {done : Nat} {r : Run} (h : M t done r) :
    ∃ may r' notices, check env r = .ok (may, r', notices) ∧
      (may = true → W t done r') ∧ (may = false → J done r')
  write {t : Target} {done : Nat} {r : Run} (h : W t done r) :
    ∃ r', write s value t (env.clock.now r.scene.site) r = .ok r' ∧ J done r'
  report {done : Nat} {r : Run} (h : J done r) (n : Nat) :
    ∃ r' notice, report env n r = .ok (r', notice) ∧ J done r'

namespace Keeps

variable {J : Nat → Run → Prop} {M W : Target → Nat → Run → Prop} {done : Nat}

theorem exists_readOrWrite (hk : Keeps s env value J M W) (h : J done r) :
    ∃ r' notices, readOrWrite s env value r = .ok (r', notices) ∧ J (done + 1) r' := by
  unfold readOrWrite
  dsimp only
  rcases hread : Run.read (draw s r).1 (env.clock.now (draw s r).2.scene.site) (draw s r).2
    with ⟨_ | _, r₁⟩
  · have hmissed := hk.miss h hread
    obtain ⟨_ | _, r₂, notices, hcheck, hmay, hmust⟩ := hk.check hmissed
    · refine ⟨r₂, notices, ?_, hmust rfl⟩
      dsimp only
      rw [hcheck]
    · obtain ⟨r₃, hwrite, hdone⟩ := hk.write (hmay rfl)
      refine ⟨r₃, notices, ?_, hdone⟩
      dsimp only
      rw [hcheck]
      dsimp only
      rw [hwrite]
      rfl
  · exact ⟨r₁, [], rfl, hk.hit h hread⟩

theorem exists_step (hk : Keeps s env value J M W) (h : J done r) :
    ∃ r' notices, step s env value done r = .ok (r', notices) ∧ J (done + 1) r' := by
  obtain ⟨r₁, notices, hop, hdone⟩ := hk.exists_readOrWrite h
  unfold step
  rw [hop]
  dsimp only
  split
  · obtain ⟨r₂, notice, hreport, hdone⟩ := hk.report hdone (done + 1)
    rw [hreport]
    exact ⟨r₂, _, rfl, hdone⟩
  · exact ⟨r₁, notices, rfl, hdone⟩

/-- What the parts keep, a run keeps, however many operations it takes. -/
theorem exists_loop (hk : Keeps s env value J M W) (h : J done r) (left : Nat)
    (log : List Notice) :
    ∃ r' log', loop s env value left done r log = .ok (r', log') ∧ J (done + left) r' := by
  induction left generalizing done r log with
  | zero => exact ⟨r, log, rfl, h⟩
  | succ left ih =>
    obtain ⟨r₁, notices, hstep, hdone⟩ := hk.exists_step h
    obtain ⟨r', log', hloop, hend⟩ := ih hdone (notices.reverse ++ log)
    refine ⟨r', log', ?_, ?_⟩
    · unfold loop
      rw [hstep]
      exact hloop
    · rwa [Nat.add_right_comm] at hend

end Keeps

/-- A run whose hot keys can be counted, and whose operations and summary succeed, comes to its
end. -/
theorem exists_execute {wall : ManualClock} {entropy : Nat} {r' run : Run} {log : List Notice}
    {x : Summary} (hstart : start s wall entropy = .ok (r, value)) (hfits : s.workload.Fits)
    (hloop : loop s env value s.general.operations 0 r [] = .ok (r', log))
    (hfinish : finish s env r' = .ok (run, x)) :
    ∃ notices, execute s env wall entropy = .ok ⟨run, x, notices⟩ := by
  unfold execute complete
  simp only [hstart, countHot_of_fits hfits, hloop, hfinish, bind, Except.bind, pure, Except.pure]
  exact ⟨_, rfl⟩

end Run

/-! ## A small run -/

/-- Sixty operations on eight keys, half of which are to expire, with room for three of them. -/
def Settings.small : Settings where
  general := { operations := 60, shards := 2 }
  eviction := { policy := .allKeysLru, maxMemory := 160, seed := some 7 }
  workload := { keys := 8, keyLength := 2, valueLength := 3, volatilePercent := 50, ttl := 1 }

theorem Settings.validate_small : Settings.small.validate = .ok () := rfl

end SampledEviction.Benchmark
