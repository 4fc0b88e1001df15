import SampledEviction.Proofs.Benchmark.Parts
import SampledEviction.Proofs.Keyspace.Contract
import SampledEviction.Proofs.Keyspace.Records

/-!
# The memory of a run

A run checks the budget before every write, and writes one entry of a known size. So it exceeds the
budget by no more than one entry, whatever the policy evicts and also if it evicts nothing.

* `Sound.get_le`, `Sound.set_le` — what a read and a write do to the counter
* `Confined.exists_ensure` — a check that lets a write follow ends within budget
* `exists_within_allowance` — the counter after any number of operations
-/

namespace SampledEviction

/-! ## Sizes -/

namespace Xoshiro

theorem size_append_lowBytes (out : Array UInt8) (n : Nat) (x : UInt64) :
    (out ++ lowBytes n x).size = out.size + n := by
  rw [← Array.length_toList, Array.toList_appendList, List.length_append, lowBytes,
    List.length_map, List.length_range, Array.length_toList]

theorem size_words (k : Nat) (g : Xoshiro) (out : Array UInt8) :
    (bytes.words k g out).1.size = out.size + 8 * k := by
  induction k generalizing g out with
  | zero => rfl
  | succ k ih =>
    rw [bytes.words, ih, size_append_lowBytes]
    omega

/-- A random string is as long as it is asked to be. -/
theorem size_bytes (n : Nat) (g : Xoshiro) : (g.bytes n).1.size = n := by
  have hwords : (bytes.words (n / 8) g #[]).1.size = 8 * (n / 8) :=
    (size_words _ _ _).trans (Nat.zero_add _)
  unfold bytes
  dsimp only
  split
  · show (bytes.words (n / 8) g #[]).1.size = n
    omega
  · split
    · show (_ ++ lowBytes (n % 8) _ : Array UInt8).size = n
      rw [size_append_lowBytes, hwords]
      omega
    · show (_ ++ lowBytes (n % 8) _ : Array UInt8).size = n
      rw [size_append_lowBytes, hwords]
      omega

end Xoshiro

/-! ## Reads and writes -/

namespace Keyspace

variable {ks ks' : Keyspace} {shard : Nat} {key value : Bytes} {now : Moment}

/-- Without a reclaimer, no operation makes one. -/
theorem reclaimer_perform (hsync : ks.reclaimer = none) (op : Operation) :
    (ks.perform op).reclaimer = none := by
  rw [← run_moves]
  refine List.foldlRecOn (motive := fun ks : Keyspace => ks.reclaimer = none) _ _ hsync ?_
  intro ks hks m _
  cases m with
  | announce => exact congrArg (Option.map _) hks
  | send bytes => exact congrArg (Option.map _) hks
  | add bytes => exact hks
  | sub bytes => exact hks

/-- A read puts no charge on the counter. -/
theorem Sound.get_le (h : ks.Sound) (shard : Nat) (key : Bytes) (now : Moment) :
    (ks.get shard key now).2.Sound ∧
      (ks.get shard key now).2.memory.bytes ≤ ks.memory.bytes := by
  have hnone (bytes : Nat) : .add bytes ∉ ks.moves (.get shard key now) := by
    unfold moves
    dsimp only
    split
    · exact ks.add_notMem_removalMoves shard key false bytes
    · exact List.not_mem_nil
  have hsound : (ks.perform (.get shard key now)).Sound :=
    h.perform _ fun bytes hadd => absurd hadd (hnone bytes)
  have hcredit : tally Move.credit (ks.moves (.get shard key now)) = 0 := by
    rw [tally_eq_zero_iff]
    intro m hm
    cases m with
    | add bytes => exact absurd hm (hnone bytes)
    | _ => rfl
  have hle := h.held_perform_le (.get shard key now)
  rw [hcredit, Nat.add_zero, ← hsound.bytes, ← h.bytes] at hle
  exact ⟨hsound, hle⟩

/-- A write puts at most the charge of its entry on the counter. -/
theorem Sound.set_le (h : ks.Sound) {ttl : Option Duration}
    (hset : ks.set shard key value ttl now = .ok ks')
    (hfits : ks.memory.bytes + charge key value ttl.isSome < Word.modulus) :
    ks'.Sound ∧ ks'.memory.bytes ≤ ks.memory.bytes + charge key value ttl.isSome := by
  have hperform : ks.perform (.set shard key value ttl now) = ks' := by
    simp only [Keyspace.perform, hset]
  have hcredit : tally Move.credit (ks.moves (.set shard key value ttl now))
      ≤ charge key value ttl.isSome := by
    unfold moves
    dsimp only
    repeat' split
    all_goals simp [Move.credit]
  have hle := h.held_perform_le (.set shard key value ttl now)
  rw [hperform, ← h.bytes] at hle
  have hsound : ks'.Sound := by
    rw [← hperform]
    refine h.perform _ ?_
    intro _ _
    rw [hperform]
    omega
  rw [← hsound.bytes] at hle
  exact ⟨hsound, Nat.le_trans hle (Nat.add_le_add_left hcredit _)⟩

/-! ## Checks -/

namespace Site

open Evictor

/-- A scene of a run without a reclaimer, in which `limit` bytes are used at most. The evictor is
made from its settings, and the server keeps it from nothing. -/
structure Confined (settings : Settings) (shards limit : Nat) (s : Scene Site) : Prop where
  sound : s.site.keyspace.Sound
  sync : s.site.keyspace.reclaimer = none
  size : s.site.keyspace.shards.size = shards
  server : ∃ flushes evicted, s.site.server = { flushes, evicted }
  coherent : s.evictor.Coherent
  settings_eq : s.evictor.settings = settings
  bytes_le : s.site.keyspace.memory.bytes ≤ limit

namespace Confined

variable {settings : Settings} {shards limit limit' : Nat} {s s' : Scene Site}

theorem mayEvict (h : Confined settings shards limit s) :
    s.evictor.mayEvict tracked s.site = true := by
  obtain ⟨flushes, evicted, hserver⟩ := h.server
  unfold Evictor.mayEvict
  show (!s.site.server.suspended && !(s.site.server.isReplica && _) && !s.site.server.paused) = true
  rw [hserver]
  rfl

theorem overhead (h : Confined settings shards limit s) : s.site.server.overhead = 0 := by
  obtain ⟨flushes, evicted, hserver⟩ := h.server
  rw [hserver]

/-- A scene that is confined to less. -/
theorem tighten (h : Confined settings shards limit s)
    (hle : s.site.keyspace.memory.bytes ≤ limit') : Confined settings shards limit' s :=
  { h with bytes_le := hle }

theorem of_synced (h : Confined settings shards limit s) (hkept : Kept s.evictor s'.evictor)
    (hsynced : s.site.Synced s'.site) : Confined settings shards limit s' where
  sound := hsynced.sound
  sync := hsynced.sync
  size := hsynced.shards.trans h.size
  server := by
    obtain ⟨_, _, hserver⟩ := h.server
    obtain ⟨flushes, evicted, hserver'⟩ := hsynced.server
    exact ⟨flushes, evicted, by rw [hserver', hserver]⟩
  coherent := h.coherent.kept hkept
  settings_eq := hkept.settings.trans h.settings_eq
  bytes_le := Nat.le_trans hsynced.bytes_le h.bytes_le

/-- A check answers, and if it lets a write follow, it ends within budget. A policy that never
evicts refuses the write instead. -/
theorem exists_ensure (h : Confined settings shards limit s) (hbounded : 0 < settings.maxMemory)
    (hshards : shards < Word.modulus) (hlimit : limit < Word.modulus) (clock : Clock Site) :
    ∃ c outcome, ensure dataset tracked clock s = some c ∧ c.answer = .ok outcome ∧
      Confined settings shards limit c.scene ∧
      (outcome = .ok → Confined settings shards settings.maxMemory c.scene) := by
  have hfits : s.site.keyspace.memory.bytes + s.site.server.overhead < Word.modulus := by
    rw [h.overhead]
    exact Nat.lt_of_le_of_lt h.bytes_le hlimit
  have hbudget : s.evictor.settings.maxMemory ≠ 0 := by
    rw [h.settings_eq]
    exact Nat.ne_of_gt hbounded
  cases hevicts : s.evictor.settings.policy.evicts with
  | true =>
    have hs : Ready s := ⟨h.sound, h.size ▸ hshards, h.sync, hfits, h.coherent, hevicts, hbudget,
      h.mayEvict⟩
    obtain ⟨r, hensure, -, hended⟩ := hs.exists_ensure clock
    have hconfined : Confined settings shards limit (r.map Recorded.site).scene :=
      h.of_synced hended.kept hended.synced
    rcases hended.answer with ⟨hanswer, hwithin⟩ | ⟨hanswer, -, -⟩
    · rw [h.settings_eq] at hwithin
      exact ⟨_, .ok, hensure, hanswer, hconfined, fun _ => hconfined.tighten hwithin⟩
    · exact ⟨_, _, hensure, hanswer, hconfined, nofun⟩
  | false =>
    have hlook := overage?_of_sync h.sync hfits hbudget
    rw [← h.coherent.budget] at hlook
    unfold ensure ensureWithin
    rw [if_neg (by rw [h.mayEvict]; exact Bool.noConfusion), hlook]
    by_cases hwithin : s.site.keyspace.memory.bytes ≤ s.evictor.settings.maxMemory
    · rw [if_pos hwithin]
      rw [h.settings_eq] at hwithin
      exact ⟨_, .ok, rfl, rfl, h, fun _ => h.tighten hwithin⟩
    · rw [if_neg hwithin, hevicts]
      have hsynced := Synced.refl h.sound h.sync
      exact ⟨_, .blocked .noEviction, rfl, rfl, h.of_synced ⟨rfl, rfl, rfl, rfl⟩ hsynced, nofun⟩

end Confined

end Site

end Keyspace

namespace Benchmark

open Keyspace (Site)

/-! ## A run -/

/-- The most that an entry of a workload is charged. -/
def Workload.largestCharge (w : Workload) : Nat :=
  w.keyLength + w.valueLength + Keyspace.entryOverhead + Keyspace.deadlineOverhead

namespace Run

open Keyspace.Site (Confined)

variable {s : Settings} {value : Bytes} {limit limit' : Nat} {t : Target} {r : Run}

/-- A run in which `limit` bytes are used at most. -/
def Within (s : Settings) (limit : Nat) (r : Run) : Prop :=
  Confined s.eviction s.general.shards limit r.scene

/-- A target of a run: its shard exists, and its key is of the length that is asked for. -/
structure Aimed (s : Settings) (t : Target) : Prop where
  shard : t.shard < s.general.shards
  key : t.key.size = s.workload.keyLength

theorem aimed_draw (h : Within s limit r) (hshards : 0 < s.general.shards) :
    Aimed s (draw s r).1 where
  shard := by
    have hsize : r.scene.site.keyspace.shards.size = s.general.shards := h.size
    have hlt := draw_shard_lt (s := s) (r := r) (by rwa [hsize])
    rwa [hsize] at hlt
  key := size_key _ _

/-- A run goes on within a limit, if its keyspace does. -/
theorem Within.goOn (h : Within s limit r) {ks : Keyspace} (tally : Tally) (hsound : ks.Sound)
    (hsync : ks.reclaimer = none) (hsize : ks.shards.size = r.scene.site.keyspace.shards.size)
    (hle : ks.memory.bytes ≤ limit') : Within s limit' (r.goOn ks tally) where
  sound := hsound
  sync := hsync
  size := hsize.trans h.size
  server := h.server
  coherent := h.coherent
  settings_eq := h.settings_eq
  bytes_le := hle

theorem Within.read (h : Within s limit r) (t : Target) (now : Moment) :
    Within s limit (Run.read t now r).2 := by
  obtain ⟨hsound, hle⟩ := h.sound.get_le t.shard t.key now
  have hsync := Keyspace.reclaimer_perform h.sync (.get t.shard t.key now)
  have hchange : r.scene.site.keyspace.Change (r.scene.site.keyspace.get t.shard t.key now).2 :=
    .get _ _ _
  rw [read_of_get rfl]
  exact h.goOn _ hsound hsync hchange.size_shards (Nat.le_trans hle h.bytes_le)

theorem Within.check (h : Within s limit r) (hbounded : 0 < s.eviction.maxMemory)
    (hshards : s.general.shards < Word.modulus) (hlimit : limit < Word.modulus)
    (clock : Clock Site) :
    ∃ may r' notices, Run.check (.tracked clock) r = .ok (may, r', notices) ∧ Within s limit r' ∧
      (may = true → Within s s.eviction.maxMemory r') := by
  obtain ⟨c, outcome, hensure, hanswer, hconfined, hmet⟩ :=
    Confined.exists_ensure h hbounded hshards hlimit clock
  obtain ⟨notices, hcheck⟩ := exists_check_of_ensure hensure hanswer
  refine ⟨_, _, notices, hcheck, ?_⟩
  cases outcome with
  | ok => exact ⟨hconfined, fun _ => hmet rfl⟩
  | blocked reason => exact ⟨hconfined, nofun⟩

/-- A write that was let through adds one entry at most. -/
theorem Within.write (h : Within s s.eviction.maxMemory r) (ht : Aimed s t)
    (hvalue : value.size = s.workload.valueLength)
    (hfits : s.eviction.maxMemory + s.workload.largestCharge < Word.modulus) (now : Moment) :
    ∃ r', Run.write s value t now r = .ok r' ∧
      Within s (s.eviction.maxMemory + s.workload.largestCharge) r' := by
  have hshard : t.shard < r.scene.site.keyspace.shards.size := by
    have hsize : r.scene.site.keyspace.shards.size = s.general.shards := h.size
    rw [hsize]
    exact ht.shard
  obtain ⟨ttl, random, hwrite⟩ := exists_write_of_set s value t now r
  obtain ⟨ks, hset, -, hrewritten⟩ := h.sound.tidy.exists_set hshard t.key value ttl now
  have hcharge : Keyspace.charge t.key value ttl.isSome ≤ s.workload.largestCharge := by
    unfold Keyspace.charge Workload.largestCharge
    rw [ht.key, hvalue]
    split <;> omega
  have hbytes : r.scene.site.keyspace.memory.bytes ≤ s.eviction.maxMemory := h.bytes_le
  obtain ⟨hsound, hle⟩ := h.sound.set_le hset (by omega)
  have hsync := Keyspace.reclaimer_perform h.sync (.set t.shard t.key value ttl now)
  simp only [Keyspace.perform, hset] at hsync
  have hafter : Within s (s.eviction.maxMemory + s.workload.largestCharge)
      (r.goOn ks { r.tally with sets := r.tally.sets + 1 }) :=
    h.goOn _ hsound hsync hrewritten.size (by omega)
  exact ⟨_, hwrite ks hset, hafter⟩

/-- Without a reclaimer, a report finds nothing to release. -/
theorem Within.drain (h : Within s limit r) :
    Within s limit (r.goOn r.scene.site.keyspace.drain r.tally) := by
  rw [Site.drain_of_sync h.sync]
  exact h

/-- What a run within its allowance keeps in each part of an operation. -/
theorem keeps_within (hshards : 0 < s.general.shards) (hword : s.general.shards < Word.modulus)
    (hbounded : 0 < s.eviction.maxMemory)
    (hfits : s.eviction.maxMemory + s.workload.largestCharge < Word.modulus)
    (hvalue : value.size = s.workload.valueLength) (clock : Clock Site) :
    Keeps s (.tracked clock) value
      (fun _ r => Within s (s.eviction.maxMemory + s.workload.largestCharge) r)
      (fun t _ r => Aimed s t ∧ Within s (s.eviction.maxMemory + s.workload.largestCharge) r)
      fun t _ r => Aimed s t ∧ Within s s.eviction.maxMemory r where
  hit {_ r r'} h hread := by
    have hafter := Within.read (r := (draw s r).2) h (draw s r).1
      ((Environment.tracked clock).clock.now r.scene.site)
    rwa [hread] at hafter
  miss {_ r r'} h hread := by
    have hafter := Within.read (r := (draw s r).2) h (draw s r).1
      ((Environment.tracked clock).clock.now r.scene.site)
    rw [hread] at hafter
    exact ⟨aimed_draw h hshards, hafter⟩
  check h := by
    obtain ⟨ht, hwithin⟩ := h
    obtain ⟨may, r', notices, hcheck, hafter, hmet⟩ := hwithin.check hbounded hword hfits clock
    exact ⟨may, r', notices, hcheck, fun hmay => ⟨ht, hmet hmay⟩, fun _ => hafter⟩
  write h := h.2.write h.1 hvalue hfits _
  report {_ r} h n := by
    obtain ⟨notice, hreport⟩ := exists_report clock n r
    exact ⟨_, notice, hreport, h.drain⟩

/-- A run starts with nothing used. -/
theorem within_opening {o : Keyspace.Options} {keyspace : Keyspace} {evictor : Evictor}
    (hcreated : Keyspace.Created o keyspace) (hshards : o.shards = s.general.shards)
    (hbackground : o.background.getD o.settings.lazy = false)
    (hevictor : Evictor.ofSettings s.eviction = .ok evictor) (wall : ManualClock) (limit : Nat) :
    Within s limit (opening s wall keyspace evictor) where
  sound := hcreated.sound
  sync := by
    show keyspace.reclaimer = none
    rw [hcreated.reclaimer, hbackground, if_neg Bool.false_ne_true]
  size := hcreated.size.trans hshards
  server := ⟨0, 0, rfl⟩
  coherent := .ofSettings hevictor
  settings_eq := by
    obtain ⟨-, rfl⟩ := Evictor.ofSettings_cases hevictor
    rfl
  bytes_le := by
    show keyspace.memory.bytes ≤ limit
    rw [hcreated.memory]
    exact Nat.zero_le limit

end Run

open Run in
/-- A run whose usage is the counter of its keyspace, without background releases, takes any number
of operations on any clock. After each of them it uses no more than its budget and one entry. -/
theorem exists_within_allowance {s : Settings} (hvalid : s.validate = .ok ())
    (hmemory : s.general.memory = .keyspace) (hlazy : s.eviction.lazy = false)
    (hword : s.general.shards < Word.modulus) (hbounded : 0 < s.eviction.maxMemory)
    (hfits : s.eviction.maxMemory + s.workload.largestCharge < Word.modulus) (clock : Clock Site)
    (bytes : Nat) (wall : ManualClock) (entropy : Nat) :
    ∃ r value, start s wall entropy = .ok (r, value) ∧ ∀ n, ∃ r' log,
      loop s (.ofSettings s bytes clock) value n 0 r [] = .ok (r', log) ∧
      r'.scene.site.keyspace.memory.bytes ≤ s.eviction.maxMemory + s.workload.largestCharge := by
  rw [Environment.ofSettings_of_keyspace hmemory]
  obtain ⟨-, hshards, -⟩ := Settings.validate_iff.mp hvalid
  obtain ⟨keyspace, evictor, hcreated, hevictor, hstart⟩ := exists_start hvalid wall entropy
  have hvalue : (payload s).size = s.workload.valueLength := Xoshiro.size_bytes _ _
  have hk := keeps_within hshards hword hbounded hfits hvalue clock
  have hfirst := within_opening hcreated rfl hlazy hevictor wall
    (s.eviction.maxMemory + s.workload.largestCharge)
  refine ⟨_, _, hstart, ?_⟩
  intro n
  obtain ⟨r', log, hloop, hend⟩ := hk.exists_loop hfirst n []
  exact ⟨r', log, hloop, hend.bytes_le⟩

/-- The run of sixty operations, on a clock that stands still. -/
theorem exists_within_allowance_small :
    (Settings.small.validate = .ok () ∧ Settings.small.general.memory = .keyspace ∧
      Settings.small.eviction.lazy = false ∧ Settings.small.general.shards < Word.modulus ∧
      0 < Settings.small.eviction.maxMemory ∧
      Settings.small.eviction.maxMemory + Settings.small.workload.largestCharge < Word.modulus) ∧
    ∃ r value, Run.start .small {} 0 = .ok (r, value) ∧ ∀ n, ∃ r' log,
      Run.loop .small (.ofSettings .small 0 Site.frozen) value n 0 r [] = .ok (r', log) ∧
      r'.scene.site.keyspace.memory.bytes ≤ 160 + 85 := by
  have hword : Settings.small.general.shards < Word.modulus := by decide
  have hbounded : 0 < Settings.small.eviction.maxMemory := by decide
  have hfits : Settings.small.eviction.maxMemory + Settings.small.workload.largestCharge
      < Word.modulus := by decide
  exact ⟨⟨Settings.validate_small, rfl, rfl, hword, hbounded, hfits⟩,
    exists_within_allowance Settings.validate_small rfl rfl hword hbounded hfits Site.frozen 0 {} 0⟩

end Benchmark

end SampledEviction
