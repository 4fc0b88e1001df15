import SampledEviction.Proofs.Search
import SampledEviction.Proofs.Simulation

/-!
# Ledgers

A ledger lists what a check of the budget did to its site, the latest first. It is kept beside
the site: a *recorded* site answers as the site does and notes every deed, so the check itself
is not rewritten.

* `exists_recorded` — a check at a recorded site is the check at the site
* `findVictim_recorded` — a search is no deed
* `deleteVictim_recorded`, `settleDeletion_deeds`, `overage?_recorded` — the deeds of a step
* `awaitReleases_recorded` — the deeds of a wait, and how they end
-/

namespace SampledEviction

variable {σ : Type}

/-- Something that a check did to its site, or asked of it. -/
inductive Deed (σ : Type) where
  /-- Usage was read. -/
  | read (answer : Except EvictionError Nat) (after : σ)
  /-- The exempt bytes were read. -/
  | exempted (bytes : Nat)
  /-- A key was to be deleted. -/
  | deleted (before : σ) (victim : Victim) (removed : Bool)
  /-- The server was told of an evicted key. -/
  | told (victim : Victim) (after : σ)
  /-- Replica output was flushed. -/
  | flushed
  /-- The releases still to come were counted. -/
  | polled (pending : Nat)
  /-- The clock was waited on. -/
  | slept (millis : Nat)

/-- A site and what was done there, the latest first. -/
structure Recorded (σ : Type) where
  site : σ
  deeds : List (Deed σ)

namespace Recorded

/-- The dataset of a recorded site. -/
def dataset (d : Dataset σ) : Dataset (Recorded σ) where
  shards r := d.shards r.site
  count r := d.count r.site
  sample shard scope n r := (d.sample shard scope n r.site).map id (⟨·, r.deeds⟩)
  stamp? r := d.stamp? r.site
  contains r := d.contains r.site
  randomKey shard scope r := (d.randomKey shard scope r.site).map id (⟨·, r.deeds⟩)
  delete shard key r :=
    let (removed, site) := d.delete shard key r.site
    (removed, ⟨site, .deleted r.site ⟨shard, key⟩ removed :: r.deeds⟩)
  deleteDeferred shard key r :=
    let (removed, site) := d.deleteDeferred shard key r.site
    (removed, ⟨site, .deleted r.site ⟨shard, key⟩ removed :: r.deeds⟩)
  pendingReleases r :=
    let (pending, site) := d.pendingReleases r.site
    (pending, ⟨site, .polled pending :: r.deeds⟩)

/-- The server of a recorded site. -/
def server (s : Server σ) : Server (Recorded σ) where
  usedBytes r :=
    let (answer, site) := s.usedBytes r.site
    (answer, ⟨site, .read answer site :: r.deeds⟩)
  exemptBytes r :=
    let (bytes, site) := s.exemptBytes r.site
    (bytes, ⟨site, .exempted bytes :: r.deeds⟩)
  hasReplicas r := s.hasReplicas r.site
  flushReplicas r := ⟨s.flushReplicas r.site, .flushed :: r.deeds⟩
  clientsPaused r := s.clientsPaused r.site
  isReplica r := s.isReplica r.site
  suspended r := s.suspended r.site
  evicted shard key r :=
    let site := s.evicted shard key r.site
    ⟨site, .told ⟨shard, key⟩ site :: r.deeds⟩

/-- The clock of a recorded site. -/
def clock (c : Clock σ) : Clock (Recorded σ) where
  seconds r := c.seconds r.site
  sleep ms r := ⟨c.sleep ms r.site, .slept ms :: r.deeds⟩

variable {d : Dataset σ} {s : Server σ} {c : Clock σ}

/-! ## A recorded site answers as the site does -/

theorem dataset_alike (d : Dataset σ) : (dataset d).Alike Recorded.site d where
  shards _ := rfl
  count _ := rfl
  stamp? _ := rfl
  contains _ := rfl
  sample _ _ _ _ := rfl
  randomKey _ _ _ := rfl
  delete _ _ _ := rfl
  deleteDeferred _ _ _ := rfl
  pendingReleases _ := rfl

theorem server_alike (s : Server σ) : (server s).Alike Recorded.site s where
  usedBytes _ := rfl
  exemptBytes _ := rfl
  hasReplicas _ := rfl
  flushReplicas _ := rfl
  clientsPaused _ := rfl
  isReplica _ := rfl
  suspended _ := rfl
  evicted _ _ _ := rfl

theorem clock_alike (c : Clock σ) : (clock c).Alike Recorded.site c where
  seconds _ := rfl
  sleep _ _ := rfl

/-- To a search, a recorded site is a site with deeds that stay. -/
theorem dataset_searchAlike (d : Dataset σ) (deeds : List (Deed σ)) :
    d.SearchAlike (⟨·, deeds⟩) (dataset d) where
  shards _ := rfl
  count _ := rfl
  stamp? _ := rfl
  contains _ := rfl
  sample _ _ _ _ := rfl
  randomKey _ _ _ := rfl

/-! ## The deed of an operation -/

theorem usedBytes_eq {r : Recorded σ} {answer : Except EvictionError Nat} {site : σ}
    (h : s.usedBytes r.site = (answer, site)) :
    (server s).usedBytes r = (answer, ⟨site, .read answer site :: r.deeds⟩) := by
  simp only [server, h]

theorem exemptBytes_eq {r : Recorded σ} {bytes : Nat} {site : σ}
    (h : s.exemptBytes r.site = (bytes, site)) :
    (server s).exemptBytes r = (bytes, ⟨site, .exempted bytes :: r.deeds⟩) := by
  simp only [server, h]

theorem pendingReleases_eq {r : Recorded σ} {n : Nat} {site : σ}
    (h : d.pendingReleases r.site = (n, site)) :
    (dataset d).pendingReleases r = (n, ⟨site, .polled n :: r.deeds⟩) := by
  simp only [dataset, h]

theorem deletion_eq {r : Recorded σ} {lazy removed : Bool} {v : Victim} {site : σ}
    (h : (if lazy then d.deleteDeferred v.shard v.key r.site else d.delete v.shard v.key r.site)
      = (removed, site)) :
    (if lazy then (dataset d).deleteDeferred v.shard v.key r
      else (dataset d).delete v.shard v.key r)
        = (removed, ⟨site, .deleted r.site v removed :: r.deeds⟩) := by
  split at h
  all_goals simp only [dataset, *, if_true, Bool.false_eq_true, if_false]

/-! ## Draws at a recorded site -/

variable {I : σ → Prop}

/-- A draw is no deed. -/
theorem draws (hd : d.Draws I) (deeds : List (Deed σ)) :
    (dataset d).Draws fun r => I r.site ∧ r.deeds = deeds where
  agree h h' := ⟨(hd.agree h.1 h'.1).shards, (hd.agree h.1 h'.1).count,
    (hd.agree h.1 h'.1).contains⟩
  sample h shard scope n :=
    ⟨⟨(hd.sample h.1 shard scope n).1, h.2⟩, (hd.sample h.1 shard scope n).2⟩
  randomKey h shard scope :=
    ⟨⟨(hd.randomKey h.1 shard scope).1, h.2⟩, (hd.randomKey h.1 shard scope).2⟩

theorem served {e : Evictor} (he : e.Served d I) (deeds : List (Deed σ)) :
    e.Served (dataset d) fun r => I r.site ∧ r.deeds = deeds where
  candidates h _ hcount hpool now := he.candidates h.1 hcount hpool now
  randomKey h _ hcount := he.randomKey h.1 hcount

end Recorded

/-- A scene with a ledger. -/
def Scene.recorded (s : Scene σ) (deeds : List (Deed σ)) : Scene (Recorded σ) :=
  ⟨s.evictor, ⟨s.site, deeds⟩⟩

namespace Deed

/-! ## What a ledger tells -/

/-- The keys that were deleted, the latest first. -/
def removals : List (Deed σ) → List Victim
  | [] => []
  | .deleted _ v true :: rest => v :: removals rest
  | _ :: rest => removals rest

/-- The keys that the server was told of, the latest first. -/
def tellings : List (Deed σ) → List Victim
  | [] => []
  | .told v _ :: rest => v :: tellings rest
  | _ :: rest => tellings rest

/-- The readings of usage, the latest first. -/
def readings : List (Deed σ) → List Nat
  | [] => []
  | .read (.ok n) _ :: rest => n :: readings rest
  | _ :: rest => readings rest

/-- The counts of the releases still to come, the latest first. -/
def polls : List (Deed σ) → List Nat
  | [] => []
  | .polled n :: rest => n :: polls rest
  | _ :: rest => polls rest

/-- The bytes by which usage fell between the two readings around each deletion that the
server was told of. -/
def credited : List (Deed σ) → Nat
  | .told _ _ :: .read (.ok after) _ :: .deleted _ _ true :: .read (.ok before) _ :: rest =>
    (before - after) + credited rest
  | _ :: rest => credited rest
  | [] => 0

/-- A deletion is made only at a site where `P` holds. -/
def Meets (P : σ → Prop) : Deed σ → Prop
  | .deleted before _ _ => P before
  | _ => True

theorem removals_eq_nil {P : σ → Prop} {deeds : List (Deed σ)} (h : ∀ deed ∈ deeds, deed.Meets P)
    (hP : ∀ site, ¬ P site) : removals deeds = [] := by
  induction deeds with
  | nil => rfl
  | cons deed deeds ih =>
    have hrest := ih fun deed hdeed => h deed (List.mem_cons_of_mem _ hdeed)
    cases deed with
    | deleted before v removed => exact absurd (h _ List.mem_cons_self) (hP before)
    | _ => exact hrest

end Deed

namespace Evictor

/-- The ledger of a check. -/
def ledger (fuel rounds : Nat) (d : Dataset σ) (server : Server σ) (clock : Clock σ)
    (s : Scene σ) : List (Deed σ) :=
  match ensureWithin fuel rounds (Recorded.dataset d) (Recorded.server server)
    (Recorded.clock clock) (s.recorded []) with
  | some r => r.scene.site.deeds
  | none => []

/-- The ledger of a check as it is made before a write. -/
def ensureLedger (d : Dataset σ) (server : Server σ) (clock : Clock σ) (s : Scene σ) :
    List (Deed σ) :=
  ledger (d.total s.site s.evictor.settings.policy.scope + 2) 2 d server clock s

variable {fuel rounds : Nat} {d : Dataset σ} {server : Server σ} {clock : Clock σ}

/-- A check at a recorded site is the check at the site, and leaves its ledger. -/
theorem exists_recorded {s : Scene σ} {r : CheckResult σ}
    (h : ensureWithin fuel rounds d server clock s = some r) :
    ∃ r', ensureWithin fuel rounds (Recorded.dataset d) (Recorded.server server)
        (Recorded.clock clock) (s.recorded []) = some r' ∧
      r'.map Recorded.site = r ∧ ledger fuel rounds d server clock s = r'.scene.site.deeds := by
  have hmap := ensureWithin_map (Recorded.dataset_alike d) (Recorded.server_alike server)
    (Recorded.clock_alike clock) fuel rounds (s.recorded [])
  have hs : (s.recorded []).map Recorded.site = s := rfl
  rw [hs, h] at hmap
  obtain ⟨r', hr', hr⟩ := Option.map_eq_some_iff.mp hmap.symm
  exact ⟨r', hr', hr, by simp only [ledger, hr']⟩

/-! ## The deeds of a step -/

/-- A search is no deed. -/
theorem findVictim_recorded (rounds : Nat) (d : Dataset σ) (clock : Clock σ) (s : Scene σ)
    (deeds : List (Deed σ)) :
    findVictim rounds (Recorded.dataset d) (Recorded.clock clock) (s.recorded deeds)
      = (findVictim rounds d clock s).map (Prod.map id (Scene.recorded · deeds)) :=
  findVictim_map (Recorded.dataset_searchAlike d deeds) (fun _ => rfl) rounds s

/-- What a search at a recorded site finds is found at the site. -/
theorem findVictim_of_recorded {s : Scene (Recorded σ)} {v : Option Victim}
    {s' : Scene (Recorded σ)}
    (h : findVictim rounds (Recorded.dataset d) (Recorded.clock clock) s = some (v, s')) :
    s'.site.deeds = s.site.deeds ∧
      findVictim rounds d clock ⟨s.evictor, s.site.site⟩
        = some (v, ⟨s'.evictor, s'.site.site⟩) := by
  have hrec := findVictim_recorded rounds d clock ⟨s.evictor, s.site.site⟩ s.site.deeds
  rw [show Scene.recorded ⟨s.evictor, s.site.site⟩ s.site.deeds = s from rfl, h] at hrec
  obtain ⟨⟨w, t⟩, ht, heq⟩ := Option.map_eq_some_iff.mp hrec.symm
  cases heq
  exact ⟨rfl, ht⟩

/-- The deeds of a deletion: a reading, the deletion, and a reading. A reading that fails is
the last of them. -/
inductive DeletionDeeds (v : Victim) (deeds : List (Deed σ)) (site : σ) :
    Except EvictionError (Bool × Nat) → List (Deed σ) → Prop where
  | unreadBefore (e : EvictionError) :
    DeletionDeeds v deeds site (.error e) (.read (.error e) site :: deeds)
  | unreadAfter (e : EvictionError) (removed : Bool) (n : Nat) (site₁ : σ) :
    DeletionDeeds v deeds site (.error e)
      (.read (.error e) site :: .deleted site₁ v removed :: .read (.ok n) site₁ :: deeds)
  | done (removed : Bool) (before after : Nat) (site₁ : σ) :
    DeletionDeeds v deeds site (.ok (removed, before - after))
      (.read (.ok after) site :: .deleted site₁ v removed :: .read (.ok before) site₁ :: deeds)

theorem deleteVictim_recorded (d : Dataset σ) (server : Server σ) (lazy : Bool) (v : Victim)
    (r : Recorded σ) :
    DeletionDeeds v r.deeds
      (deleteVictim (Recorded.dataset d) (Recorded.server server) lazy v r).2.site
      (deleteVictim (Recorded.dataset d) (Recorded.server server) lazy v r).1
      (deleteVictim (Recorded.dataset d) (Recorded.server server) lazy v r).2.deeds := by
  unfold deleteVictim
  rcases hbefore : server.usedBytes r.site with ⟨e | before, site₁⟩
  · rw [Recorded.usedBytes_eq hbefore]
    exact .unreadBefore e
  · rw [Recorded.usedBytes_eq hbefore]
    rcases hdelete : (if lazy then d.deleteDeferred v.shard v.key site₁
      else d.delete v.shard v.key site₁) with ⟨removed, site₂⟩
    simp only [Recorded.deletion_eq (r := ⟨site₁, _⟩) hdelete]
    rcases hafter : server.usedBytes site₂ with ⟨e | after, site₃⟩
    · rw [Recorded.usedBytes_eq (r := ⟨site₂, _⟩) hafter]
      exact .unreadAfter e removed before site₁
    · rw [Recorded.usedBytes_eq (r := ⟨site₂, _⟩) hafter]
      exact .done removed before after site₁

theorem DeletionDeeds.isSuffix {v : Victim} {deeds deeds' : List (Deed σ)} {site : σ}
    {answer : Except EvictionError (Bool × Nat)} (h : DeletionDeeds v deeds site answer deeds') :
    deeds <:+ deeds' := by
  cases h with
  | unreadBefore e => exact ⟨[_], rfl⟩
  | unreadAfter e removed n site₁ => exact ⟨[_, _, _], rfl⟩
  | done removed before after site₁ => exact ⟨[_, _, _], rfl⟩

/-- A deletion is told of, and replica output may be flushed. -/
theorem settleDeletion_deeds (server : Server σ) (c : Cycle (Recorded σ)) (v : Victim)
    (freed : Nat) (r : Recorded σ) :
    ∃ site, (settleDeletion (Recorded.server server) c v freed r).scene.site.deeds
        = .told v site :: r.deeds ∨
      (settleDeletion (Recorded.server server) c v freed r).scene.site.deeds
        = .flushed :: .told v site :: r.deeds := by
  refine ⟨server.evicted v.shard v.key r.site, ?_⟩
  simp only [settleDeletion]
  split
  · exact Or.inr rfl
  · exact Or.inl rfl

/-- The deeds of a look at usage. -/
inductive LookDeeds (limit : Nat) (deeds : List (Deed σ)) (site : σ) :
    Except EvictionError (Option Overage) → List (Deed σ) → Prop where
  | unbounded (h : limit = 0) : LookDeeds limit deeds site (.ok none) deeds
  | unread (e : EvictionError) : LookDeeds limit deeds site (.error e)
      (.read (.error e) site :: deeds)
  | below (total : Nat) (h : total ≤ limit) : LookDeeds limit deeds site (.ok none)
      (.read (.ok total) site :: deeds)
  | netBelow (total exempt : Nat) (site₁ : σ) (h : total - exempt ≤ limit) :
    LookDeeds limit deeds site (.ok none) (.exempted exempt :: .read (.ok total) site₁ :: deeds)
  | above (total exempt : Nat) (site₁ : σ) (hlimit : limit ≠ 0) (h : limit < total - exempt) :
    LookDeeds limit deeds site (.ok (some ⟨total, total - exempt, total - exempt - limit⟩))
      (.exempted exempt :: .read (.ok total) site₁ :: deeds)

theorem overage?_recorded (server : Server σ) (b : Budget) (r : Recorded σ) :
    LookDeeds b.limit r.deeds (b.overage? (Recorded.server server) r).2.site
      (b.overage? (Recorded.server server) r).1
      (b.overage? (Recorded.server server) r).2.deeds := by
  unfold Budget.overage?
  split
  · exact .unbounded ‹_›
  rcases hread : server.usedBytes r.site with ⟨e | total, site₁⟩
  · rw [Recorded.usedBytes_eq hread]
    exact .unread e
  · rcases hexempt : server.exemptBytes site₁ with ⟨exempt, site₂⟩
    simp only [Recorded.usedBytes_eq hread, Recorded.exemptBytes_eq (r := ⟨site₁, _⟩) hexempt]
    split
    · exact .below total ‹_›
    · split
      · exact .netBelow total exempt site₁ ‹_›
      · exact .above total exempt site₁ ‹_› (by omega)

theorem LookDeeds.isSuffix {limit : Nat} {deeds deeds' : List (Deed σ)} {site : σ}
    {answer : Except EvictionError (Option Overage)}
    (h : LookDeeds limit deeds site answer deeds') : deeds <:+ deeds' := by
  cases h with
  | unbounded _ => exact List.suffix_rfl
  | unread e => exact ⟨[_], rfl⟩
  | below total _ => exact ⟨[_], rfl⟩
  | netBelow total exempt site₁ _ => exact ⟨[_, _], rfl⟩
  | above total exempt site₁ _ _ => exact ⟨[_, _], rfl⟩

theorem LookDeeds.meets {P : σ → Prop} {limit : Nat} {deeds deeds' : List (Deed σ)} {site : σ}
    {answer : Except EvictionError (Option Overage)} (h : LookDeeds limit deeds site answer deeds')
    (hdeeds : ∀ deed ∈ deeds, deed.Meets P) : ∀ deed ∈ deeds', deed.Meets P := by
  cases h with
  | unbounded _ => exact hdeeds
  | unread e => exact List.forall_mem_cons.mpr ⟨trivial, hdeeds⟩
  | below total _ => exact List.forall_mem_cons.mpr ⟨trivial, hdeeds⟩
  | netBelow total exempt site₁ _ =>
    exact List.forall_mem_cons.mpr ⟨trivial, List.forall_mem_cons.mpr ⟨trivial, hdeeds⟩⟩
  | above total exempt site₁ _ _ =>
    exact List.forall_mem_cons.mpr ⟨trivial, List.forall_mem_cons.mpr ⟨trivial, hdeeds⟩⟩

/-! ## The deeds of a wait -/

/-- A deed of a wait: a poll, a reading or a sleep. -/
def Waiting : Deed σ → Prop
  | .read _ _ | .polled _ | .slept _ => True
  | _ => False

/-- How a wait ends, with its deeds: after a look at usage, unless the first poll finds nothing
to wait for. -/
inductive WaitDeeds (o : Overage) (freed : Nat) (deeds : List (Deed σ)) (site : σ) :
    Except EvictionError Outcome → List (Deed σ) → Prop where
  | idle : WaitDeeds o freed deeds site (.ok (.blocked .noCandidates)) (.polled 0 :: deeds)
  | unread (e : EvictionError) (n : Nat) (rest : List (Deed σ))
    (hrest : ∀ deed ∈ rest, Waiting deed) : WaitDeeds o freed deeds site (.error e)
      (.read (.error e) site :: .polled n :: (rest ++ deeds))
  | reclaimed (used n : Nat) (rest : List (Deed σ)) (hrest : ∀ deed ∈ rest, Waiting deed)
    (h : o.excess ≤ Word.add (o.total - used) freed) :
    WaitDeeds o freed deeds site (.ok .ok)
      (.read (.ok used) site :: .polled n :: (rest ++ deeds))
  | short (used n : Nat) (rest : List (Deed σ)) (hrest : ∀ deed ∈ rest, Waiting deed)
    (h : ¬ o.excess ≤ Word.add (o.total - used) freed) :
    WaitDeeds o freed deeds site (.ok (.blocked .noCandidates))
      (.read (.ok used) site :: .polled n :: (rest ++ deeds))

theorem WaitDeeds.isSuffix {o : Overage} {freed : Nat} {deeds deeds' : List (Deed σ)} {site : σ}
    {answer : Except EvictionError Outcome} (h : WaitDeeds o freed deeds site answer deeds') :
    deeds <:+ deeds' := by
  cases h with
  | idle => exact ⟨[_], rfl⟩
  | unread e n rest _ => exact ⟨_ :: _ :: rest, rfl⟩
  | reclaimed used n rest _ _ => exact ⟨_ :: _ :: rest, rfl⟩
  | short used n rest _ _ => exact ⟨_ :: _ :: rest, rfl⟩

/-- The deeds of a look at what came back. -/
inductive ReclaimedDeeds (o : Overage) (freed : Nat) (deeds : List (Deed σ)) (site : σ) :
    Except EvictionError Bool → List (Deed σ) → Prop where
  | unread (e : EvictionError) : ReclaimedDeeds o freed deeds site (.error e)
      (.read (.error e) site :: deeds)
  | enough (used : Nat) (h : o.excess ≤ Word.add (o.total - used) freed) :
    ReclaimedDeeds o freed deeds site (.ok true) (.read (.ok used) site :: deeds)
  | short (used : Nat) (h : ¬ o.excess ≤ Word.add (o.total - used) freed) :
    ReclaimedDeeds o freed deeds site (.ok false) (.read (.ok used) site :: deeds)

theorem reclaimed_recorded (server : Server σ) (o : Overage) (freed : Nat) (r : Recorded σ) :
    ReclaimedDeeds o freed r.deeds (o.reclaimed (Recorded.server server) freed r).2.site
      (o.reclaimed (Recorded.server server) freed r).1
      (o.reclaimed (Recorded.server server) freed r).2.deeds := by
  unfold Overage.reclaimed
  rcases hread : server.usedBytes r.site with ⟨e | used, site⟩
  · rw [Recorded.usedBytes_eq hread]
    exact .unread e
  · rw [Recorded.usedBytes_eq hread]
    by_cases h : o.excess ≤ Word.add (o.total - used) freed
    · simp only [h, decide_true]
      exact .enough used h
    · simp only [h, decide_false]
      exact .short used h

/-- A wait that ends with a look at usage, after a poll. -/
theorem WaitDeeds.of_look {o : Overage} {freed n : Nat} {rest deeds deeds' : List (Deed σ)}
    {site : σ} {answer : Except EvictionError Bool} (hrest : ∀ deed ∈ rest, Waiting deed)
    (h : ReclaimedDeeds o freed (.polled n :: (rest ++ deeds)) site answer deeds') :
    WaitDeeds o freed deeds site
      (answer.map fun enough => if enough then .ok else .blocked .noCandidates) deeds' := by
  cases h with
  | unread e => exact .unread e n rest hrest
  | enough used h => exact .reclaimed used n rest hrest h
  | short used h => exact .short used n rest hrest h

/-- A wait ends with its next poll, or sleeps after a look that finds too little. -/
theorem awaitReleases_poll (d : Dataset σ) (server : Server σ) (clock : Clock σ) (o : Overage)
    (freed remaining : Nat) (slept : Bool) (site₀ : σ) {deeds rest : List (Deed σ)}
    (hrest : ∀ deed ∈ rest, Waiting deed) (hslept : slept = false → rest = [])
    {x : Except EvictionError Outcome × Recorded σ}
    (hx : awaitReleases (Recorded.dataset d) (Recorded.server server) (Recorded.clock clock) o
      freed remaining slept ⟨site₀, rest ++ deeds⟩ = x) :
    WaitDeeds o freed deeds x.2.site x.1 x.2.deeds ∨
      ∃ left n used site, remaining = left + 1 ∧
        awaitReleases (Recorded.dataset d) (Recorded.server server) (Recorded.clock clock) o freed
          left true ⟨clock.sleep 1 site,
            .slept 1 :: .read (.ok used) site :: .polled n :: (rest ++ deeds)⟩ = x := by
  unfold awaitReleases at hx
  rcases hpoll : d.pendingReleases site₀ with ⟨n, site₁⟩
  simp only [Recorded.pendingReleases_eq (r := ⟨site₀, _⟩) hpoll] at hx
  have hlook := reclaimed_recorded server o freed ⟨site₁, .polled n :: (rest ++ deeds)⟩
  generalize o.reclaimed (Recorded.server server) freed _ = look at hlook hx
  obtain ⟨answer, site₂, deeds₂⟩ := look
  have hend := WaitDeeds.of_look hrest hlook
  by_cases hn : n = 0
  · -- nothing is left to wait for: usage is looked at only if the wait has lasted at all
    refine Or.inl ?_
    cases slept with
    | false =>
      obtain rfl := hslept rfl
      simp only [hn, if_true, Bool.false_eq_true, if_false] at hx
      subst hx
      exact .idle
    | true =>
      simp only [hn, if_true] at hx
      rcases answer with e | _ | _
      all_goals
        subst hx
        exact hend
  · simp only [hn, if_false] at hx
    dsimp only at hlook
    cases hlook with
    | unread e => subst hx; exact Or.inl hend
    | enough used h => subst hx; exact Or.inl hend
    | short used h =>
      cases remaining with
      | zero => subst hx; exact Or.inl hend
      | succ left => exact Or.inr ⟨left, n, used, site₂, rfl, hx⟩

/-- The deeds of a wait that may have lasted for a while: only one that never slept ends without
a look at usage. -/
theorem awaitReleases_deeds (d : Dataset σ) (server : Server σ) (clock : Clock σ) (o : Overage)
    (freed remaining : Nat) (slept : Bool) (site₀ : σ) {deeds : List (Deed σ)}
    (rest : List (Deed σ)) (hrest : ∀ deed ∈ rest, Waiting deed)
    (hslept : slept = false → rest = []) {x : Except EvictionError Outcome × Recorded σ}
    (hx : awaitReleases (Recorded.dataset d) (Recorded.server server) (Recorded.clock clock) o
      freed remaining slept ⟨site₀, rest ++ deeds⟩ = x) :
    WaitDeeds o freed deeds x.2.site x.1 x.2.deeds := by
  induction remaining generalizing slept site₀ rest with
  | zero =>
    rcases awaitReleases_poll d server clock o freed 0 slept site₀ hrest hslept hx
      with hend | ⟨left, _, _, _, hleft, _⟩
    · exact hend
    · cases hleft
  | succ remaining ih =>
    rcases awaitReleases_poll d server clock o freed _ slept site₀ hrest hslept hx
      with hend | ⟨left, n, used, site, hleft, hmore⟩
    · exact hend
    · cases hleft
      -- the wait goes on with a poll, a reading and a sleep behind it
      have hlonger : ∀ deed ∈ .slept 1 :: .read (.ok used) site :: .polled n :: rest,
          Waiting deed := by
        simpa [Waiting] using hrest
      exact ih true (clock.sleep 1 site) _ hlonger (by simp) hmore

/-- The deeds of a wait. -/
theorem awaitReleases_recorded (d : Dataset σ) (server : Server σ) (clock : Clock σ) (o : Overage)
    (freed remaining : Nat) (r : Recorded σ) :
    WaitDeeds o freed r.deeds
      (awaitReleases (Recorded.dataset d) (Recorded.server server) (Recorded.clock clock) o freed
        remaining false r).2.site
      (awaitReleases (Recorded.dataset d) (Recorded.server server) (Recorded.clock clock) o freed
        remaining false r).1
      (awaitReleases (Recorded.dataset d) (Recorded.server server) (Recorded.clock clock) o freed
        remaining false r).2.deeds :=
  awaitReleases_deeds d server clock o freed remaining false r.site [] (by simp) (fun _ => rfl) rfl

end Evictor

end SampledEviction
