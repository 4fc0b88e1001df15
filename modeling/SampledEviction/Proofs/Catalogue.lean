import Mathlib.Data.List.Perm.Basic
import SampledEviction.Proofs.Books
import SampledEviction.Proofs.Conservation
import SampledEviction.Proofs.Search

/-!
# Catalogued sites

A site is catalogued if it says what it is: every key has a record, samples show records as they
are, and a deletion takes out the record of its key and no other. Nothing else that a check does
changes a record.

* `Catalogued.draws` — what is drawn from a catalogued site is there
* `Catalogued.total_lt` — a deletion leaves a key less
* `Traced` — the records of a check are those it started from, less those that it deleted
* `exists_ensure_traced` — a check of a catalogued site ends, and is traced
-/

namespace SampledEviction

variable {σ ν : Type}

/-! ## Records -/

/-- What a site holds of a key. -/
structure Record (ν : Type) where
  value : ν
  stamp : AccessStamp
  /-- The second at which the key expires. -/
  deadline : Option Nat

/-- Whether a key with this record is within a scope. -/
def Record.within (r : Record ν) : Scope → Bool
  | .all => true
  | .volatile => r.deadline.isSome

/-- What a sample of a scope tells of a record. -/
def Record.shown (r : Record ν) : Scope → Option Sampled
  | .all => some (.stamp r.stamp)
  | .volatile => r.deadline.map .deadline

theorem Record.within_of_shown {r : Record ν} {scope : Scope} {sampled : Sampled}
    (h : r.shown scope = some sampled) : r.within scope = true := by
  cases scope with
  | all => rfl
  | volatile =>
    obtain ⟨t, ht, -⟩ := Option.map_eq_some_iff.mp h
    exact Option.isSome_iff_exists.mpr ⟨t, ht⟩

/-- The records of a site, by shard and key. -/
abbrev Records (σ ν : Type) := σ → Nat → Bytes → Option (Record ν)

/-- A site of the same class with the same records. -/
structure Steady (d : Dataset σ) (I : σ → Prop) (record : Records σ ν) (site site' : σ) : Prop where
  inside : I site'
  shards : d.shards site' = d.shards site
  records : record site' = record site

/-- A class of sites that say what they are. -/
structure Catalogued (d : Dataset σ) (server : Server σ) (clock : Clock σ) (I : σ → Prop)
    (record : Records σ ν) : Prop where
  contains {site : σ} (h : I site) (shard : Nat) (scope : Scope) (key : Bytes) :
    d.contains site shard scope key = (record site shard key).any (·.within scope)
  stamp {site : σ} (h : I site) (shard : Nat) (key : Bytes) :
    d.stamp? site shard key = (record site shard key).map (·.stamp)
  bounded {site : σ} (h : I site) {shard : Nat} {key : Bytes} {r : Record ν}
    (hr : record site shard key = some r) : shard < d.shards site
  count {site : σ} (h : I site) (shard : Nat) (scope : Scope) :
    ∃ keys : List Bytes, keys.Nodup ∧ keys.length = d.count site shard scope ∧
      ∀ key, key ∈ keys ↔ d.contains site shard scope key = true
  sample {site : σ} (h : I site) (shard : Nat) (scope : Scope) (n : Nat) :
    Steady d I record site (d.sample shard scope n site).2 ∧
      ∀ visit ∈ (d.sample shard scope n site).1,
        ∃ r, record site shard visit.1 = some r ∧ r.shown scope = some visit.2
  aside {site site' : σ} (h : I site) (haside : Aside d server clock site site') :
    Steady d I record site site'
  delete {site site' : σ} (h : I site) {shard : Nat} {key : Bytes} {lazy removed : Bool}
    (hdelete : (if lazy then d.deleteDeferred shard key site else d.delete shard key site)
      = (removed, site')) :
    removed = (record site shard key).isSome ∧ I site' ∧ d.shards site' = d.shards site ∧
      ∀ i k, record site' i k = if shard = i ∧ key = k then none else record site i k

/-- Random keys of a class of sites are there. -/
def Dataset.Picks (d : Dataset σ) (I : σ → Prop) (record : Records σ ν) : Prop :=
  ∀ {site : σ}, I site → ∀ (shard : Nat) (scope : Scope),
    Steady d I record site (d.randomKey shard scope site).2 ∧
      ∀ key, (d.randomKey shard scope site).1 = some key → d.contains site shard scope key = true

/-- A sample of a class of sites shows all keys within a scope, if it asks for as many. -/
def Dataset.Exhaustive (d : Dataset σ) (I : σ → Prop) : Prop :=
  ∀ {site : σ}, I site → ∀ {shard n : Nat} {scope : Scope} {key : Bytes},
    d.count site shard scope ≤ n → d.contains site shard scope key = true →
      ∃ visit ∈ (d.sample shard scope n site).1, visit.1 = key

variable {d : Dataset σ} {server : Server σ} {clock : Clock σ} {I : σ → Prop}
  {record : Records σ ν} {site site' : σ} {scope : Scope}

theorem Steady.refl (h : I site) : Steady d I record site site := ⟨h, rfl, rfl⟩

theorem Steady.trans {site'' : σ} (h : Steady d I record site site')
    (h' : Steady d I record site' site'') : Steady d I record site site'' :=
  ⟨h'.inside, h'.shards.trans h.shards, h'.records.trans h.records⟩

theorem Steady.sized {shards : Nat} (h : Steady d I record site site')
    (hshards : d.shards site = shards) :
    Steady d (fun site => I site ∧ d.shards site = shards) record site site' :=
  ⟨⟨h.inside, h.shards.trans hshards⟩, h.shards, h.records⟩

theorem Dataset.Picks.sized (hp : d.Picks I record) (shards : Nat) :
    d.Picks (fun site => I site ∧ d.shards site = shards) record := by
  intro site h shard scope
  obtain ⟨hsteady, hkey⟩ := hp h.1 shard scope
  exact ⟨hsteady.sized h.2, hkey⟩

namespace Catalogued

/-! ## Steady sites -/

theorem contains_eq (hd : Catalogued d server clock I record) (h : I site)
    (hsteady : Steady d I record site site') : d.contains site' = d.contains site := by
  funext shard scope key
  rw [hd.contains h, hd.contains hsteady.inside, hsteady.records]

/-- A key that is there has a record within the scope. -/
theorem exists_record (hd : Catalogued d server clock I record) (h : I site) {shard : Nat}
    {key : Bytes} (hkey : d.contains site shard scope key = true) :
    ∃ r, record site shard key = some r ∧ r.within scope = true := by
  rw [hd.contains h] at hkey
  cases hr : record site shard key with
  | none => rw [hr] at hkey; cases hkey
  | some r => exact ⟨r, rfl, by rwa [hr] at hkey⟩

/-- A shard that counts no key has none. -/
theorem contains_of_count (hd : Catalogued d server clock I record) (h : I site) {shard : Nat}
    (hcount : d.count site shard scope = 0) (key : Bytes) :
    d.contains site shard scope key = false := by
  obtain ⟨keys, -, hlength, hmem⟩ := hd.count h shard scope
  rw [hcount, List.length_eq_zero_iff] at hlength
  rw [hlength] at hmem
  exact Bool.eq_false_iff.mpr fun hkey => List.not_mem_nil ((hmem key).mpr hkey)

theorem count_eq (hd : Catalogued d server clock I record) (h : I site)
    (hsteady : Steady d I record site site') : d.count site' = d.count site := by
  funext shard scope
  obtain ⟨keys, hnodup, hlength, hmem⟩ := hd.count h shard scope
  obtain ⟨keys', hnodup', hlength', hmem'⟩ := hd.count hsteady.inside shard scope
  have hperm : keys'.Perm keys := by
    refine (List.perm_ext_iff_of_nodup hnodup' hnodup).mpr fun key => ?_
    rw [hmem, hmem', hd.contains_eq h hsteady]
  rw [← hlength, ← hlength', hperm.length_eq]

theorem total_eq (hd : Catalogued d server clock I record) (h : I site)
    (hsteady : Steady d I record site site') (scope : Scope) :
    d.total site' scope = d.total site scope := by
  unfold Dataset.total
  rw [hsteady.shards, hd.count_eq h hsteady]

/-- What is drawn from a catalogued site is there. -/
theorem draws (hd : Catalogued d server clock I record) (hp : d.Picks I record) (h : I site) :
    d.Draws (Steady d I record site) where
  agree h₁ h₂ :=
    { shards := h₂.shards.trans h₁.shards.symm
      count := (hd.count_eq h h₂).trans (hd.count_eq h h₁).symm
      contains := (hd.contains_eq h h₂).trans (hd.contains_eq h h₁).symm }
  sample h₁ shard scope n := by
    obtain ⟨hsteady, hvisits⟩ := hd.sample h₁.inside shard scope n
    refine ⟨h₁.trans hsteady, fun visit hvisit => ?_⟩
    obtain ⟨r, hr, hshown⟩ := hvisits visit hvisit
    rw [hd.contains h₁.inside, hr, Option.any_some]
    exact Record.within_of_shown hshown
  randomKey h₁ shard scope := by
    obtain ⟨hsteady, hkey⟩ := hp h₁.inside shard scope
    exact ⟨h₁.trans hsteady, hkey⟩

/-- The sites of a catalogued class that have so many shards are catalogued. -/
theorem sized (hd : Catalogued d server clock I record) (shards : Nat) :
    Catalogued d server clock (fun site => I site ∧ d.shards site = shards) record where
  contains h := hd.contains h.1
  stamp h := hd.stamp h.1
  bounded h := hd.bounded h.1
  count h := hd.count h.1
  sample h shard scope n := by
    obtain ⟨hsteady, hvisits⟩ := hd.sample h.1 shard scope n
    exact ⟨hsteady.sized h.2, hvisits⟩
  aside h haside := (hd.aside h.1 haside).sized h.2
  delete {site site'} h {shard key lazy removed} hdelete := by
    obtain ⟨hremoved, hinside, hshards, hrecords⟩ := hd.delete h.1 hdelete
    exact ⟨hremoved, ⟨hinside, hshards.trans h.2⟩, hshards, hrecords⟩

/-! ## Deletions -/

variable {shard : Nat} {key : Bytes} {lazy removed : Bool}

theorem contains_delete (hd : Catalogued d server clock I record) (h : I site)
    (hdelete : (if lazy then d.deleteDeferred shard key site else d.delete shard key site)
      = (removed, site')) (i : Nat) (scope : Scope) (k : Bytes) :
    d.contains site' i scope k = (!decide (shard = i ∧ key = k) && d.contains site i scope k) := by
  obtain ⟨-, h', -, hrecords⟩ := hd.delete h hdelete
  rw [hd.contains h', hd.contains h, hrecords]
  by_cases hsame : shard = i ∧ key = k
  · simp [hsame]
  · simp [hsame]

/-- A deletion leaves a key less in its shard, and no other key than before in any. -/
theorem count_delete (hd : Catalogued d server clock I record) (h : I site)
    (hdelete : (if lazy then d.deleteDeferred shard key site else d.delete shard key site)
      = (removed, site')) (hkey : d.contains site shard scope key = true) (i : Nat) :
    d.count site' i scope + (if shard = i then 1 else 0) = d.count site i scope := by
  obtain ⟨-, h', -, -⟩ := hd.delete h hdelete
  obtain ⟨keys, hnodup, hlength, hmem⟩ := hd.count h i scope
  obtain ⟨keys', hnodup', hlength', hmem'⟩ := hd.count h' i scope
  have hcontains := hd.contains_delete h hdelete i scope
  by_cases hi : shard = i
  · subst hi
    have hnew : key ∉ keys' := by
      rw [hmem', hcontains]
      simp
    have hperm : (key :: keys').Perm keys := by
      refine (List.perm_ext_iff_of_nodup (List.nodup_cons.mpr ⟨hnew, hnodup'⟩) hnodup).mpr
        fun k => ?_
      rw [List.mem_cons, hmem, hmem', hcontains]
      by_cases hk : key = k
      · subst hk
        simp [hkey]
      · simp [hk, show k ≠ key from fun h => hk h.symm]
    rw [if_pos rfl, ← hlength, ← hlength', ← hperm.length_eq, List.length_cons]
  · have hperm : keys'.Perm keys := by
      refine (List.perm_ext_iff_of_nodup hnodup' hnodup).mpr fun k => ?_
      rw [hmem, hmem', hcontains]
      simp [hi]
    rw [if_neg hi, ← hlength, ← hlength', hperm.length_eq, Nat.add_zero]

/-- A deletion leaves a key less. -/
theorem total_lt (hd : Catalogued d server clock I record) (h : I site)
    (hdelete : (if lazy then d.deleteDeferred shard key site else d.delete shard key site)
      = (removed, site')) (hkey : d.contains site shard scope key = true) :
    d.total site' scope < d.total site scope := by
  obtain ⟨-, -, hshards, -⟩ := hd.delete h hdelete
  have hcount := hd.count_delete h hdelete hkey
  obtain ⟨r, hr, -⟩ := hd.exists_record h hkey
  unfold Dataset.total
  rw [hshards]
  refine tally_lt_tally (x := shard) (fun i _ => ?_) (List.mem_range.mpr (hd.bounded h hr)) ?_
  · have hcount := hcount i
    omega
  · have hcount := hcount shard
    rw [if_pos rfl] at hcount
    omega

end Catalogued

/-! ## What a ledger tells of the records -/

/-- A recorded site that a check may have led to. Its records are those at the start, less those of
the keys that were deleted; each of these was there, within the scope, and was deleted once. -/
structure Traced (d : Dataset σ) (I : σ → Prop) (record : Records σ ν) (scope : Scope) (start : σ)
    (r : Recorded σ) : Prop where
  inside : I r.site
  records (shard : Nat) (key : Bytes) : record r.site shard key
    = if ⟨shard, key⟩ ∈ Deed.removals r.deeds then none else record start shard key
  nodup : (Deed.removals r.deeds).Nodup
  within : ∀ v ∈ Deed.removals r.deeds, ∃ x, record start v.shard v.key = some x ∧
    x.within scope = true
  live (before : σ) (v : Victim) (removed : Bool) (hdeed : .deleted before v removed ∈ r.deeds) :
    removed = true ∧ d.contains before v.shard scope v.key = true

/-- Doing something beside is a deed that deletes nothing. -/
theorem Recorded.exists_aside {r r' : Recorded σ}
    (h : Aside (Recorded.dataset d) (Recorded.server server) (Recorded.clock clock) r r') :
    Aside d server clock r.site r'.site ∧ ∃ deed, r'.deeds = deed :: r.deeds ∧
      ∀ before v removed, deed ≠ .deleted before v removed := by
  cases h with
  | pendingReleases => exact ⟨.pendingReleases, _, rfl, by simp⟩
  | usedBytes => exact ⟨.usedBytes, _, rfl, by simp⟩
  | exemptBytes => exact ⟨.exemptBytes, _, rfl, by simp⟩
  | flushReplicas => exact ⟨.flushReplicas, _, rfl, by simp⟩
  | evicted shard key => exact ⟨.evicted shard key, _, rfl, by simp⟩
  | sleep ms => exact ⟨.sleep ms, _, rfl, by simp⟩

/-- The deed of a deletion. -/
theorem Recorded.exists_delete {r r' : Recorded σ} {lazy removed : Bool} {w : Victim}
    (h : (if lazy then (Recorded.dataset d).deleteDeferred w.shard w.key r
      else (Recorded.dataset d).delete w.shard w.key r) = (removed, r')) :
    ∃ site', (if lazy then d.deleteDeferred w.shard w.key r.site
        else d.delete w.shard w.key r.site) = (removed, site') ∧
      r' = ⟨site', .deleted r.site w removed :: r.deeds⟩ := by
  rcases hdelete : (if lazy then d.deleteDeferred w.shard w.key r.site
    else d.delete w.shard w.key r.site) with ⟨removed', site'⟩
  rw [Recorded.deletion_eq hdelete] at h
  cases h
  exact ⟨site', rfl, rfl⟩

theorem Deed.removals_cons {deed : Deed σ}
    (h : ∀ before v removed, deed ≠ .deleted before v removed) (deeds : List (Deed σ)) :
    removals (deed :: deeds) = removals deeds := by
  cases deed with
  | deleted before v removed => exact absurd rfl (h before v removed)
  | _ => rfl

namespace Traced

variable {start : σ} {r r' : Recorded σ}

theorem refl (h : I site) : Traced d I record scope site ⟨site, []⟩ where
  inside := h
  records _ _ := by simp [Deed.removals]
  nodup := List.nodup_nil
  within v hv := by cases hv
  live _ _ _ hdeed := by cases hdeed

theorem steady (h : Traced d I record scope start r) (hsteady : Steady d I record r.site r'.site)
    (hdeeds : r'.deeds = r.deeds) : Traced d I record scope start r' where
  inside := hsteady.inside
  records := by rw [hdeeds, hsteady.records]; exact h.records
  nodup := by rw [hdeeds]; exact h.nodup
  within := by rw [hdeeds]; exact h.within
  live := by rw [hdeeds]; exact h.live

theorem aside (h : Traced d I record scope start r) (hd : Catalogued d server clock I record)
    (haside : Aside (Recorded.dataset d) (Recorded.server server) (Recorded.clock clock) r r') :
    Traced d I record scope start r' ∧ Steady d I record r.site r'.site := by
  obtain ⟨haside, deed, hdeeds, hnone⟩ := Recorded.exists_aside haside
  have hsteady := hd.aside h.inside haside
  have hremovals := Deed.removals_cons hnone r.deeds
  refine ⟨⟨hsteady.inside, ?_, ?_, ?_, fun before v removed hdeed => ?_⟩, hsteady⟩
  · rw [hdeeds, hremovals, hsteady.records]
    exact h.records
  · rw [hdeeds, hremovals]
    exact h.nodup
  · rw [hdeeds, hremovals]
    exact h.within
  · rw [hdeeds] at hdeed
    rcases List.mem_cons.mp hdeed with heq | hdeed
    · exact absurd heq.symm (hnone before v removed)
    · exact h.live before v removed hdeed

/-- A key that is there was not deleted, and was there at the start. -/
theorem exists_of_contains (h : Traced d I record scope start r)
    (hd : Catalogued d server clock I record) {w : Victim}
    (hw : d.contains r.site w.shard scope w.key = true) : w ∉ Deed.removals r.deeds ∧
      ∃ x, record start w.shard w.key = some x ∧ record r.site w.shard w.key = some x ∧
        x.within scope = true := by
  obtain ⟨x, hx, hwithin⟩ := hd.exists_record h.inside hw
  have hrecords := h.records w.shard w.key
  by_cases hgone : w ∈ Deed.removals r.deeds
  · rw [if_pos hgone, hx] at hrecords
    cases hrecords
  · rw [if_neg hgone] at hrecords
    exact ⟨hgone, x, hrecords ▸ hx, hx, hwithin⟩

theorem delete (h : Traced d I record scope start r) (hd : Catalogued d server clock I record)
    {w : Victim} (hw : d.contains r.site w.shard scope w.key = true) {lazy removed : Bool}
    (hdelete : (if lazy then (Recorded.dataset d).deleteDeferred w.shard w.key r
      else (Recorded.dataset d).delete w.shard w.key r) = (removed, r')) :
    Traced d I record scope start r' ∧ Deed.removals r'.deeds = w :: Deed.removals r.deeds ∧
      d.total r'.site scope < d.total r.site scope := by
  obtain ⟨hgone, x, hstart, hx, hwithin⟩ := h.exists_of_contains hd hw
  obtain ⟨site', hsite, rfl⟩ := Recorded.exists_delete hdelete
  obtain ⟨hremoved, hinside, -, hrecords⟩ := hd.delete h.inside hsite
  rw [hx, Option.isSome_some] at hremoved
  subst hremoved
  refine ⟨⟨hinside, fun shard key => ?_, List.nodup_cons.mpr ⟨hgone, h.nodup⟩, ?_, ?_⟩, rfl,
    hd.total_lt h.inside hsite hw⟩
  · show record site' shard key = if ⟨shard, key⟩ ∈ w :: Deed.removals r.deeds then none else _
    rw [hrecords, h.records]
    by_cases hsame : w.shard = shard ∧ w.key = key
    · obtain ⟨rfl, rfl⟩ := hsame
      simp
    · have hne : (⟨shard, key⟩ : Victim) ≠ w := by
        rintro rfl
        exact hsame ⟨rfl, rfl⟩
      simp [hsame, hne]
  · exact List.forall_mem_cons.mpr ⟨⟨x, hstart, hwithin⟩, h.within⟩
  · intro before v removed hdeed
    rcases List.mem_cons.mp hdeed with heq | hdeed
    · cases heq
      exact ⟨rfl, hw⟩
    · exact h.live before v removed hdeed

end Traced

/-! ## A check -/

namespace Evictor

/-- A check, and what it came to at a recorded site. -/
structure Checked (d : Dataset σ) (server : Server σ) (clock : Clock σ) (s : Scene σ)
    (r : CheckResult (Recorded σ)) : Prop where
  ensure : ensure d server clock s = some (r.map Recorded.site)
  ledger : ensureLedger d server clock s = r.scene.site.deeds
  told {outcome : Outcome} (h : r.answer = .ok outcome) :
    Deed.tellings r.scene.site.deeds = Deed.removals r.scene.site.deeds
  idle (h : s.evictor.settings.policy.evicts = false ∨ s.evictor.mayEvict server s.site = false) :
    Deed.removals r.scene.site.deeds = []

theorem checked_of_recorded {s : Scene σ} {r : CheckResult (Recorded σ)}
    (h : ensureWithin (d.total s.site s.evictor.settings.policy.scope + 2) 2 (Recorded.dataset d)
      (Recorded.server server) (Recorded.clock clock) (s.recorded []) = some r) :
    Checked d server clock s r where
  ensure := by
    have hmap := ensureWithin_map (Recorded.dataset_alike d) (Recorded.server_alike server)
      (Recorded.clock_alike clock) (d.total s.site s.evictor.settings.policy.scope + 2) 2
      (s.recorded [])
    rwa [h] at hmap
  ledger := by
    unfold ensureLedger Evictor.ledger
    rw [h]
  told := (ensureWithin_end h).told
  idle hidle := removals_of_idle hidle h

/-- A check ends and keeps what its parts keep at a recorded site, if its measure is no more than
the keys within the scope. -/
theorem Keeps.exists_ensure {s : Scene σ} {J : Pool → Recorded σ → Prop}
    {F : Victim → Recorded σ → Prop} {μ : Recorded σ → Nat}
    (hk : Keeps s.evictor (Recorded.dataset d) (Recorded.server server) (Recorded.clock clock)
      J F μ)
    (hs : J s.evictor.pool ⟨s.site, []⟩)
    (hμ : μ ⟨s.site, []⟩ ≤ d.total s.site s.evictor.settings.policy.scope) :
    ∃ r, Checked d server clock s r ∧ J r.scene.evictor.pool r.scene.site := by
  have hfuel : μ (s.recorded []).site < d.total s.site s.evictor.settings.policy.scope + 2 :=
    Nat.lt_of_le_of_lt hμ (by omega)
  obtain ⟨r, hr, hkept⟩ := hk.exists_ensureWithin (s := s.recorded []) (.refl _) hs hfuel
  exact ⟨r, checked_of_recorded hr, hkept⟩

/-- A check of a catalogued site is traced. -/
theorem keeps_traced (hd : Catalogued d server clock I record) (hp : d.Picks I record)
    (start : σ) (e₀ : Evictor) :
    Keeps e₀ (Recorded.dataset d) (Recorded.server server) (Recorded.clock clock)
      (fun _ r => Traced d I record e₀.settings.policy.scope start r)
      (fun w r => d.contains r.site w.shard e₀.settings.policy.scope w.key = true)
      (fun r => d.total r.site e₀.settings.policy.scope) where
  search {e r} he h := by
    obtain ⟨v, s', hfind, hfound, -⟩ := findVictim_spec (s := ⟨e, r⟩) (Recorded.clock clock)
      (Recorded.draws (hd.draws hp h.inside) r.deeds) ⟨.refl h.inside, rfl⟩
    obtain ⟨hsteady, hdeeds⟩ := hfound.inside
    refine ⟨v, s', hfind, h.steady hsteady hdeeds, Nat.le_of_eq (hd.total_eq h.inside hsteady _),
      fun w hw => ?_⟩
    have hlive : d.contains r.site w.shard e.settings.policy.scope w.key = true :=
      hfound.live w hw
    rwa [hd.contains_eq h.inside hsteady, ← he.settings]
  aside h haside := by
    obtain ⟨htraced, hsteady⟩ := h.aside hd haside
    refine ⟨htraced, Nat.le_of_eq (hd.total_eq h.inside hsteady _), fun w hw => ?_⟩
    rwa [hd.contains_eq h.inside hsteady]
  delete h hw hdelete := by
    obtain ⟨htraced, -, hlt⟩ := h.delete hd hw hdelete
    exact ⟨htraced, hlt⟩

/-- A check of a catalogued site ends, and is traced. -/
theorem exists_ensure_traced (hd : Catalogued d server clock I record) (hp : d.Picks I record)
    {s : Scene σ} (hs : I s.site) : ∃ r, Checked d server clock s r ∧
      Traced d I record s.evictor.settings.policy.scope s.site r.scene.site :=
  (keeps_traced hd hp s.site s.evictor).exists_ensure (.refl hs) (Nat.le_refl _)

end Evictor

end SampledEviction
