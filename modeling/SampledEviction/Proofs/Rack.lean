import Mathlib.Data.List.Nodup
import SampledEviction.Proofs.Catalogue

/-!
# A rack

A site of shards that keep lists of keys, each with its record. A sample shows the first of them,
so it shows all of a shard that has no more than it asks for.

* `catalogued` — a rack says what it is
* `exhaustive` — its samples show all that they can
-/

namespace SampledEviction

/-- Shards of keys, each with its record. -/
structure Rack where
  shards : Nat
  entries : List (Victim × Record Unit)

namespace Rack

/-- The entries of a shard within a scope. -/
def row (rack : Rack) (shard : Nat) (scope : Scope) : List (Victim × Record Unit) :=
  rack.entries.filter fun e => e.1.shard == shard && e.2.within scope

/-- The record of a key. -/
def record (rack : Rack) (shard : Nat) (key : Bytes) : Option (Record Unit) :=
  (rack.entries.find? (·.1 == ⟨shard, key⟩)).map (·.2)

/-- The rack without a key. -/
def without (rack : Rack) (shard : Nat) (key : Bytes) : Rack :=
  { rack with entries := rack.entries.filter (·.1 != ⟨shard, key⟩) }

/-- The keys of a rack. -/
def dataset : Dataset Rack where
  shards rack := rack.shards
  count rack shard scope := (rack.row shard scope).length
  sample shard scope n rack :=
    (((rack.row shard scope).take n).filterMap fun e => (e.2.shown scope).map (e.1.key, ·), rack)
  stamp? rack shard key := (rack.record shard key).map (·.stamp)
  contains rack shard scope key := (rack.record shard key).any (·.within scope)
  randomKey shard scope rack := ((rack.row shard scope).head?.map (·.1.key), rack)
  delete shard key rack := ((rack.record shard key).isSome, rack.without shard key)

/-- A server whose keys cost 100 bytes each. -/
def server : Server Rack where
  usedBytes rack := (.ok (100 * rack.entries.length), rack)

/-- A clock that stands still. -/
def clock : Clock Rack where
  seconds _ := 1000
  sleep _ rack := rack

/-! ## Reading -/

/-- No key is there twice, and none is out of range. -/
structure Sound (rack : Rack) : Prop where
  nodup : (rack.entries.map (·.1)).Nodup
  bounded : ∀ e ∈ rack.entries, e.1.shard < rack.shards

variable {rack rack' : Rack} {shard : Nat} {key : Bytes} {scope : Scope} {r : Record Unit}

theorem Sound.record_eq_some_iff (h : rack.Sound) :
    rack.record shard key = some r ↔ (⟨shard, key⟩, r) ∈ rack.entries := by
  unfold record
  constructor
  · intro hr
    obtain ⟨e, he, rfl⟩ := Option.map_eq_some_iff.mp hr
    have hid : e.1 = ⟨shard, key⟩ := by simpa using List.find?_some he
    rw [← hid]
    exact List.mem_of_find?_eq_some he
  · intro hr
    have hsome : (rack.entries.find? (·.1 == ⟨shard, key⟩)).isSome = true :=
      List.find?_isSome.mpr ⟨_, hr, beq_self_eq_true _⟩
    obtain ⟨e, he⟩ := Option.isSome_iff_exists.mp hsome
    have hid : e.1 = ⟨shard, key⟩ := by simpa using List.find?_some he
    have heq : e = (⟨shard, key⟩, r) :=
      List.inj_on_of_nodup_map h.nodup (List.mem_of_find?_eq_some he) hr hid
    rw [he, heq]
    rfl

theorem Sound.contains_iff (h : rack.Sound) : dataset.contains rack shard scope key = true ↔
    ∃ r, (⟨shard, key⟩, r) ∈ rack.entries ∧ r.within scope = true := by
  simp only [dataset, Option.any_eq_true, h.record_eq_some_iff]

theorem mem_row {e : Victim × Record Unit} : e ∈ rack.row shard scope ↔
    e ∈ rack.entries ∧ e.1.shard = shard ∧ e.2.within scope = true := by
  simp [row]

theorem Sound.nodup_row (h : rack.Sound) (shard : Nat) (scope : Scope) :
    ((rack.row shard scope).map (·.1.key)).Nodup := by
  have hnodup : ((rack.row shard scope).map (·.1)).Nodup :=
    h.nodup.sublist (List.filter_sublist.map _)
  refine List.Nodup.map_on (fun e he e' he' hkey => ?_) hnodup.of_map
  -- entries of one shard with one key are the same
  have hid : e.1 = e'.1 := by
    have hshard := (mem_row.mp he).2.1.trans (mem_row.mp he').2.1.symm
    rcases e with ⟨⟨_, _⟩, _⟩
    rcases e' with ⟨⟨_, _⟩, _⟩
    cases hshard
    cases hkey
    rfl
  exact List.inj_on_of_nodup_map hnodup he he' hid

theorem Sound.mem_row_keys (h : rack.Sound) : key ∈ (rack.row shard scope).map (·.1.key) ↔
    dataset.contains rack shard scope key = true := by
  rw [h.contains_iff, List.mem_map]
  constructor
  · rintro ⟨⟨⟨i, k⟩, r⟩, he, rfl⟩
    obtain ⟨hmem, rfl, hwithin⟩ := mem_row.mp he
    exact ⟨r, hmem, hwithin⟩
  · rintro ⟨r, hmem, hwithin⟩
    exact ⟨_, mem_row.mpr ⟨hmem, rfl, hwithin⟩, rfl⟩

/-! ## Deleting -/

theorem Sound.without (h : rack.Sound) (shard : Nat) (key : Bytes) :
    (rack.without shard key).Sound where
  nodup := h.nodup.sublist (List.filter_sublist.map _)
  bounded e he := h.bounded e (List.mem_filter.mp he).1

theorem Sound.record_without (h : rack.Sound) (i : Nat) (k : Bytes) :
    (rack.without shard key).record i k
      = if shard = i ∧ key = k then none else rack.record i k := by
  refine Option.ext fun r => ?_
  rw [(h.without shard key).record_eq_some_iff]
  by_cases hsame : shard = i ∧ key = k
  · obtain ⟨rfl, rfl⟩ := hsame
    simp [Rack.without]
  · have hne : (⟨i, k⟩ : Victim) ≠ ⟨shard, key⟩ := by
      rintro heq
      cases heq
      exact hsame ⟨rfl, rfl⟩
    simp [Rack.without, hsame, hne, h.record_eq_some_iff]

/-! ## A rack says what it is -/

theorem shown_of_within (h : r.within scope = true) : ∃ sampled, r.shown scope = some sampled := by
  cases scope with
  | all => exact ⟨_, rfl⟩
  | volatile =>
    obtain ⟨t, ht⟩ := Option.isSome_iff_exists.mp h
    exact ⟨.deadline t, by simp [Record.shown, ht]⟩

theorem catalogued : Catalogued dataset server clock Sound record where
  contains _ _ _ _ := rfl
  stamp _ _ _ := rfl
  bounded h _ _ _ hr := h.bounded _ (h.record_eq_some_iff.mp hr)
  count h shard scope := ⟨_, h.nodup_row shard scope, List.length_map _, fun _ => h.mem_row_keys⟩
  sample {rack} h shard scope n := by
    refine ⟨.refl h, fun visit hvisit => ?_⟩
    obtain ⟨⟨⟨i, k⟩, r⟩, he, hshown⟩ := List.mem_filterMap.mp hvisit
    obtain ⟨hmem, rfl, -⟩ := mem_row.mp (List.mem_of_mem_take he)
    obtain ⟨sampled, hsampled, rfl⟩ := Option.map_eq_some_iff.mp hshown
    exact ⟨r, h.record_eq_some_iff.mpr hmem, hsampled⟩
  aside {rack _} h haside := by
    cases haside <;> exact .refl h
  delete {rack rack'} h {shard key lazy removed} hdelete := by
    have heq : (if lazy then dataset.deleteDeferred shard key rack
        else dataset.delete shard key rack)
          = ((rack.record shard key).isSome, rack.without shard key) := by
      cases lazy <;> rfl
    rw [heq] at hdelete
    cases hdelete
    exact ⟨rfl, h.without shard key, rfl, h.record_without⟩

/-- A sample of a rack shows all keys of a shard, if it asks for as many. -/
theorem exhaustive : dataset.Exhaustive Sound := by
  intro rack h shard n scope key hfew hkey
  obtain ⟨⟨⟨i, k⟩, r⟩, he, rfl⟩ := List.mem_map.mp (h.mem_row_keys.mpr hkey)
  obtain ⟨sampled, hsampled⟩ := shown_of_within (mem_row.mp he).2.2
  refine ⟨(k, sampled), List.mem_filterMap.mpr ⟨(⟨i, k⟩, r), ?_, ?_⟩, rfl⟩
  · rw [List.take_of_length_le hfew]
    exact he
  · rw [hsampled]
    rfl

/-! ## A scene -/

/-- An evictor of the least recently used keys under a limit of 150 bytes, at three keys in two
shards. -/
def uneven : Scene Rack where
  evictor :=
    { settings := { policy := .allKeysLru, maxMemory := 150 }
      budget := ⟨150⟩
      sampler := ⟨5⟩
      ranking := ⟨.allKeysLru, 1⟩
      pool := .empty
      cursor := 0
      stats := {} }
  site :=
    { shards := 2
      entries :=
        [(⟨0, ⟨#[1]⟩⟩, ⟨(), .ofTick 900, none⟩), (⟨0, ⟨#[2]⟩⟩, ⟨(), .ofTick 100, none⟩),
          (⟨1, ⟨#[3]⟩⟩, ⟨(), .ofTick 500, none⟩)] }

end Rack

end SampledEviction
