import CameraCoordinator.Bpf.Atomic

/-!
# Concurrent probes in series

If the instances on a device do not overlap, it does not matter what those on other devices do in
between: the device's entry and its events are those of the instances run one after another, in the
order in which they took their first steps (`serial_refines`). So what holds of sequential firings
holds of concurrent ones, device by device.

An instance reads and writes the entry of its own device only (`advance_congr`,
`lookup_advance_ne`), and while it is running its device is where it will be once it is run to its
end (`finish`).
-/

set_option autoImplicit false

namespace Bpf

variable {f : Firing} {k : DeviceNameKey} {m m' : StreamingPid} {pc : Pc}

/-! ## An instance and its device -/

/-- All keys are in `ks`. -/
def Within (ks : Finset DeviceNameKey) (m : StreamingPid) : Prop := ∀ k ∈ m, k ∈ ks

theorem Within.room {ks : Finset DeviceNameKey} (h : Within ks m) (hcard : ks.card ≤ 64)
    (hk : k ∈ ks) : m.Room k := BoundedMap.room_of_subset h hk hcard

theorem Within.advance {ks : Finset DeviceNameKey} (h : Within ks m)
    (hks : ∀ k, f.key = some k → k ∈ ks) (pc : Pc) : Within ks (advance f pc m).2.1 := by
  intro k' hk'
  by_cases hf : f.key = some k'
  · exact hks k' hf
  · rw [BoundedMap.mem_iff, lookup_advance_ne pc m hf, ← BoundedMap.mem_iff] at hk'
    exact h k' hk'

/-- An instance submits events about its own device only. -/
theorem device_of_mem_advance {e : CameraEvent} (he : e ∈ (advance f pc m).2.2) :
    ∃ k, f.key = some k ∧ e.device = k.device := by
  cases hn : f.namePtr with
  | none => simp [Bpf.advance, hn] at he
  | some n =>
    refine ⟨deviceNameKey n, by simp [Firing.key, hn], ?_⟩
    have hem : ∀ {type source}, e ∈ emitEvent f.reserve n type source f.pid →
        e.device = (deviceNameKey n).device := fun h => ((emits_emitEvent f n _ _).of_mem h).device
    unfold Bpf.advance at he
    rw [hn] at he
    cases hp : f.probe with
    | streamon | streamoff =>
      cases pc <;> simp only [hp] at he
      · exact hem he
      all_goals cases he
    | fopRelease =>
      cases pc with
      | enter =>
        simp only [hp] at he
        split at he
        · cases he
        · split at he <;> cases he
      | emitting =>
        simp only [hp] at he
        exact hem he
      | _ =>
        simp only [hp] at he
        cases he

/-- No step leads back to the start. -/
theorem advance_ne_enter (f : Firing) (pc : Pc) (m : StreamingPid) :
    (advance f pc m).1 ≠ .enter := by
  unfold Bpf.advance
  cases f.namePtr with
  | none => simp
  | some n =>
    cases f.probe with
    | streamon | streamoff => cases pc <;> simp
    | fopRelease =>
      cases pc with
      | enter =>
        dsimp only
        split
        · simp
        · split <;> simp
      | _ => simp

/-- **A step depends on the entry of the instance's device only.** -/
theorem advance_congr (pc : Pc) (hk : f.key = some k) (hl : m.lookup k = m'.lookup k)
    (hr : m.Room k) (hr' : m'.Room k) :
    (advance f pc m).1 = (advance f pc m').1 ∧
    (advance f pc m).2.1.lookup k = (advance f pc m').2.1.lookup k ∧
    (advance f pc m).2.2 = (advance f pc m').2.2 := by
  obtain ⟨n, hn, rfl⟩ : ∃ n, f.namePtr = some n ∧ deviceNameKey n = k := by
    simpa [Firing.key] using hk
  unfold Bpf.advance
  rw [hn]
  cases hp : f.probe with
  | streamon =>
    cases pc <;> simp [hl, recordStreamingPid, BoundedMap.lookup_set, hr, hr']
  | streamoff =>
    cases pc <;> simp [hl, clearStreamingPid, BoundedMap.lookup_delete]
  | fopRelease =>
    cases pc with
    | enter =>
      dsimp only
      rw [hl]
      cases hm' : m'.lookup (deviceNameKey n) with
      | none => simp [hl, hm']
      | some storedPid => by_cases hpid : storedPid = f.pid <;> simp [hpid, hl, hm']
    | _ => simp [hl, BoundedMap.lookup_delete]

/-! ## Running an instance to its end -/

/-- An instance has not returned, and has taken a step. -/
def Busy (pc : Pc) : Prop := pc ≠ .enter ∧ pc ≠ .done

theorem advances_done (f : Firing) (n : Nat) (m : StreamingPid) :
    advances f n (.done, m) = (.done, m, []) := by
  have hstep : advance f .done m = (.done, m, []) := by
    unfold Bpf.advance
    cases f.namePtr with
    | none => rfl
    | some n => cases f.probe <;> rfl
  induction n with
  | zero => rfl
  | succ n ih =>
    unfold advances
    rw [hstep]
    dsimp only
    rw [ih]
    rfl

/-- What comes of an instance if it is run to its end: the map, and the events it still submits. -/
def finish (f : Firing) (pc : Pc) (m : StreamingPid) : StreamingPid × List CameraEvent :=
  (advances f 3 (pc, m)).2

theorem finish_enter (f : Firing) (m : StreamingPid) : finish f .enter m = run.step m f := by
  unfold finish
  rw [alone]

theorem finish_done (f : Firing) (m : StreamingPid) : finish f .done m = (m, []) := by
  unfold finish
  rw [advances_done]

/-- The end does not change when the instance takes a step. -/
theorem finish_step (f : Firing) (pc : Pc) (m : StreamingPid) :
    finish f pc m = ((finish f (advance f pc m).1 (advance f pc m).2.1).1,
      (advance f pc m).2.2 ++ (finish f (advance f pc m).1 (advance f pc m).2.1).2) := by
  unfold finish
  cases hn : f.namePtr with
  | none => simp [advances, Bpf.advance, hn]
  | some n =>
    cases hp : f.probe with
    | streamon | streamoff => cases pc <;> simp [advances, Bpf.advance, hn, hp]
    | fopRelease =>
      cases pc with
      | enter =>
        cases hl : m.lookup (deviceNameKey n) with
        | none => simp [advances, Bpf.advance, hn, hp, hl]
        | some storedPid =>
          by_cases hpid : storedPid = f.pid <;> simp [advances, Bpf.advance, hn, hp, hl, hpid]
      | _ => simp [advances, Bpf.advance, hn, hp]

theorem advances_congr {ks : Finset DeviceNameKey} (hcard : ks.card ≤ 64) (hk : f.key = some k)
    (hks : k ∈ ks) (n : Nat) (pc : Pc) (hm : Within ks m) (hm' : Within ks m')
    (hl : m.lookup k = m'.lookup k) :
    (advances f n (pc, m)).2.1.lookup k = (advances f n (pc, m')).2.1.lookup k ∧
    (advances f n (pc, m)).2.2 = (advances f n (pc, m')).2.2 := by
  induction n generalizing pc m m' with
  | zero => exact ⟨hl, rfl⟩
  | succ n ih =>
    have hkeys : ∀ k', f.key = some k' → k' ∈ ks := by
      intro k' hk'
      rw [hk] at hk'
      exact Option.some.inj hk' ▸ hks
    obtain ⟨hpc, hlookup, hes⟩ := advance_congr pc hk hl (hm.room hcard hks) (hm'.room hcard hks)
    obtain ⟨hlater, hevents⟩ := ih (advance f pc m).1 (hm.advance hkeys pc) (hm'.advance hkeys pc)
      hlookup
    unfold advances
    dsimp only
    rw [← hpc, hes, hlater, hevents]
    exact ⟨rfl, rfl⟩

/-- **What comes of an instance depends on the entry of its device only.** -/
theorem finish_congr {ks : Finset DeviceNameKey} (hcard : ks.card ≤ 64) (hk : f.key = some k)
    (hks : k ∈ ks) (pc : Pc) (hm : Within ks m) (hm' : Within ks m')
    (hl : m.lookup k = m'.lookup k) :
    (finish f pc m).1.lookup k = (finish f pc m').1.lookup k ∧
    (finish f pc m).2 = (finish f pc m').2 :=
  advances_congr hcard hk hks 3 pc hm hm' hl

/-! ## The instances in series -/

section
variable {ι : Type*} [DecidableEq ι] {firing : ι → Firing} {sched : List ι} {i : ι}

/-- The firings of a schedule, in the order of their first steps. -/
def inSeries (firing : ι → Firing) (sched : List ι) : List Firing := sched.eraseDups.map firing

theorem inSeries_snoc (firing : ι → Firing) (sched : List ι) (i : ι) :
    inSeries firing (sched ++ [i]) =
      inSeries firing sched ++ if i ∈ sched then [] else [firing i] := by
  unfold inSeries
  rw [List.eraseDups_append, List.map_append]
  by_cases hi : i ∈ sched <;> simp [List.removeAll, List.eraseDups_cons, hi]

/-- The events about a device. -/
def eventsOf (k : DeviceNameKey) (es : List CameraEvent) : List CameraEvent :=
  es.filter fun e => e.device = k.device

theorem eventsOf_append (k : DeviceNameKey) (es es' : List CameraEvent) :
    eventsOf k (es ++ es') = eventsOf k es ++ eventsOf k es' := List.filter_append es es'

/-- The events that instances have submitted. -/
def Shared.events (s : Shared ι) : List CameraEvent := s.submitted.map Prod.snd

theorem step_events (s : Shared ι) (i : ι) : (s.step firing i).events =
    s.events ++ (advance (firing i) (s.pc i) s.streamingPid).2.2 := by
  simp [Shared.step, Shared.events]

theorem eventsOf_eq_nil {es : List CameraEvent} (h : ∀ e ∈ es, e.device ≠ k.device) :
    eventsOf k es = [] := List.filter_eq_nil_iff.2 fun e he => by simp [h e he]

theorem eventsOf_advance_ne (pc : Pc) (m : StreamingPid) (hk : f.key ≠ some k) :
    eventsOf k (advance f pc m).2.2 = [] := by
  apply eventsOf_eq_nil
  intro e he hdevice
  obtain ⟨k', hk', hd⟩ := device_of_mem_advance he
  exact hk (device_inj.1 (hd.symm.trans hdevice) ▸ hk')

/-- An instance has not started until it is scheduled. -/
theorem pc_eq_enter_iff (firing : ι → Firing) (sched : List ι) (i : ι) :
    (shared firing sched).pc i = .enter ↔ i ∉ sched := by
  induction sched using List.reverseRecOn with
  | nil => simp [shared]
  | append_singleton sched j ih =>
    rw [shared_snoc, step_pc]
    by_cases hij : i = j
    · simp [hij, advance_ne_enter]
    · simp [hij, ih]

/-- No instance on the device but `i` is under way. -/
def Alone (firing : ι → Firing) (k : DeviceNameKey) (s : Shared ι) (i : ι) : Prop :=
  ∀ j, j ≠ i → (firing j).key = some k → ¬ Busy (s.pc j)

/-- The device is where the firings `t` take it. -/
structure At (k : DeviceNameKey) (m : StreamingPid) (es : List CameraEvent) (t : List Firing) :
    Prop where
  entry : m.lookup k = (streamingPid t).lookup k
  events : eventsOf k es = eventsOf k (submitted t)

/-- It will be there once `i` has come to its end. -/
def Ends (firing : ι → Firing) (k : DeviceNameKey) (s : Shared ι) (i : ι) (t : List Firing) :
    Prop :=
  At k (finish (firing i) (s.pc i) s.streamingPid).1
    (s.events ++ (finish (firing i) (s.pc i) s.streamingPid).2) t

/-- The firings take the device where it is, or where the instance under way takes it. -/
def Serial (firing : ι → Firing) (k : DeviceNameKey) (s : Shared ι) (t : List Firing) : Prop :=
  (∃ i, (firing i).key = some k ∧ Busy (s.pc i) ∧ Alone firing k s i ∧ Ends firing k s i t) ∨
  ((∀ j, (firing j).key = some k → ¬ Busy (s.pc j)) ∧ At k s.streamingPid s.events t)

/-- A firing on another device leaves the device where it is. -/
theorem At.other {es : List CameraEvent} {t : List Firing} (h : At k m es t) (hk : f.key ≠ some k) :
    At k m es (t ++ [f]) := by
  have hevents : eventsOf k (submits t f) = [] :=
    eventsOf_eq_nil fun e he => device_ne_of_mem_step hk he
  refine ⟨?_, ?_⟩
  · rw [streamingPid_snoc, lookup_step_ne hk]
    exact h.entry
  · rw [submitted_snoc, eventsOf_append, hevents, List.append_nil]
    exact h.events

variable {s : Shared ι} {t : List Firing} {ks : Finset DeviceNameKey}

/-- A step of an instance on another device leaves the device where it is. -/
theorem At.step_other (h : At k s.streamingPid s.events t) (hk : (firing i).key ≠ some k) :
    At k (s.step firing i).streamingPid (s.step firing i).events t := by
  refine ⟨?_, ?_⟩
  · have hentry : (s.step firing i).streamingPid.lookup k = s.streamingPid.lookup k :=
      lookup_advance_ne _ _ hk
    rw [hentry]
    exact h.entry
  · rw [step_events, eventsOf_append, eventsOf_advance_ne _ _ hk, List.append_nil]
    exact h.events

theorem Ends.step_other (hcard : ks.card ≤ 64) (hks : k ∈ ks) (hm : Within ks s.streamingPid)
    (hm' : Within ks (s.step firing i).streamingPid) {j : ι} (hj : (firing j).key = some k)
    (h : Ends firing k s j t) (hk : (firing i).key ≠ some k) :
    Ends firing k (s.step firing i) j t := by
  have hji : j ≠ i := fun e => hk (e ▸ hj)
  have hentry : (s.step firing i).streamingPid.lookup k = s.streamingPid.lookup k :=
    lookup_advance_ne _ _ hk
  obtain ⟨hlookup, hes⟩ := finish_congr hcard hj hks (s.pc j) hm' hm hentry
  unfold Ends
  rw [step_pc, if_neg hji]
  refine ⟨hlookup.trans h.entry, ?_⟩
  rw [hes, step_events, eventsOf_append, eventsOf_append, eventsOf_advance_ne _ _ hk,
    List.append_nil, ← eventsOf_append]
  exact h.events

/-- What the instance comes to does not change when it takes a step. -/
theorem Ends.step (h : Ends firing k s i t) : Ends firing k (s.step firing i) i t := by
  unfold Ends at *
  rw [finish_step] at h
  rw [step_pc, if_pos rfl, step_events, List.append_assoc]
  exact h

/-- An instance that is scheduled comes to where the firings with its own take the device. -/
theorem Serial.ends (hcard : ks.card ≤ 64) (hks : k ∈ ks) (hm : Within ks s.streamingPid)
    (ht : Within ks (streamingPid t)) (hk : (firing i).key = some k) (h : Serial firing k s t)
    (halone : Alone firing k s i) :
    Ends firing k s i (t ++ if s.pc i = .enter then [firing i] else []) := by
  rcases h with ⟨j, hj, hbusy, -, hends⟩ | ⟨hidle, hat⟩
  · have hji : j = i := by
      by_contra hne
      exact halone j hne hj hbusy
    subst hji
    rw [if_neg hbusy.1, List.append_nil]
    exact hends
  · unfold Ends
    by_cases henter : s.pc i = .enter
    · -- its first step
      rw [if_pos henter, henter]
      obtain ⟨hlookup, hes⟩ := finish_congr hcard hk hks .enter hm ht hat.entry
      rw [finish_enter, finish_enter] at hlookup hes
      rw [finish_enter]
      refine ⟨?_, ?_⟩
      · rw [streamingPid_snoc]
        exact hlookup
      · rw [hes, submitted_snoc, eventsOf_append, eventsOf_append, hat.events]
        rfl
    · have hdone : s.pc i = .done := by
        by_contra hne
        exact hidle i hk ⟨henter, hne⟩
      rw [if_neg henter, hdone, finish_done, List.append_nil, List.append_nil]
      exact hat

/-- **Every step keeps the device in series.** -/
theorem Serial.step (hcard : ks.card ≤ 64) (hks : k ∈ ks) (hm : Within ks s.streamingPid)
    (hm' : Within ks (s.step firing i).streamingPid) (ht : Within ks (streamingPid t))
    (h : Serial firing k s t) (halone : (firing i).key = some k → Alone firing k s i) :
    Serial firing k (s.step firing i) (t ++ if s.pc i = .enter then [firing i] else []) := by
  by_cases hk : (firing i).key = some k
  · have hends := (h.ends hcard hks hm ht hk (halone hk)).step
    have hothers : Alone firing k (s.step firing i) i := by
      intro j hj hjk
      rw [step_pc, if_neg hj]
      exact halone hk j hj hjk
    by_cases hbusy : Busy ((s.step firing i).pc i)
    · exact .inl ⟨i, hk, hbusy, hothers, hends⟩
    · have hdone : (s.step firing i).pc i = .done := by
        by_contra hne
        refine hbusy ⟨?_, hne⟩
        rw [step_pc, if_pos rfl]
        exact advance_ne_enter _ _ _
      refine .inr ⟨fun j hjk => ?_, ?_⟩
      · by_cases hj : j = i
        · exact hj ▸ hbusy
        · exact hothers j hj hjk
      · unfold Ends at hends
        rw [hdone, finish_done, List.append_nil] at hends
        exact hends
  · have hpc : ∀ j, (firing j).key = some k → (s.step firing i).pc j = s.pc j := by
      intro j hj
      have hji : j ≠ i := fun e => hk (e ▸ hj)
      rw [step_pc, if_neg hji]
    have hother : ∀ {m es}, At k m es t →
        At k m es (t ++ if s.pc i = .enter then [firing i] else []) := by
      intro m es hat
      split
      · exact hat.other hk
      · rwa [List.append_nil]
    rcases h with ⟨j, hj, hbusy, hidle, hends⟩ | ⟨hidle, hat⟩
    · refine .inl ⟨j, hj, hpc j hj ▸ hbusy, fun l hl hlk => ?_,
        hother (hends.step_other hcard hks hm hm' hj hk)⟩
      rw [hpc l hlk]
      exact hidle l hl hlk
    · refine .inr ⟨fun j hj => ?_, hother (hat.step_other hk)⟩
      rw [hpc j hj]
      exact hidle j hj

/-! ## Whole schedules -/

theorem within_shared (hkeys : ∀ i ∈ sched, ∀ k, (firing i).key = some k → k ∈ ks) :
    Within ks (shared firing sched).streamingPid := by
  induction sched using List.reverseRecOn with
  | nil =>
    intro k hk
    simp [shared, BoundedMap.mem_iff] at hk
  | append_singleton sched i ih =>
    rw [shared_snoc]
    exact (ih fun j hj => hkeys j (List.mem_append_left _ hj)).advance (hkeys i (by simp)) _

theorem within_inSeries (hkeys : ∀ i ∈ sched, ∀ k, (firing i).key = some k → k ∈ ks) :
    Within ks (streamingPid (inSeries firing sched)) := by
  intro k hk
  obtain ⟨f, hf, hfk⟩ := mem_deviceKeys.1 (mem_deviceKeys_of_mem hk)
  obtain ⟨i, hi, rfl⟩ := List.mem_map.1 hf
  exact hkeys i (List.mem_eraseDups.1 hi) k hfk

/-- The instances on a device do not overlap: one takes a step only while no other one is under
way. -/
def Disjoint (firing : ι → Firing) (k : DeviceNameKey) (sched : List ι) : Prop :=
  ∀ l i r, sched = l ++ i :: r → (firing i).key = some k → Alone firing k (shared firing l) i

theorem serial_shared (hcard : ks.card ≤ 64)
    (hkeys : ∀ i ∈ sched, ∀ k, (firing i).key = some k → k ∈ ks) (hks : k ∈ ks)
    (hdisjoint : Disjoint firing k sched) :
    Serial firing k (shared firing sched) (inSeries firing sched) := by
  induction sched using List.reverseRecOn with
  | nil => exact .inr ⟨fun j _ hb => hb.1 rfl, rfl, rfl⟩
  | append_singleton sched i ih =>
    have hkeys' : ∀ j ∈ sched, ∀ k, (firing j).key = some k → k ∈ ks :=
      fun j hj => hkeys j (List.mem_append_left _ hj)
    have hserial := ih hkeys' fun l j r h hj => hdisjoint l j (r ++ [i]) (by simp [h]) hj
    have hstep := hserial.step hcard hks (within_shared hkeys')
      (shared_snoc firing sched i ▸ within_shared hkeys) (within_inSeries hkeys')
      (hdisjoint sched i [] rfl)
    rw [shared_snoc, inSeries_snoc]
    have hfirst : (if i ∈ sched then [] else [firing i]) =
        if (shared firing sched).pc i = .enter then [firing i] else [] := by
      by_cases hi : i ∈ sched <;> simp [pc_eq_enter_iff, hi]
    rw [hfirst]
    exact hstep

theorem at_of_unscheduled (hno : ∀ i ∈ sched, (firing i).key ≠ some k) :
    At k (shared firing sched).streamingPid (shared firing sched).events
      (inSeries firing sched) := by
  induction sched using List.reverseRecOn with
  | nil => exact ⟨rfl, rfl⟩
  | append_singleton sched i ih =>
    have hat := ih fun j hj => hno j (List.mem_append_left _ hj)
    have hi : (firing i).key ≠ some k := hno i (by simp)
    rw [shared_snoc, inSeries_snoc]
    split
    · rw [List.append_nil]
      exact hat.step_other hi
    · exact (hat.step_other hi).other hi

/-- **Concurrent probes are serial.** For every schedule of any number of instances on at most 64
devices: if the instances on a device do not overlap and none of them is under way, whatever those
on other devices do in between and with any failures of reserves, the device's entry and the events
submitted about it are those of the instances run one after another, in the order of their first
steps. If no reserve fails, the entry is that of the owner in this order. -/
theorem serial_refines (firing : ι → Firing) (sched : List ι) (k : DeviceNameKey)
    (hkeys : (deviceKeys (sched.map firing)).card ≤ 64) (hdisjoint : Disjoint firing k sched)
    (hidle : ∀ i, (firing i).key = some k → ¬ Busy ((shared firing sched).pc i)) :
    (shared firing sched).streamingPid.lookup k =
      (streamingPid (inSeries firing sched)).lookup k ∧
    eventsOf k (shared firing sched).events = eventsOf k (submitted (inSeries firing sched)) ∧
    ((∀ i ∈ sched, (firing i).reserve.isSome) →
      (shared firing sched).streamingPid.lookup k = owner k (inSeries firing sched)) := by
  have hmem : ∀ i ∈ sched, ∀ k', (firing i).key = some k' → k' ∈ deviceKeys (sched.map firing) :=
    fun i hi k' hk' => mem_deviceKeys.2 ⟨_, List.mem_map_of_mem hi, hk'⟩
  have hat : At k (shared firing sched).streamingPid (shared firing sched).events
      (inSeries firing sched) := by
    by_cases hks : k ∈ deviceKeys (sched.map firing)
    · rcases serial_shared hkeys hmem hks hdisjoint with ⟨i, hi, hbusy, -⟩ | ⟨-, hat⟩
      · exact absurd hbusy (hidle i hi)
      · exact hat
    · exact at_of_unscheduled fun i hi hk => hks (hmem i hi k hk)
  refine ⟨hat.entry, hat.events, fun hres => ?_⟩
  have hun : Unfailing (inSeries firing sched) := by
    refine ⟨fun f hf => ?_, (Finset.card_le_card fun k' hk' => ?_).trans hkeys⟩
    · obtain ⟨i, hi, rfl⟩ := List.mem_map.1 hf
      exact hres i (List.mem_eraseDups.1 hi)
    · obtain ⟨f, hf, hfk⟩ := mem_deviceKeys.1 hk'
      obtain ⟨i, hi, rfl⟩ := List.mem_map.1 hf
      exact hmem i (List.mem_eraseDups.1 hi) k' hfk
  rw [hat.entry, lookup_eq_owner hun]

end

/-- The same firing on `video1`. -/
def onVideo1 (probe : Probe) (pid : UInt32) : Firing :=
  { onVideo0 probe pid with file := some ⟨some ⟨[118, 105, 100, 101, 111, 49], by decide⟩⟩ }

/-- A streamon on each of two devices, step by step in turn. -/
def inTurn (i : Fin 2) : Firing := if i = 0 then onVideo0 .streamon 7 else onVideo1 .streamon 8

theorem serial_in_turn : (shared inTurn [0, 1, 0, 1]).streamingPid.lookup video0 =
    owner video0 (inSeries inTurn [0, 1, 0, 1]) := by
  have hone : ∀ i j : Fin 2, (inTurn i).key = some video0 → j ≠ i →
      (inTurn j).key ≠ some video0 := by decide
  exact (serial_refines inTurn [0, 1, 0, 1] video0 (by decide)
    (fun l i r _ hi j hj hjk => absurd hjk (hone i j hi hj)) (by unfold Busy; decide)).2.2
    (by decide)

end Bpf
