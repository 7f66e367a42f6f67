import CameraCoordinator.Bpf.Guard

/-!
# Concurrent probes

Instances of the probes that run at the same time share `streaming_pid` and the ring buffer. Each
lookup, update, delete and submit is one atomic step, and a schedule says which instance takes the
next one. An instance that runs alone does what `Bpf.run` does (`alone`).

Between the lookup that matches and the delete of a release, other instances may take steps, and
the result of the delete is ignored. `guarded_of_own`: as long as every release deletes its own
process's entry, releases emit at most once per update, and delete no other process's entry.
-/

set_option autoImplicit false

namespace Bpf

/-! ## Steps -/

/-- Where an instance is: before its first step, at a later one, or returned. -/
inductive Pc
  | enter
  /-- A streamon at the update in `record_streaming_pid`. -/
  | updating
  /-- A streamoff at the delete in `clear_streaming_pid`. -/
  | clearing
  /-- A release past the comparison, at the delete in `check_streaming_pid_and_clear`. -/
  | deleting
  /-- A release at the submit in `emit_event`. -/
  | emitting
  | done
  deriving DecidableEq

/-- The next step of an instance: where it is then, the map, and the events submitted. -/
def advance (f : Firing) (pc : Pc) (m : StreamingPid) : Pc × StreamingPid × List CameraEvent :=
  match f.namePtr with
  | none => (.done, m, [])
  | some namePtr =>
    match f.probe, pc with
    | .streamon, .enter => (.updating, m, emitEvent f.reserve namePtr cameraEventTypeStreamOn
        cameraEventSourceIoctl f.pid)
    | .streamon, .updating => (.done, recordStreamingPid m namePtr f.pid, [])
    | .streamoff, .enter => (.clearing, m, emitEvent f.reserve namePtr cameraEventTypeStreamOff
        cameraEventSourceIoctl f.pid)
    | .streamoff, .clearing => (.done, clearStreamingPid m namePtr, [])
    | .fopRelease, .enter =>
      match m.lookup (deviceNameKey namePtr) with
      | none => (.done, m, [])
      | some storedPid => if storedPid ≠ f.pid then (.done, m, []) else (.deleting, m, [])
    | .fopRelease, .deleting => (.emitting, m.delete (deviceNameKey namePtr), [])
    | .fopRelease, .emitting => (.done, m, emitEvent f.reserve namePtr cameraEventTypeStreamOff
        cameraEventSourceFopRelease f.pid)
    | _, pc => (pc, m, [])

/-- The steps of an instance that runs alone, `n` of them. -/
def advances (f : Firing) : Nat → Pc × StreamingPid → Pc × StreamingPid × List CameraEvent
  | 0, (pc, m) => (pc, m, [])
  | n + 1, (pc, m) =>
    let (pc', m', es) := advance f pc m
    let (pc'', m'', es') := advances f n (pc', m')
    (pc'', m'', es ++ es')

variable {ι : Type*} [DecidableEq ι]

/-- The shared state and where the instances are. -/
structure Shared (ι : Type*) where
  pc : ι → Pc
  streamingPid : StreamingPid
  /-- The events submitted, each with the instance that did. -/
  submitted : List (ι × CameraEvent)
  /-- The keys of the updates that succeeded. -/
  updates : List DeviceNameKey
  /-- The deletes of releases: the instance, and the pid it found in the entry if there was one. -/
  deletes : List (ι × Option UInt32)

/-- The instance `i` takes its next step. -/
def Shared.step (firing : ι → Firing) (s : Shared ι) (i : ι) : Shared ι :=
  let f := firing i
  let next := advance f (s.pc i) s.streamingPid
  { pc := Function.update s.pc i next.1
    streamingPid := next.2.1
    submitted := s.submitted ++ next.2.2.map (i, ·)
    updates := s.updates ++ (f.key.filter fun k =>
      f.probe = .streamon ∧ s.pc i = .updating ∧ s.streamingPid.Room k).toList
    deletes := s.deletes ++ (f.key.filter fun _ =>
      f.probe = .fopRelease ∧ s.pc i = .deleting).toList.map fun k =>
        (i, s.streamingPid.lookup k) }

/-- The state after a schedule. -/
def shared (firing : ι → Firing) (sched : List ι) : Shared ι :=
  sched.foldl (Shared.step firing) ⟨fun _ => .enter, ∅, [], [], []⟩

theorem shared_snoc (firing : ι → Firing) (sched : List ι) (i : ι) :
    shared firing (sched ++ [i]) = (shared firing sched).step firing i := by
  simp [shared]

/-- An instance that runs alone does what a firing does. -/
theorem alone (f : Firing) (m : StreamingPid) :
    advances f 3 (.enter, m) = (.done, run.step m f) := by
  cases hn : f.namePtr with
  | none => cases hp : f.probe <;> simp [advances, advance, run, hn, hp, kprobeVb2IoctlStreamon,
      kprobeVb2IoctlStreamoff, kprobeVb2FopRelease]
  | some n =>
    cases hp : f.probe with
    | streamon => simp [advances, advance, run, hn, hp, kprobeVb2IoctlStreamon]
    | streamoff => simp [advances, advance, run, hn, hp, kprobeVb2IoctlStreamoff]
    | fopRelease =>
      cases hl : m.lookup (deviceNameKey n) with
      | none => simp [advances, advance, run, hn, hp, kprobeVb2FopRelease,
          checkStreamingPidAndClear, hl]
      | some storedPid =>
        by_cases hpid : storedPid = f.pid <;> simp [advances, advance, run, hn, hp,
          kprobeVb2FopRelease, checkStreamingPidAndClear, hl, hpid]

/-! ## One step -/

/-- From `pc` to `pc'` an instance does not pass the delete or the submit of a release, and it
submits no event of one. -/
structure Quiet (pc pc' : Pc) (es : List CameraEvent) : Prop where
  emitting : pc' = .emitting → pc = .emitting
  done : pc = .done → pc' = .done
  past : pc = .emitting → pc' = .emitting ∨ pc' = .done
  source : ∀ e ∈ es, e.source ≠ cameraEventSourceFopRelease

theorem quiet_refl (pc : Pc) : Quiet pc pc [] := ⟨id, id, .inl, by simp⟩

theorem quiet_done (pc : Pc) : Quiet pc .done [] :=
  ⟨by simp, fun _ => rfl, fun _ => .inr rfl, by simp⟩

theorem quiet_emits {f : Firing} {k : DeviceNameKey} {type : UInt32} {es : List CameraEvent}
    {pc' : Pc} (h : Emits f k type cameraEventSourceIoctl es) (hpc : pc' ≠ .emitting) :
    Quiet .enter pc' es := by
  refine ⟨fun h => absurd h hpc, by simp, by simp, fun e he hs => ?_⟩
  rw [(h.of_mem he).source] at hs
  exact absurd hs (by decide)

/-- **What a step of an instance on a device does**: the update of a streamon, the delete of a
streamoff or of a release, the submit of a release, or nothing to the map. -/
theorem advance_cases {f : Firing} {k : DeviceNameKey} (pc : Pc) (m : StreamingPid)
    (hk : f.key = some k) :
    (f.probe = .streamon ∧ pc = .updating ∧ advance f pc m = (.done, m.set k f.pid, [])) ∨
    (f.probe = .streamoff ∧ pc = .clearing ∧ advance f pc m = (.done, m.delete k, [])) ∨
    (f.probe = .fopRelease ∧ pc = .deleting ∧ advance f pc m = (.emitting, m.delete k, [])) ∨
    (f.probe = .fopRelease ∧ pc = .emitting ∧ ∃ es, advance f pc m = (.done, m, es) ∧
      Emits f k cameraEventTypeStreamOff cameraEventSourceFopRelease es) ∨
    (¬ (f.probe = .streamon ∧ pc = .updating) ∧ ¬ (f.probe = .fopRelease ∧ pc = .deleting) ∧
      ∃ pc' es, advance f pc m = (pc', m, es) ∧ Quiet pc pc' es) := by
  obtain ⟨n, hn, rfl⟩ : ∃ n, f.namePtr = some n ∧ deviceNameKey n = k := by
    simpa [Firing.key] using hk
  unfold advance
  rw [hn]
  cases hp : f.probe with
  | streamon =>
    cases pc with
    | enter =>
      have hem := emits_emitEvent f n cameraEventTypeStreamOn cameraEventSourceIoctl
      exact .inr (.inr (.inr (.inr ⟨by simp, by simp, _, _, rfl, quiet_emits hem (by decide)⟩)))
    | updating => exact .inl ⟨rfl, rfl, rfl⟩
    | _ => exact .inr (.inr (.inr (.inr ⟨by simp, by simp, _, _, rfl, quiet_refl _⟩)))
  | streamoff =>
    cases pc with
    | enter =>
      have hem := emits_emitEvent f n cameraEventTypeStreamOff cameraEventSourceIoctl
      exact .inr (.inr (.inr (.inr ⟨by simp, by simp, _, _, rfl, quiet_emits hem (by decide)⟩)))
    | clearing => exact .inr (.inl ⟨rfl, rfl, rfl⟩)
    | _ => exact .inr (.inr (.inr (.inr ⟨by simp, by simp, _, _, rfl, quiet_refl _⟩)))
  | fopRelease =>
    cases pc with
    | enter =>
      have hquiet : ∀ pc', pc' ≠ Pc.emitting → Quiet .enter pc' [] := fun pc' hne =>
        ⟨fun h => absurd h hne, by simp, by simp, by simp⟩
      refine .inr (.inr (.inr (.inr ⟨by simp, by simp, ?_⟩)))
      dsimp only
      split
      · exact ⟨_, _, rfl, hquiet _ (by decide)⟩
      · split
        · exact ⟨_, _, rfl, hquiet _ (by decide)⟩
        · exact ⟨_, _, rfl, hquiet _ (by decide)⟩
    | deleting => exact .inr (.inr (.inl ⟨rfl, rfl, rfl⟩))
    | emitting => exact .inr (.inr (.inr (.inl ⟨rfl, rfl, _, rfl, emits_emitEvent f n _ _⟩)))
    | _ => exact .inr (.inr (.inr (.inr ⟨by simp, by simp, _, _, rfl, quiet_refl _⟩)))

/-- A step of an instance leaves the map, or sets or deletes the entry of its device. -/
theorem advance_map {f : Firing} {k : DeviceNameKey} (pc : Pc) (m : StreamingPid)
    (hk : f.key = some k) : (advance f pc m).2.1 = m ∨ (advance f pc m).2.1 = m.set k f.pid ∨
      (advance f pc m).2.1 = m.delete k := by
  rcases advance_cases pc m hk with ⟨-, -, h⟩ | ⟨-, -, h⟩ | ⟨-, -, h⟩ | ⟨-, -, es, h, -⟩ |
      ⟨-, -, pc', es, h, -⟩ <;> simp [h]

theorem advance_of_key_none {f : Firing} (pc : Pc) (m : StreamingPid) (hk : f.key = none) :
    advance f pc m = (.done, m, []) := by
  have hn : f.namePtr = none := by simpa [Firing.key] using hk
  simp [advance, hn]

/-- It leaves the entries of the other devices alone. -/
theorem lookup_advance_ne {f : Firing} {k : DeviceNameKey} (pc : Pc) (m : StreamingPid)
    (hk : f.key ≠ some k) : (advance f pc m).2.1.lookup k = m.lookup k := by
  cases hf : f.key with
  | none => rw [advance_of_key_none pc m hf]
  | some k' =>
    have hne : k ≠ k' := fun e => hk (e ▸ hf)
    rcases advance_map pc m hf with h | h | h
    · rw [h]
    · rw [h, BoundedMap.lookup_set, if_neg fun h => hne h.1]
    · rw [h, BoundedMap.lookup_delete, if_neg hne]

/-- What a step of an instance means for the releases. -/
theorem advance_release (f : Firing) (pc : Pc) (m : StreamingPid) :
    (∃ k, f.key = some k ∧ f.probe = .fopRelease ∧ pc = .deleting ∧
      advance f pc m = (.emitting, m.delete k, [])) ∨
    (∃ k es, f.key = some k ∧ f.probe = .fopRelease ∧ pc = .emitting ∧
      advance f pc m = (.done, m, es) ∧
      Emits f k cameraEventTypeStreamOff cameraEventSourceFopRelease es) ∨
    ((f.key = none ∨ ¬ (f.probe = .fopRelease ∧ pc = .deleting)) ∧
      Quiet pc (advance f pc m).1 (advance f pc m).2.2) := by
  cases hk : f.key with
  | none =>
    have hn : f.namePtr = none := by simpa [Firing.key] using hk
    refine .inr (.inr ⟨.inl rfl, ?_⟩)
    simpa [advance, hn] using quiet_done pc
  | some k =>
    rcases advance_cases pc m hk with ⟨hp, -, hs⟩ | ⟨hp, -, hs⟩ | ⟨hp, hpc, hs⟩ |
        ⟨hp, hpc, es, hs, hem⟩ | ⟨-, hno, pc', es, hs, hq⟩
    · exact .inr (.inr ⟨.inr (by simp [hp]), by rw [hs]; exact quiet_done pc⟩)
    · exact .inr (.inr ⟨.inr (by simp [hp]), by rw [hs]; exact quiet_done pc⟩)
    · exact .inl ⟨k, rfl, hp, hpc, hs⟩
    · exact .inr (.inl ⟨k, es, rfl, hp, hpc, hs, hem⟩)
    · exact .inr (.inr ⟨.inr hno, by rw [hs]; exact hq⟩)

/-! ## Releases delete before they submit -/

section
variable {firing : ι → Firing} {s : Shared ι}

/-- The release-sourced events, with the instances that submitted them. -/
def Shared.offs (s : Shared ι) : List (ι × CameraEvent) :=
  s.submitted.filter fun p => p.2.source = cameraEventSourceFopRelease

/-- Every release-sourced event is of a release that has deleted, one event each. -/
structure Paired (firing : ι → Firing) (s : Shared ι) : Prop where
  emitting : ∀ i, s.pc i = .emitting → i ∈ s.deletes.map Prod.fst
  deleted : ∀ i ∈ s.deletes.map Prod.fst, s.pc i = .emitting ∨ s.pc i = .done
  offs : ∀ p ∈ s.offs, s.pc p.1 = .done ∧ p.1 ∈ s.deletes.map Prod.fst ∧
    ∃ k, (firing p.1).key = some k ∧ p.2.device = k.device
  nodup : (s.offs.map Prod.fst).Nodup

theorem step_pc (s : Shared ι) (i j : ι) : (s.step firing i).pc j =
    if j = i then (advance (firing i) (s.pc i) s.streamingPid).1 else s.pc j := by
  simp [Shared.step, Function.update_apply]

theorem step_offs (s : Shared ι) (i : ι) : (s.step firing i).offs = s.offs ++
    ((advance (firing i) (s.pc i) s.streamingPid).2.2.map (i, ·)).filter fun p =>
      p.2.source = cameraEventSourceFopRelease := by
  simp [Shared.step, Shared.offs]

theorem step_deletes {i : ι} {k : DeviceNameKey} (hk : (firing i).key = some k)
    (hp : (firing i).probe = .fopRelease) (hpc : s.pc i = .deleting) :
    (s.step firing i).deletes = s.deletes ++ [(i, s.streamingPid.lookup k)] := by
  simp [Shared.step, hk, hp, hpc, Option.filter]

theorem step_deletes_of_not {i : ι} (h : (firing i).key = none ∨
    ¬ ((firing i).probe = .fopRelease ∧ s.pc i = .deleting)) :
    (s.step firing i).deletes = s.deletes := by
  rcases h with hk | hno
  · simp [Shared.step, hk]
  · simp [Shared.step, hno]

omit [DecidableEq ι] in
/-- A release submits at most one event. -/
theorem offs_of_emits {i : ι} {f : Firing} {k : DeviceNameKey} {es : List CameraEvent}
    (h : Emits f k cameraEventTypeStreamOff cameraEventSourceFopRelease es) :
    ((es.map (i, ·)).filter fun p => p.2.source = cameraEventSourceFopRelease) = [] ∨
    ∃ e, ((es.map (i, ·)).filter fun p => p.2.source = cameraEventSourceFopRelease) = [(i, e)] ∧
      e.device = k.device := by
  rcases h with ⟨-, rfl⟩ | ⟨e, -, rfl, hem⟩
  · exact .inl rfl
  · exact .inr ⟨e, by simp [hem.source], hem.device⟩

omit [DecidableEq ι] in
/-- A release that has submitted takes no further step. -/
theorem Paired.ne_of_mem_offs (hs : Paired firing s) {i : ι} (hi : s.pc i ≠ .done)
    {p : ι × CameraEvent} (hp : p ∈ s.offs) : p.1 ≠ i := fun h => hi (h ▸ (hs.offs p hp).1)

/-- A release deletes. -/
theorem paired_delete (hs : Paired firing s) {i : ι} {k : DeviceNameKey}
    (hk : (firing i).key = some k) (hp : (firing i).probe = .fopRelease) (hpc : s.pc i = .deleting)
    (hadv : advance (firing i) (s.pc i) s.streamingPid = (.emitting, s.streamingPid.delete k, [])) :
    Paired firing (s.step firing i) := by
  have hdel := step_deletes hk hp hpc
  have hoffs : (s.step firing i).offs = s.offs := by simp [step_offs, hadv]
  have hmem : ∀ j, j ∈ (s.step firing i).deletes.map Prod.fst ↔
      j ∈ s.deletes.map Prod.fst ∨ j = i := by simp [hdel]
  refine ⟨fun j hj => ?_, fun j hj => ?_, fun p hp => ?_, hoffs ▸ hs.nodup⟩
  · rw [hmem]
    by_cases hji : j = i
    · exact .inr hji
    · rw [step_pc, if_neg hji] at hj
      exact .inl (hs.emitting j hj)
  · rw [step_pc, hadv]
    by_cases hji : j = i
    · exact .inl (if_pos hji)
    · rw [if_neg hji]
      exact hs.deleted j (((hmem j).1 hj).resolve_right hji)
  · rw [hoffs] at hp
    obtain ⟨hdone, hdeleted, hkey⟩ := hs.offs p hp
    rw [step_pc, if_neg (hs.ne_of_mem_offs (by simp [hpc]) hp), hmem]
    exact ⟨hdone, .inl hdeleted, hkey⟩

/-- A release submits. -/
theorem paired_submit (hs : Paired firing s) {i : ι} {k : DeviceNameKey} {es : List CameraEvent}
    (hk : (firing i).key = some k) (hpc : s.pc i = .emitting)
    (hadv : advance (firing i) (s.pc i) s.streamingPid = (.done, s.streamingPid, es))
    (hem : Emits (firing i) k cameraEventTypeStreamOff cameraEventSourceFopRelease es) :
    Paired firing (s.step firing i) := by
  have hdel : (s.step firing i).deletes = s.deletes := step_deletes_of_not (.inr (by simp [hpc]))
  have hoffs : (s.step firing i).offs = _ := step_offs s i
  rw [hadv] at hoffs
  have hne : ∀ p ∈ s.offs, p.1 ≠ i := fun p => hs.ne_of_mem_offs (by simp [hpc])
  have hpci : (s.step firing i).pc i = .done := by rw [step_pc, if_pos rfl, hadv]
  have hpcj : ∀ j, j ≠ i → (s.step firing i).pc j = s.pc j := fun j hj => by
    rw [step_pc, if_neg hj]
  refine ⟨fun j hj => ?_, fun j hj => ?_, fun p hp => ?_, ?_⟩
  · rw [hdel]
    by_cases hji : j = i
    · exact hji ▸ hs.emitting i hpc
    · exact hs.emitting j (by rwa [hpcj j hji] at hj)
  · rw [hdel] at hj
    by_cases hji : j = i
    · exact .inr (hji ▸ hpci)
    · rw [hpcj j hji]
      exact hs.deleted j hj
  · rw [hoffs] at hp
    rw [hdel]
    rcases List.mem_append.1 hp with hp | hp
    · rw [hpcj _ (hne p hp)]
      exact hs.offs p hp
    · rcases offs_of_emits (i := i) hem with h0 | ⟨e, h1, hd⟩
      · rw [h0] at hp
        cases hp
      · rw [h1] at hp
        obtain rfl := List.mem_singleton.1 hp
        exact ⟨hpci, hs.emitting i hpc, k, hk, hd⟩
  · rw [hoffs]
    rcases offs_of_emits (i := i) hem with h0 | ⟨e, h1, -⟩
    · rw [h0, List.append_nil]
      exact hs.nodup
    · rw [h1, List.map_append, List.nodup_append]
      refine ⟨hs.nodup, by simp, ?_⟩
      rintro _ hj _ hi rfl
      obtain ⟨p, hp, rfl⟩ := List.mem_map.1 hj
      exact hne p hp (by simpa using hi)

/-- Any other step. -/
theorem paired_quiet (hs : Paired firing s) {i : ι} (hno : (firing i).key = none ∨
      ¬ ((firing i).probe = .fopRelease ∧ s.pc i = .deleting))
    (hq : Quiet (s.pc i) (advance (firing i) (s.pc i) s.streamingPid).1
      (advance (firing i) (s.pc i) s.streamingPid).2.2) : Paired firing (s.step firing i) := by
  have hdel : (s.step firing i).deletes = s.deletes := step_deletes_of_not hno
  have hoffs : (s.step firing i).offs = s.offs := by
    have hnil : ((advance (firing i) (s.pc i) s.streamingPid).2.2.map (i, ·)).filter
        (fun p => p.2.source = cameraEventSourceFopRelease) = [] := by
      simpa [List.filter_eq_nil_iff] using hq.source
    rw [step_offs, hnil, List.append_nil]
  refine ⟨fun j hj => ?_, fun j hj => ?_, fun p hp => ?_, hoffs ▸ hs.nodup⟩
  · rw [hdel]
    refine hs.emitting j ?_
    rw [step_pc] at hj
    split at hj
    · rename_i hji
      exact hji ▸ hq.emitting hj
    · exact hj
  · rw [hdel] at hj
    rw [step_pc]
    split
    · rename_i hji
      rcases hs.deleted j hj with h | h
      · exact hq.past (hji ▸ h)
      · exact .inr (hq.done (hji ▸ h))
    · exact hs.deleted j hj
  · rw [hoffs] at hp
    obtain ⟨hdone, hdeleted, hkey⟩ := hs.offs p hp
    rw [hdel, step_pc]
    refine ⟨?_, hdeleted, hkey⟩
    split
    · rename_i hji
      exact hq.done (hji ▸ hdone)
    · exact hdone

/-- **Every step keeps the pairing.** -/
theorem Paired.step (hs : Paired firing s) (i : ι) : Paired firing (s.step firing i) := by
  rcases advance_release (firing i) (s.pc i) s.streamingPid with
      ⟨k, hk, hp, hpc, hadv⟩ | ⟨k, es, hk, -, hpc, hadv, hem⟩ | ⟨hno, hq⟩
  · exact paired_delete hs hk hp hpc hadv
  · exact paired_submit hs hk hpc hadv hem
  · exact paired_quiet hs hno hq

theorem paired_shared (firing : ι → Firing) (sched : List ι) :
    Paired firing (shared firing sched) := by
  induction sched using List.reverseRecOn with
  | nil => exact ⟨by simp [shared], by simp [shared], by simp [shared, Shared.offs],
      by simp [shared, Shared.offs]⟩
  | append_singleton sched i ih =>
    rw [shared_snoc]
    exact ih.step i

/-! ## Deletes use up updates -/

/-- The deletes that releases did for the device. -/
def Shared.deletesOf (firing : ι → Firing) (s : Shared ι) (k : DeviceNameKey) :
    List (ι × Option UInt32) := s.deletes.filter fun d => (firing d.1).key = some k

omit [DecidableEq ι] in
/-- A device has no more release-sourced STREAM_OFF events than releases that deleted. -/
theorem releaseOffs_le_deletes (hs : Paired firing s) (k : DeviceNameKey) :
    (releaseOffs k.device (s.submitted.map Prod.snd)).length ≤ (s.deletesOf firing k).length := by
  let about : ι × CameraEvent → Bool := fun p => p.2.eventType == cameraEventTypeStreamOff &&
    (p.2.source == cameraEventSourceFopRelease && p.2.device == k.device)
  have hmap : releaseOffs k.device (s.submitted.map Prod.snd) =
      (s.submitted.filter about).map Prod.snd := by
    unfold releaseOffs
    rw [List.filter_map]
    rfl
  have hsub : (s.submitted.filter about).Sublist s.offs := by
    refine List.monotone_filter_right _ fun p hp => ?_
    simp only [about, Bool.and_eq_true, beq_iff_eq] at hp
    simpa using hp.2.1
  have hnodup : ((s.submitted.filter about).map Prod.fst).Nodup := hs.nodup.sublist (hsub.map _)
  have hsubset : (s.submitted.filter about).map Prod.fst ⊆ (s.deletesOf firing k).map Prod.fst := by
    intro i hi
    obtain ⟨p, hp, rfl⟩ := List.mem_map.1 hi
    obtain ⟨-, hmem, k', hk', hd⟩ := hs.offs p (hsub.subset hp)
    obtain ⟨d, hd', hfst⟩ := List.mem_map.1 hmem
    have hdev : p.2.device = k.device := by
      have habout := (List.mem_filter.1 hp).2
      simp only [about, Bool.and_eq_true, beq_iff_eq] at habout
      exact habout.2.2
    have hkey : (firing d.1).key = some k := by
      rw [hfst, hk', device_inj.1 (hd.symm.trans hdev)]
    exact List.mem_map.2 ⟨d, List.mem_filter.2 ⟨hd', by simpa using hkey⟩, hfst⟩
  have hle := (List.subperm_of_subset hnodup hsubset).length_le
  rw [hmap, List.length_map]
  simpa using hle

/-- The next step of the instance is no delete of a release, or one of its own process's entry. -/
def OwnDelete (firing : ι → Firing) (s : Shared ι) (i : ι) : Prop :=
  (firing i).probe = .fopRelease → s.pc i = .deleting → ∀ k ∈ (firing i).key,
    s.streamingPid.lookup k = some (firing i).pid

instance (firing : ι → Firing) (s : Shared ι) (i : ι) : Decidable (OwnDelete firing s i) :=
  inferInstanceAs (Decidable (_ → _ → _))

/-- Every delete of a release was of its own process's entry, and used up an update. -/
structure Counted (firing : ι → Firing) (s : Shared ι) : Prop where
  count : ∀ k, (s.deletesOf firing k).length + armed s.streamingPid k ≤ s.updates.count k
  own : ∀ d ∈ s.deletes, d.2 = some (firing d.1).pid

theorem step_updates {i : ι} {k : DeviceNameKey} (hk : (firing i).key = some k)
    (hp : (firing i).probe = .streamon) (hpc : s.pc i = .updating) :
    (s.step firing i).updates = s.updates ++ if s.streamingPid.Room k then [k] else [] := by
  by_cases hr : s.streamingPid.Room k <;> simp [Shared.step, hk, hp, hpc, hr, Option.filter]

theorem step_updates_of_not {i : ι} (h : ¬ ((firing i).probe = .streamon ∧ s.pc i = .updating)) :
    (s.step firing i).updates = s.updates := by
  have hno : ∀ k, ¬ ((firing i).probe = .streamon ∧ s.pc i = .updating ∧ s.streamingPid.Room k) :=
    fun k hk => h ⟨hk.1, hk.2.1⟩
  cases hk : (firing i).key <;> simp [Shared.step, hk, hno]

theorem armed_le (m : StreamingPid) (k : DeviceNameKey) : armed m k ≤ 1 := by
  unfold armed
  split <;> omega

theorem armed_delete_le (m : StreamingPid) (k k' : DeviceNameKey) :
    armed (m.delete k') k ≤ armed m k := by
  unfold armed
  rw [BoundedMap.lookup_delete]
  by_cases hk : k = k' <;> simp [hk]

omit [DecidableEq ι] in
/-- A step that keeps deletes and updates and gives no device an entry. -/
theorem Counted.of_le {s' : Shared ι} (hs : Counted firing s) (hdel : s'.deletes = s.deletes)
    (hupd : s'.updates = s.updates)
    (hle : ∀ k, armed s'.streamingPid k ≤ armed s.streamingPid k) : Counted firing s' := by
  refine ⟨fun k => ?_, by rw [hdel]; exact hs.own⟩
  have hk := hs.count k
  have hk' := hle k
  unfold Shared.deletesOf at *
  rw [hdel, hupd]
  omega

/-- An update gives its device an entry. -/
theorem counted_update (hs : Counted firing s) {i : ι} {k : DeviceNameKey}
    (hk : (firing i).key = some k) (hp : (firing i).probe = .streamon) (hpc : s.pc i = .updating)
    (hmap : (s.step firing i).streamingPid = s.streamingPid.set k (firing i).pid) :
    Counted firing (s.step firing i) := by
  have hdel : (s.step firing i).deletes = s.deletes := step_deletes_of_not (.inr (by simp [hp]))
  have hupd := step_updates hk hp hpc
  by_cases hr : s.streamingPid.Room k
  · refine ⟨fun k' => ?_, by rw [hdel]; exact hs.own⟩
    have hcount := hs.count k'
    unfold Shared.deletesOf at *
    rw [hdel, hupd, if_pos hr, List.count_append]
    by_cases hk' : k' = k
    · subst hk'
      have hle := armed_le (s.step firing i).streamingPid k'
      simp only [List.count_singleton_self]
      omega
    · have hsame : armed (s.step firing i).streamingPid k' = armed s.streamingPid k' := by
        simp [armed, hmap, BoundedMap.lookup_set, hk']
      omega
  · refine hs.of_le hdel (by simp [hupd, hr]) fun k' => Nat.le_of_eq ?_
    simp [armed, hmap, BoundedMap.lookup_set, hr]

/-- A release that deletes its own process's entry uses it up. -/
theorem counted_delete (hs : Counted firing s) {i : ι} {k : DeviceNameKey}
    (hk : (firing i).key = some k) (hp : (firing i).probe = .fopRelease) (hpc : s.pc i = .deleting)
    (hmap : (s.step firing i).streamingPid = s.streamingPid.delete k)
    (hown : s.streamingPid.lookup k = some (firing i).pid) : Counted firing (s.step firing i) := by
  have hdel := step_deletes hk hp hpc
  have hupd : (s.step firing i).updates = s.updates := step_updates_of_not (by simp [hp])
  refine ⟨fun k' => ?_, fun d hd => ?_⟩
  · have hcount := hs.count k'
    unfold Shared.deletesOf at *
    rw [hdel, hupd, hmap, List.filter_append, List.length_append]
    by_cases hk' : k' = k
    · subst hk'
      have hone : armed s.streamingPid k' = 1 := by simp [armed, hown]
      have hzero : armed (s.streamingPid.delete k') k' = 0 := by
        simp [armed, BoundedMap.lookup_delete]
      simp only [hk, List.filter_singleton]
      simp
      omega
    · have hle := armed_delete_le s.streamingPid k' k
      have hne : ¬ some k = some k' := fun h => hk' (Option.some.inj h).symm
      simp only [hk, List.filter_singleton, hne]
      simp
      omega
  · rw [hdel] at hd
    rcases List.mem_append.1 hd with hd | hd
    · exact hs.own d hd
    · obtain rfl := List.mem_singleton.1 hd
      exact hown

/-- **A step whose delete is of its own entry keeps the count.** -/
theorem Counted.step (hs : Counted firing s) {i : ι} (hown : OwnDelete firing s i) :
    Counted firing (s.step firing i) := by
  have hmap : (s.step firing i).streamingPid =
      (advance (firing i) (s.pc i) s.streamingPid).2.1 := rfl
  cases hk : (firing i).key with
  | none =>
    have hn : (firing i).namePtr = none := by simpa [Firing.key] using hk
    refine hs.of_le (step_deletes_of_not (.inl hk)) (by simp [Shared.step, hk]) fun k => ?_
    rw [hmap]
    simp [advance, hn]
  | some k =>
    rcases advance_cases (s.pc i) s.streamingPid hk with ⟨hp, hpc, hadv⟩ | ⟨hp, -, hadv⟩ |
        ⟨hp, hpc, hadv⟩ | ⟨hp, hpc, es, hadv, -⟩ | ⟨hnu, hnd, pc', es, hadv, -⟩
    · exact counted_update hs hk hp hpc (by rw [hmap, hadv])
    · refine hs.of_le (step_deletes_of_not (.inr (by simp [hp])))
        (step_updates_of_not (by simp [hp])) fun k' => ?_
      rw [hmap, hadv]
      exact armed_delete_le _ _ _
    · exact counted_delete hs hk hp hpc (by rw [hmap, hadv]) (hown hp hpc k hk)
    · exact hs.of_le (step_deletes_of_not (.inr (by simp [hpc])))
        (step_updates_of_not (by simp [hp])) fun k' => by rw [hmap, hadv]
    · exact hs.of_le (step_deletes_of_not (.inr hnd)) (step_updates_of_not hnu)
        fun k' => by rw [hmap, hadv]

end

/-! ## Runs -/

/-- At most one release-sourced STREAM_OFF per update of a device, and no release has deleted an
entry of another process. -/
structure Guarded (firing : ι → Firing) (s : Shared ι) : Prop where
  count : ∀ k, (releaseOffs k.device (s.submitted.map Prod.snd)).length ≤ s.updates.count k
  own : ∀ d ∈ s.deletes, ∀ q, d.2 = some q → q = (firing d.1).pid

/-- Every delete of a release is of its own process's entry. -/
def OwnDeletes (firing : ι → Firing) (sched : List ι) : Prop :=
  ∀ l i r, sched = l ++ i :: r → OwnDelete firing (shared firing l) i

theorem OwnDeletes.snoc {firing : ι → Firing} {sched : List ι} {i : ι}
    (h : OwnDeletes firing sched) (hi : OwnDelete firing (shared firing sched) i) :
    OwnDeletes firing (sched ++ [i]) := by
  intro l j r hsplit
  rcases Mealy.split_snoc hsplit with ⟨rfl, rfl, -⟩ | ⟨r', -, hsched⟩
  · exact hi
  · exact h l j r' hsched

/-- The next step of an instance there updates or deletes the entry of its device. -/
def Writing (pc : Pc) : Prop := pc = .updating ∨ pc = .clearing ∨ pc = .deleting

theorem map_of_not_writing {f : Firing} {pc : Pc} (m : StreamingPid) (hpc : ¬ Writing pc) :
    (advance f pc m).2.1 = m := by
  cases hk : f.key with
  | none => rw [advance_of_key_none pc m hk]
  | some k =>
    rcases advance_cases pc m hk with ⟨-, h, -⟩ | ⟨-, h, -⟩ | ⟨-, h, -⟩ | ⟨-, -, es, h, -⟩ |
        ⟨-, -, pc', es, h, -⟩
    · exact absurd (.inl h) hpc
    · exact absurd (.inr (.inl h)) hpc
    · exact absurd (.inr (.inr h)) hpc
    · rw [h]
    · rw [h]

/-- A release gets to its delete by a lookup that matches. -/
theorem lookup_of_deleting {f : Firing} {k : DeviceNameKey} {pc : Pc} {m : StreamingPid}
    (hk : f.key = some k) (hp : f.probe = .fopRelease) (h : (advance f pc m).1 = .deleting) :
    (advance f pc m).2.1.lookup k = some f.pid := by
  obtain ⟨n, hn, rfl⟩ : ∃ n, f.namePtr = some n ∧ deviceNameKey n = k := by
    simpa [Firing.key] using hk
  cases pc with
  | enter =>
    cases hl : m.lookup (deviceNameKey n) with
    | none => simp [advance, hn, hp, hl] at h
    | some storedPid =>
      by_cases hpid : storedPid = f.pid
      · simp [advance, hn, hp, hl, hpid]
      · simp [advance, hn, hp, hl, hpid] at h
  | _ => simp [advance, hn, hp] at h

/-- While a release is between its lookup that matches and its delete, no other instance updates or
deletes the entry. -/
def Undivided (firing : ι → Firing) (sched : List ι) : Prop :=
  ∀ l j r, sched = l ++ j :: r → Writing ((shared firing l).pc j) →
    ∀ i ≠ j, (firing i).key = (firing j).key → (shared firing l).pc i ≠ .deleting

/-- The releases at their deletes find what they have matched. -/
def Matching (firing : ι → Firing) (s : Shared ι) : Prop :=
  ∀ i k, (firing i).key = some k → (firing i).probe = .fopRelease → s.pc i = .deleting →
    s.streamingPid.lookup k = some (firing i).pid

theorem Matching.step {firing : ι → Firing} {s : Shared ι} (hs : Matching firing s) {j : ι}
    (hj : Writing (s.pc j) → ∀ i ≠ j, (firing i).key = (firing j).key → s.pc i ≠ .deleting) :
    Matching firing (s.step firing j) := by
  intro i k hk hp hpc
  have hmap : (s.step firing j).streamingPid =
      (advance (firing j) (s.pc j) s.streamingPid).2.1 := rfl
  rw [step_pc] at hpc
  rw [hmap]
  by_cases hij : i = j
  · subst hij
    rw [if_pos rfl] at hpc
    exact lookup_of_deleting hk hp hpc
  · rw [if_neg hij] at hpc
    have hl := hs i k hk hp hpc
    by_cases hkj : (firing j).key = some k
    · have hnot : ¬ Writing (s.pc j) := fun hw => hj hw i hij (hk.trans hkj.symm) hpc
      rw [map_of_not_writing _ hnot]
      exact hl
    · rw [lookup_advance_ne _ _ hkj]
      exact hl

theorem Undivided.matching {firing : ι → Firing} {sched : List ι} (h : Undivided firing sched) :
    Matching firing (shared firing sched) := by
  induction sched using List.reverseRecOn with
  | nil =>
    intro i k _ _ hpc
    cases hpc
  | append_singleton sched j ih =>
    rw [shared_snoc]
    refine Matching.step (ih fun l i r hsplit => h l i (r ++ [j]) (by simp [hsplit])) ?_
    exact h sched j [] rfl

/-- **Undivided releases delete their own entries.** -/
theorem Undivided.ownDeletes {firing : ι → Firing} {sched : List ι} (h : Undivided firing sched) :
    OwnDeletes firing sched := by
  rintro l i r rfl hp hpc k hk
  have hl : Undivided firing l := fun l' j r' hsplit => h l' j (r' ++ i :: r) (by simp [hsplit])
  exact hl.matching i k hk hp hpc

theorem counted_shared {firing : ι → Firing} {sched : List ι} (hown : OwnDeletes firing sched) :
    Counted firing (shared firing sched) := by
  induction sched using List.reverseRecOn with
  | nil => exact ⟨by simp [shared, Shared.deletesOf, armed], by simp [shared]⟩
  | append_singleton sched i ih =>
    rw [shared_snoc]
    refine (ih fun l j r h => hown l j (r ++ [i]) (by simp [h])).step ?_
    exact hown sched i [] (by simp)

/-- **At most one release Off per update.** In every schedule in which every release deletes its own
process's entry, at every point. -/
theorem guarded_of_own (firing : ι → Firing) (sched : List ι) (hown : OwnDeletes firing sched) :
    ∀ l, l <+: sched → Guarded firing (shared firing l) := by
  rintro l ⟨r, rfl⟩
  have hcounted : Counted firing (shared firing l) :=
    counted_shared fun l' i r' h => hown l' i (r' ++ r) (by simp [h])
  refine ⟨fun k => ?_, fun d hd q hq => ?_⟩
  · have hle := releaseOffs_le_deletes (paired_shared firing l) k
    have hcount := hcounted.count k
    omega
  · rw [hcounted.own d hd] at hq
    exact (Option.some.inj hq).symm

/-- Two streamons, of the processes 7 and 8, and two releases of process 7. -/
def threads (i : Fin 4) : Firing :=
  [onVideo0 .streamon 7, onVideo0 .fopRelease 7, onVideo0 .fopRelease 7, onVideo0 .streamon 8].get i

/-- Two releases that both match before one deletes submit twice for one update, and a streamon
between the match and the delete of a release loses its entry. -/
theorem releases_race :
    (releaseOffs video0.device
      ((shared threads [0, 0, 1, 2, 1, 1, 2, 2]).submitted.map Prod.snd)).length = 2 ∧
    (shared threads [0, 0, 1, 2, 1, 1, 2, 2]).updates = [video0] ∧
    (1, some 8) ∈ (shared threads [0, 0, 1, 3, 3, 1]).deletes ∧ (threads 1).pid = 7 := by
  decide

/-- Both releases of process 7, the second after the first has deleted. -/
theorem releases_in_turn : Guarded threads (shared threads [0, 0, 1, 1, 2, 1]) ∧
    (releaseOffs video0.device
      ((shared threads [0, 0, 1, 1, 2, 1]).submitted.map Prod.snd)).length = 1 := by
  have h0 : OwnDeletes threads [] := fun l i r h => by simp at h
  have h1 := h0.snoc (i := 0) (by decide)
  have h2 := h1.snoc (i := 0) (by decide)
  have h3 := h2.snoc (i := 1) (by decide)
  have h4 := h3.snoc (i := 1) (by decide)
  have h5 := h4.snoc (i := 2) (by decide)
  have h6 := h5.snoc (i := 1) (by decide)
  exact ⟨guarded_of_own threads _ h6 _ (List.prefix_refl _), by decide⟩

end Bpf
