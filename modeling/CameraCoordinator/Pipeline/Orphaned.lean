import CameraCoordinator.Bpf.Dropped
import CameraCoordinator.Coordinator.Level
import CameraCoordinator.Pipeline.Records

/-!
# Orphaned Ons

The release probe deletes the entry of its device when it submits the Off, but the detector drops
the Off if the process of the release is still alive: the device is then reported on with no entry
left that could report it off. `no_orphaned_on_iff`: this is the only way a device without an entry
is last reported on.
-/

set_option autoImplicit false

namespace Pipeline

open Detect (KillResult)

/-- The type of the last event sent about the device, if any. -/
def lastSent (v : GoString) (evs : List CameraEvent) : Option CameraEventType :=
  (Coord.typesOf v evs).getLast?

/-- A device without an entry in `streaming_pid` was not last sent an On. -/
def NoOrphanedOn (kill : Nat → KillResult) (t : List Bpf.Firing) : Prop :=
  ∀ v, (¬ ∃ k ∈ Bpf.streamingPid t, k.device = v) →
    lastSent v (sent kill (Bpf.submitted t)) ≠ some cameraEventRecordingOn

/-- The liveness checks of the records the firing submits after `t` answer that the process is
gone. -/
def FinalRelease (kill : Nat → KillResult) (t : List Bpf.Firing) (f : Bpf.Firing) : Prop :=
  ∀ e ∈ Bpf.submits t f, e.source = Bpf.cameraEventSourceFopRelease →
    kill (Bpf.submitted t).length = .esrch

theorem lastSent_append_of_ne {v : GoString} {evs evs' : List CameraEvent}
    (h : ∀ ev ∈ evs', ev.videoDevice ≠ v) : lastSent v (evs ++ evs') = lastSent v evs := by
  have hnil : evs'.filter (fun ev => ev.videoDevice == v) = [] :=
    List.filter_eq_nil_iff.2 fun ev hev => by simpa using h ev hev
  simp [lastSent, Coord.typesOf, List.filter_append, hnil]

theorem lastSent_snoc {v : GoString} {ev : CameraEvent} (evs : List CameraEvent)
    (h : ev.videoDevice = v) : lastSent v (evs ++ [ev]) = some ev.type := by
  simp [lastSent, Coord.typesOf, List.filter_append, h]

/-- Records of other devices do not change what was last sent about a device. -/
theorem lastSent_sent_ne {kill : Nat → KillResult} {es es' : List Bpf.CameraEvent} {v : GoString}
    (hv : ∀ e ∈ es', e.device ≠ v) :
    lastSent v (sent kill (es ++ es')) = lastSent v (sent kill es) := by
  induction es' using List.reverseRecOn with
  | nil => rw [List.append_nil]
  | append_singleton es' e ih =>
    rw [← List.append_assoc, sent_snoc, ← ih fun e' he' => hv e' (List.mem_append_left _ he')]
    refine lastSent_append_of_ne fun ev hev => ?_
    unfold Detect.delivered at hev
    split at hev
    · cases hev
    · rw [Option.toList_some, List.mem_singleton] at hev
      rw [hev]
      exact hv e (by simp)

/-- What was last sent about a device after one more record about it. -/
theorem lastSent_sent (kill : Nat → KillResult) (es : List Bpf.CameraEvent)
    {e : Bpf.CameraEvent} {v : GoString} (hv : e.device = v) :
    lastSent v (sent kill (es ++ [e])) =
      if e.source = Bpf.cameraEventSourceFopRelease ∧ kill es.length ≠ .esrch then
        lastSent v (sent kill es)
      else some e.eventType := by
  rw [sent_snoc]
  unfold Detect.delivered
  by_cases h : e.source = Bpf.cameraEventSourceFopRelease ∧ kill es.length ≠ .esrch
  · rw [if_pos h, if_pos (show (ofKernel e).source = 2 ∧ _ from h)]
    simp
  · rw [if_neg h, if_neg (show ¬ ((ofKernel e).source = 2 ∧ _) from h), Option.toList_some]
    exact lastSent_snoc _ hv

/-- An On is passed on whatever the liveness checks answer, so a device last reported on in the
ring buffer was last sent an On. -/
theorem lastSent_of_reporting (kill : Nat → KillResult) {t : List Bpf.Firing} {v : GoString}
    (h : Bpf.Reporting t v) :
    lastSent v (sent kill (Bpf.submitted t)) = some cameraEventRecordingOn := by
  have htype : ∀ e ∈ Bpf.submitted t, e.eventType = cameraEventRecordingOn →
      e.source ≠ Bpf.cameraEventSourceFopRelease := by
    intro e he hon
    rcases Bpf.type_of_mem_submitted he with ⟨-, hs⟩ | hoff
    · rw [hs]; decide
    · rw [hoff] at hon
      exact absurd hon (by decide)
  unfold Bpf.Reporting at h
  generalize Bpf.submitted t = es at h htype
  induction es using List.reverseRecOn with
  | nil => simp [Bpf.lastType] at h
  | append_singleton es e ih =>
    by_cases hv : e.device = v
    · rw [Bpf.lastType_snoc es hv, Option.some_inj] at h
      rw [lastSent_sent kill es hv, if_neg fun hs => htype e (by simp) h hs.1, h]
      rfl
    · rw [Bpf.lastType_append_of_ne (by simpa using hv)] at h
      rw [lastSent_sent_ne (by simpa using hv)]
      exact ih h fun e' he' => htype e' (List.mem_append_left _ he')

/-! ## One firing -/

/-- A firing leaves the entries of the other devices and what was last sent about them alone. -/
theorem other_device_snoc (kill : Nat → KillResult) {t : List Bpf.Firing} {f : Bpf.Firing}
    {v : GoString} (hv : ∀ k, f.key = some k → k.device ≠ v) :
    ((∃ k ∈ Bpf.streamingPid (t ++ [f]), k.device = v) ↔ ∃ k ∈ Bpf.streamingPid t, k.device = v) ∧
    lastSent v (sent kill (Bpf.submitted (t ++ [f]))) =
      lastSent v (sent kill (Bpf.submitted t)) := by
  constructor
  · refine exists_congr fun k => and_congr_left fun hk => ?_
    have hne : f.key ≠ some k := fun h => hv k h hk
    rw [BoundedMap.mem_iff, BoundedMap.mem_iff, Bpf.streamingPid_snoc, Bpf.lookup_step_ne hne]
  · rw [Bpf.submitted_snoc]
    refine lastSent_sent_ne fun e he hd => ?_
    obtain ⟨k, hk, hdk⟩ := Bpf.device_of_mem_step he
    exact hv k hk (hdk ▸ hd)

/-- All liveness checks on the records of the firings answer that the process is gone. -/
def AllFinal (kill : Nat → KillResult) (t : List Bpf.Firing) : Prop :=
  ∀ i e, (Bpf.submitted t)[i]? = some e → e.source = Bpf.cameraEventSourceFopRelease →
    kill i = .esrch

theorem allFinal_nil (kill : Nat → KillResult) : AllFinal kill [] := by
  intro i e hi
  simp at hi

theorem AllFinal.of_prefix {kill : Nat → KillResult} {p t : List Bpf.Firing} (h : AllFinal kill t)
    (hp : p <+: t) : AllFinal kill p := by
  obtain ⟨es, hes⟩ := Bpf.run.out_prefix ∅ hp
  change Bpf.submitted p ++ es = Bpf.submitted t at hes
  intro i e hi
  refine h i e ?_
  rw [← hes, List.getElem?_append_left (List.getElem?_eq_some_iff.1 hi).1]
  exact hi

theorem allFinal_snoc {kill : Nat → KillResult} {t : List Bpf.Firing} {f : Bpf.Firing}
    (ht : AllFinal kill t) : AllFinal kill (t ++ [f]) ↔ FinalRelease kill t f := by
  unfold AllFinal FinalRelease
  rw [Bpf.submitted_snoc]
  have hlen : (Bpf.submits t f).length ≤ 1 := Bpf.length_step_le (Bpf.streamingPid t) f
  constructor
  · intro h e he
    obtain ⟨i, hi, rfl⟩ := List.mem_iff_getElem.1 he
    obtain rfl : i = 0 := by omega
    refine h (Bpf.submitted t).length _ ?_
    rw [List.getElem?_append_right (Nat.le_refl _), Nat.sub_self]
    exact List.getElem?_eq_getElem hi
  · intro h i e hi
    rcases Nat.lt_or_ge i (Bpf.submitted t).length with hlt | hge
    · rw [List.getElem?_append_left hlt] at hi
      exact ht i e hi
    · rw [List.getElem?_append_right hge] at hi
      obtain ⟨hlt, -⟩ := List.getElem?_eq_some_iff.1 hi
      obtain rfl : i = (Bpf.submitted t).length := by omega
      exact h e (List.mem_of_getElem? hi)

theorem noOrphanedOn_nil (kill : Nat → KillResult) : NoOrphanedOn kill [] := by
  intro v _ h
  cases h

/-- The record of a release that is dropped orphans the On of its device. -/
theorem not_noOrphanedOn_of_alive {kill : Nat → KillResult} {t : List Bpf.Firing} {f : Bpf.Firing}
    (hun : Bpf.Unfailing t) {e : Bpf.CameraEvent} (he : e ∈ Bpf.submits t f)
    (hsource : e.source = Bpf.cameraEventSourceFopRelease)
    (hkill : kill (Bpf.submitted t).length ≠ .esrch) : ¬ NoOrphanedOn kill (t ++ [f]) := by
  intro h
  obtain ⟨k, hk, -⟩ := Bpf.device_of_mem_step he
  rcases Bpf.step_of_key (Bpf.streamingPid t) hk with
      ⟨-, -, hem⟩ | ⟨-, -, hem⟩ | ⟨-, hl, hs, hem⟩ | ⟨-, -, hs⟩
  · exact absurd ((hem.of_mem he).source.symm.trans hsource) (by decide)
  · exact absurd ((hem.of_mem he).source.symm.trans hsource) (by decide)
  · rcases hem with ⟨-, hnil⟩ | ⟨e', -, hone, hem'⟩
    · simp [Bpf.submits, hnil] at he
    obtain rfl : e = e' := by simpa [Bpf.submits, hone] using he
    -- the device was on before, and the dropped record leaves it so
    have hrep : Bpf.Reporting t k.device :=
      (Bpf.mem_iff_reporting hun k).1 (BoundedMap.mem_iff.2 ⟨_, hl⟩)
    have hlast := lastSent_sent kill (Bpf.submitted t) hem'.device
    rw [if_pos ⟨hsource, hkill⟩, lastSent_of_reporting kill hrep] at hlast
    refine h k.device ?_ (by rw [Bpf.submitted_snoc, Bpf.submits, hone, hlast])
    rintro ⟨k', hk', hd⟩
    obtain rfl := Bpf.device_inj.1 hd
    rw [BoundedMap.mem_iff, Bpf.streamingPid_snoc, hs] at hk'
    simp [BoundedMap.lookup_delete] at hk'
  · simp [Bpf.submits, hs] at he

/-- A firing whose records are passed on does not orphan its own device. -/
theorem own_device_snoc {kill : Nat → KillResult} {t : List Bpf.Firing} {f : Bpf.Firing}
    {k : Bpf.DeviceNameKey} (hun : Bpf.Unfailing (t ++ [f])) (ht : NoOrphanedOn kill t)
    (hfin : FinalRelease kill t f) (hk : f.key = some k)
    (hv : ¬ ∃ k' ∈ Bpf.streamingPid (t ++ [f]), k'.device = k.device) :
    lastSent k.device (sent kill (Bpf.submitted (t ++ [f]))) ≠ some cameraEventRecordingOn := by
  have hres : f.reserve.isSome := hun.reserved f (by simp)
  have hoff : Bpf.cameraEventTypeStreamOff ≠ cameraEventRecordingOn := by decide
  rw [Bpf.submitted_snoc]
  unfold FinalRelease at hfin
  unfold Bpf.submits at hfin ⊢
  rcases Bpf.step_of_key (Bpf.streamingPid t) hk with
      ⟨-, hs, -⟩ | ⟨-, -, hem⟩ | ⟨-, -, -, hem⟩ | ⟨-, -, hs⟩
  · refine absurd ⟨k, ?_, rfl⟩ hv
    rw [BoundedMap.mem_iff, Bpf.streamingPid_snoc, hs]
    simp [BoundedMap.lookup_set, hun.room hk]
  · obtain ⟨e, he, hem⟩ := hem.of_isSome hres
    have hne : ¬ (e.source = Bpf.cameraEventSourceFopRelease ∧
        kill (Bpf.submitted t).length ≠ .esrch) := by
      rw [hem.source]
      exact fun h => absurd h.1 (by decide)
    rw [he, lastSent_sent kill _ hem.device, if_neg hne, hem.eventType]
    exact fun h => hoff (Option.some.inj h)
  · obtain ⟨e, he, hem⟩ := hem.of_isSome hres
    have hesrch := hfin e (by simp [he]) hem.source
    rw [he, lastSent_sent kill _ hem.device, if_neg fun h => h.2 hesrch, hem.eventType]
    exact fun h => hoff (Option.some.inj h)
  · rw [Bpf.streamingPid_snoc, hs] at hv
    rw [hs, List.append_nil]
    exact ht k.device hv

/-- A firing orphans no On exactly if its release record, if any, is passed on. -/
theorem noOrphanedOn_snoc {kill : Nat → KillResult} {t : List Bpf.Firing} {f : Bpf.Firing}
    (hun : Bpf.Unfailing (t ++ [f])) (ht : NoOrphanedOn kill t) :
    NoOrphanedOn kill (t ++ [f]) ↔ FinalRelease kill t f := by
  constructor
  · intro h e he hsource
    by_contra hkill
    exact not_noOrphanedOn_of_alive (hun.of_prefix (List.prefix_append t [f])) he hsource hkill h
  · intro hfin v hv
    by_cases hown : ∃ k, f.key = some k ∧ k.device = v
    · obtain ⟨k, hk, rfl⟩ := hown
      exact own_device_snoc hun ht hfin hk hv
    · have hne : ∀ k, f.key = some k → k.device ≠ v := fun k hk hd => hown ⟨k, hk, hd⟩
      obtain ⟨hentry, hlast⟩ := other_device_snoc kill (t := t) hne
      rw [hlast]
      exact ht v fun h => hv (hentry.2 h)

/-- **When no On is orphaned.** Without kernel-side failures, a device without an entry in
`streaming_pid` is at every point one the detector did not last send an On for, exactly if every
liveness check on a release record answers that the process is gone. -/
theorem no_orphaned_on_iff (t : List Bpf.Firing) (hun : Bpf.Unfailing t)
    (kill : Nat → KillResult) :
    (∀ p, p <+: t → NoOrphanedOn kill p) ↔ AllFinal kill t := by
  have hstep : (∀ p, p <+: t → NoOrphanedOn kill p) ↔
      ∀ l f r, t = l ++ f :: r → FinalRelease kill l f :=
    Mealy.forall_prefix_iff (noOrphanedOn_nil kill) fun l f hp =>
      noOrphanedOn_snoc (hun.of_prefix hp)
  have hfinal : (∀ p, p <+: t → AllFinal kill p) ↔
      ∀ l f r, t = l ++ f :: r → FinalRelease kill l f :=
    Mealy.forall_prefix_iff (allFinal_nil kill) fun l f _ => allFinal_snoc
  rw [hstep, ← hfinal]
  exact ⟨fun h => h t (List.prefix_refl t), fun h p hp => h.of_prefix hp⟩

/-- A process that closes its camera and lives on. -/
theorem surviving_release_orphans : ¬ NoOrphanedOn (fun _ => .alive)
    [Bpf.onVideo0 .streamon 7, Bpf.onVideo0 .fopRelease 7] := by
  intro h
  refine h Bpf.video0.device ?_ (by decide)
  rintro ⟨k, hk, hd⟩
  obtain rfl := Bpf.device_inj.1 hd
  exact absurd hk (by decide)

theorem final_release_not_orphaning : NoOrphanedOn (fun _ => .esrch)
    [Bpf.onVideo0 .streamon 7, Bpf.onVideo0 .fopRelease 7] :=
  (no_orphaned_on_iff [Bpf.onVideo0 .streamon 7, Bpf.onVideo0 .fopRelease 7]
    (.of_length (by decide) (by decide)) fun _ => .esrch).2 (fun _ _ _ _ => rfl) _
    (List.prefix_refl _)

end Pipeline
