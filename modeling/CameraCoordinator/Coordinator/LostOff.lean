import CameraCoordinator.Coordinator.Level

/-!
# Offs and failing capability queries

`Run` queries the capabilities for every event and skips the event if the query fails or answers a
device that does not capture. An On skipped this way is harmless; an Off of a detector that is in
`active[v]` leaves the detector there for good.

`OffNotLost h`: when every detector ever taken into `active[v]` has sent an Off since its last On,
the device has no entry and its last broadcast is an Off. `off_not_lost_iff`: this holds exactly
when each of these detectors has had one of its Offs answered since its last answered On; so it
holds throughout a run whose Offs of tracked detectors are all answered (`OffsAnswered`), and with
one detector in no other run.
-/

set_option autoImplicit false

namespace Coord

/-- The event is one of type `t` from detector `d` about device `v`. -/
def Sends (r : Received) (v d : GoString) (t : CameraEventType) : Prop :=
  r.ev.videoDevice = v ∧ r.ev.detector = d ∧ r.ev.type = t

/-- The query made for the event is answered by a capture device. -/
def Received.Answered (r : Received) : Prop :=
  ∃ cap, r.query = .ok cap ∧ cap.hasCapabilities [v4l2CapVideoCapture]

/-- `d` has sent an Off for `v` after its last On for `v`. -/
def OffSinceLastOn (h : List Received) (v d : GoString) : Prop :=
  ∃ l r m, h = l ++ r :: m ∧ Sends r v d cameraEventRecordingOff ∧
    ∀ r' ∈ m, ¬ Sends r' v d cameraEventRecordingOn

/-- An Off of `d` for `v` was answered after the last answered On of `d` for `v`. -/
def AnsweredOff (h : List Received) (v d : GoString) : Prop :=
  ∃ l r m, h = l ++ r :: m ∧ Sends r v d cameraEventRecordingOff ∧ r.Answered ∧
    ∀ r' ∈ m, r'.Answered → ¬ Sends r' v d cameraEventRecordingOn

/-- An On of `d` for `v` was taken into `active[v]` at some time. -/
def Taken (h : List Received) (v d : GoString) : Prop :=
  ∃ p, p <+: h ∧ Tracks (active p) v d

/-- A device reported on, whose taken detectors have all sent their Offs, is reported off. -/
def OffNotLost (h : List Received) : Prop :=
  ∀ v, cameraEventRecordingOn ∈ typesOf v (broadcasts h) →
    (∀ d, Taken h v d → OffSinceLastOn h v d) →
    v ∉ active h ∧ (typesOf v (broadcasts h)).getLast? = some cameraEventRecordingOff

/-- Taken detectors that have all sent their Offs have each had an Off answered. -/
def OneOffAnswered (h : List Received) : Prop :=
  ∀ v, (∀ d, Taken h v d → OffSinceLastOn h v d) → ∀ d, Taken h v d → AnsweredOff h v d

/-- Every Off of a detector that `active` holds for the device is answered. -/
def OffsAnswered (h : List Received) : Prop :=
  ∀ l r m, h = l ++ r :: m → r.ev.type = cameraEventRecordingOff →
    Tracks (active l) r.ev.videoDevice r.ev.detector → r.Answered

theorem accepted_iff {r : Received} : r.accepted = true ↔ r.Answered ∧
    (r.ev.type = cameraEventRecordingOn ∨ r.ev.type = cameraEventRecordingOff) := by
  unfold Received.accepted Received.Answered
  cases r.query <;> simp

/-! ## Tracked detectors and their Offs -/

/-- A detector that is off stays off while none of its Ons is answered. -/
theorem not_tracks_append {l m : List Received} {v d : GoString} (hl : ¬ Tracks (active l) v d)
    (hm : ∀ r ∈ m, r.Answered → ¬ Sends r v d cameraEventRecordingOn) :
    ¬ Tracks (active (l ++ m)) v d := by
  induction m using List.reverseRecOn with
  | nil => simpa using hl
  | append_singleton m r ih =>
    rw [← List.append_assoc, active_snoc, tracks_onEvent]
    split
    · rename_i hr
      exact fun hon => hm r (by simp) (accepted_iff.1 hr.1).1 ⟨hr.2.1.symm, hr.2.2.symm, hon⟩
    · exact ih fun r' hr' => hm r' (by simp [hr'])

/-- An answered Off takes its detector out. -/
theorem AnsweredOff.not_tracks {h : List Received} {v d : GoString} (ha : AnsweredOff h v d) :
    ¬ Tracks (active h) v d := by
  obtain ⟨l, r, m, rfl, ⟨rfl, rfl, hoff⟩, hans, hm⟩ := ha
  rw [List.append_cons]
  refine not_tracks_append ?_ hm
  have hne : cameraEventRecordingOff ≠ cameraEventRecordingOn := by decide
  rw [active_snoc, tracks_onEvent, if_pos ⟨accepted_iff.2 ⟨hans, .inr hoff⟩, rfl, rfl⟩, hoff]
  exact hne

/-- A taken detector that is not tracked any more has had an Off answered. -/
theorem Taken.answeredOff {h : List Received} {v d : GoString} (ht : Taken h v d)
    (hnt : ¬ Tracks (active h) v d) : AnsweredOff h v d := by
  obtain ⟨p, ⟨q, rfl⟩, hp⟩ := ht
  induction q using List.reverseRecOn with
  | nil => exact absurd hp (by simpa using hnt)
  | append_singleton q r ih =>
    rw [← List.append_assoc] at hnt ⊢
    by_cases hq : Tracks (active (p ++ q)) v d
    · -- the last event took it out: it is the answered Off
      rw [active_snoc, tracks_onEvent] at hnt
      split at hnt
      · rename_i hr
        obtain ⟨hacc, rfl, rfl⟩ := hr
        obtain ⟨hans, htype⟩ := accepted_iff.1 hacc
        exact ⟨p ++ q, r, [], rfl, ⟨rfl, rfl, htype.resolve_left hnt⟩, hans, by simp⟩
      · exact absurd hq hnt
    · obtain ⟨l, o, m, hl, ho, hans, hm⟩ := ih hq
      refine ⟨l, o, m ++ [r], by simp [hl], ho, hans, fun r' hr' hans' hon => ?_⟩
      rcases List.mem_append.1 hr' with hr' | hr'
      · exact hm r' hr' hans' hon
      · obtain rfl := List.mem_singleton.1 hr'
        obtain ⟨rfl, rfl, hon⟩ := hon
        refine hnt ?_
        rw [active_snoc, tracks_onEvent, if_pos ⟨accepted_iff.2 ⟨hans', .inl hon⟩, rfl, rfl⟩]
        exact hon

/-! ## What is broadcast -/

/-- A device that is off after having been reported on was last reported off. -/
theorem getLast_of_not_level {h : List Received} {v : GoString} (hl : ¬ Level v h)
    (hon : cameraEventRecordingOn ∈ typesOf v (broadcasts h)) :
    (typesOf v (broadcasts h)).getLast? = some cameraEventRecordingOff := by
  have hlast := mt (getLast_broadcasts_iff h v).1 hl
  rw [typesOf_broadcasts, List.getLast?_map] at hlast ⊢
  rw [typesOf_broadcasts] at hon
  cases he : (edges (Level v) h).getLast? with
  | none => simp [List.getLast?_eq_none_iff.1 he] at hon
  | some rise =>
    cases rise with
    | true => simp [he, edgeType] at hlast
    | false => rfl

/-- The detector of an accepted On is taken. -/
theorem Taken.of_accepted {h : List Received} {r : Received} (hr : r ∈ h)
    (hacc : r.accepted = true) (hon : r.ev.type = cameraEventRecordingOn) :
    Taken h r.ev.videoDevice r.ev.detector := by
  obtain ⟨l, m, rfl⟩ := List.append_of_mem hr
  refine ⟨l ++ [r], ⟨m, by simp⟩, ?_⟩
  rw [active_snoc, tracks_onEvent, if_pos ⟨hacc, rfl, rfl⟩]
  exact hon

/-- A device with a taken detector was reported on. -/
theorem Taken.reported {h : List Received} {v d : GoString} (ht : Taken h v d) :
    cameraEventRecordingOn ∈ typesOf v (broadcasts h) := by
  obtain ⟨p, ⟨q, rfl⟩, hp⟩ := ht
  obtain ⟨es, hes⟩ := run.out_prefix ∅ (List.prefix_append p q)
  have hon := (getLast_broadcasts_iff p v).2 ⟨d, (tracks_active_iff p v d).1 hp⟩
  change broadcasts p ++ es = broadcasts (p ++ q) at hes
  rw [← hes, typesOf_append]
  exact List.mem_append_left _ (List.mem_of_getLast? hon)

/-- Only detectors that have sent an event are taken. -/
theorem Taken.mem {h : List Received} {v d : GoString} (ht : Taken h v d) :
    ∃ r ∈ h, r.ev.detector = d := by
  obtain ⟨p, hp, ht⟩ := ht
  obtain ⟨r, hr, -⟩ := (tracks_active_iff p v d).1 ht
  have hmem := List.mem_of_getLast? hr
  simp only [acceptedOf, List.mem_filter, Bool.and_eq_true, beq_iff_eq] at hmem
  exact ⟨r, hp.subset hmem.1, hmem.2.2.2⟩

/-! ## Runs -/

theorem offNotLost_iff (h : List Received) : OffNotLost h ↔ OneOffAnswered h := by
  constructor
  · intro hlost v hoffs d ht
    obtain ⟨hv, -⟩ := hlost v ht.reported hoffs
    exact ht.answeredOff fun htr => hv ((active_wf h).mem_keys.2 ⟨d, htr⟩)
  · intro hans v hon hoffs
    have hv : v ∉ active h := by
      intro hv
      obtain ⟨d, htr⟩ := (active_wf h).mem_keys.1 hv
      exact (hans v hoffs d ⟨h, List.prefix_refl h, htr⟩).not_tracks htr
    exact ⟨hv, getLast_of_not_level (mt (level_iff h v).1 hv) hon⟩

theorem OffsAnswered.of_prefix {p h : List Received} (hans : OffsAnswered h) (hp : p <+: h) :
    OffsAnswered p := by
  obtain ⟨t, rfl⟩ := hp
  exact fun l r m e => hans l r (m ++ t) (by simp [e])

theorem OffsAnswered.oneOffAnswered {h : List Received} (hans : OffsAnswered h) :
    OneOffAnswered h := by
  intro v hoffs d ht
  refine ht.answeredOff fun htr => ?_
  obtain ⟨l, r, m, rfl, hoff, hm⟩ := hoffs d ht
  -- tracked up to its Off, which is answered then
  by_cases hl : Tracks (active l) v d
  · refine (AnsweredOff.not_tracks ?_) htr
    refine ⟨l, r, m, rfl, hoff, ?_, fun r' hr' _ => hm r' hr'⟩
    obtain ⟨rfl, rfl, htype⟩ := hoff
    exact hans l r m rfl htype hl
  · refine not_tracks_append hl (m := r :: m) (fun r' hr' _ hon => ?_) htr
    rcases List.mem_cons.1 hr' with rfl | hr'
    · exact absurd (hoff.2.2.symm.trans hon.2.2) (by decide)
    · exact hm r' hr' hon

/-- With one detector, the Off that is not answered is lost on the spot. -/
theorem not_offNotLost {l : List Received} {r : Received} {d : GoString}
    (hone : ∀ r' ∈ l ++ [r], r'.ev.detector = d) (hoff : r.ev.type = cameraEventRecordingOff)
    (ht : Tracks (active l) r.ev.videoDevice r.ev.detector) (hq : ¬ r.Answered) :
    ¬ OffNotLost (l ++ [r]) := by
  intro hlost
  have hna : r.accepted ≠ true := fun hacc => hq (accepted_iff.1 hacc).1
  have ht' : Tracks (active (l ++ [r])) r.ev.videoDevice r.ev.detector := by
    rw [active_snoc, tracks_onEvent, if_neg fun hr => hna hr.1]
    exact ht
  have hoffs : ∀ d', Taken (l ++ [r]) r.ev.videoDevice d' →
      OffSinceLastOn (l ++ [r]) r.ev.videoDevice d' := by
    intro d' htaken
    obtain ⟨r', hr', rfl⟩ := htaken.mem
    have hd : r.ev.detector = r'.ev.detector := by rw [hone r (by simp), hone r' hr']
    exact ⟨l, r, [], rfl, ⟨rfl, hd, hoff⟩, by simp⟩
  have hans := (offNotLost_iff _).1 hlost _ hoffs _ ⟨_, List.prefix_refl _, ht'⟩
  exact hans.not_tracks ht'

/-- **When no Off is lost.** After a history, no Off is lost exactly if of the taken detectors that
have all sent their Offs, each had one answered since its last answered On. So no Off is lost at any
point of a run whose Offs of tracked detectors are all answered; and if the events come from one
detector, as in the program, only in such runs. -/
theorem off_not_lost_iff (h : List Received) :
    (OffNotLost h ↔ OneOffAnswered h) ∧
    (OffsAnswered h → ∀ p, p <+: h → OffNotLost p) ∧
    ((∃ d, ∀ r ∈ h, r.ev.detector = d) → (∀ p, p <+: h → OffNotLost p) → OffsAnswered h) := by
  refine ⟨offNotLost_iff h, fun hans p hp => ?_, fun ⟨d, hone⟩ hlost l r m e hoff ht => ?_⟩
  · exact (offNotLost_iff p).2 (hans.of_prefix hp).oneOffAnswered
  · subst e
    have hp : l ++ [r] <+: l ++ r :: m := ⟨m, by simp⟩
    by_contra hq
    exact not_offNotLost (fun r' hr' => hone r' (hp.subset hr')) hoff ht hq (hlost _ hp)

/-- A camera turned on and off, with the answer of the Off's query. -/
def onOff (query : Except GoError V4L2Capability) : List Received :=
  [⟨.test cameraEventRecordingOn, .ok .capture⟩, ⟨.test cameraEventRecordingOff, query⟩]

/-- A camera unplugged while recording: its Off finds no device to query. -/
theorem unplugged_off_lost : ¬ OffNotLost (onOff (.error [])) :=
  not_offNotLost (l := (onOff (.error [])).take 1) (r := ⟨_, .error []⟩) (d := goString "test")
    (by decide) (by decide) (by decide) (by simp [Received.Answered])

theorem answered_off_not_lost : OffNotLost (onOff (.ok .capture)) := by
  refine (off_not_lost_iff (onOff (.ok .capture))).2.1 (fun l r m e hoff _ => ?_) _
    (List.prefix_refl _)
  match l, e with
  | [], e => cases e; exact absurd hoff (by decide)
  | [_], e => cases e; exact ⟨.capture, rfl, by decide⟩
  | _ :: _ :: l, e => simp [onOff] at e

end Coord
