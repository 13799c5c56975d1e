import HidConnect.Session.Releases
import HidConnect.Session.Panics
import HidConnect.Session.Pointers
import HidConnect.Coalesce.Taken
import HidConnect.Library.Asserts

/-! The integer arithmetic of the gestures. A dev build checks it and panics on an overflow; the release
profile turns the checks off, and is what the other modules are about. -/
namespace HidConnect
open Fallible

inductive Profile where
  | dev | release

/-- The value of an `i32` operation that does not overflow. -/
def FitsI32 (value : Int) : Prop := Int32.minValue.toInt ≤ value ∧ value ≤ Int32.maxValue.toInt

instance (value : Int) : Decidable (FitsI32 value) := inferInstanceAs (Decidable (_ ∧ _))

theorem fitsI32_iff {value : Int} : FitsI32 value ↔ -2147483648 ≤ value ∧ value < 2147483648 := by
  have low : Int32.minValue.toInt = -2147483648 := by decide
  have high : Int32.maxValue.toInt = 2147483647 := by decide
  rw [FitsI32, low, high]
  omega

theorem toInt_sub_of_fits {a b : Int32} (fits : FitsI32 (a.toInt - b.toInt)) :
    (a - b).toInt = a.toInt - b.toInt := by
  obtain ⟨low, high⟩ := fitsI32_iff.mp fits
  rw [Int32.toInt_sub]
  exact Int.bmod_eq_of_le_mul_two (by omega) (by omega)

theorem toInt_add_of_fits {a b : Int32} (fits : FitsI32 (a.toInt + b.toInt)) :
    (a + b).toInt = a.toInt + b.toInt := by
  obtain ⟨low, high⟩ := fitsI32_iff.mp fits
  rw [Int32.toInt_add]
  exact Int.bmod_eq_of_le_mul_two (by omega) (by omega)

namespace Profile
variable {ε σ : Type}

/-- The check of an `i32` operation with this exact value. -/
def operation (profile : Profile) (exact : Int) : Method ε σ Unit :=
  match profile with
  | dev => .assert (FitsI32 exact)
  | release => pure ()

def sub (profile : Profile) (a b : Int32) : Method ε σ Unit := profile.operation (a.toInt - b.toInt)
def add (profile : Profile) (a b : Int32) : Method ε σ Unit := profile.operation (a.toInt + b.toInt)

theorem panics_sub {α : Type} {a b : Int32} {f : Unit → Method ε σ α} {s : σ} :
    Method.Panics (dev.sub a b >>= f) s ↔ ¬FitsI32 (a.toInt - b.toInt) ∨ Method.Panics (f ()) s :=
  Method.panics_assert_bind

theorem panics_add {α : Type} {a b : Int32} {f : Unit → Method ε σ α} {s : σ} :
    Method.Panics (dev.add a b >>= f) s ↔ ¬FitsI32 (a.toInt + b.toInt) ∨ Method.Panics (f ()) s :=
  Method.panics_assert_bind

theorem asserts_operation {α : Type} (profile : Profile) (exact : Int) {m m' : Method ε σ α}
    (h : Method.Asserts m m') : Method.Asserts (profile.operation exact >>= fun _ => m) m' := by
  cases profile with
  | dev => exact Method.asserts_assert h
  | release => exact h

end Profile

/-- Both differences of the ends of a way are in range. -/
def EndsFit (origin target : Int32 × Int32) : Prop :=
  FitsI32 (target.1.toInt - origin.1.toInt) ∧ FitsI32 (target.2.toInt - origin.2.toInt)

instance (origin target : Int32 × Int32) : Decidable (EndsFit origin target) :=
  inferInstanceAs (Decidable (_ ∧ _))

section Ends
variable {ε σ α : Type}

/-- The two differences a moving finger is computed from. -/
def Profile.subEnds (profile : Profile) (origin target : Int32 × Int32) : Method ε σ Unit := do
  profile.sub target.1 origin.1
  profile.sub target.2 origin.2

theorem panics_subEnds {origin target : Int32 × Int32} {f : Unit → Method ε σ α} {s : σ} :
    Method.Panics (Profile.dev.subEnds origin target >>= f) s ↔
      ¬EndsFit origin target ∨ Method.Panics (f ()) s := by
  rw [Profile.subEnds, Method.bind_assoc, Profile.panics_sub, Profile.panics_sub, EndsFit, not_and_or,
    or_assoc]

theorem asserts_subEnds (profile : Profile) (origin target : Int32 × Int32) {m m' : Method ε σ α}
    (h : Method.Asserts m m') :
    Method.Asserts (profile.subEnds origin target >>= fun _ => m) m' := by
  rw [Profile.subEnds, Method.bind_assoc]
  exact profile.asserts_operation _ (profile.asserts_operation _ h)

/-- `lerp_i32` -/
def lerpI32 (profile : Profile) (a b : Int32) (t : Float32) : Method ε σ Int32 := do
  profile.sub b a
  pure (HidSession.interpolate a b t)

end Ends

namespace HidSession

/- The gestures as they are written, with their checks. -/

def swipePointerIn (profile : Profile) (pointerId : UInt64) (origin target : Int32 × Int32)
    (steps : UInt32) : Session Unit := do
  let steps := atLeastTwo steps
  injectTouch TouchAction.down pointerId origin.1 origin.2 1
  profile.subEnds origin target
  moveAlong pointerId origin target steps
  injectTouch TouchAction.move pointerId target.1 target.2 1
  injectTouch TouchAction.up pointerId target.1 target.2 0

def dragIn (profile : Profile) (origin target : Int32 × Int32) (steps : UInt32) : Session Unit := do
  let steps := atLeastTwo steps
  injectTouch TouchAction.down 0 origin.1 origin.2 1
  profile.subEnds origin target
  moveAlong 0 origin target steps
  injectTouch TouchAction.move 0 target.1 target.2 1
  injectTouch TouchAction.up 0 target.1 target.2 0

end HidSession

/-- The differences are computed anew for every sample. -/
def MultitouchHandle.pinchIn (profile : Profile) (p0 p1 : Path) (steps : UInt32) : Multitouch Unit := do
  let steps := HidSession.atLeastTwo steps
  let i0 ← checkId p0.id
  let i1 ← checkId p1.id
  let h ← .read
  if h.active.get i0 && h.active.get i1 then
    .forEach (HidSession.sampleTimes steps 1 (steps.toNat + 1)) fun t => do
      profile.subEnds p0.origin p0.target
      profile.subEnds p1.origin p1.target
      movePath p0 t
      movePath p1 t
  else .fail (.pointerNotActive (if h.active.get i0 then p1.id else p0.id))

namespace HidSession

def pinchIn (profile : Profile) (cx cy startRadius endRadius : Int32) (steps : UInt32) :
    Session Unit :=
  multitouch do
    profile.sub cx startRadius
    MultitouchHandle.down 0 (cx - startRadius) cy 1
    profile.add cx startRadius
    MultitouchHandle.down 1 (cx + startRadius) cy 1
    profile.sub cx startRadius
    profile.sub cx endRadius
    profile.add cx startRadius
    profile.add cx endRadius
    MultitouchHandle.pinchIn profile
      { id := 0, origin := (cx - startRadius, cy), target := (cx - endRadius, cy) }
      { id := 1, origin := (cx + startRadius, cy), target := (cx + endRadius, cy) } steps
    MultitouchHandle.up 0
    MultitouchHandle.up 1

/- The release build is the faithful model. -/

theorem swipePointerIn_release (pointerId : UInt64) (origin target : Int32 × Int32) (steps : UInt32) :
    swipePointerIn .release pointerId origin target steps = swipePointer pointerId origin target steps :=
  rfl

theorem dragIn_release (origin target : Int32 × Int32) (steps : UInt32) :
    dragIn .release origin target steps = drag origin target steps := rfl

theorem pinchIn_release (cx cy startRadius endRadius : Int32) (steps : UInt32) :
    pinchIn .release cx cy startRadius endRadius steps = pinch cx cy startRadius endRadius steps := rfl

/- Where a dev build panics. -/

def SendsAll (s : HidSession) (ts : List Touch) : Prop := ((touchAll ts).run s).1.isOk = true

theorem sendsAll_single (s : HidSession) (t : Touch) :
    SendsAll s [t] ↔ (t.inject.run s).1.isOk = true := by
  rw [SendsAll, MultitouchHandle.touchAll_single]

theorem sendsAll_cons (s : HidSession) (t : Touch) (ts : List Touch) :
    SendsAll s (t :: ts) ↔ SendsAll s [t] ∧ SendsAll ((touchAll [t]).run s).2 ts := by
  rw [SendsAll, touchAll, Method.forEach_cons, Method.isOk_run_bind, sendsAll_single,
    MultitouchHandle.touchAll_single]
  rfl

theorem neverPanics_inject (t : Touch) : Method.NeverPanics t.inject := neverPanics_injectTouch _ _ _ _ _

theorem neverPanics_touchAll (ts : List Touch) : Method.NeverPanics (touchAll ts) :=
  Method.neverPanics_forEach neverPanics_inject ts

/-- The swipe and the drag look at the ends when the DOWN is out. -/
theorem panics_swipePointer (pointerId : UInt64) (origin target : Int32 × Int32) (steps : UInt32)
    (s : HidSession) : Method.Panics (swipePointerIn .dev pointerId origin target steps) s ↔
      SendsAll s [touchDown pointerId origin] ∧ ¬EndsFit origin target := by
  have calm : ∀ t, ¬Method.Panics (do
      moveAlong pointerId origin target (atLeastTwo steps)
      injectTouch TouchAction.move pointerId target.1 target.2 1
      injectTouch TouchAction.up pointerId target.1 target.2 0 : Session Unit) t := by
    refine Method.NeverPanics.not_panics ?_
    exact (Method.neverPanics_forEach (fun _ => neverPanics_injectTouch _ _ _ _ _) _).bind fun _ =>
      (neverPanics_injectTouch _ _ _ _ _).bind fun _ => neverPanics_injectTouch _ _ _ _ _
  rw [swipePointerIn, Method.panics_bind (neverPanics_injectTouch _ _ _ _ _), sendsAll_single,
    inject_touchDown, Outcome.isOk_iff]
  constructor
  · rintro ⟨a, t, run, panics⟩
    rw [panics_subEnds, or_iff_left (calm t)] at panics
    exact ⟨⟨a, congrArg Prod.fst run⟩, panics⟩
  · rintro ⟨⟨a, sent⟩, far⟩
    exact ⟨a, _, Prod.ext sent rfl, panics_subEnds.mpr (.inl far)⟩

theorem asserts_swipePointer (profile : Profile) (pointerId : UInt64) (origin target : Int32 × Int32)
    (steps : UInt32) : Method.Asserts (swipePointerIn profile pointerId origin target steps)
      (swipePointer pointerId origin target steps) :=
  (Method.asserts_same _).bind fun _ => asserts_subEnds profile origin target (Method.asserts_same _)

end HidSession

namespace MultitouchHandle

theorem forEach_panics {ε σ α : Type} {f : α → Method ε σ Unit} {xs : List α} (some_ : xs ≠ [])
    {c : Prop} (each : ∀ x s, Method.Panics (f x) s ↔ ¬c) (s : σ) :
    Method.Panics (Method.forEach xs f) s ↔ ¬c := by
  by_cases holds : c
  · have calm : ∀ x, Method.NeverPanics (f x) := fun x s =>
      Bool.eq_false_iff.mpr fun panics => (each x s).mp panics holds
    exact iff_of_false ((Method.neverPanics_forEach calm xs).not_panics s) (not_not_intro holds)
  · refine iff_of_true ?_ holds
    cases xs with
    | nil => exact absurd rfl some_
    | cons x rest =>
      have here := (each x s).mpr holds
      rw [Method.Panics, Method.forEach_cons, Method.run_bind]
      rcases hr : (f x).run s with ⟨r, t⟩
      rw [Method.Panics, hr] at here
      cases r with
      | panic => rfl
      | _ => cases here

theorem sampleTimes_ne_nil (steps : UInt32) : HidSession.sampleTimes (HidSession.atLeastTwo steps) 1
    ((HidSession.atLeastTwo steps).toNat + 1) ≠ [] := by
  have two := HidSession.atLeastTwo_le steps
  intro none
  have lengths := congrArg List.length none
  rw [HidSession.length_sampleTimes, List.length_nil] at lengths
  omega

theorem neverPanics_onSession {α : Type} {m : Session α} (h : Method.NeverPanics m) :
    Method.NeverPanics (onSession m) := fun handle => h handle.session

theorem neverPanics_movePath (p : Path) (t : Float32) : Method.NeverPanics (movePath p t) :=
  neverPanics_onSession (HidSession.neverPanics_injectTouch _ _ _ _ _)

theorem panics_pinch (p0 p1 : Path) (steps : UInt32) (h : MultitouchHandle) :
    Method.Panics (pinchIn .dev p0 p1 steps) h ↔ h.isActive p0.id = true ∧ h.isActive p1.id = true ∧
      ¬(EndsFit p0.origin p0.target ∧ EndsFit p1.origin p1.target) := by
  by_cases known : p0.id.toNat < 10
  · by_cases known' : p1.id.toNat < 10
    · have first : h.isActive p0.id = h.active.get ⟨p0.id.toNat, known⟩ := dif_pos known
      have second : h.isActive p1.id = h.active.get ⟨p1.id.toNat, known'⟩ := dif_pos known'
      rw [first, second, pinchIn, Method.Panics,
        Method.run_bind_ok (checkId_run ⟨p0.id.toNat, known⟩ rfl h),
        Method.run_bind_ok (checkId_run ⟨p1.id.toNat, known'⟩ rfl h), Method.run_read_bind,
        ← and_assoc, ← Bool.and_eq_true]
      split
      · rename_i active
        rw [and_iff_right active]
        refine forEach_panics (sampleTimes_ne_nil steps) (fun t h => ?_) h
        have calm := ((neverPanics_movePath p0 t).bind fun _ => neverPanics_movePath p1 t).not_panics h
        rw [panics_subEnds, panics_subEnds, or_iff_left calm, not_and_or]
      · rename_i idle
        exact iff_of_false Bool.false_ne_true fun active => idle active.1
    · have none : h.isActive p1.id = false := dif_neg known'
      rw [pinchIn, Method.Panics, Method.run_bind_ok (checkId_run ⟨p0.id.toNat, known⟩ rfl h),
        Method.run_bind_err (checkId_refused known' h), none]
      exact iff_of_false Bool.false_ne_true fun active => Bool.false_ne_true active.2.1
  · have none : h.isActive p0.id = false := dif_neg known
    rw [pinchIn, Method.Panics, Method.run_bind_err (checkId_refused known h), none]
    exact iff_of_false Bool.false_ne_true fun active => Bool.false_ne_true active.1

theorem panics_play {m : Multitouch Unit} {ts : List Touch} {before after : Vector Bool 10}
    (plays : Plays m ts before after) {f : Unit → Multitouch Unit} {s : HidSession} :
    Method.Panics (m >>= f) ⟨s, before⟩ ↔
      s.SendsAll ts ∧ Method.Panics (f ()) ⟨((HidSession.touchAll ts).run s).2, after⟩ := by
  obtain ⟨active, run, same⟩ := plays s
  have calm := HidSession.neverPanics_touchAll ts s
  rw [HidSession.SendsAll, Method.Panics, Method.run_bind, run]
  rcases hr : (HidSession.touchAll ts).run s with ⟨r, t⟩
  rw [hr] at same calm
  cases r with
  | ok u =>
    obtain rfl := same rfl
    exact (and_iff_right rfl).symm
  | err e => exact iff_of_false Bool.false_ne_true fun h => Bool.false_ne_true h.1
  | panic => cases calm

theorem neverPanics_up (id : UInt64) : Method.NeverPanics (up id) := by
  have check : Method.NeverPanics (checkId id) := by
    unfold checkId
    split
    · exact Method.neverPanics_pure _
    · exact Method.neverPanics_fail _
  refine check.bind fun i => Method.neverPanics_read.bind fun h => ?_
  split
  · exact (neverPanics_onSession (HidSession.neverPanics_injectTouch _ _ _ _ _)).bind fun _ =>
      Method.neverPanics_update _
  · exact Method.neverPanics_fail _

end MultitouchHandle

namespace HidSession

theorem panics_multitouch {m : MultitouchHandle.Multitouch Unit} {s : HidSession} :
    Method.Panics (multitouch m) s ↔ Method.Panics m ⟨s, Vector.replicate 10 false⟩ := Iff.rfl

/-- Every operation of the pinch that it comes to is in range. -/
def PinchFits (s : HidSession) (cx cy startRadius endRadius : Int32) : Prop :=
  let first := touchDown 0 (cx - startRadius, cy)
  let second := touchDown 1 (cx + startRadius, cy)
  FitsI32 (cx.toInt - startRadius.toInt) ∧
    (SendsAll s [first] → FitsI32 (cx.toInt + startRadius.toInt) ∧
      (SendsAll s [first, second] →
        FitsI32 (cx.toInt - endRadius.toInt) ∧ FitsI32 (cx.toInt + endRadius.toInt) ∧
        FitsI32 (startRadius.toInt - endRadius.toInt) ∧ FitsI32 (endRadius.toInt - startRadius.toInt)))

section Checks
variable (cx cy startRadius endRadius : Int32)

/-- The checks of a pinch, in the order in which it makes them. -/
theorem pinch_checks (steps : UInt32) (s : HidSession) :
    Method.Panics (pinchIn .dev cx cy startRadius endRadius steps) s ↔
      ¬FitsI32 (cx.toInt - startRadius.toInt) ∨
        SendsAll s [touchDown 0 (cx - startRadius, cy)] ∧
        (¬FitsI32 (cx.toInt + startRadius.toInt) ∨
          SendsAll ((touchAll [touchDown 0 (cx - startRadius, cy)]).run s).2
            [touchDown 1 (cx + startRadius, cy)] ∧
          (¬FitsI32 (cx.toInt - startRadius.toInt) ∨ ¬FitsI32 (cx.toInt - endRadius.toInt) ∨
            ¬FitsI32 (cx.toInt + startRadius.toInt) ∨ ¬FitsI32 (cx.toInt + endRadius.toInt) ∨
            ¬(EndsFit (cx - startRadius, cy) (cx - endRadius, cy) ∧
              EndsFit (cx + startRadius, cy) (cx + endRadius, cy)))) := by
  have calm : ∀ _ : Unit, Method.NeverPanics (do
      MultitouchHandle.up 0
      MultitouchHandle.up 1 : MultitouchHandle.Multitouch Unit) := fun _ =>
    (MultitouchHandle.neverPanics_up 0).bind fun _ => MultitouchHandle.neverPanics_up 1
  rw [pinchIn, panics_multitouch, Profile.panics_sub, MultitouchHandle.panics_play
    (MultitouchHandle.plays_down 0 0 rfl (cx - startRadius) cy 1 rfl), Profile.panics_add,
    MultitouchHandle.panics_play (MultitouchHandle.plays_down 1 1 rfl (cx + startRadius) cy 1 rfl),
    Profile.panics_sub, Profile.panics_sub, Profile.panics_add, Profile.panics_add,
    Method.panics_bind_calm calm, MultitouchHandle.panics_pinch]
  -- both fingers are active by now
  let active := ((Vector.replicate 10 false).set (0 : Fin 10) true).set (1 : Fin 10) true
  have left : ∀ s : HidSession, (⟨s, active⟩ : MultitouchHandle).isActive 0 = true := fun _ => rfl
  have right : ∀ s : HidSession, (⟨s, active⟩ : MultitouchHandle).isActive 1 = true := fun _ => rfl
  dsimp only
  rw [and_iff_right (left _), and_iff_right (right _), touchDown, touchDown]

/-- Where the ends of the ways are in range, their differences are those of the radii. -/
theorem ends_of_radii (near : FitsI32 (cx.toInt - startRadius.toInt))
    (near' : FitsI32 (cx.toInt + startRadius.toInt)) (far : FitsI32 (cx.toInt - endRadius.toInt))
    (far' : FitsI32 (cx.toInt + endRadius.toInt)) :
    EndsFit (cx - startRadius, cy) (cx - endRadius, cy) ∧
        EndsFit (cx + startRadius, cy) (cx + endRadius, cy) ↔
      FitsI32 (startRadius.toInt - endRadius.toInt) ∧
        FitsI32 (endRadius.toInt - startRadius.toInt) := by
  have level : FitsI32 (cy.toInt - cy.toInt) := by
    rw [Int.sub_self]
    decide
  have across : (cx - endRadius).toInt - (cx - startRadius).toInt =
      startRadius.toInt - endRadius.toInt := by
    rw [toInt_sub_of_fits near, toInt_sub_of_fits far]
    omega
  have across' : (cx + endRadius).toInt - (cx + startRadius).toInt =
      endRadius.toInt - startRadius.toInt := by
    rw [toInt_add_of_fits near', toInt_add_of_fits far']
    omega
  rw [EndsFit, EndsFit, across, across', and_iff_left level, and_iff_left level]

end Checks

theorem in_turn {first second third fourth ends radii sent sent' : Prop}
    (same : first → second → third → fourth → (ends ↔ radii)) :
    (¬first ∨ sent ∧ (¬second ∨ sent' ∧ (¬first ∨ ¬third ∨ ¬second ∨ ¬fourth ∨ ¬ends))) ↔
      ¬(first ∧ (sent → second ∧ (sent ∧ sent' → third ∧ fourth ∧ radii))) := by
  tauto

theorem panics_pinch (cx cy startRadius endRadius : Int32) (steps : UInt32) (s : HidSession) :
    Method.Panics (pinchIn .dev cx cy startRadius endRadius steps) s ↔
      ¬PinchFits s cx cy startRadius endRadius := by
  rw [pinch_checks, in_turn (ends_of_radii cx cy startRadius endRadius), ← sendsAll_cons]
  rfl

/- What a gesture that completes has sent. -/

theorem inject_puts {s s' : HidSession} {t : Touch} (run : t.inject.run s = (.ok (), s')) :
    CoalescingWriter.Puts (s.message t).bytes s.transport s'.transport ∧
      ∀ t, s'.message t = s.message t := by
  rw [inject_push, ← message, Method.run_discard] at run
  obtain ⟨done, rfl⟩ := Prod.mk.inj run
  have ok : ((CoalescingWriter.push (s.message t)).run s.transport).1.isOk = true := by
    rw [← Outcome.isOk_map (f := fun _ => ())]
    exact congrArg Outcome.isOk done
  exact ⟨CoalescingWriter.push_puts (message_serializes s t) rfl ok, fun _ => rfl⟩

theorem touchAll_puts {ts : List Touch} {s s' : HidSession}
    (run : (touchAll ts).run s = (.ok (), s')) :
    CoalescingWriter.Puts (encodeAll (ts.map s.message)) s.transport s'.transport := by
  induction ts generalizing s with
  | nil =>
    cases run
    exact CoalescingWriter.puts_nothing _
  | cons t rest ih =>
    obtain ⟨_, s₁, first, others⟩ := Method.of_run_bind_ok run
    obtain ⟨put, same⟩ := inject_puts first
    have later := ih others
    rw [funext same] at later
    exact put.trans later

/-- One DOWN at the origin, at least two MOVEs of which the last is to the target, and one UP there: the
messages of a swipe have been taken, in this order. -/
def Swiped (s : HidSession) (pointerId : UInt64) (origin target : Int32 × Int32) (steps : UInt32)
    (s' : HidSession) : Prop :=
  ∃ way : List (Int32 × Int32), way.length = max steps.toNat 2 ∧ way.getLast? = some target ∧
    CoalescingWriter.Puts
      (encodeAll ([s.message (touchDown pointerId origin)] ++
        way.map (fun at' => s.message (touchMove pointerId at')) ++
        [s.message (touchUp pointerId target)])) s.transport s'.transport

theorem toNat_atLeastTwo (steps : UInt32) : (atLeastTwo steps).toNat = max steps.toNat 2 := by
  unfold atLeastTwo
  split
  · rename_i few
    have : steps.toNat < 2 := few
    change 2 = max steps.toNat 2
    omega
  · rename_i many
    have : 2 ≤ steps.toNat := Nat.not_lt.mp many
    omega

theorem swipePointer_swiped {pointerId : UInt64} {origin target : Int32 × Int32} {steps : UInt32}
    {s s' : HidSession} (run : (swipePointer pointerId origin target steps).run s = (.ok (), s')) :
    Swiped s pointerId origin target steps s' := by
  let times := sampleTimes (atLeastTwo steps) 1 (atLeastTwo steps).toNat
  refine ⟨times.map (between origin target) ++ [target], ?_, List.getLast?_concat, ?_⟩
  · have most : (atLeastTwo steps).toNat = max steps.toNat 2 := toNat_atLeastTwo steps
    rw [List.length_append, List.length_map, length_sampleTimes, ← most, List.length_singleton]
    have := atLeastTwo_le steps
    omega
  · rw [swipePointer_eq] at run
    have put := touchAll_puts run
    have same : (swipeTouches pointerId origin target steps).map s.message =
        [s.message (touchDown pointerId origin)] ++
          (times.map (between origin target) ++ [target]).map
            (fun at' => s.message (touchMove pointerId at')) ++
          [s.message (touchUp pointerId target)] := by
      simp [swipeTouches, times, Function.comp_def]
    rwa [same] at put

end HidSession

end HidConnect
