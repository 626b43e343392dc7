import Mathlib.Logic.Function.Basic

/-!
# Handles that are opened, used and closed

Several owners open handles, each of them at most one at a time.  A history is
lawful when handles are new, and only used and closed by the owner that has them
open.  No handle of a lawful history is used before it is opened or after it is
closed.
-/

namespace SensorManager

inductive HandleEvent (ω η : Type) where
  | created (owner : ω) (handle : η)
  | used (owner : ω) (handle : η)
  | released (owner : ω) (handle : η)
  deriving DecidableEq, Repr

namespace HandleEvent

variable {ω η : Type}

def owner : HandleEvent ω η → ω
  | .created owner _ | .used owner _ | .released owner _ => owner

def handle : HandleEvent ω η → η
  | .created _ handle | .used _ handle | .released _ handle => handle

def opens : HandleEvent ω η → Bool
  | .created .. => true
  | _ => false

/-- The history, with the handle that each owner has open behind it. -/
inductive Lawful [DecidableEq ω] : List (HandleEvent ω η) → (ω → Option η) → Prop
  | start : Lawful [] fun _ => none
  | created {events : List (HandleEvent ω η)} {held : ω → Option η} {owner : ω} {handle : η}
      (lawful : Lawful events held) (idle : held owner = none)
      (fresh : ∀ event ∈ events, event.handle ≠ handle) :
      Lawful (events ++ [.created owner handle]) (Function.update held owner (some handle))
  | used {events : List (HandleEvent ω η)} {held : ω → Option η} {owner : ω} {handle : η}
      (lawful : Lawful events held) (holds : held owner = some handle) :
      Lawful (events ++ [.used owner handle]) held
  | released {events : List (HandleEvent ω η)} {held : ω → Option η} {owner : ω} {handle : η}
      (lawful : Lawful events held) (holds : held owner = some handle) :
      Lawful (events ++ [.released owner handle]) (Function.update held owner none)

/-- Handles are opened once, and used and closed only while they are open, by the
owner that opened them. -/
structure Disciplined (events : List (HandleEvent ω η)) : Prop where
  once : ∀ earlier event, earlier ++ [event] <+: events → event.opens = true →
    ∀ other ∈ earlier, other.handle ≠ event.handle
  within : ∀ earlier event, earlier ++ [event] <+: events → event.opens = false →
    .created event.owner event.handle ∈ earlier ∧
      ∀ other, .released other event.handle ∉ earlier

variable [DecidableEq ω] {events : List (HandleEvent ω η)} {held : ω → Option η}
  {owner : ω} {handle : η}

theorem Lawful.created_of_held (lawful : Lawful events held) (holds : held owner = some handle) :
    .created owner handle ∈ events := by
  induction lawful with
  | start => cases holds
  | @created _ _ opener _ _ _ _ ih =>
      by_cases same : owner = opener
      · subst same
        simp_all
      · rw [Function.update_of_ne same] at holds
        exact List.mem_append_left _ (ih holds)
  | used _ _ ih => exact List.mem_append_left _ (ih holds)
  | @released _ _ closer _ _ _ ih =>
      by_cases same : owner = closer
      · simp [same] at holds
      · rw [Function.update_of_ne same] at holds
        exact List.mem_append_left _ (ih holds)

/-- No two owners hold the same handle. -/
theorem Lawful.apart (lawful : Lawful events held) {left right : ω}
    (leftHolds : held left = some handle) (rightHolds : held right = some handle) :
    left = right := by
  induction lawful with
  | start => cases leftHolds
  | @created _ before opener opened lawful _ fresh ih =>
      -- What was open before is not the handle that is new.
      have old : ∀ {other : ω}, other ≠ opener →
          Function.update before opener (some opened) other = some handle →
          opened ≠ handle := by
        intro other different holds
        rw [Function.update_of_ne different] at holds
        exact (fresh _ (lawful.created_of_held holds)).symm
      by_cases leftSame : left = opener <;> by_cases rightSame : right = opener
      · rw [leftSame, rightSame]
      · subst leftSame
        exact absurd (by simpa using leftHolds) (old rightSame rightHolds)
      · subst rightSame
        exact absurd (by simpa using rightHolds) (old leftSame leftHolds)
      · rw [Function.update_of_ne leftSame] at leftHolds
        rw [Function.update_of_ne rightSame] at rightHolds
        exact ih leftHolds rightHolds
  | used _ _ ih => exact ih leftHolds rightHolds
  | @released _ before closer _ _ _ ih =>
      have open_before : ∀ {other : ω},
          Function.update before closer none other = some handle → other ≠ closer := by
        rintro other holds rfl
        simp at holds
      rw [Function.update_of_ne (open_before leftHolds)] at leftHolds
      rw [Function.update_of_ne (open_before rightHolds)] at rightHolds
      exact ih leftHolds rightHolds

theorem Lawful.not_released_of_held (lawful : Lawful events held)
    (holds : held owner = some handle) (other : ω) : .released other handle ∉ events := by
  induction lawful with
  | start => cases holds
  | @created _ _ opener opened lawful _ fresh ih =>
      intro member
      rcases List.mem_append.mp member with earlier | last
      · by_cases same : owner = opener
        · subst same
          obtain rfl : opened = handle := by simpa using holds
          exact fresh _ earlier rfl
        · rw [Function.update_of_ne same] at holds
          exact ih holds earlier
      · simp at last
  | used _ _ ih =>
      intro member
      rcases List.mem_append.mp member with earlier | last
      · exact ih holds earlier
      · simp at last
  | @released _ _ closer closed lawful closes ih =>
      have different : owner ≠ closer := by
        rintro rfl
        simp at holds
      rw [Function.update_of_ne different] at holds
      intro member
      rcases List.mem_append.mp member with earlier | last
      · exact ih holds earlier
      · obtain ⟨rfl, rfl⟩ : other = closer ∧ handle = closed := by simpa using last
        exact different (lawful.apart holds closes)

/-- A handle that was opened is still open or was closed. -/
theorem Lawful.held_or_released (lawful : Lawful events held)
    (opened : .created owner handle ∈ events) :
    held owner = some handle ∨ .released owner handle ∈ events := by
  induction lawful with
  | start => cases opened
  | @created _ _ opener new lawful idle _ ih =>
      rcases List.mem_append.mp opened with earlier | last
      · rcases ih earlier with holds | released
        · have different : owner ≠ opener := by
            rintro rfl
            simp [idle] at holds
          exact .inl (by rwa [Function.update_of_ne different])
        · exact .inr (List.mem_append_left _ released)
      · obtain ⟨rfl, rfl⟩ : owner = opener ∧ handle = new := by simpa using last
        exact .inl (Function.update_self ..)
  | used _ _ ih =>
      rcases List.mem_append.mp opened with earlier | last
      · exact (ih earlier).imp_right (List.mem_append_left _)
      · simp at last
  | @released _ _ closer closed _ closes ih =>
      rcases List.mem_append.mp opened with earlier | last
      · rcases ih earlier with holds | released
        · by_cases same : owner = closer
          · subst same
            obtain rfl : handle = closed := by simpa [closes] using holds.symm
            exact .inr (by simp)
          · exact .inl (by rwa [Function.update_of_ne same])
        · exact .inr (List.mem_append_left _ released)
      · simp at last

theorem Lawful.disciplined (lawful : Lawful events held) : Disciplined events := by
  induction lawful with
  | start => exact ⟨by simp, by simp⟩
  | created _ _ fresh ih =>
      refine ⟨?_, ?_⟩
      · intro earlier event within opens
        rcases List.prefix_concat_iff.mp within with last | inside
        · obtain ⟨rfl, rfl⟩ := List.append_inj' last rfl |>.imp_right List.singleton_inj.mp
          exact fresh
        · exact ih.once earlier event inside opens
      · intro earlier event within uses
        rcases List.prefix_concat_iff.mp within with last | inside
        · obtain ⟨rfl, rfl⟩ := List.append_inj' last rfl |>.imp_right List.singleton_inj.mp
          cases uses
        · exact ih.within earlier event inside uses
  | used lawful holds ih | released lawful holds ih =>
      refine ⟨?_, ?_⟩
      · intro earlier event within opens
        rcases List.prefix_concat_iff.mp within with last | inside
        · obtain ⟨rfl, rfl⟩ := List.append_inj' last rfl |>.imp_right List.singleton_inj.mp
          cases opens
        · exact ih.once earlier event inside opens
      · intro earlier event within uses
        rcases List.prefix_concat_iff.mp within with last | inside
        · obtain ⟨rfl, rfl⟩ := List.append_inj' last rfl |>.imp_right List.singleton_inj.mp
          exact ⟨lawful.created_of_held holds, lawful.not_released_of_held holds⟩
        · exact ih.within earlier event inside uses

end HandleEvent

end SensorManager
