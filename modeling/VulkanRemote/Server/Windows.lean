import Mathlib.Data.Finset.Basic
import VulkanRemote.Lib.Run

/-! The windows that the server opens itself, and the map from surfaces to them that all connections share. Each
handler is cut where it lets go of the lock or asks the driver, since other connections get in between there. -/

namespace VkRemote.Server

open Lib

/-- What the thread of a connection is in the middle of. -/
inductive Doing (H : Type)
  | nothing
  /-- `create_own_window` has returned. -/
  | opened (window : ℕ)
  /-- The driver has made the surface. -/
  | surfaced (window : ℕ) (surface : H)
  /-- The driver has refused it. -/
  | refused (window : ℕ)
  /-- `vkDestroySurfaceKHR` has returned. -/
  | destroyed (surface : H) (window : Option ℕ)
  /-- `window_for_surface` has returned. -/
  | looking (window : Option ℕ)
  deriving DecidableEq

/-- The window that only this thread knows. -/
def Doing.window {H : Type} : Doing H → Option ℕ
  | .opened window => some window
  | .surfaced window _ => some window
  | .refused window => some window
  | _ => none

/-- A connection as far as its surfaces go. Each surface stands with the window that it was made for, which the code
does not keep. -/
structure WindowClient (H : Type) where
  there : Bool := false
  leaving : Bool := false
  surfaces : List (H × Option ℕ) := []
  doing : Doing H := .nothing

inductive WindowEvent
  | used (window : ℕ)
  | freed (window : ℕ)
  deriving DecidableEq

/-- Windows are numbered as they are opened. `live` are the surfaces of the driver, and `log` keeps the uses of windows
and their ends; the code has none of them. -/
structure Windows (H : Type) where
  ownWindows : List ℕ := []
  surfaceWindows : H → Option ℕ := fun _ => none
  connections : ℕ → WindowClient H := fun _ => {}
  opened : ℕ := 0
  live : Finset H := ∅
  log : List WindowEvent := []

namespace Windows

variable {H : Type} [DecidableEq H]

def set (t : Windows H) (i : ℕ) (c : WindowClient H) : Windows H :=
  { t with connections := Function.update t.connections i c }

/-- Goes on with the connection in the middle of something else. -/
def turn (t : Windows H) (i : ℕ) (doing : Doing H) : Windows H :=
  t.set i { t.connections i with doing := doing }

def use (t : Windows H) (window : Option ℕ) : Windows H :=
  { t with log := t.log ++ window.toList.map .used }

/-- `create_own_window`, where the window could be created. -/
def createOwnWindow (t : Windows H) : Windows H :=
  { t with ownWindows := t.ownWindows ++ [t.opened], opened := t.opened + 1 }

def associateSurface (t : Windows H) (surface : H) (window : ℕ) : Windows H :=
  { t with surfaceWindows := Function.update t.surfaceWindows surface (some window) }

def discardOwnWindow (t : Windows H) (window : ℕ) : Windows H :=
  if window ∈ t.ownWindows then
    { t with ownWindows := t.ownWindows.erase window, log := t.log ++ [.freed window] }
  else t

def releaseSurfaceWindow (t : Windows H) (surface : H) : Windows H :=
  match t.surfaceWindows surface with
  | none => t
  | some window =>
    { t with surfaceWindows := Function.update t.surfaceWindows surface none }.discardOwnWindow window

section Fields

variable (t : Windows H) (i j window : ℕ) (surface : H) (c : WindowClient H)

omit [DecidableEq H] in
@[grind =] theorem connections_set : (t.set i c).connections j = if j = i then c else t.connections j :=
  Function.update_apply ..

omit [DecidableEq H] in
@[grind =] theorem live_set : (t.set i c).live = t.live := rfl

omit [DecidableEq H] in
@[grind =] theorem surfaceWindows_set : (t.set i c).surfaceWindows surface = t.surfaceWindows surface := rfl

omit [DecidableEq H] in
@[grind =] theorem ownWindows_set : (t.set i c).ownWindows = t.ownWindows := rfl

omit [DecidableEq H] in
@[grind =] theorem opened_set : (t.set i c).opened = t.opened := rfl

omit [DecidableEq H] in
@[grind =] theorem log_set : (t.set i c).log = t.log := rfl

omit [DecidableEq H] in
@[grind =] theorem connections_createOwnWindow : t.createOwnWindow.connections = t.connections := rfl

@[grind =] theorem connections_associateSurface : (t.associateSurface surface window).connections = t.connections := rfl

@[grind =] theorem surfaceWindows_associateSurface (surface' : H) :
    (t.associateSurface surface window).surfaceWindows surface' =
      if surface' = surface then some window else t.surfaceWindows surface' := Function.update_apply ..

omit [DecidableEq H] in
@[grind =] theorem connections_discardOwnWindow : (t.discardOwnWindow window).connections = t.connections := by
  unfold discardOwnWindow
  split <;> rfl

omit [DecidableEq H] in
@[grind =] theorem live_discardOwnWindow : (t.discardOwnWindow window).live = t.live := by
  unfold discardOwnWindow
  split <;> rfl

omit [DecidableEq H] in
@[grind =] theorem surfaceWindows_discardOwnWindow :
    (t.discardOwnWindow window).surfaceWindows surface = t.surfaceWindows surface := by
  unfold discardOwnWindow
  split <;> rfl

@[grind =] theorem connections_releaseSurfaceWindow : (t.releaseSurfaceWindow surface).connections = t.connections := by
  unfold releaseSurfaceWindow
  split
  · rfl
  · rw [connections_discardOwnWindow]

@[grind =] theorem live_releaseSurfaceWindow : (t.releaseSurfaceWindow surface).live = t.live := by
  unfold releaseSurfaceWindow
  split
  · rfl
  · rw [live_discardOwnWindow]

end Fields

inductive Action (H : Type)
  | connect (i : ℕ)
  | openWindow (i : ℕ)
  /-- The driver answers `vkCreateWaylandSurfaceKHR` or `vkCreateWin32SurfaceKHR` for the window. -/
  | createSurface (i : ℕ) (surface : Option H)
  | associate (i : ℕ)
  | discard (i : ℕ)
  /-- A surface on the proxy's connection has no window here. -/
  | createProxied (i : ℕ) (surface : H)
  | destroySurface (i : ℕ) (surface : H)
  | release (i : ℕ)
  /-- `poll_window_closed`, `poll_window_resized` and `poll_window_events`, also for a surface that is gone. -/
  | poll (i : ℕ) (surface : H)
  /-- `vkGetPhysicalDeviceSurfaceCapabilitiesKHR` asks for the window, and then for its size. -/
  | look (i : ℕ) (surface : H)
  | readSize (i : ℕ)
  | leave (i : ℕ)
  | gone (i : ℕ)

/-- The connection takes requests and is in the middle of none. -/
def Idle (t : Windows H) (i : ℕ) : Prop :=
  (t.connections i).there ∧ ¬ (t.connections i).leaving ∧ (t.connections i).doing = .nothing

instance (t : Windows H) (i : ℕ) : Decidable (t.Idle i) := inferInstanceAs (Decidable (_ ∧ _ ∧ _))

/-- It is served a request that names one of its surfaces. -/
def Names (t : Windows H) (i : ℕ) (surface : H) : Prop :=
  t.Idle i ∧ ((t.connections i).surfaces.lookup surface).isSome

instance (t : Windows H) (i : ℕ) (surface : H) : Decidable (t.Names i surface) := inferInstanceAs (Decidable (_ ∧ _))

/-- The driver gives a new surface no handle that is in use. -/
def step (t : Windows H) : Action H → Option (Windows H)
  | .connect i => if (t.connections i).there then none else some (t.set i { there := true })
  | .openWindow i => if t.Idle i then some (t.createOwnWindow.turn i (.opened t.opened)) else none
  | .createSurface i surface =>
    match (t.connections i).doing, surface with
    | .opened window, none => some (t.turn i (.refused window))
    | .opened window, some surface =>
      if surface ∈ t.live then none
      else some ({ t with live := insert surface t.live }.turn i (.surfaced window surface))
    | _, _ => none
  | .associate i =>
    match (t.connections i).doing with
    | .surfaced window surface =>
      let c := t.connections i
      some ((t.associateSurface surface window).set i
        { c with surfaces := c.surfaces ++ [(surface, some window)], doing := .nothing })
    | _ => none
  | .discard i =>
    match (t.connections i).doing with
    | .refused window => some ((t.discardOwnWindow window).turn i .nothing)
    | _ => none
  | .createProxied i surface =>
    if t.Idle i ∧ surface ∉ t.live then
      let c := t.connections i
      some ({ t with live := insert surface t.live }.set i { c with surfaces := c.surfaces ++ [(surface, none)] })
    else none
  | .destroySurface i surface =>
    let c := t.connections i
    match c.surfaces.lookup surface with
    | none => none
    | some window =>
      if c.doing = .nothing then
        some ({ t with live := t.live.erase surface }.set i
          { c with surfaces := c.surfaces.filter (·.1 ≠ surface), doing := .destroyed surface window })
      else none
  | .release i =>
    match (t.connections i).doing with
    | .destroyed surface _ => some ((t.releaseSurfaceWindow surface).turn i .nothing)
    | _ => none
  | .poll i surface => if t.Idle i then some (t.use (t.surfaceWindows surface)) else none
  | .look i surface =>
    if t.Names i surface then some (t.turn i (.looking (t.surfaceWindows surface))) else none
  | .readSize i =>
    match (t.connections i).doing with
    | .looking window => some ((t.use window).turn i .nothing)
    | _ => none
  | .leave i =>
    if t.Idle i then some (t.set i { t.connections i with leaving := true }) else none
  | .gone i =>
    let c := t.connections i
    if c.leaving ∧ c.doing = .nothing ∧ c.surfaces = [] then some (t.set i {}) else none

end Windows

end VkRemote.Server
