import TwinIsa.Command.FileTree

/-!
What commands rely on in a system of files. A state is seen through the contents of its files and
the files that paths lead to. Looking changes nothing, making a directory changes no file, and
neither does a failed write; a write that succeeds changes the file that its path leads to and no
other. Actions are put together of these operations, and so is what they change.
-/

namespace TwinIsa.Command

/-- A system of files: the operations on its states, and what can be seen of a state. Files have
places, each of which several paths may lead to. -/
structure FileSystem (σ κ : Type) where
  files : Files (StateM σ)
  contents? : σ → κ → Option ByteArray
  Leads : σ → String → κ → Prop

/-! ## Actions that only look -/

section

variable {σ α β : Type}

theorem bind_of_eq {action : StateM σ α} {before after : σ} {value : α}
    (result : action before = (value, after)) (next : α → StateM σ β) :
    (action >>= next) before = next value after := by
  change next (action before).1 (action before).2 = _
  rw [result]

/-- An action that leaves every state as it is. -/
def Looks (action : StateM σ α) : Prop :=
  ∀ state, (action state).2 = state

theorem Looks.pure (value : α) : Looks (pure value : StateM σ α) :=
  fun _ => rfl

theorem Looks.bind_eq {action : StateM σ α} (looks : Looks action) (next : α → StateM σ β)
    (state : σ) : (action >>= next) state = next (action state).1 state := by
  have result : action state = ((action state).1, state) := Prod.ext rfl (looks state)
  exact bind_of_eq result next

theorem Looks.bind {action : StateM σ α} (looks : Looks action) {next : α → StateM σ β}
    (nextLooks : ∀ value, Looks (next value)) : Looks (action >>= next) := by
  intro state
  rw [looks.bind_eq]
  exact nextLooks _ state

end

namespace FileSystem

/-! ## What paths lead to -/

section

variable {σ κ : Type} (system : FileSystem σ κ) (state : σ) (path : String)

def opened : Except SystemError Opened :=
  (system.files.openPath path state).1

def text : Except InputError String :=
  (system.files.readText path state).1

end

/-! ## Changes -/

section

variable {σ κ α β : Type} (system : FileSystem σ κ) (paths : List String)

/-- From one state to a later one, only files change that the given paths lead to in the end, and
paths go on leading to the files that they led to. -/
structure ChangesOnly (before after : σ) : Prop where
  within : ∀ place, system.contents? after place ≠ system.contents? before place →
    ∃ path ∈ paths, system.Leads after path place
  leads : ∀ path place, system.Leads before path place → system.Leads after path place

/-- An action that changes no files but those that the given paths lead to. -/
def Touches (action : StateM σ α) : Prop :=
  ∀ before, system.ChangesOnly paths before (action before).2

variable {system paths}

theorem ChangesOnly.refl (state : σ) : system.ChangesOnly paths state state :=
  ⟨fun _ changed => absurd rfl changed, fun _ _ leads => leads⟩

theorem ChangesOnly.trans {before middle after : σ}
    (first : system.ChangesOnly paths before middle)
    (second : system.ChangesOnly paths middle after) : system.ChangesOnly paths before after := by
  refine ⟨?_, fun path place leads => second.leads path place (first.leads path place leads)⟩
  intro place changed
  rcases Classical.em (system.contents? after place = system.contents? middle place) with
    same | changedLater
  · rw [same] at changed
    rcases first.within place changed with ⟨path, member, leads⟩
    exact ⟨path, member, second.leads path place leads⟩
  · exact second.within place changedLater

theorem ChangesOnly.mono {others : List String} {before after : σ}
    (changes : system.ChangesOnly paths before after) (subset : paths ⊆ others) :
    system.ChangesOnly others before after := by
  refine ⟨?_, changes.leads⟩
  intro place changed
  rcases changes.within place changed with ⟨path, member, leads⟩
  exact ⟨path, subset member, leads⟩

theorem ChangesOnly.contents?_eq {before after : σ} (changes : system.ChangesOnly [] before after)
    (place : κ) : system.contents? after place = system.contents? before place := by
  apply Classical.byContradiction
  intro changed
  rcases changes.within place changed with ⟨_, member, _⟩
  exact absurd member List.not_mem_nil

theorem Touches.of_looks {action : StateM σ α} (looks : Looks action) :
    system.Touches paths action := by
  intro before
  rw [looks before]
  exact .refl before

theorem Touches.bind {action : StateM σ α} (touches : system.Touches paths action)
    {next : α → StateM σ β} (nextTouches : ∀ value, system.Touches paths (next value)) :
    system.Touches paths (action >>= next) :=
  fun before => (touches before).trans (nextTouches _ _)

theorem Touches.mono {others : List String} {action : StateM σ α}
    (touches : system.Touches paths action) (subset : paths ⊆ others) :
    system.Touches others action :=
  fun before => (touches before).mono subset

end

/-! ## Laws -/

variable {σ κ : Type} (system : FileSystem σ κ)

structure Lawful : Prop where
  openPath_looks : ∀ path, Looks (system.files.openPath path)
  isDirectory_looks : ∀ path, Looks (system.files.isDirectory path)
  makeDirectory_touches : ∀ path, system.Touches [] (system.files.makeDirectory path)
  writeText_of_error : ∀ path text before error after,
    system.files.writeText path text before = (.error error, after) →
      system.ChangesOnly [] before after
  writeText_of_ok : ∀ path text before after,
    system.files.writeText path text before = (.ok (), after) →
      system.ChangesOnly [path] before after

namespace Lawful

variable {system} (lawful : system.Lawful)
include lawful

/-- Whether a write succeeds or not, it changes no file but its own. -/
theorem writeText_touches (path text : String) :
    system.Touches [path] (system.files.writeText path text) := by
  intro before
  rcases written : system.files.writeText path text before with ⟨outcome, after⟩
  cases outcome with
  | ok done => exact lawful.writeText_of_ok path text before after written
  | error error =>
      exact (lawful.writeText_of_error path text before error after written).mono
        (List.nil_subset _)

theorem readText_looks (path : String) : Looks (system.files.readText path) := by
  apply (lawful.openPath_looks path).bind
  intro opened
  match opened with
  | .error _ => exact Looks.pure _
  | .ok .directory => exact Looks.pure _
  | .ok (.bytes contents) =>
      dsimp only
      split
      · exact Looks.pure _
      · exact Looks.pure _

theorem readText_bind_of_eq {path : String} {state : σ} {read : Except InputError String}
    (reads : system.text state path = read) {α : Type}
    (next : Except InputError String → StateM σ α) :
    (system.files.readText path >>= next) state = next read state := by
  rw [(lawful.readText_looks path).bind_eq]
  exact congrArg (fun read => next read state) reads

theorem openPath_bind_of_eq {path : String} {state : σ} {source : Except SystemError Opened}
    (opens : system.opened state path = source) {α : Type}
    (next : Except SystemError Opened → StateM σ α) :
    (system.files.openPath path >>= next) state = next source state := by
  rw [(lawful.openPath_looks path).bind_eq]
  exact congrArg (fun source => next source state) opens

theorem unlessThere_touches (path : String) (error : SystemError) :
    system.Touches [] (Files.makeDirectories.unlessThere system.files path error) := by
  apply Touches.of_looks
  apply (lawful.isDirectory_looks path).bind
  intro isThere
  cases isThere
  · exact Looks.pure _
  · exact Looks.pure _

theorem makeUnlessThere_touches (path : String) :
    system.Touches [] (Files.makeDirectories.makeUnlessThere system.files path) := by
  apply (lawful.makeDirectory_touches path).bind
  intro made
  cases made with
  | ok done => exact Touches.of_looks (Looks.pure _)
  | error error => exact lawful.unlessThere_touches path error

theorem makeDirectories_touches (paths : List String) :
    system.Touches [] (system.files.makeDirectories paths) := by
  induction paths with
  | nil => exact Touches.of_looks (Looks.pure _)
  | cons path outer induction =>
      apply (lawful.makeDirectory_touches path).bind
      intro made
      split
      · exact Touches.of_looks (Looks.pure _)
      · apply induction.bind
        intro madeOuter
        cases madeOuter with
        | error error => exact Touches.of_looks (Looks.pure _)
        | ok done => exact lawful.makeUnlessThere_touches path
      · exact lawful.unlessThere_touches path _

end Lawful

end FileSystem

end TwinIsa.Command
