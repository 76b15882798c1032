import Mathlib.Tactic.SplitIfs
import TwinIsa.Proofs.Command.FileSystem

/-!
The tree of files is a lawful system. Paths are followed through directories only, and no directory
is ever replaced, so a new entry shows only where a path ends: there it takes the place of what a
path led to before, and all other paths lead where they did.
-/

namespace TwinIsa.Command

namespace Place

def location : Place → Location
  | occupied location _ => location
  | vacant location => location

def content? : Place → Option Entry
  | occupied _ entry => some entry
  | vacant _ => none

/-- Where a path leads once there is a new entry at the target. -/
def afterPut (target : Location) (entry : Entry) (place : Place) : Place :=
  if place.location = target then occupied target entry else place

theorem afterPut_of_ne {target : Location} {entry : Entry} {place : Place}
    (different : place.location ≠ target) : place.afterPut target entry = place :=
  if_neg different

end Place

namespace FileTree

def contents? (tree : FileTree) (location : Location) : Option ByteArray :=
  match tree.entry? location with
  | some (.file contents) => some contents
  | _ => none

def Leads (tree : FileTree) (path : String) (location : Location) : Prop :=
  ∃ contents, tree.locate path = .ok (.occupied location (.file contents))

def system : FileSystem FileTree Location := ⟨files, contents?, Leads⟩

def ofProgram (source : String) : FileTree :=
  ⟨[(["programs"], .directory), (["programs", "program.asm"], .file source.toUTF8)]⟩

theorem opened_ofProgram (source : String) :
    system.opened (ofProgram source) "programs/program.asm" = .ok (.bytes source.toUTF8) :=
  rfl

variable {tree : FileTree} {target location : Location} {entry : Entry}

/-! ## Where paths lead -/

theorem entry?_put (notRoot : target ≠ []) (location : Location) :
    FileTree.entry? (tree.put target entry) location =
      if location = target then some entry else tree.entry? location := by
  have others : (tree.entries.filter fun other => other.1 != target).lookup location =
      if location = target then none else tree.entries.lookup location := by
    induction tree.entries with
    | nil => simp
    | cons head rest induction =>
        rw [List.filter_cons, List.lookup_cons]
        split
        · rw [List.lookup_cons, induction]
          grind
        · rw [induction]
          grind
  rw [FileTree.entry?, FileTree.entry?, put]
  cases location with
  | nil => simp [notRoot.symm]
  | cons name names =>
      rw [List.lookup_cons, others]
      grind

theorem entry?_of_outside {segments : List (List Char)} {place : Place}
    (found : outside segments = .ok place) : tree.entry? place.location = place.content? := by
  unfold outside at found
  split at found
  · cases found
    rfl
  · contradiction

theorem entry?_of_follow {segments : List (List Char)} {place : Place}
    (found : tree.follow location segments = .ok place) :
    tree.entry? place.location = place.content? := by
  induction segments generalizing location with
  | nil =>
      rw [follow] at found
      split at found
      next entry there =>
        cases found
        exact there
      next nothing =>
        cases found
        exact nothing
  | cons segment rest induction =>
      rw [follow] at found
      split at found
      · contradiction
      · contradiction
      · split at found
        · exact induction found
        · split at found
          · split at found
            · exact entry?_of_outside found
            · exact induction found
          · split at found
            · contradiction
            · exact induction found

theorem entry?_of_locate {path : String} {place : Place} (found : tree.locate path = .ok place) :
    tree.entry? place.location = place.content? := by
  unfold locate at found
  split at found
  · contradiction
  · split at found
    · contradiction
    · split at found
      · exact entry?_of_outside found
      · exact entry?_of_follow found

/-! ## A new entry -/

section

variable (noDirectory : tree.entry? target ≠ some .directory)
include noDirectory

theorem ne_nil_of_no_directory : target ≠ [] := by
  intro root
  rw [root] at noDirectory
  exact noDirectory rfl

theorem outside_put {segments : List (List Char)} {place : Place}
    (found : outside segments = .ok place) : place.afterPut target entry = place := by
  unfold outside at found
  split at found
  · cases found
    exact Place.afterPut_of_ne (ne_nil_of_no_directory noDirectory).symm
  · contradiction

/-- A path leads as before through directories, none of which is the target. -/
theorem follow_put {segments : List (List Char)} {place : Place}
    (found : tree.follow location segments = .ok place) :
    (tree.put target entry).follow location segments = .ok (place.afterPut target entry) := by
  have put : ∀ location, FileTree.entry? (tree.put target entry) location =
      if location = target then some entry else tree.entry? location :=
    entry?_put (ne_nil_of_no_directory noDirectory)
  induction segments generalizing location with
  | nil =>
      have ends : place.location = location := by
        rw [follow] at found
        split at found
        · cases found
          rfl
        · cases found
          rfl
      subst ends
      rw [follow, put, entry?_of_follow found, Place.afterPut]
      rcases Decidable.em (place.location = target) with here | elsewhere
      · rw [if_pos here, if_pos here, here]
      · rw [if_neg elsewhere, if_neg elsewhere]
        cases place with
        | occupied place entry => rfl
        | vacant place => rfl
  | cons segment rest induction =>
      rw [follow] at found ⊢
      cases there : tree.entry? location with
      | none =>
          rw [there] at found
          contradiction
      | some old =>
          rw [there] at found
          cases old with
          | file contents => contradiction
          | directory =>
              have elsewhere : location ≠ target := by
                intro here
                exact noDirectory (here ▸ there)
              rw [put location, if_neg elsewhere, there]
              dsimp only at found ⊢
              split_ifs at found ⊢ with idle upward top long
              · exact induction found
              · rw [outside_put noDirectory found]
                exact found
              · exact induction found
              · exact induction found

theorem locate_put {path : String} {place : Place} (found : tree.locate path = .ok place) :
    (tree.put target entry).locate path = .ok (place.afterPut target entry) := by
  unfold locate at found ⊢
  split_ifs at found ⊢ with long nothing
  split at found
  · rw [outside_put noDirectory found]
    exact found
  · exact follow_put noDirectory found

/-- A path to a file goes on leading there when something is put at a place that held no directory,
provided that it is a file if there was one. -/
theorem Leads.put {path : String} {place : Location} (leads : tree.Leads path place)
    (staysFile : tree.entry? target ≠ none → ∃ contents, entry = .file contents) :
    (tree.put target entry).Leads path place := by
  rcases leads with ⟨contents, found⟩
  have there := entry?_of_locate found
  have moved : (tree.put target entry).locate path = _ := locate_put noDirectory found
  rcases Decidable.em (place = target) with here | elsewhere
  · have occupied : tree.entry? target ≠ none := by
      intro vacant
      rw [← here] at vacant
      exact nomatch there.symm.trans vacant
    rcases staysFile occupied with ⟨new, rfl⟩
    refine ⟨new, ?_⟩
    rw [moved, here]
    exact congrArg Except.ok (if_pos rfl)
  · exact ⟨contents, moved.trans (congrArg Except.ok (Place.afterPut_of_ne elsewhere))⟩

theorem changesOnly_put {paths : List String}
    (staysFile : tree.entry? target ≠ none → ∃ contents, entry = .file contents)
    (within : (tree.put target entry).contents? target ≠ tree.contents? target →
      ∃ path ∈ paths, (tree.put target entry).Leads path target) :
    system.ChangesOnly paths tree (tree.put target entry) := by
  refine ⟨?_, fun path place leads => Leads.put noDirectory leads staysFile⟩
  intro place changed
  rcases Decidable.em (place = target) with here | elsewhere
  · subst here
    exact within changed
  · refine absurd ?_ changed
    change FileTree.contents? _ place = tree.contents? place
    rw [contents?, contents?, entry?_put (ne_nil_of_no_directory noDirectory), if_neg elsewhere]

end

/-! ## Laws -/

theorem withoutSlashes_eq_self {path : String} (noSlash : path.toList.getLast? ≠ some '/') :
    withoutSlashes path = path := by
  have kept : path.toList.reverse.dropWhile (· == '/') = path.toList.reverse := by
    cases shape : path.toList.reverse with
    | nil => rfl
    | cons last front =>
        apply List.dropWhile_cons_of_neg
        rw [List.getLast?_eq_head?_reverse, shape] at noSlash
        simpa using noSlash
  rw [withoutSlashes, kept, List.reverse_reverse, String.ofList_toList]

theorem makeDirectory_eq_ok {path : String} {after : FileTree}
    (made : tree.makeDirectory path = .ok after) :
    ∃ target, tree.entry? target = none ∧ after = tree.put target .directory := by
  unfold makeDirectory at made
  split at made
  · cases made
  · cases made
  next target found =>
    cases made
    exact ⟨target, entry?_of_locate found, rfl⟩

theorem writeText_eq_ok {path text : String} {after : FileTree}
    (written : tree.writeText path text = .ok after) :
    ∃ place, tree.locate path = .ok place ∧ place.content? ≠ some .directory ∧
      after = tree.put place.location (.file text.toUTF8) := by
  have stored : ∀ {location}, writeText.store tree path text location = .ok after →
      path.toList.getLast? ≠ some '/' ∧ after = tree.put location (.file text.toUTF8) := by
    intro location stored
    unfold writeText.store at stored
    split at stored
    · cases stored
    next noSlash =>
      cases stored
      exact ⟨noSlash, rfl⟩
  have located : ∀ {place}, path.toList.getLast? ≠ some '/' →
      tree.locate (if (withoutSlashes path).isEmpty then path else withoutSlashes path) =
        .ok place → tree.locate path = .ok place := by
    intro place noSlash located
    rw [withoutSlashes_eq_self noSlash, ite_self] at located
    exact located
  unfold writeText at written
  split at written
  · cases written
  · cases written
  next location contents found =>
    rcases stored written with ⟨noSlash, result⟩
    exact ⟨.occupied location (.file contents), located noSlash found, nofun, result⟩
  next location found =>
    rcases stored written with ⟨noSlash, result⟩
    exact ⟨.vacant location, located noSlash found, nofun, result⟩

theorem attempt_eq {change : FileTree → Except SystemError FileTree}
    {outcome : Except SystemError Unit} {after : FileTree}
    (attempted : attempt change tree = (outcome, after)) :
    (∃ error, outcome = .error error ∧ after = tree) ∨
      outcome = .ok () ∧ change tree = .ok after := by
  unfold attempt at attempted
  split at attempted
  next changed result =>
    cases attempted
    exact .inr ⟨rfl, result⟩
  next error result =>
    cases attempted
    exact .inl ⟨error, rfl, rfl⟩

theorem system_makeDirectory (path : String) :
    system.files.makeDirectory path = attempt (·.makeDirectory path) := by
  rw [system, files]

theorem system_writeText (path text : String) :
    system.files.writeText path text = attempt (·.writeText path text) := by
  rw [system, files]

theorem lawful_system : system.Lawful where
  openPath_looks _ _ := rfl
  isDirectory_looks _ _ := rfl
  makeDirectory_touches path before := by
    rw [system_makeDirectory]
    rcases made : attempt (·.makeDirectory path) before with ⟨outcome, after⟩
    rcases attempt_eq made with ⟨error, -, unchanged⟩ | ⟨-, made⟩
    · rw [unchanged]
      exact .refl before
    · rcases makeDirectory_eq_ok made with ⟨target, vacant, result⟩
      have noDirectory : before.entry? target ≠ some .directory := by
        rw [vacant]
        nofun
      rw [result]
      apply changesOnly_put noDirectory (absurd vacant)
      intro changed
      refine absurd ?_ changed
      rw [contents?, contents?, entry?_put (ne_nil_of_no_directory noDirectory), vacant,
        if_pos rfl]
  writeText_of_error path text before error after written := by
    rw [system_writeText] at written
    rcases attempt_eq written with ⟨_, -, unchanged⟩ | ⟨ok, -⟩
    · rw [unchanged]
      exact .refl before
    · nomatch ok
  writeText_of_ok path text before after written := by
    rw [system_writeText] at written
    rcases attempt_eq written with ⟨_, error, -⟩ | ⟨-, written⟩
    · nomatch error
    · rcases writeText_eq_ok written with ⟨target, found, notDirectory, result⟩
      have there := entry?_of_locate found
      rw [← there] at notDirectory
      rw [result]
      apply changesOnly_put notDirectory fun _ => ⟨text.toUTF8, rfl⟩
      intro _
      refine ⟨path, List.mem_singleton_self path, text.toUTF8, ?_⟩
      rw [locate_put notDirectory found]
      exact congrArg Except.ok (if_pos rfl)

end FileTree

end TwinIsa.Command
