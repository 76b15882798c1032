import TwinIsa.Command.Assemble
import TwinIsa.Command.Disassemble
import TwinIsa.Proofs.Steps

/-!
The help of the commands. Its lines keep all the words of an entry and do not leave the page. What
it says of presets and choices is what the commands do. A command that is asked for help after
arguments that it takes gives it, whatever follows, and does nothing else.
-/

namespace TwinIsa

/-! ## Lines of words -/

namespace Command.Page

variable {width : Nat} {begun words : List String}

theorem flatten_fill : (fill width begun words).flatten = begun ++ words := by
  induction words generalizing begun with
  | nil => simp [fill]
  | cons word rest induction =>
      rw [fill]
      split
      · rw [induction, List.append_assoc, List.singleton_append]
      · rw [List.flatten_cons, induction, List.singleton_append]

theorem length_le_of_mem_fill (begins : (line begun).length ≤ width)
    (fits : ∀ word ∈ words, word.length ≤ width) :
    ∀ filled ∈ fill width begun words, (line filled).length ≤ width := by
  induction words generalizing begun with
  | nil => simpa [fill] using begins
  | cons word rest induction =>
      rw [List.forall_mem_cons] at fits
      rw [fill]
      split
      next joins => exact induction joins fits.2
      next =>
        rw [List.forall_mem_cons]
        exact ⟨begins, induction fits.1 fits.2⟩

end Command.Page

/-! ## Presets and choices -/

theorem Isa.exists_ofName?_iff {name : String} :
    (∃ isa, ofName? name = some isa) ↔ name ∈ all.map Isa.name := by
  rw [← Option.isSome_iff_exists, ofName?, List.find?_isSome, List.mem_map]
  simp only [beq_iff_eq]

namespace Command

theorem error_of_pathArgument {settings : Type} {name value : String} {error : UsageError}
    {next : String → settings}
    (failed : (do let path ← pathArgument name value; return next path) = .error error) :
    error = .invalidValue name value := by
  rcases bind_eq_error_iff.mp failed with refused | ⟨path, _, impossible⟩
  · rw [pathArgument] at refused
    split at refused
    · cases refused
      rfl
    · contradiction
  · contradiction

namespace Assemble.Settings

variable {settings : Settings} {name value : String} {error : UsageError}

theorem set_preset {switch : Switch} (member : switch ∈ signature.switches)
    (preset : switch.preset = some value) : set {} (.option switch.name value) = .ok {} := by
  simp only [signature, List.mem_cons, List.not_mem_nil, or_false] at member
  rcases member with rfl | rfl | rfl | rfl | rfl | rfl | rfl | rfl | rfl | rfl
  all_goals cases preset
  all_goals rfl

theorem exists_setIsa_iff :
    (∃ next, settings.setIsa value = .ok next) ↔ value ∈ Isa.all.map Isa.name := by
  rw [← Isa.exists_ofName?_iff, setIsa]
  cases Isa.ofName? value <;> simp

theorem exists_set_iff_mem_choices {switch : Switch} (member : switch ∈ signature.switches)
    (listed : switch.choices ≠ []) :
    (∃ next, settings.set (.option switch.name value) = .ok next) ↔ value ∈ switch.choices := by
  simp only [signature, List.mem_cons, List.not_mem_nil, or_false] at member
  rcases member with rfl | rfl | rfl | rfl | rfl | rfl | rfl | rfl | rfl | rfl
  case inl => exact exists_setIsa_iff
  all_goals contradiction

theorem setIsa_eq_error (failed : settings.setIsa value = .error error) :
    error = .invalidValue "isa" value := by
  rw [setIsa] at failed
  split at failed
  · contradiction
  · cases failed
    rfl

theorem setCapacity_eq_error (failed : settings.setCapacity value = .error error) :
    error = .invalidValue "capacity" value := by
  rw [setCapacity] at failed
  split at failed
  · contradiction
  · cases failed
    rfl

theorem set_option_eq_error (failed : settings.set (.option name value) = .error error) :
    error = .invalidValue name value := by
  unfold set at failed
  split at failed
  case h_1 same =>
    cases same
    exact setIsa_eq_error failed
  case h_6 same =>
    cases same
    exact setCapacity_eq_error failed
  case h_3 same | h_4 same | h_5 same | h_7 same =>
    cases same
    exact error_of_pathArgument failed
  all_goals contradiction

end Assemble.Settings

namespace Disassemble.Settings

variable {settings : Settings} {name value : String} {error : UsageError}

theorem set_preset {switch : Switch} (member : switch ∈ signature.switches)
    (preset : switch.preset = some value) : set {} (.option switch.name value) = .ok {} := by
  simp only [signature, List.mem_cons, List.not_mem_nil, or_false] at member
  rcases member with rfl | rfl | rfl | rfl | rfl
  all_goals cases preset
  all_goals rfl

theorem exists_setIsa_iff :
    (∃ next, settings.setIsa value = .ok next) ↔ value ∈ Isa.all.map Isa.name := by
  rw [← Isa.exists_ofName?_iff, setIsa]
  cases Isa.ofName? value <;> simp

theorem exists_setStyle_iff :
    (∃ next, settings.setStyle value = .ok next) ↔ value ∈ ["text", "json"] := by
  unfold setStyle
  split <;> simp_all

theorem exists_set_iff_mem_choices {switch : Switch} (member : switch ∈ signature.switches)
    (listed : switch.choices ≠ []) :
    (∃ next, settings.set (.option switch.name value) = .ok next) ↔ value ∈ switch.choices := by
  simp only [signature, List.mem_cons, List.not_mem_nil, or_false] at member
  rcases member with rfl | rfl | rfl | rfl | rfl
  case inl => exact exists_setIsa_iff
  case inr.inr.inl => exact exists_setStyle_iff
  all_goals contradiction

theorem setIsa_eq_error (failed : settings.setIsa value = .error error) :
    error = .invalidValue "isa" value := by
  rw [setIsa] at failed
  split at failed
  · contradiction
  · cases failed
    rfl

theorem setStyle_eq_error (failed : settings.setStyle value = .error error) :
    error = .invalidValue "format" value := by
  unfold setStyle at failed
  split at failed
  · contradiction
  · contradiction
  · cases failed
    rfl

theorem set_option_eq_error (failed : settings.set (.option name value) = .error error) :
    error = .invalidValue name value := by
  unfold set at failed
  split at failed
  case h_1 same =>
    cases same
    exact setIsa_eq_error failed
  case h_3 same =>
    cases same
    exact setStyle_eq_error failed
  case h_2 same | h_4 same =>
    cases same
    exact error_of_pathArgument failed
  all_goals contradiction

end Disassemble.Settings

/-! ## Asking for help -/

namespace Signature

variable {signature : Signature} {argument : String}

theorem form_of_asksForHelp
    (asks : argument = "--help" ∨ ∃ text, argument.toList = '-' :: 'h' :: text) :
    signature.form argument = .ok .help := by
  rcases asks with rfl | ⟨text, begins⟩
  · rfl
  · simp only [form, begins]

theorem longForm_ne_endOfOptions (name : String) (value? : Option String) :
    signature.longForm argument name value? ≠ .ok .endOfOptions := by
  unfold longForm
  cases value?
  all_goals
    repeat' split
    all_goals nofun

theorem eq_of_form_eq_endOfOptions (ends : signature.form argument = .ok .endOfOptions) :
    argument = "--" := by
  rw [form] at ends
  split at ends
  next same => exact String.ext same
  next => exact absurd ends (longForm_ne_endOfOptions _ _)
  all_goals cases ends

end Signature

section

variable {settings : Type} {set : settings → Argument → Except UsageError settings}
  {signature : Signature} {initial settled : settings}

theorem exists_next_of_request {argument : Argument} {rest : List (Except UsageError Argument)}
    (taken : request set initial (.ok argument :: rest) = .ok (.perform settled)) :
    ∃ next, request set next rest = .ok (.perform settled) ∧
      ∀ others, request set initial (.ok argument :: others) = request set next others := by
  cases argument
  case help | version => cases taken
  all_goals
    simp only [request] at taken
    split at taken
    next next stepped => exact ⟨next, taken, fun others => by simp only [request, stepped]⟩
    next => contradiction

/-- After arguments that are taken, the others are taken as if nothing had been before them but what
was set. -/
theorem exists_request_scan_append {before given : List String} {awaiting : Option String}
    (withoutEnd : "--" ∉ before)
    (taken : request set initial (signature.scan given awaiting before) = .ok (.perform settled)) :
    ∃ used, ∀ later, request set initial (signature.scan given awaiting (before ++ later)) =
      request set settled (signature.scan used none later) := by
  induction before generalizing given awaiting initial with
  | nil =>
      cases awaiting with
      | some name => contradiction
      | none =>
          cases taken
          exact ⟨given, fun later => rfl⟩
  | cons argument rest induction =>
      rw [List.mem_cons, not_or] at withoutEnd
      -- Whatever form the argument has, it is taken before the others, so each branch ends here.
      have goOn {read : Argument} {used : List String}
          (taken : request set initial (.ok read :: signature.scan used none rest) =
            .ok (.perform settled)) :
          ∃ used', ∀ later, request set initial
              (.ok read :: signature.scan used none (rest ++ later)) =
            request set settled (signature.scan used' none later) := by
        rcases exists_next_of_request taken with ⟨next, takenRest, stepped⟩
        rcases induction withoutEnd.2 takenRest with ⟨used', same⟩
        exact ⟨used', fun later => (stepped _).trans (same later)⟩
      cases awaiting with
      | some name =>
          simp only [List.cons_append, Signature.scan] at taken ⊢
          split at taken
          · contradiction
          next value =>
            simp only [value]
            exact goOn taken
      | none =>
          simp only [List.cons_append, Signature.scan] at taken ⊢
          cases formed : signature.form argument with
          | error error =>
              rw [formed] at taken
              cases taken
          | ok form =>
              rw [formed] at taken
              cases form
              case help | version => cases taken
              case endOfOptions =>
                exact absurd (Signature.eq_of_form_eq_endOfOptions formed).symm withoutEnd.1
              case operand => exact goOn taken
              case flag | option =>
                simp only at taken ⊢
                split at taken
                · cases taken
                next fresh =>
                  simp only [fresh]
                  exact goOn taken
              case awaiting =>
                simp only at taken ⊢
                split at taken
                · cases taken
                next fresh =>
                  simp only [fresh]
                  exact induction withoutEnd.2 taken

theorem request_help {before given : List String} {argument : String} (withoutEnd : "--" ∉ before)
    (taken : request set initial (signature.scan given none before) = .ok (.perform settled))
    (asks : signature.form argument = .ok .help) (later : List String) :
    request set initial (signature.scan given none (before ++ argument :: later)) = .ok .help := by
  rcases exists_request_scan_append withoutEnd taken with ⟨used, same⟩
  rw [same, Signature.scan, asks]
  rfl

end

section

variable {m : Type → Type} [Monad m] (files : Files m) {before : List String} {argument : String}
  (withoutEnd : "--" ∉ before)
  (asks : argument = "--help" ∨ ∃ text, argument.toList = '-' :: 'h' :: text)

include withoutEnd asks

theorem Assemble.command_help {settings : Settings}
    (taken : Settings.ofArguments before = .ok (.perform settings)) (later : List String) :
    command files (before ++ argument :: later) =
      pure (.succeeded (signature.helpText name) "") := by
  have answered : Settings.ofArguments (before ++ argument :: later) = .ok .help :=
    request_help withoutEnd taken (Signature.form_of_asksForHelp asks) later
  rw [command, answered]

theorem Disassemble.command_help {settings : Settings}
    (taken : Settings.ofArguments before = .ok (.perform settings)) (later : List String) :
    command files (before ++ argument :: later) =
      pure (.succeeded (signature.helpText name) "") := by
  have answered : Settings.ofArguments (before ++ argument :: later) = .ok .help :=
    request_help withoutEnd taken (Signature.form_of_asksForHelp asks) later
  rw [command, answered]

end

end Command

end TwinIsa
