import TwinIsa.Json.Reader
import TwinIsa.Proofs.Json.WrittenTokens
import TwinIsa.Proofs.Steps

/-!
Reading a written document gives its value. From the tokens of a value a builder completes the value
in whatever arrays and objects are open around it; its items and fields are put together latest
first, each after a comma except the first.
-/

namespace TwinIsa.Json

def namedField (field : String × Json) : Option String × Json :=
  (some field.1, field.2)

theorem ofFields_namedField (fields : List (String × Json)) :
    ofFields (fields.map namedField) = object fields := by
  have readable : (fields.map namedField).mapM (fun field => field.1.map (·, field.2)) =
      some fields := by
    refine mapM_map_of_inverse (fun field => ?_) fields
    rfl
  rw [ofFields, readable]

namespace Builder

variable {value : Json} {items : List Json} {fields : List (String × Json)} {frames : List Frame}

/-- From its tokens a builder completes the value, whatever is open around it. -/
def Completes (value : Json) : Prop :=
  ∀ frames, (tokens value).foldlM step ⟨frames, .value⟩ = some (complete frames value)

theorem foldlM_step_append {builder next : Builder} {front : List Token}
    (passed : front.foldlM step builder = some next) (back : List Token) :
    (front ++ back).foldlM step builder = back.foldlM step next := by
  rw [List.foldlM_append, passed]
  rfl

theorem foldlM_step_cons {builder next : Builder} {token : Token}
    (passed : builder.step token = some next) (rest : List Token) :
    (token :: rest).foldlM step builder = rest.foldlM step next := by
  rw [List.foldlM_cons, passed]
  rfl

/-! ## Arrays -/

theorem step_firstItem {token : Token} (begins : (beginValue frames token).isSome = true) :
    step ⟨frames, .firstItem⟩ token = step ⟨frames, .value⟩ token := by
  have noClose : close frames token = none := by
    unfold close
    split
    next => contradiction
    next => contradiction
    next => rfl
  change (close frames token).or (beginValue frames token) = beginValue frames token
  rw [noClose, Option.none_or]

theorem exists_tokens_eq (value : Json) :
    ∃ token rest, tokens value = token :: rest ∧
      ∀ frames, (beginValue frames token).isSome = true := by
  cases value <;> exact ⟨_, _, rfl, fun _ => rfl⟩

/-- The first item of an array is read like every other. -/
theorem foldlM_firstItem (nonempty : items ≠ []) :
    (itemTokens items).foldlM step ⟨frames, .firstItem⟩ =
      (itemTokens items).foldlM step ⟨frames, .value⟩ := by
  have opens (value : Json) (rest : List Token) :
      (tokens value ++ rest).foldlM step ⟨frames, .firstItem⟩ =
        (tokens value ++ rest).foldlM step ⟨frames, .value⟩ := by
    rcases exists_tokens_eq value with ⟨token, others, written, begins⟩
    rw [written, List.cons_append, List.foldlM_cons, List.foldlM_cons,
      step_firstItem (begins frames)]
  match items with
  | [] => contradiction
  | [last] =>
      have alone := opens last []
      rwa [List.append_nil] at alone
  | head :: next :: rest => exact opens head (.comma :: itemTokens (next :: rest))

theorem foldlM_itemTokens (nonempty : items ≠ []) (each : ∀ item ∈ items, Completes item)
    (done : List Json) (outer : List Frame) :
    (itemTokens items).foldlM step ⟨.array done :: outer, .value⟩ =
      some ⟨.array (items.reverse ++ done) :: outer, .separator⟩ := by
  induction items generalizing done with
  | nil => contradiction
  | cons head rest induction =>
      rw [List.forall_mem_cons] at each
      have first : (tokens head).foldlM step ⟨.array done :: outer, .value⟩ =
          some ⟨.array (head :: done) :: outer, .separator⟩ := each.1 _
      cases rest with
      | nil => exact first
      | cons next others =>
          have later := induction (List.cons_ne_nil next others) each.2 (head :: done)
          rw [itemTokens, foldlM_step_append first, foldlM_step_cons rfl, later]
          simp

theorem completes_array (each : ∀ item ∈ items, Completes item) : Completes (array items) := by
  intro frames
  cases items with
  | nil => rfl
  | cons first others =>
      have nonempty := List.cons_ne_nil first others
      have body := foldlM_itemTokens nonempty each [] frames
      rw [← foldlM_firstItem nonempty, List.append_nil] at body
      have closed : step ⟨.array (first :: others).reverse :: frames, .separator⟩ .closeArray =
          some (complete frames (array (first :: others))) :=
        congrArg (fun items => some (complete frames (array items))) (List.reverse_reverse _)
      rw [tokens, List.cons_append, foldlM_step_cons rfl, foldlM_step_append body,
        foldlM_step_cons closed, List.foldlM_nil]
      rfl

/-! ## Objects -/

theorem foldlM_field (completes : Completes value) (name : String)
    (done : List (Option String × Json)) (last : Option String) (outer : List Frame) :
    (.string (some name) :: .colon :: tokens value).foldlM step
        ⟨.object done last :: outer, .name⟩ =
      some ⟨.object (namedField (name, value) :: done) (some name) :: outer, .separator⟩ := by
  rw [foldlM_step_cons rfl, foldlM_step_cons rfl]
  exact completes _

theorem exists_foldlM_fieldTokens (nonempty : fields ≠ [])
    (each : ∀ field ∈ fields, Completes field.2) (done : List (Option String × Json))
    (before : Option String) (outer : List Frame) :
    ∃ last, (fieldTokens fields).foldlM step ⟨.object done before :: outer, .name⟩ =
      some ⟨.object ((fields.map namedField).reverse ++ done) last :: outer, .separator⟩ := by
  induction fields generalizing done before with
  | nil => contradiction
  | cons head rest induction =>
      rcases head with ⟨name, value⟩
      rw [List.forall_mem_cons] at each
      have first := foldlM_field each.1 name done before outer
      cases rest with
      | nil => exact ⟨some name, first⟩
      | cons next others =>
          -- The name of the last field read stays with the object until the next one replaces it.
          rcases induction (List.cons_ne_nil next others) each.2
            (namedField (name, value) :: done) (some name) with ⟨last, later⟩
          refine ⟨last, ?_⟩
          rw [fieldTokens, foldlM_step_append first, foldlM_step_cons rfl, later]
          simp

theorem foldlM_firstName (nonempty : fields ≠ []) (done : List (Option String × Json))
    (before : Option String) (outer : List Frame) :
    (fieldTokens fields).foldlM step ⟨.object done before :: outer, .firstName⟩ =
      (fieldTokens fields).foldlM step ⟨.object done before :: outer, .name⟩ := by
  match fields with
  | [] => contradiction
  | [_] => rfl
  | _ :: _ :: _ => rfl

theorem completes_object (each : ∀ field ∈ fields, Completes field.2) :
    Completes (object fields) := by
  intro frames
  cases fields with
  | nil => rfl
  | cons first others =>
      have nonempty := List.cons_ne_nil first others
      rcases exists_foldlM_fieldTokens nonempty each [] none frames with ⟨last, body⟩
      rw [← foldlM_firstName nonempty, List.append_nil] at body
      have closed : step ⟨.object ((first :: others).map namedField).reverse last :: frames,
          .separator⟩ .closeObject = some (complete frames (object (first :: others))) := by
        rw [← ofFields_namedField]
        exact congrArg (fun named => some (complete frames (ofFields named)))
          (List.reverse_reverse _)
      rw [tokens, List.cons_append, foldlM_step_cons rfl, foldlM_step_append body,
        foldlM_step_cons closed, List.foldlM_nil]
      rfl

/-! ## Documents -/

mutual

theorem completes : (value : Json) → Completes value
  | .null => fun _ => rfl
  | .boolean _ => fun _ => rfl
  | .integer _ => fun _ => rfl
  | .real _ => fun _ => rfl
  | .text _ => fun _ => rfl
  | .unreadable => fun _ => rfl
  | .array items => completes_array (completes_items items)
  | .object fields => completes_object (completes_fields fields)

theorem completes_items : (items : List Json) → ∀ item ∈ items, Completes item
  | [] => nofun
  | head :: rest => List.forall_mem_cons.mpr ⟨completes head, completes_items rest⟩

theorem completes_fields :
    (fields : List (String × Json)) → ∀ field ∈ fields, Completes field.2
  | [] => nofun
  | (_, value) :: rest => List.forall_mem_cons.mpr ⟨completes value, completes_fields rest⟩

end

end Builder

theorem ofTokens?_tokens (value : Json) : ofTokens? (tokens value) = some value := by
  rw [ofTokens?, Builder.completes value []]
  rfl

theorem parse?_pretty {value : Json} (well : WellSpelled value) :
    parse? value.pretty = some value := by
  rw [parse?, tokens?_pretty well]
  exact ofTokens?_tokens value

end TwinIsa.Json
