import Mathlib
import ReleasePage.Proofs.Json.Meaning
import ReleasePage.Proofs.Json.Object

/-!
# What records make of objects

The members of an object are read one after the other, each changing what has
been gathered so far. For a record the order in which that happens does not
matter: its result is put together from the values under each of its keys, and
members under other keys are passed over, whatever their values are.
-/

namespace ReleasePage.Json

open ReleasePage.Text (Bytes)

section Runs

variable {σ : Type} {step : σ → String → Decoder σ}

/-- On every spelling of a member the step goes from the state to the next one, or
fails. -/
def StepGives (step : σ → String → Decoder σ) (state : σ) (member : String × Value)
    (next : Option σ) : Prop :=
  ∀ before after text rest, Blank before → Blank after → Spells member.2 text → Delimited rest →
    (step state member.1 (before ++ ':'.toUInt8 :: (after ++ (text ++ rest)))).toOption =
      next.map (·, rest)

variable {change : σ → String × Value → Option σ}

/-- Every member takes bytes. -/
theorem SpellsMembers.length_lt {members : List (String × Value)} {text : Bytes}
    (h : SpellsMembers members text) : members.length < text.length := by
  induction members generalizing text with
  | nil =>
    cases h with
    | nil hs =>
      rw [List.length_append]
      exact Nat.lt_of_lt_of_le Nat.one_pos (Nat.le_add_left 1 _)
  | cons member members ih =>
    cases h with
    | cons hs hf hn hb ha ht hm =>
      have hl := ih hm
      simp only [List.length_append, List.length_cons]
      omega

/-- A member and what comes after it. -/
theorem membersFrom_member {fuel : Nat} {first : Bool} {state : σ} {member : String × Value}
    {input before after text rest : Bytes}
    (hk : nextKey first input =
      .ok (some member.1, before ++ ':'.toUInt8 :: (after ++ (text ++ rest))))
    (hstep : StepGives step state member (change state member)) (hb : Blank before)
    (ha : Blank after) (ht : Spells member.2 text) (hr : Delimited rest) :
    (membersFrom step (fuel + 1) first state input).toOption =
      (change state member).bind fun next => (membersFrom step fuel false next rest).toOption := by
  rw [membersFrom, hk]
  rcases cases_of_toOption (hstep before after text rest hb ha ht hr) with
    ⟨e, hread, hc⟩ | ⟨next, hread, hc⟩
  · simp only [hread, hc]
    rfl
  · simp only [hread, hc]
    rfl

/-- The members after the first one are run through in order, up to the first
failure. -/
theorem membersFrom_spelled {members : List (String × Value)} {text : Bytes}
    (hm : SpellsMembers members text)
    (hstep : ∀ state, ∀ member ∈ members, StepGives step state member (change state member))
    {fuel : Nat} (hf : members.length < fuel) (state : σ) (rest : Bytes) :
    (membersFrom step fuel false state (text ++ rest)).toOption =
      (members.foldlM change state).map (·, rest) := by
  induction members generalizing text fuel state with
  | nil =>
    cases fuel with
    | zero => exact absurd hf (Nat.not_lt_zero _)
    | succ fuel =>
      cases hm with
      | nil hs =>
        rw [membersFrom, List.append_assoc, List.singleton_append, nextKey_end false hs]
        rfl
  | cons member members ih =>
    cases fuel with
    | zero => exact absurd hf (Nat.not_lt_zero _)
    | succ fuel =>
      cases hm with
      | @cons key value _ space front name before after text more hs hf' hn hb ha ht hm =>
        obtain ⟨tail, rfl, hname⟩ := hn.read
        have hk := nextKey_comma hs hf' (hname (before ++ ':'.toUInt8 :: (after ++ (text ++
          (more ++ rest)))))
        have hrest := fun next => ih hm
          (fun state member hmem => hstep state member (List.mem_cons_of_mem _ hmem))
          (Nat.lt_of_succ_lt_succ hf) next
        simp only [List.append_assoc, List.cons_append]
        rw [membersFrom_member hk (hstep state _ List.mem_cons_self) hb ha ht
          (hm.delimited rest), List.foldlM_cons]
        cases change state (key, value) with
        | none => rfl
        | some next => exact hrest next

/-- The members of an object are run through in order, up to the first failure. -/
theorem members_spelled {entries : List (String × Value)} {text : Bytes}
    (ht : Spells (.object entries) text)
    (hstep : ∀ state, ∀ member ∈ entries, StepGives step state member (change state member))
    (start : σ) (rest : Bytes) :
    ∃ tail, text ++ rest = '{'.toUInt8 :: tail ∧
      (members step start tail).toOption = (entries.foldlM change start).map (·, rest) := by
  cases ht with
  | @emptyObject space hs =>
    refine ⟨space ++ '}'.toUInt8 :: rest, ?_, ?_⟩
    · rw [List.cons_append, List.append_assoc, List.singleton_append]
    · rw [members, membersFrom, nextKey_end true hs]
      rfl
  | @object key value entries space name before after text more hs hn hb ha ht hm =>
    obtain ⟨quoted, rfl, hname⟩ := hn.read
    have hk := nextKey_quote hs (hname (before ++ ':'.toUInt8 :: (after ++ (text ++
      (more ++ rest)))))
    have hl := hm.length_lt
    refine ⟨_, List.cons_append .., ?_⟩
    simp only [List.append_assoc, List.cons_append]
    rw [members, membersFrom_member hk (hstep start _ List.mem_cons_self) hb ha ht
      (hm.delimited rest), List.foldlM_cons]
    cases change start (key, value) with
    | none => rfl
    | some next =>
      have hfuel : entries.length < (space ++ '"'.toUInt8 :: (quoted ++ (before ++ ':'.toUInt8 ::
          (after ++ (text ++ (more ++ rest)))))).length := by
        simp only [List.length_append, List.length_cons]
        omega
      exact membersFrom_spelled hm
        (fun state member hmem => hstep state member (List.mem_cons_of_mem _ hmem)) hfuel next rest

end Runs

/-- What the decoders of fields make of documents, field by field. -/
inductive Meanings : List Type → Type 1 where
  /-- No fields. -/
  | nil : Meanings []
  /-- A field in front of others. -/
  | cons {α : Type} {types : List Type} (meaning : Value → Option α) (rest : Meanings types) :
    Meanings (α :: types)

/-- The values under a key, in the order of the members. -/
def valuesOf (key : String) (members : List (String × Value)) : List Value :=
  (members.filter fun member => member.1 == key).map Prod.snd

/-- A member under the key comes in front. -/
theorem valuesOf_cons_self {key : String} {member : String × Value} (h : member.1 = key)
    (members : List (String × Value)) :
    valuesOf key (member :: members) = member.2 :: valuesOf key members := by
  simp only [valuesOf, List.filter_cons, h, beq_self_eq_true, if_true, List.map_cons]

/-- A member under another key is left out. -/
theorem valuesOf_cons_of_ne {key : String} {member : String × Value} (h : member.1 ≠ key)
    (members : List (String × Value)) :
    valuesOf key (member :: members) = valuesOf key members := by
  simp only [valuesOf, List.filter_cons, beq_iff_eq, h, if_false]

/-- The members under a key are counted. -/
theorem length_valuesOf (key : String) (members : List (String × Value)) :
    (valuesOf key members).length = (members.map Prod.fst).count key := by
  induction members with
  | nil => rfl
  | cons member members ih =>
    rw [List.map_cons]
    by_cases hk : member.1 = key
    · rw [valuesOf_cons_self hk, hk, List.count_cons_self, List.length_cons, ih]
    · rw [valuesOf_cons_of_ne hk, List.count_cons_of_ne hk, ih]

/-- The values under a key are those of its members. -/
theorem mem_valuesOf {key : String} {value : Value} {members : List (String × Value)} :
    value ∈ valuesOf key members ↔ (key, value) ∈ members := by
  simp only [valuesOf, List.mem_map, List.mem_filter, beq_iff_eq]
  constructor
  · rintro ⟨member, ⟨hm, rfl⟩, rfl⟩
    exact hm
  · exact fun hm => ⟨(key, value), ⟨hm, rfl⟩, rfl⟩

/-- A key has a single value if it has a member and no second one. -/
theorem valuesOf_eq_singleton {key : String} {value : Value} {members : List (String × Value)} :
    valuesOf key members = [value] ↔
      (key, value) ∈ members ∧ (members.map Prod.fst).count key ≤ 1 := by
  rw [← mem_valuesOf, ← length_valuesOf]
  constructor
  · intro h
    rw [h]
    exact ⟨List.mem_singleton_self value, Nat.le_refl 1⟩
  · rintro ⟨hm, hl⟩
    have hpos := List.length_pos_of_mem hm
    obtain ⟨other, he⟩ := List.length_eq_one_iff.mp (Nat.le_antisymm hl hpos)
    rw [he, List.mem_singleton] at hm
    rw [he, hm]

/-- A key that is given once has one value. -/
theorem eq_of_once {key : String} {value other : Value} {members : List (String × Value)}
    (hv : (key, value) ∈ members) (ho : (key, other) ∈ members)
    (hc : (members.map Prod.fst).count key ≤ 1) : value = other := by
  have he := valuesOf_eq_singleton.mpr ⟨hv, hc⟩
  rw [valuesOf_eq_singleton.mpr ⟨ho, hc⟩] at he
  exact (List.singleton_inj.mp he).symm

/-- Keys that are all different are given once each. -/
theorem once_of_nodup {keys : List String} {members : List (String × Value)}
    (hk : members.map Prod.fst = keys) (hn : keys.Nodup) :
    ∀ key ∈ keys, (members.map Prod.fst).count key ≤ 1 := by
  intro key _
  rw [hk]
  exact List.nodup_iff_count_le_one.mp hn key

/-- A key has no value if it has no member. -/
theorem valuesOf_eq_nil {key : String} {members : List (String × Value)} :
    valuesOf key members = [] ↔ key ∉ members.map Prod.fst := by
  rw [← List.length_eq_zero_iff, length_valuesOf, List.count_eq_zero]

section Field

variable {α : Type}

/-- The value of a field in an object: that of its only member, or its default if
it has no member. -/
def Field.value? (field : Field α) (meaning : Value → Option α)
    (members : List (String × Value)) : Option α :=
  match valuesOf field.key members with
  | [] => field.default?
  | [value] => meaning value
  | _ => none

/-- What is known of a field after one more member. -/
def Field.gather? (field : Field α) (meaning : Value → Option α) (value? : Option α)
    (member : String × Value) : Option (Option α) :=
  if member.1 = field.key then
    if value?.isSome then none else (meaning member.2).map some
  else some value?

variable (field : Field α) (meaning : Value → Option α)

/-- A field that has its value allows no further member. -/
theorem Field.foldlM_gather_some (members : List (String × Value)) (value : α) :
    members.foldlM (field.gather? meaning) (some value) =
      if valuesOf field.key members = [] then some (some value) else none := by
  induction members with
  | nil => rfl
  | cons member members ih =>
    rw [List.foldlM_cons, gather?]
    by_cases hk : member.1 = field.key
    · rw [if_pos hk, valuesOf_cons_self hk, if_neg (List.cons_ne_nil _ _)]
      rfl
    · rw [if_neg hk, valuesOf_cons_of_ne hk]
      exact ih

/-- All members together decide on what is known of a field. -/
theorem Field.foldlM_gather (members : List (String × Value)) :
    members.foldlM (field.gather? meaning) none =
      match valuesOf field.key members with
      | [] => some none
      | [value] => (meaning value).map some
      | _ => none := by
  induction members with
  | nil => rfl
  | cons member members ih =>
    rw [List.foldlM_cons, gather?]
    by_cases hk : member.1 = field.key
    · have hrest := foldlM_gather_some field meaning members
      rw [if_pos hk, valuesOf_cons_self hk]
      cases hm : meaning member.2 with
      | none =>
        cases valuesOf field.key members with
        | nil => simp only [hm]; rfl
        | cons value values => rfl
      | some x =>
        change members.foldlM (field.gather? meaning) (some x) = _
        rw [hrest]
        cases valuesOf field.key members with
        | nil => simp only [hm]; rfl
        | cons value values => rfl
    · rw [if_neg hk, valuesOf_cons_of_ne hk]
      exact ih

/-- The known value or the default is the value of the field. -/
theorem Field.value?_eq (members : List (String × Value)) :
    field.value? meaning members =
      (members.foldlM (field.gather? meaning) none).bind fun value? =>
        value? <|> field.default? := by
  rw [foldlM_gather, value?]
  cases valuesOf field.key members with
  | nil => rfl
  | cons value values =>
    cases values with
    | nil =>
      cases hm : meaning value with
      | none => simp only [hm]; rfl
      | some x => simp only [hm]; rfl
    | cons other values => rfl

/-- The value of a field that has to be present. -/
theorem Field.value?_required {key : String} {decoder : Decoder α} {meaning : Value → Option α}
    {members : List (String × Value)} {x : α} :
    (Field.required key decoder).value? meaning members = some x ↔
      ∃ value, (key, value) ∈ members ∧ (members.map Prod.fst).count key ≤ 1 ∧
        meaning value = some x := by
  rw [value?, required]
  constructor
  · intro h
    split at h
    next => cases h
    next value he =>
      obtain ⟨hm, hc⟩ := valuesOf_eq_singleton.mp he
      exact ⟨value, hm, hc, h⟩
    next => cases h
  · rintro ⟨value, hm, hc, hx⟩
    rw [valuesOf_eq_singleton.mpr ⟨hm, hc⟩]
    exact hx

/-- The value of a field that is read from one document only. -/
theorem Field.value?_given {key : String} {decoder : Decoder α} {meaning : Value → Option α}
    {x : α} {given : Value} (hg : ∀ value, meaning value = some x ↔ value = given)
    {members : List (String × Value)} :
    (Field.required key decoder).value? meaning members = some x ↔
      (key, given) ∈ members ∧ (members.map Prod.fst).count key ≤ 1 := by
  rw [value?_required]
  constructor
  · rintro ⟨value, hm, hc, hx⟩
    obtain rfl := (hg value).mp hx
    exact ⟨hm, hc⟩
  · rintro ⟨hm, hc⟩
    exact ⟨given, hm, hc, (hg given).mpr rfl⟩

/-- A text that may be absent or `null` in an object. -/
def MayGive (members : List (String × Value)) (key : String) : Option String → Prop
  | none => key ∉ members.map Prod.fst ∨ (key, .null) ∈ members
  | some text => (key, .text text) ∈ members

/-- A member of a tree that may be absent. -/
theorem mayGive_of_mem {members : List (String × Value)} {key : String}
    {text? : Option String} (h : (key, (Tree.ofText? text?).value) ∈ members) :
    MayGive members key text? := by
  cases text? with
  | none => exact .inr h
  | some text => exact h

/-- The value of a field that may be absent or `null`. -/
theorem Field.value?_optional {key : String} {members : List (String × Value)}
    {text? : Option String} :
    (Field.optional key text).value? (Value.optional? Value.text?) members = some text? ↔
      MayGive members key text? ∧ (members.map Prod.fst).count key ≤ 1 := by
  rw [value?, optional]
  constructor
  · intro h
    split at h
    next he =>
      cases h
      have hm := valuesOf_eq_nil.mp he
      exact ⟨.inl hm, by rw [List.count_eq_zero.mpr hm]; exact Nat.zero_le 1⟩
    next value he =>
      obtain ⟨hm, hc⟩ := valuesOf_eq_singleton.mp he
      cases value with
      | null =>
        cases h
        exact ⟨.inr hm, hc⟩
      | text text =>
        cases h
        exact ⟨hm, hc⟩
      | _ => cases h
    next => cases h
  · rintro ⟨hm, hc⟩
    cases text? with
    | none =>
      rcases hm with hm | hm
      · rw [valuesOf_eq_nil.mpr hm]
      · rw [valuesOf_eq_singleton.mpr ⟨hm, hc⟩]
        rfl
    | some text =>
      rw [valuesOf_eq_singleton.mpr ⟨hm, hc⟩]
      rfl

end Field

namespace Fields

variable {types : List Type}

/-- The decoders of the fields have the meanings on the values of the members. -/
def Mean : {types : List Type} → Fields types → Meanings types → List (String × Value) → Prop
  | _, .nil, _, _ => True
  | _, .cons field rest, .cons meaning meanings, members =>
    (∀ value, (field.key, value) ∈ members → Gives field.decoder value (meaning value)) ∧
      rest.Mean meanings members

/-- The draft after one more member, if it can be read. -/
def put? : {types : List Type} → Fields types → Meanings types → Draft types →
    String × Value → Option (Draft types)
  | _, .nil, _, draft, _ => some draft
  | _, .cons field rest, .cons meaning meanings, (value?, draft), member =>
    if member.1 = field.key then
      (field.gather? meaning value? member).map fun value? => Draft.cons value? draft
    else (rest.put? meanings draft member).map fun draft => Draft.cons value? draft

/-- The values of all fields in an object. -/
def row? : {types : List Type} → Fields types → Meanings types → List (String × Value) →
    Option (Row types)
  | _, .nil, _, _ => some ()
  | _, .cons field rest, .cons meaning meanings, members =>
    (field.value? meaning members).bind fun value =>
      (rest.row? meanings members).map fun row => (value, row)

/-- A member goes to the first field or to the others. -/
theorem put?_cons {α : Type} (field : Field α) (rest : Fields types) (meaning : Value → Option α)
    (meanings : Meanings types) (value? : Option α) (draft : Draft types)
    (member : String × Value) :
    (Fields.cons field rest).put? (.cons meaning meanings) (Draft.cons value? draft) member =
      if member.1 = field.key then
        (field.gather? meaning value? member).map fun value? => Draft.cons value? draft
      else (rest.put? meanings draft member).map fun draft => Draft.cons value? draft :=
  rfl

/-- The first field has its own value or its default. -/
theorem complete_cons {α : Type} (field : Field α) (rest : Fields types) (value? : Option α)
    (draft : Draft types) :
    ((Fields.cons field rest).complete (Draft.cons value? draft)).toOption =
      (value? <|> field.default?).bind fun value =>
        (rest.complete draft).toOption.map fun row => (value, row) := by
  rw [complete.eq_def]
  dsimp only [Draft.cons]
  cases value? <|> field.default? with
  | none => rfl
  | some value => exact toOption_map _ _

/-- A member changes the draft in one field or not at all. -/
theorem stepGives_put {fields : Fields types} {meanings : Meanings types}
    {members : List (String × Value)} (h : fields.Mean meanings members)
    {member : String × Value} (hm : member ∈ members) (draft : Draft types) :
    StepGives fields.step draft member (fields.put? meanings draft member) := by
  intro before after text rest hb ha ht hr
  induction fields with
  | nil =>
    simp only [step, member?, readColon_blank hb, skipValue_spelled ha ht hr, bind, Except.bind]
    rfl
  | @cons α types field fields ih =>
    cases meanings with | cons meaning meanings =>
    obtain ⟨value?, draft⟩ := draft
    obtain ⟨hfield, hfields⟩ := h
    by_cases hk : member.1 = field.key
    · have hv := hfield member.2 (hk ▸ hm) after text rest ha ht hr
      rw [put?, if_pos hk, Field.gather?, if_pos hk, hk]
      simp only [step, member?, if_true]
      cases value? with
      | some value => rfl
      | none =>
        simp only [Option.isSome_none, Bool.false_eq_true, if_false, readColon_blank hb, bind,
          Except.bind, toOption_map, hv]
        cases meaning member.2 with
        | none => rfl
        | some value => rfl
    · have hrest := ih hfields draft
      have hstep := step_cons_of_ne hk fields value? draft
        (before ++ ':'.toUInt8 :: (after ++ (text ++ rest)))
      rw [put?, if_neg hk]
      rw [Draft.cons] at hstep
      rw [hstep, toOption_map, hrest]
      cases fields.put? meanings draft member with
      | none => rfl
      | some draft => rfl

/-- A member under no key of the fields changes nothing. -/
theorem put?_of_not_mem (fields : Fields types) (meanings : Meanings types) (draft : Draft types)
    {member : String × Value} (h : member.1 ∉ fields.keys) :
    fields.put? meanings draft member = some draft := by
  induction fields with
  | nil => rfl
  | cons field fields ih =>
    cases meanings with | cons meaning meanings =>
    obtain ⟨value?, draft⟩ := draft
    rw [keys, List.mem_cons, not_or] at h
    rw [put?, if_neg h.1, ih meanings draft h.2]
    rfl

/-- What the members say about the first field and about the others are apart from
each other. -/
theorem foldlM_put_cons {α : Type} {field : Field α} {fields : Fields types}
    (hk : field.key ∉ fields.keys) (meaning : Value → Option α) (meanings : Meanings types)
    (members : List (String × Value)) (value? : Option α) (draft : Draft types) :
    members.foldlM ((Fields.cons field fields).put? (.cons meaning meanings))
        (Draft.cons value? draft) =
      (members.foldlM (field.gather? meaning) value?).bind fun value? =>
        (members.foldlM (fields.put? meanings) draft).map (Draft.cons value?) := by
  induction members generalizing value? draft with
  | nil => rfl
  | cons member members ih =>
    simp only [List.foldlM_cons, bind]
    by_cases hm : member.1 = field.key
    -- Keys are different, so the other fields let the member pass.
    · have hother : fields.put? meanings draft member = some draft :=
        fields.put?_of_not_mem meanings draft (hm ▸ hk)
      rw [put?_cons, if_pos hm, hother]
      cases field.gather? meaning value? member with
      | none => rfl
      | some value? => exact ih value? draft
    · have hself : field.gather? meaning value? member = some value? := by
        rw [Field.gather?, if_neg hm]
      rw [put?_cons, if_neg hm, hself]
      cases fields.put? meanings draft member with
      | none =>
        -- Here the whole run stops at this member, and the run for the first field goes on.
        simp only [Option.map_none, Option.bind_none, Option.bind_some]
        cases members.foldlM (field.gather? meaning) value? with
        | none => rfl
        | some value? => rfl
      | some draft => exact ih value? draft

/-- The members fill a draft that gives the values of all fields. -/
theorem foldlM_put {fields : Fields types} (hk : fields.keys.Nodup) (meanings : Meanings types)
    (members : List (String × Value)) :
    ((members.foldlM (fields.put? meanings) (Draft.empty types)).bind fun draft =>
      (fields.complete draft).toOption) = fields.row? meanings members := by
  induction fields with
  | nil =>
    have hfold : ∀ draft : Draft [], members.foldlM (Fields.nil.put? meanings) draft =
        some draft := by
      intro draft
      induction members with
      | nil => rfl
      | cons member members ih => exact ih
    rw [hfold]
    rfl
  | @cons α types field fields ih =>
    cases meanings with | cons meaning meanings =>
    obtain ⟨hne, hnodup⟩ := List.nodup_cons.mp hk
    have hrow := ih hnodup meanings
    have hfold := foldlM_put_cons hne meaning meanings members none (Draft.empty types)
    rw [show Draft.empty (α :: types) = Draft.cons none (Draft.empty types) from rfl, hfold, row?,
      Field.value?_eq, ← hrow]
    cases members.foldlM (field.gather? meaning) none with
    | none => rfl
    | some value? =>
      cases members.foldlM (fields.put? meanings) (Draft.empty types) with
      | none =>
        simp only [Option.map_none, Option.bind_some, Option.bind_none]
        cases value? <|> field.default? with
        | none => rfl
        | some value => rfl
      | some draft => exact complete_cons field fields value? draft

/-- The values of a first field and of others. -/
theorem row?_cons_eq_some {α : Type} {field : Field α} {fields : Fields types}
    {meaning : Value → Option α} {meanings : Meanings types} {members : List (String × Value)}
    {value : α} {row : Row types} :
    (Fields.cons field fields).row? (.cons meaning meanings) members = some (value, row) ↔
      field.value? meaning members = some value ∧ fields.row? meanings members = some row := by
  change ((field.value? meaning members).bind fun value =>
    (fields.row? meanings members).map fun row => ((value, row) : α × Row types)) =
      some (value, row) ↔ _
  rw [Option.bind_eq_some_iff]
  constructor
  · rintro ⟨x, hx, h⟩
    obtain ⟨y, hy, he⟩ := Option.map_eq_some_iff.mp h
    obtain ⟨rfl, rfl⟩ := Prod.mk.inj he
    exact ⟨hx, hy⟩
  · rintro ⟨hx, hy⟩
    exact ⟨value, hx, by rw [hy]; rfl⟩

end Fields

/-- The record, if the document is an object that gives all its fields. -/
def Record.value? {α : Type} (record : Record α) (meanings : Meanings record.types) :
    Value → Option α
  | .object members => (record.fields.row? meanings members).map record.build
  | _ => none

/-- A record is read from an object through the values under its keys. From anything
but an object or an array it is not read at all. -/
theorem gives_record {α : Type} {record : Record α} (hk : record.fields.keys.Nodup)
    {meanings : Meanings record.types} {value : Value} (hl : ∀ items, value ≠ .list items)
    (h : ∀ members, value = .object members → record.fields.Mean meanings members) :
    Gives record.decoder value (record.value? meanings value) := by
  intro space text rest hs ht hr
  obtain ⟨b, tail, he, hb⟩ := ht.opens
  by_cases hopen : b = '{'.toUInt8
  · subst hopen
    obtain ⟨members, rfl⟩ := hb.object
    obtain ⟨input, hinput, hrun⟩ := members_spelled ht
      (fun draft member hm => Fields.stepGives_put (h members rfl) hm draft)
      (Draft.empty record.types) rest
    rw [hinput, Record.decoder, startValue_blank hs (by decide), if_neg (by decide), if_pos rfl,
      Record.value?, ← Fields.foldlM_put hk]
    rcases cases_of_toOption hrun with ⟨e, hread, hfold⟩ | ⟨draft, hread, hfold⟩
    · rw [hread, hfold]
      rfl
    · rw [hread, hfold]
      simp only [Option.bind_some]
      cases record.fields.complete draft with
      | error key => rfl
      | ok row => rfl
  · have hlist : b ≠ '['.toUInt8 := by
      rintro rfl
      obtain ⟨items, rfl⟩ := hb.list
      exact hl items rfl
    rw [he, List.cons_append, Record.decoder, startValue_blank hs hb.head.1, if_neg hlist,
      if_neg hopen]
    cases value with
    | object members => exact absurd hb hopen
    | _ => rfl

end ReleasePage.Json
