import Mathlib
import ReleasePage.Json.Record
import ReleasePage.Proofs.Json.Extent

/-!
# Decoders that do not look behind a value

Texts, arrays and objects end with a byte of their own, a quote or a bracket. Their
decoders therefore give the same value whatever follows, as long as the decoders of
the parts look at most at the first byte behind these.
-/

namespace ReleasePage.Json

open ReleasePage.Text (Bytes)

/-- The way to the next element of an array, or to its closing bracket. -/
theorem peeks_nextElement {first more : Bool} {input rest : Bytes}
    (h : nextElement first input = .ok (more, rest)) :
    Peeks (nextElement first) (fun other => .ok (more, other)) input rest := by
  cases hb : skipBlanks input with
  | nil =>
    rw [nextElement, hb] at h
    cases h
  | cons b after =>
    obtain ⟨space, hs, hspace, rfl⟩ := exists_blank hb
    simp only [nextElement, hb] at h
    split_ifs at h with he hf hc
    · cases h
      refine ⟨space, rfl, fun other ho => ?_⟩
      obtain ⟨tail, rfl⟩ := List.head?_eq_some_iff.mp ho
      simp only [nextElement, skipBlanks_blank hs hspace, if_pos he]
    · cases h
      refine ⟨space, rfl, fun other ho => ?_⟩
      obtain ⟨tail, rfl⟩ := List.head?_eq_some_iff.mp ho
      simp only [nextElement, skipBlanks_blank hs hspace, if_neg he, if_pos hf]
    · cases hn : skipBlanks after with
      | nil =>
        rw [hn] at h
        cases h
      | cons c next =>
        simp only [hn] at h
        split_ifs at h with ht
        cases h
        obtain ⟨space', hs', hspace', rfl⟩ := exists_blank hn
        refine ⟨space ++ b :: space', ?_, fun other ho => ?_⟩
        · rw [List.append_assoc, List.cons_append]
        · obtain ⟨tail, rfl⟩ := List.head?_eq_some_iff.mp ho
          rw [List.append_assoc, List.cons_append]
          simp only [nextElement, skipBlanks_blank hs hspace, skipBlanks_blank hs' hspace',
            if_neg he, if_neg hf, if_pos hc, if_neg ht]

/-- The end of an array. -/
theorem takes_closeList {input rest : Bytes} (h : closeList input = .ok rest) :
    Takes closeList .ok input rest := by
  cases hb : skipBlanks input with
  | nil =>
    rw [closeList, hb] at h
    cases h
  | cons b after =>
    simp only [closeList, hb] at h
    split_ifs at h with he hc
    · cases h
      refine (takes_skipBlanks hb).reshape fun x y hx => ?_
      simp only [closeList, hx, if_pos he]
    · split at h
      · split_ifs at h
      · cases h

/-- The colon of a member. -/
theorem takes_readColon {input rest : Bytes} (h : readColon input = .ok rest) :
    Takes readColon .ok input rest := by
  cases hb : skipBlanks input with
  | nil =>
    rw [readColon, hb] at h
    cases h
  | cons b after =>
    simp only [readColon, hb] at h
    split_ifs at h with hc
    cases h
    refine (takes_skipBlanks hb).reshape fun x y hx => ?_
    simp only [readColon, hx, if_pos hc]

/-- The text of a key. -/
theorem takes_keyText {input rest : Bytes} {key? : Option String}
    (h : (readText input).map (fun result => (some result.1, result.2)) = .ok (key?, rest)) :
    Takes (fun x => (readText x).map fun result => (some result.1, result.2))
      (fun other => .ok (key?, other)) input rest := by
  cases ht : readText input with
  | error e =>
    rw [ht] at h
    cases h
  | ok result =>
    obtain ⟨key, left⟩ := result
    rw [ht] at h
    cases h
    refine (takes_readText ht).reshape fun x y hx => ?_
    rw [hx]
    rfl

/-- The key of a member, or the end of an object. -/
theorem takes_nextKey {first : Bool} {key? : Option String} {input rest : Bytes}
    (h : nextKey first input = .ok (key?, rest)) :
    Takes (nextKey first) (fun other => .ok (key?, other)) input rest := by
  cases hb : skipBlanks input with
  | nil =>
    rw [nextKey, hb] at h
    cases h
  | cons b after =>
    simp only [nextKey, hb] at h
    split_ifs at h with he hf hq hc
    · cases h
      refine (takes_skipBlanks hb).reshape fun x y hx => ?_
      simp only [nextKey, hx, if_pos he]
    · refine (takes_skipBlanks hb).trans (takes_keyText h) fun x y hx => ?_
      simp only [nextKey, hx, if_neg he, if_pos hf, if_pos hq]
    · cases hn : skipBlanks after with
      | nil =>
        rw [hn] at h
        cases h
      | cons c next =>
        simp only [hn] at h
        split_ifs at h with hq
        obtain ⟨comma, hcn, rfl, hcomma⟩ := takes_skipBlanks hb
        obtain ⟨quote, -, rfl, hquote⟩ := takes_skipBlanks hn
        obtain ⟨key, -, rfl, hkey⟩ := takes_keyText h
        refine ⟨comma ++ (quote ++ key), List.append_ne_nil_of_left_ne_nil hcn _, ?_,
          fun other => ?_⟩
        · simp only [List.append_assoc]
        · simp only [nextKey, List.append_assoc, hcomma, hquote, if_neg he, if_neg hf, if_pos hc,
            if_pos hq]
          exact hkey other

/-- A decoder that looks at most at the first byte behind its value. -/
def Peeking {α : Type} (decoder : Decoder α) : Prop :=
  ∀ input value rest, decoder input = .ok (value, rest) →
    Peeks decoder (fun other => .ok (value, other)) input rest

/-- A decoder that does not look behind its value. -/
def Closed {α : Type} (decoder : Decoder α) : Prop :=
  ∀ input value rest, decoder input = .ok (value, rest) →
    Takes decoder (fun other => .ok (value, other)) input rest

/-- What does not look behind the value does not look far. -/
theorem Closed.peeking {α : Type} {decoder : Decoder α} (h : Closed decoder) : Peeking decoder :=
  fun input value rest hr => (h input value rest hr).peeks

/-- Texts are closed by their quote. -/
theorem closed_text : Closed text := by
  intro input value rest h
  cases hb : skipBlanks input with
  | nil =>
    rw [text, startValue, hb] at h
    cases h
  | cons b after =>
    simp only [text, startValue, hb] at h
    split_ifs at h with hq
    refine (takes_skipBlanks hb).trans (takes_readText h) fun x y hx => ?_
    simp only [text, startValue, hx, if_pos hq]

/-- The members of an object. Every member takes a byte, so the number of bytes
taken is enough fuel. -/
theorem takes_membersFrom {σ : Type} {step : σ → String → Decoder σ}
    (hstep : ∀ state key, Peeking (step state key)) {fuel : Nat} {first : Bool} {state last : σ}
    {input rest : Bytes} (h : membersFrom step fuel first state input = .ok (last, rest)) :
    ∃ text, text ≠ [] ∧ input = text ++ rest ∧ ∀ other fuel', text.length ≤ fuel' →
      membersFrom step fuel' first state (text ++ other) = .ok (last, other) := by
  induction fuel generalizing first state input with
  | zero => cases h
  | succ fuel ih =>
    rw [membersFrom] at h
    split at h
    · cases h
    · rename_i after hk
      cases h
      obtain ⟨text, hn, he, hr⟩ := takes_nextKey hk
      refine ⟨text, hn, he, fun other fuel' hf => ?_⟩
      have hpos := List.length_pos_iff.mpr hn
      obtain ⟨fuel', rfl⟩ : ∃ n, fuel' = n + 1 := Nat.exists_eq_add_one.mpr (by omega)
      rw [membersFrom, hr]
    · rename_i key after hk
      split at h
      · cases h
      · rename_i next middle hs
        obtain ⟨text, hn, rfl, hr⟩ := takes_nextKey hk
        obtain ⟨value, rfl, hv⟩ := hstep state key _ _ _ hs
        obtain ⟨more, hm, rfl, hrest⟩ := ih h
        refine ⟨text ++ (value ++ more), List.append_ne_nil_of_left_ne_nil hn _, ?_,
          fun other fuel' hf => ?_⟩
        · simp only [List.append_assoc]
        · have hpos := List.length_pos_iff.mpr hn
          have hhead : (more ++ other).head? = (more ++ rest).head? := by
            rw [List.head?_append_of_ne_nil _ hm, List.head?_append_of_ne_nil _ hm]
          simp only [List.length_append] at hf
          obtain ⟨fuel', rfl⟩ : ∃ n, fuel' = n + 1 := Nat.exists_eq_add_one.mpr (by omega)
          rw [List.append_assoc, List.append_assoc, membersFrom, hr]
          simp only [hv _ hhead]
          exact hrest other fuel' (by omega)

/-- The members of an object are closed by its bracket. -/
theorem closed_members {σ : Type} {step : σ → String → Decoder σ}
    (hstep : ∀ state key, Peeking (step state key)) (start : σ) :
    Closed (members step start) := by
  intro input last rest h
  obtain ⟨text, hn, he, hr⟩ := takes_membersFrom hstep h
  refine ⟨text, hn, he, fun other => hr other _ ?_⟩
  rw [List.length_append]
  omega

/-- No decoder of a field looks further than the first byte behind its value. -/
def Fields.Peeking : {types : List Type} → Fields types → Prop
  | _, .nil => True
  | _, .cons field rest => Json.Peeking field.decoder ∧ rest.Peeking

/-- A decoder whose result is reshaped. -/
theorem Peeking.map {α β : Type} {decoder : Decoder α} (h : Peeking decoder) (f : α → β) :
    Peeking fun input => (decoder input).map fun result => (f result.1, result.2) := by
  intro input value rest hr
  cases hd : decoder input with
  | error e =>
    simp only [hd] at hr
    cases hr
  | ok result =>
    obtain ⟨inner, left⟩ := result
    simp only [hd] at hr
    cases hr
    refine (h _ _ _ hd).reshape fun x y hx => ?_
    rw [hx]
    rfl

/-- Reading a member into a draft looks no further than the decoder of its field. -/
theorem Fields.peeking_member {types : List Type} {fields : Fields types} (h : fields.Peeking)
    {key : String} {member : Member types} (hm : fields.member? key = some member)
    (draft : Draft types) : Json.Peeking (member.read draft) := by
  induction fields with
  | nil => cases hm
  | cons field rest ih =>
    rw [member?] at hm
    split_ifs at hm with hk
    · cases hm
      exact h.1.map fun value => (some value, draft.2)
    · obtain ⟨inner, hi, rfl⟩ := Option.map_eq_some_iff.mp hm
      exact (ih h.2 hi draft.2).map fun tail => (draft.1, tail)

/-- Reading any member of an object into a draft looks no further than the first
byte behind its value. -/
theorem Fields.peeking_step {types : List Type} {fields : Fields types} (h : fields.Peeking)
    (draft : Draft types) (key : String) : Json.Peeking (fields.step draft key) := by
  intro input value rest hr
  cases hc : readColon input with
  | error e =>
    simp only [step, hc, bind, Except.bind] at hr
    split at hr
    · cases hr
    · split_ifs at hr
  | ok after =>
    have hcolon := (takes_readColon hc).peeks
    cases hm : fields.member? key with
    | none =>
      simp only [step, hm, hc, bind, Except.bind] at hr
      cases hs : skipValue after with
      | error e =>
        rw [hs] at hr
        cases hr
      | ok left =>
        rw [hs] at hr
        cases hr
        have hskip : Peeks (fun x => (skipValue x).map fun other => (draft, other))
            (fun other => .ok (draft, other)) after rest :=
          (peeks_skipValue hs).reshape fun x y hx => by rw [hx]; rfl
        refine hcolon.trans hskip fun x y hx => ?_
        simp only [step, hm, hx, bind, Except.bind]
        cases skipValue y <;> rfl
    | some member =>
      simp only [step, hm, hc, bind, Except.bind] at hr
      split_ifs at hr with hf
      refine hcolon.trans (peeking_member h hm draft _ _ _ hr) fun x y hx => ?_
      simp only [step, hm, hx, bind, Except.bind, if_neg hf]

/-- A closed decoder whose result is reshaped. -/
theorem Closed.map {α β : Type} {decoder : Decoder α} (h : Closed decoder) (f : α → β) :
    Closed fun input => (decoder input).map fun result => (f result.1, result.2) := by
  intro input value rest hr
  cases hd : decoder input with
  | error e =>
    simp only [hd] at hr
    cases hr
  | ok result =>
    obtain ⟨inner, left⟩ := result
    simp only [hd] at hr
    cases hr
    refine (h _ _ _ hd).reshape fun x y hx => ?_
    rw [hx]
    rfl

/-- The elements of an array that gives the fields of a record are closed by its
bracket. -/
theorem Fields.closed_elements {types : List Type} {fields : Fields types} (h : fields.Peeking)
    (expected : String) (index : Nat) : Closed (fields.elements expected index) := by
  induction fields generalizing index with
  | nil =>
    intro input row rest hr
    rw [elements] at hr
    cases hc : closeList input with
    | error e =>
      rw [hc] at hr
      cases hr
    | ok left =>
      rw [hc] at hr
      cases hr
      refine (takes_closeList hc).reshape fun x y hx => ?_
      rw [elements, hx]
      rfl
  | @cons α types field fields ih =>
    have htail (value : α) := (ih h.2 (index + 1)).map fun tail => ((value, tail) : α × Row types)
    intro input row rest hr
    rw [elements] at hr
    split at hr
    · cases hr
    · rename_i closing hn
      split at hr
      · cases hr
      · rename_i value hd
        refine (peeks_nextElement hn).trans_takes (htail value _ _ _ hr) fun x y hx => ?_
        simp only [elements, hx, hd]
        rfl
    · rename_i element hn
      split at hr
      · cases hr
      · rename_i value after hv
        obtain ⟨gap, rfl, hgap⟩ := peeks_nextElement hn
        obtain ⟨text, rfl, htext⟩ := h.1 _ _ _ hv
        obtain ⟨more, hm, rfl, hmore⟩ := htail value _ _ _ hr
        refine ⟨gap ++ (text ++ more), ?_, ?_, fun other => ?_⟩
        · simp only [ne_eq, List.append_eq_nil_iff, hm, and_false, not_false_eq_true]
        · simp only [List.append_assoc]
        · have hhead : (more ++ other).head? = (more ++ rest).head? := by
            rw [List.head?_append_of_ne_nil _ hm, List.head?_append_of_ne_nil _ hm]
          have hstart : (text ++ (more ++ other)).head? = (text ++ (more ++ rest)).head? := by
            rw [List.head?_append, hhead, ← List.head?_append]
          simp only [elements, List.append_assoc, hgap _ hstart, htext _ hhead]
          exact hmore other

/-- Records are closed by their bracket. -/
theorem closed_record {α : Type} {record : Record α} (h : record.fields.Peeking) :
    Closed record.decoder := by
  intro input value rest hr
  cases hb : skipBlanks input with
  | nil =>
    rw [Record.decoder, startValue, hb] at hr
    cases hr
  | cons b after =>
    simp only [Record.decoder, startValue, hb] at hr
    split_ifs at hr with hl ho
    · have helements := (Fields.closed_elements h record.expectedLength 0).map record.build
      refine (takes_skipBlanks hb).trans (helements _ _ _ hr) fun x y hx => ?_
      simp only [Record.decoder, startValue, hx, if_pos hl]
    · split at hr
      · cases hr
      · rename_i draft left hm
        split at hr
        · cases hr
        · rename_i row hrow
          cases hr
          obtain ⟨start, hn, rfl, hstart⟩ := takes_skipBlanks hb
          obtain ⟨body, -, rfl, hbody⟩ := closed_members (Fields.peeking_step h) _ _ _ _ hm
          refine ⟨start ++ body, List.append_ne_nil_of_left_ne_nil hn _,
            (List.append_assoc _ _ _).symm, fun other => ?_⟩
          simp only [Record.decoder, startValue, List.append_assoc, hstart, if_neg hl, if_pos ho,
            hbody, hrow]

end ReleasePage.Json
