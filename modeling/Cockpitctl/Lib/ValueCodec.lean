import Cockpitctl.Lib.Codec
import Cockpitctl.Lib.Distinct

/-!
# Decoding values

A document that is kept as a value loses the order of its keys. A decoder is normal when it reads
the same from the value of a document that repeats no key as from the document itself, so that what
was encoded is read back from where it was kept.

## Main definitions

* `Codec.Normal`, `Record.Normal`: the decoder reads the same from a document and from its value

## Main results

* `Codec.Normal.option`, `Codec.Normal.vec`, `Codec.Normal.struct`: optional values, sequences and
  structures
* `Record.Normal.required`, `Record.Normal.withDefault`: fields
* `Codec.Normal.decode_toValue?`: a document is read back from its value
-/

theorem Fields.names_append : ∀ fs gs : Fields, (fs.append gs).names = fs.names ++ gs.names
  | .nil, _ => rfl
  | .cons name _ _ rest, gs => congrArg (name :: ·) (names_append rest gs)

namespace Codec

variable {α : Type} {c : Codec α}

/-- The decoder reads the same from a document without repeated keys and from its value. -/
def Normal (c : Codec α) : Prop := ∀ j : Json, j.distinct = true → c.decode j.normalize = c.decode j

theorem normal_string : string.Normal := fun j _ => by cases j <;> rfl

theorem normal_bool : bool.Normal := fun j _ => by cases j <;> rfl

theorem normal_usize : usize.Normal := fun j _ => by cases j <;> rfl

/-- An enumeration is read from its name, or from the object of one member. -/
theorem normal_variant (table : List (String × α)) : (variant table).Normal := by
  intro j hj
  cases j with
  | object ms =>
    -- Only an object of one member has a variant, and so has its value.
    have htidy := @Shape.tidyOfValue_variant (table.map Prod.fst) _ hj
    match ms with
    | [] => rfl
    | [(k, j)] =>
      by_cases hnull : j = .null
      · subst hnull
        rfl
      · have hnormal : j.normalize ≠ .null := fun h => hnull (Json.normalize_eq_null.mp h)
        show (variant table).decode (.object [(k, j.normalize)]) = _
        have hnone : ∀ i : Json, i ≠ .null → (variant table).decode (.object [(k, i)]) = none := by
          intro i hi
          cases i <;> first | rfl | exact absurd rfl hi
        rw [hnone _ hnormal, hnone _ hnull]
    | m :: n :: ms =>
      have hnone : (variant table).decode (.object (m :: n :: ms)) = none := by
        obtain ⟨k, j⟩ := m
        cases j <;> rfl
      rw [hnone, ← Option.not_isSome_iff_eq_none, (variant table).isSome_decode]
      intro haccepts
      have hmembers := htidy haccepts
      rw [Shape.tidy] at hmembers
      cases hmembers
  | _ => rfl

theorem Normal.option (h : c.Normal) : c.option.Normal := by
  intro j hj
  have hdecode : ∀ i : Json, i ≠ .null → c.option.decode i = (c.decode i).map some := by
    intro i hi
    cases i <;> first | rfl | exact absurd rfl hi
  by_cases hnull : j = .null
  · subst hnull
    rfl
  · rw [hdecode j hnull, hdecode _ fun h => hnull (Json.normalize_eq_null.mp h), h j hj]

theorem Normal.vec (h : c.Normal) : c.vec.Normal := by
  intro j hj
  cases j with
  | array js =>
    rw [Json.normalize_array]
    show c.decodeItems (js.map Json.normalize) = c.decodeItems js
    have hitems := Json.distinctItems_iff.mp hj
    induction js with
    | nil => rfl
    | cons j js ih =>
      obtain ⟨hhead, htail⟩ := List.forall_mem_cons.mp hitems
      rw [List.map_cons, decodeItems, decodeItems, h j hhead,
        ih (Json.distinctItems_iff.mpr htail) htail]
  | _ => rfl

end Codec

/-! ## Structures -/

namespace Record

variable {α β : Type} {c : Codec α} {name : String}

/-- The decoder of a structure reads the same from fields without repeated keys and from their
values. -/
def Normal (r : Record β) : Prop := ∀ get get' : String → Option Json,
  (∀ name j, get name = some j → j.distinct = true) →
  (∀ name ∈ r.fields.names, get' name = (get name).map Json.normalize) → r.build get' = r.build get

theorem normal_pure (b : β) : (pure b).Normal := fun _ _ _ _ => rfl

/-- What is found in a field is read alike. -/
theorem decode_field (hc : c.Normal) {get get' : String → Option Json}
    (hdistinct : ∀ name j, get name = some j → j.distinct = true)
    (hget : get' name = (get name).map Json.normalize) :
    (get' name).map c.decode = (get name).map c.decode := by
  rw [hget, Option.map_map]
  refine Option.map_congr fun j hj => ?_
  exact hc j (hdistinct name j hj)

theorem Normal.required {r : Record (α → β)} (h : r.Normal) (hc : c.Normal) :
    (r.required name c).Normal := by
  intro get get' hdistinct hget
  have hfields : ∀ n ∈ r.fields.names ++ [name], get' n = (get n).map Json.normalize := by
    intro n hn
    apply hget
    rwa [Record.required, Fields.names_append]
  have hrest := h get get' hdistinct fun n hn => hfields n (List.mem_append_left _ hn)
  have hfield := decode_field hc hdistinct (hfields name (by simp))
  show ((r.build get').bind fun f => (get' name).bind fun j => (c.decode j).map f) =
    (r.build get).bind fun f => (get name).bind fun j => (c.decode j).map f
  rw [hrest]
  congr 1
  funext f
  cases hg : get name <;> cases hg' : get' name <;> simp_all

theorem Normal.withDefault {r : Record (α → β)} (h : r.Normal) (hc : c.Normal) {default : α} :
    (r.withDefault name c default).Normal := by
  intro get get' hdistinct hget
  have hfields : ∀ n ∈ r.fields.names ++ [name], get' n = (get n).map Json.normalize := by
    intro n hn
    apply hget
    rwa [Record.withDefault, Fields.names_append]
  have hrest := h get get' hdistinct fun n hn => hfields n (List.mem_append_left _ hn)
  have hfield := decode_field hc hdistinct (hfields name (by simp))
  unfold Record.withDefault
  dsimp only
  rw [hrest]
  congr 1
  funext f
  cases hg : get name <;> cases hg' : get' name <;> simp_all

theorem Normal.optional {r : Record (Option α → β)} (h : r.Normal) (hc : c.Normal) :
    (r.optional name c).Normal := h.withDefault hc.option

end Record

namespace Codec

variable {β : Type}

/-- **A structure** is read from its value as from its document. -/
theorem Normal.struct {r : Record β} (h : r.Normal) : (Codec.struct r).Normal := by
  intro j hj
  cases j with
  | object ms =>
    obtain ⟨hnodup, hmembers⟩ := Json.distinct_object_iff.mp hj
    have hms : unrepeated r.fields.names ms = true := unrepeated_of_nodup hnodup
    have hvalue : unrepeated r.fields.names (Json.normalizeMembers [] ms) = true :=
      unrepeated_of_pairwise (Json.pairwise_normalizeMembers List.Pairwise.nil)
    rw [Json.normalize_object]
    show (if unrepeated r.fields.names (Json.normalizeMembers [] ms) then _ else _) =
      if unrepeated r.fields.names ms then _ else _
    rw [if_pos hms, if_pos hvalue]
    refine h _ _ (fun name i hi => ?_) fun name hname =>
      lookup_normalizeMembers_of_unrepeated hms hname
    exact hmembers _ (SortedMap.mem_of_lookup_eq_some hi)
  | array js =>
    rw [Json.normalize_array]
    show (if (js.map Json.normalize).length ≤ r.fields.names.length then _ else _) =
      if js.length ≤ r.fields.names.length then _ else _
    rw [List.length_map]
    split_ifs
    · refine h _ _ (fun name i hi => ?_) fun name _ => positional_map _ r.fields.names js name
      exact Json.distinctItems_iff.mp hj i (mem_of_positional hi)
    · rfl
  | _ => rfl

/-- **A document is read back** from where its value was kept. -/
theorem Normal.decode_toValue? {c : Codec β} (h : c.Normal) {j : Json} {v : Value} {b : β}
    (hdistinct : j.distinct = true) (hvalue : j.toValue? = some v) (hdecode : c.decode j = some b) :
    c.decode v.json = some b := by
  rw [Json.toValue?] at hvalue
  split_ifs at hvalue
  cases hvalue
  rw [h j hdistinct, hdecode]

end Codec
